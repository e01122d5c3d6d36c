import WlanController.Interface.ListReply

/-!
# When the list is read back

The number comes from a counter and the entries from the table.  So the list is framed when the two
agree, and then it still has to fit in the buffer.
-/

namespace WlanController.Interface

/-! ## Numbers -/

section Numbers

variable {value : Int}

theorem length_htonl : (htonl value).length = 4 := by simp [htonl]

theorem ntohl_htonl (fits : -2 ^ 31 ≤ value ∧ value < 2 ^ 31) : ntohl (htonl value) = value := by
  have number : BigEndian.decode (htonl value) = (BitVec.ofInt 32 value).toNat :=
    BigEndian.decode_encode_of_lt (BitVec.ofInt 32 value).isLt
  rw [ntohl, number, BitVec.ofNat_toNat, BitVec.setWidth_eq, BitVec.toInt_ofInt]
  exact Int.bmod_eq_of_le (by omega) (by omega)

theorem readn_append (bytes rest : List UInt8) :
    readn bytes.length (bytes ++ rest) = some (bytes, rest) := by
  rw [readn, if_pos (by simp), List.splitAt_eq, List.take_left, List.drop_left]

theorem read32_append (fits : -2 ^ 31 ≤ value ∧ value < 2 ^ 31) (rest : List UInt8) :
    read32 (htonl value ++ rest) = some (value, rest) := by
  have read := readn_append (htonl value) rest
  rw [length_htonl] at read
  rw [read32, read]
  show some (ntohl (htonl value), rest) = some (value, rest)
  rw [ntohl_htonl fits]

end Numbers

/-! ## The tool -/

/-- The numbers of an entry are of type `int`. -/
def WTPInfo.Fits (info : WTPInfo) : Prop :=
  (0 ≤ info.wtpId ∧ info.wtpId < 2 ^ 31) ∧ info.name.length < 2 ^ 31

theorem readWTPInfo_eq {stream behindId behindLength rest name : List UInt8} {wtpId nameLen : Int}
    (id : read32 stream = some (wtpId, behindId))
    (length : read32 behindId = some (nameLen, behindLength)) (nonnegative : 0 ≤ nameLen)
    (text : readn nameLen.toNat behindLength = some (name, rest)) :
    readWTPInfo stream = some (⟨wtpId, name⟩, rest) := by
  have positive : ¬ nameLen < 0 := Int.not_lt.mpr nonnegative
  simp [readWTPInfo, id, length, positive, text]

theorem readWTPInfo_append {info : WTPInfo} (fits : info.Fits) (rest : List UInt8) :
    readWTPInfo (info.bytes ++ rest) = some (info, rest) := by
  obtain ⟨⟨nonnegative, small⟩, short⟩ := fits
  have idFits : -2 ^ 31 ≤ info.wtpId ∧ info.wtpId < 2 ^ 31 := ⟨by omega, small⟩
  have lengthFits : -2 ^ 31 ≤ (info.name.length : Int) ∧ (info.name.length : Int) < 2 ^ 31 := by
    omega
  rw [WTPInfo.bytes, List.append_assoc, List.append_assoc]
  exact readWTPInfo_eq (read32_append idFits _) (read32_append lengthFits _)
    (Int.natCast_nonneg _) (readn_append info.name rest)

theorem readWTPInfos_append {entries : List WTPInfo} (fits : ∀ info ∈ entries, info.Fits)
    (rest : List UInt8) :
    readWTPInfos entries.length (entries.flatMap WTPInfo.bytes ++ rest) = some (entries, rest) := by
  induction entries with
  | nil => rfl
  | cons info entries inductionHypothesis =>
    have first := readWTPInfo_append (fits info List.mem_cons_self)
      (entries.flatMap WTPInfo.bytes ++ rest)
    have others := inductionHypothesis fun other member => fits other (List.mem_cons_of_mem info member)
    rw [List.flatMap_cons, List.append_assoc, List.length_cons, readWTPInfos, first]
    simp [others]

theorem readWTPInfos_length {rounds : Nat} {stream rest : List UInt8} {entries : List WTPInfo}
    (read : readWTPInfos rounds stream = some (entries, rest)) : entries.length = rounds := by
  induction rounds generalizing stream entries with
  | zero =>
    cases read
    rfl
  | succ rounds inductionHypothesis =>
    simp only [readWTPInfos, Option.bind_eq_bind, Option.bind_eq_some_iff, Option.some.injEq,
      Prod.mk.injEq, Prod.exists] at read
    obtain ⟨first, stream', _, others, stream'', later, rfl, rfl⟩ := read
    rw [List.length_cons, inductionHypothesis later]

/-- The tool reads as many entries as the reply announces. -/
theorem announced_of_decoded {count : Int} (fits : -2 ^ 31 ≤ count ∧ count < 2 ^ 31)
    {bytes rest : List UInt8} {entries : List WTPInfo}
    (read : acServerWTPList (htonl count ++ bytes) = some (entries, rest)) :
    count = entries.length := by
  rw [acServerWTPList, read32_append fits] at read
  by_cases negative : count < 0
  · simp [negative] at read
  · have later : readWTPInfos count.toNat bytes = some (entries, rest) := by
      simpa [negative] using read
    have length := readWTPInfos_length later
    omega

/-! ## The AC -/

section Building

theorem memcpy_bind (payload source source' : List UInt8) :
    ((memcpy payload source).bind fun payload' => memcpy payload' source') =
      memcpy payload (source ++ source') := by
  by_cases all : payload.length + (source ++ source').length ≤ wtpListBufferSize
  · have first : payload.length + source.length ≤ wtpListBufferSize := by
      rw [List.length_append] at all
      omega
    have second : (payload ++ source).length + source'.length ≤ wtpListBufferSize := by
      rw [List.length_append] at all ⊢
      omega
    rw [memcpy, if_pos first, Option.bind_some, memcpy, if_pos second, memcpy, if_pos all,
      List.append_assoc]
  · rw [memcpy]
    by_cases first : payload.length + source.length ≤ wtpListBufferSize
    · have second : ¬ (payload ++ source).length + source'.length ≤ wtpListBufferSize := by
        rw [List.length_append] at all ⊢
        omega
      rw [if_pos first, Option.bind_some, memcpy, if_neg second, memcpy, if_neg all]
    · rw [if_neg first, Option.bind_none, memcpy, if_neg all]

theorem memcpy_nil {payload : List UInt8} (room : payload.length ≤ wtpListBufferSize) :
    memcpy payload [] = some payload := by
  rw [memcpy, if_pos (by simpa using room), List.append_nil]

theorem memcpy_some {payload source payload' : List UInt8}
    (copied : memcpy payload source = some payload') :
    payload' = payload ++ source ∧ payload'.length ≤ wtpListBufferSize := by
  rw [memcpy] at copied
  by_cases room : payload.length + source.length ≤ wtpListBufferSize
  · rw [if_pos room] at copied
    cases copied
    rw [List.length_append]
    exact ⟨rfl, room⟩
  · rw [if_neg room] at copied
    cases copied

theorem take_strlen (name : List UInt8) : name.take (strlen name) = cString name :=
  (List.prefix_iff_eq_take.mp (List.takeWhile_prefix _)).symm

theorem addEntry_named (i : Nat) (name payload : List UInt8) :
    addEntry i ⟨true, some name⟩ payload = memcpy payload (WTPInfo.bytes ⟨i, cString name⟩) := by
  have rest : ∀ payload', memcpy payload' (htonl (strlen name) ++ cString name) =
      (memcpy payload' (htonl (strlen name))).bind fun payload'' =>
        memcpy payload'' (name.take (strlen name)) := by
    intro payload'
    rw [take_strlen, memcpy_bind]
  show _ = memcpy payload (htonl i ++ (htonl (strlen name) ++ cString name))
  rw [← memcpy_bind, funext rest]
  rfl

/-- The scan copies the entries one behind the other. -/
theorem addEntries_eq (i : Nat) (gWTPs : List Session) {payload : List UInt8}
    (room : payload.length ≤ wtpListBufferSize) :
    addEntries i gWTPs payload = memcpy payload ((liveNamed i gWTPs).flatMap WTPInfo.bytes) := by
  induction gWTPs generalizing i payload with
  | nil => exact (memcpy_nil room).symm
  | cons session gWTPs inductionHypothesis =>
    obtain ⟨isNotFree, name⟩ := session
    cases isNotFree with
    | false => exact inductionHypothesis (i + 1) room
    | true =>
      cases name with
      | none => exact inductionHypothesis (i + 1) room
      | some name =>
        rw [addEntries, addEntry_named, liveNamed, List.flatMap_cons, ← memcpy_bind]
        cases copied : memcpy payload (WTPInfo.bytes ⟨i, cString name⟩) with
        | none => rfl
        | some payload' => exact inductionHypothesis (i + 1) (memcpy_some copied).2

/-- The loop takes away what the scan leaves out. -/
theorem withoutUnnamed_eq (i : Nat) (gWTPs : List Session) (count : Int) :
    withoutUnnamed gWTPs count =
      count - (gWTPs.countP Session.isNotFree : Int) + (liveNamed i gWTPs).length := by
  induction gWTPs generalizing i count with
  | nil => simp [withoutUnnamed, liveNamed]
  | cons session gWTPs inductionHypothesis =>
    obtain ⟨isNotFree, name⟩ := session
    cases isNotFree with
    | false => simpa [withoutUnnamed, liveNamed] using inductionHypothesis (i + 1) count
    | true =>
      cases name with
      | none =>
        have later := inductionHypothesis (i + 1) (count - 1)
        simp [withoutUnnamed, liveNamed, later]
        omega
      | some name =>
        have later := inductionHypothesis (i + 1) count
        simp [withoutUnnamed, liveNamed, later]
        omega

theorem liveNamed_length_le (i : Nat) (gWTPs : List Session) :
    (liveNamed i gWTPs).length ≤ gWTPs.countP Session.isNotFree := by
  induction gWTPs generalizing i with
  | nil => rfl
  | cons session gWTPs inductionHypothesis =>
    have later := inductionHypothesis (i + 1)
    obtain ⟨isNotFree, name⟩ := session
    cases isNotFree with
    | false => simpa [liveNamed] using later
    | true =>
      cases name with
      | none =>
        simp [liveNamed]
        omega
      | some name => simpa [liveNamed] using later

theorem liveNamed_ids (i : Nat) (gWTPs : List Session) {info : WTPInfo}
    (member : info ∈ liveNamed i gWTPs) :
    (i : Int) ≤ info.wtpId ∧ info.wtpId < i + gWTPs.length := by
  induction gWTPs generalizing i with
  | nil => cases member
  | cons session gWTPs inductionHypothesis =>
    obtain ⟨isNotFree, name⟩ := session
    have later (inside : info ∈ liveNamed (i + 1) gWTPs) :
        (i : Int) ≤ info.wtpId ∧ info.wtpId < i + (Session.mk isNotFree name :: gWTPs).length := by
      have bounds := inductionHypothesis (i + 1) inside
      rw [List.length_cons]
      omega
    cases isNotFree with
    | false => exact later member
    | true =>
      cases name with
      | none => exact later member
      | some name =>
        cases List.mem_cons.mp member with
        | inl same =>
          rw [same, List.length_cons]
          show (i : Int) ≤ i ∧ (i : Int) < i + _
          exact ⟨le_rfl, by omega⟩
        | inr inside => exact later inside

end Building

/-! ## Which tables are listed -/

/-- While the counter is positive it counts the live sessions, and otherwise it is zero and no live
session has a name. -/
def Counted (table : SessionTable) : Prop :=
  if 0 < table.gActiveWTPs then table.gActiveWTPs = table.gWTPs.countP Session.isNotFree
  else table.gActiveWTPs = 0 ∧ liveNamed 0 table.gWTPs = []

/-- The number and the entries fit in the buffer. -/
def FitsBuffer (table : SessionTable) : Prop :=
  4 + ((liveNamed 0 table.gWTPs).flatMap WTPInfo.bytes).length ≤ wtpListBufferSize

section Listing

variable {table : SessionTable}

theorem liveNamed_fits (fits : FitsBuffer table) :
    ∀ info ∈ liveNamed 0 table.gWTPs, info.Fits := by
  intro info member
  have bounds := liveNamed_ids 0 table.gWTPs member
  have size := table.size
  refine ⟨by omega, ?_⟩
  have within := (List.sublist_flatten_of_mem (List.mem_map_of_mem (f := WTPInfo.bytes) member)).length_le
  rw [← List.flatMap_def] at within
  rw [WTPInfo.bytes, List.length_append, List.length_append] at within
  rw [FitsBuffer, wtpListBufferSize] at fits
  omega

theorem liveNamed_count (table : SessionTable) : (liveNamed 0 table.gWTPs).length < 2 ^ 31 := by
  have bound := liveNamed_length_le 0 table.gWTPs
  have live := List.countP_le_length (p := Session.isNotFree) (l := table.gWTPs)
  have size := table.size
  omega

theorem decoded_of_fits (fits : FitsBuffer table) (rest : List UInt8) :
    acServerWTPList (htonl (liveNamed 0 table.gWTPs).length ++
      ((liveNamed 0 table.gWTPs).flatMap WTPInfo.bytes ++ rest)) =
      some (liveNamed 0 table.gWTPs, rest) := by
  have small := liveNamed_count table
  have count : -2 ^ 31 ≤ ((liveNamed 0 table.gWTPs).length : Int) ∧
      ((liveNamed 0 table.gWTPs).length : Int) < 2 ^ 31 := by
    omega
  have nonnegative : ¬ ((liveNamed 0 table.gWTPs).length : Int) < 0 := by omega
  rw [acServerWTPList, read32_append count]
  have entries := readWTPInfos_append (liveNamed_fits fits) rest
  simp [nonnegative, entries]

/-- The number that is announced. -/
def announcedCount (table : SessionTable) : Int :=
  if 0 < table.gActiveWTPs then
    table.gActiveWTPs - (table.gWTPs.countP Session.isNotFree : Int) +
      (liveNamed 0 table.gWTPs).length
  else table.gActiveWTPs

theorem announcedCount_fits :
    -2 ^ 31 ≤ announcedCount table ∧ announcedCount table < 2 ^ 31 := by
  have counter := table.counter
  have size := table.size
  have named := liveNamed_length_le 0 table.gWTPs
  have live := List.countP_le_length (p := Session.isNotFree) (l := table.gWTPs)
  rw [announcedCount]
  by_cases positive : 0 < table.gActiveWTPs
  · rw [if_pos positive]
    omega
  · rw [if_neg positive]
    exact counter

theorem counted_iff :
    Counted table ↔ announcedCount table = (liveNamed 0 table.gWTPs).length := by
  rw [Counted, announcedCount]
  by_cases positive : 0 < table.gActiveWTPs
  · rw [if_pos positive, if_pos positive]
    omega
  · rw [if_neg positive, if_neg positive, ← List.length_eq_zero_iff]
    omega

/-- The scan is left out when there is nothing to announce. -/
theorem cwManageList_eq :
    cwManageList table =
      if 0 < announcedCount table then
        memcpy [] (htonl (announcedCount table) ++
          (liveNamed 0 table.gWTPs).flatMap WTPInfo.bytes)
      else some (htonl (announcedCount table)) := by
  have room : ([] ++ htonl (announcedCount table)).length ≤ wtpListBufferSize := by
    rw [List.nil_append, length_htonl, wtpListBufferSize]
    omega
  have header : memcpy [] (htonl (announcedCount table)) =
      some ([] ++ htonl (announcedCount table)) := by
    rw [List.nil_append] at room ⊢
    rw [memcpy, List.length_nil, Nat.zero_add, if_pos room, List.nil_append]
  rw [cwManageList, withoutUnnamed_eq 0, ← announcedCount, ← memcpy_bind, header, Option.bind_some,
    Option.bind_some, addEntries_eq 0 table.gWTPs room]
  rfl

theorem framed_of_counted (counted : Counted table) (fits : FitsBuffer table) :
    ∃ reply, Framed table reply := by
  have count := counted_iff.mp counted
  have built : cwManageList table = some (htonl (liveNamed 0 table.gWTPs).length ++
      (liveNamed 0 table.gWTPs).flatMap WTPInfo.bytes) := by
    rw [cwManageList_eq, count]
    by_cases inhabited : 0 < ((liveNamed 0 table.gWTPs).length : Int)
    · have room : 0 + (htonl (liveNamed 0 table.gWTPs).length ++
          (liveNamed 0 table.gWTPs).flatMap WTPInfo.bytes).length ≤ wtpListBufferSize := by
        rw [List.length_append, length_htonl, Nat.zero_add]
        exact fits
      rw [if_pos inhabited, memcpy, List.length_nil, if_pos room, List.nil_append]
    · have none : liveNamed 0 table.gWTPs = [] := List.length_eq_zero_iff.mp (by omega)
      rw [if_neg inhabited, none]
      rfl
  refine ⟨_, built, ⟨_, rfl⟩, ?_⟩
  intro rest
  rw [List.append_assoc]
  exact decoded_of_fits fits rest

theorem counted_of_framed {reply : List UInt8} (framed : Framed table reply) :
    Counted table ∧ FitsBuffer table := by
  have decoded := framed.decoded []
  have built := framed.built
  rw [cwManageList_eq] at built
  by_cases positive : 0 < announcedCount table
  · rw [if_pos positive] at built
    obtain ⟨same, room⟩ := memcpy_some built
    rw [same, List.nil_append, List.append_assoc] at decoded
    have count := announced_of_decoded announcedCount_fits decoded
    rw [same, List.nil_append, List.length_append, length_htonl] at room
    exact ⟨counted_iff.mpr count, room⟩
  · rw [if_neg positive] at built
    cases built
    have count := announced_of_decoded announcedCount_fits decoded
    have none : liveNamed 0 table.gWTPs = [] := List.length_eq_zero_iff.mp (by omega)
    refine ⟨counted_iff.mpr count, ?_⟩
    rw [FitsBuffer, none, wtpListBufferSize]
    simp

/-- The tool gets exactly the live sessions with names when the counter agrees with the table and
the reply fits in the buffer. -/
theorem list_framed_iff (table : SessionTable) :
    (∃ reply, Framed table reply) ↔ Counted table ∧ FitsBuffer table := by
  constructor
  · intro framed
    exact counted_of_framed framed.choose_spec
  · intro both
    exact framed_of_counted both.1 both.2

/-- A live session with a name of `length` letters. -/
def oneSession (length : Nat) : SessionTable where
  gWTPs := [⟨true, some (List.replicate length 97)⟩]
  gActiveWTPs := 1
  size := by simp
  counter := by omega

theorem oneSession_fits {length : Nat} : FitsBuffer (oneSession length) ↔ 12 + length ≤ 1024 := by
  have whole : cString (List.replicate length 97) = List.replicate length 97 := by
    simp [cString]
  have entry : liveNamed 0 (oneSession length).gWTPs = [⟨0, List.replicate length 97⟩] := by
    show [WTPInfo.mk 0 (cString (List.replicate length 97))] = _
    rw [whole]
  rw [FitsBuffer, entry, wtpListBufferSize]
  simp [WTPInfo.bytes, length_htonl]
  omega

/-- With the number, the index and the length, a name of 1013 bytes is one byte too long. -/
theorem longName_not_framed : ¬ ∃ reply, Framed (oneSession 1013) reply := by
  intro framed
  have fits := oneSession_fits.mp (counted_of_framed framed.choose_spec).2
  omega

end Listing

end WlanController.Interface
