import WlanController.Interface.ApplicationStream
import WlanController.Interface.ListReading

/-!
# Which streams are safe

A command for a live WTP is safe when it is complete and what it carries fits.  Where the thread ends
with a command, or leaves it alone, nothing is asked of the command.
-/

namespace WlanController.Interface

/-! ## Reading into memory -/

/-- The target of a read: what the stream still has, and then what was there before. -/
def overlay (old stream : List UInt8) : List UInt8 :=
  stream.take old.length ++ old.drop stream.length

section Reading

variable {old stream : List UInt8}

theorem values_fill : values (fill old stream) = overlay old stream := by
  simp [values, fill, overlay, Cell.value, Function.comp_def]

theorem overlay_of_le (enough : old.length ≤ stream.length) :
    overlay old stream = stream.take old.length := by
  rw [overlay, List.drop_eq_nil_of_le enough, List.append_nil]

theorem fromStream_fill : (∀ cell ∈ fill old stream, cell.FromStream) ↔ old.length ≤ stream.length := by
  constructor
  · intro each
    by_contra short
    have behind : stream.length < old.length := Nat.lt_of_not_le short
    have member : Cell.old (old.get ⟨stream.length, behind⟩) ∈ fill old stream := by
      apply List.mem_append_right
      apply List.mem_map_of_mem
      rw [List.drop_eq_getElem_cons behind]
      exact List.mem_cons_self
    exact each _ member
  · intro enough cell member
    rw [fill, List.drop_eq_nil_of_le enough, List.map_nil, List.append_nil] at member
    obtain ⟨b, _, rfl⟩ := List.mem_map.mp member
    trivial

theorem forall_mem_parts {cells others : List Cell} {P : Cell → Prop} :
    (∀ cell ∈ cells.take 1 ++ cells.drop 1 ++ others, P cell) ↔
      (∀ cell ∈ cells, P cell) ∧ ∀ cell ∈ others, P cell := by
  rw [List.take_append_drop, List.forall_mem_append]

end Reading

/-! ## Handing over -/

/-- Nothing that happens goes wrong. -/
def Quiet (table : SessionTable) (outcome : Outcome) : Prop := ∀ event ∈ outcome.1, event.Safe table

section Handlers

variable {table : SessionTable} {memory : Memory} {i : Int} {stream commandBuffer : List UInt8}

theorem Live.inside (live : Live table i) : 0 ≤ i ∧ i < table.gWTPs.length := by
  obtain ⟨nonnegative, session, found, _⟩ := live
  have bound := (List.getElem?_eq_some_iff.mp found).1
  omega

theorem isNotFree_iff (nonnegative : 0 ≤ i) : isNotFree table memory i = true ↔ Live table i := by
  rw [isNotFree, if_pos nonnegative, Live]
  cases found : table.gWTPs[i.toNat]? with
  | none => simp
  | some session => simp [nonnegative]

theorem setValues_live (live : Live table i) (parameters : Parameters) :
    setValues table memory i parameters = [.hand i parameters] := by
  have nonnegative := live.1
  rw [setValues, if_neg (by omega)]

theorem hand_safe (live : Live table i) {parameters : Parameters} :
    (Event.hand i parameters).Safe table ↔ parameters.Assigned :=
  and_iff_right live

theorem ofdm_quiet (live : Live table i) :
    Quiet table (ofdm table memory i stream) ↔ 12 ≤ stream.length := by
  have read : (Event.fill 12 (min 12 stream.length)).Safe table := Nat.min_le_left _ _
  rw [Quiet, ofdm, setValues_live live, List.forall_mem_cons, List.forall_mem_singleton,
    hand_safe live, and_iff_right read]
  show (∀ cell ∈ fill (List.replicate 12 0) stream, cell.FromStream) ↔ _
  rw [fromStream_fill, List.length_replicate]

/-- The length of the arguments, where it is complete. -/
def uciLength (stream : List UInt8) : Int := ntohl ((stream.drop 1).take 4)

theorem uciLength_eq (size : commandBuffer.length = 5) (enough : 5 ≤ stream.length) :
    ntohl (values ((fill commandBuffer stream).drop 1)) = uciLength stream := by
  have all := @values_fill commandBuffer stream
  rw [overlay_of_le (size ▸ enough), size] at all
  rw [uciLength, values, List.map_drop, ← values, all, List.drop_take]

theorem uci_left_eq (size : commandBuffer.length = 5) (enough : 5 ≤ stream.length) :
    (uci table memory commandBuffer i stream).2 =
      some ((stream.drop 5).drop (uciLength stream).toNat) := by
  simp only [uci, uciLength_eq size enough]
  by_cases positive : 0 < uciLength stream
  · rw [if_pos positive]
  · have none : (uciLength stream).toNat = 0 := by omega
    rw [if_neg positive, none, List.drop_zero]

theorem header_safe (table : SessionTable) (stream : List UInt8) (n : Nat) (few : n ≤ commandBufferSize) :
    (Event.fill commandBufferSize (min n stream.length)).Safe table :=
  (Nat.min_le_left _ _).trans few

/-- The arguments fit in what is left of the command buffer, and they are there. -/
theorem uci_quiet (live : Live table i) (size : commandBuffer.length = 5) :
    Quiet table (uci table memory commandBuffer i stream) ↔
      5 ≤ stream.length ∧ uciLength stream ≤ 5115 ∧
        (uciLength stream).toNat ≤ (stream.drop 5).length := by
  have header := header_safe table stream 5 (by decide)
  by_cases enough : 5 ≤ stream.length
  · have complete : ∀ cell ∈ fill commandBuffer stream, cell.FromStream :=
      fromStream_fill.mpr (size ▸ enough)
    rw [and_iff_right enough]
    simp only [uci, uciLength_eq size enough, setValues_live live]
    by_cases positive : 0 < uciLength stream
    · rw [if_pos positive, Quiet, List.forall_mem_cons, List.forall_mem_cons,
        List.forall_mem_singleton, hand_safe live, and_iff_right header]
      show min _ _ ≤ commandBufferSize - 5 ∧ (∀ cell ∈ _ ++ _ ++ _, Cell.FromStream cell) ↔ _
      rw [forall_mem_parts, and_iff_right complete, fromStream_fill, List.length_replicate,
        commandBufferSize]
      omega
    · rw [if_neg positive, Quiet, List.forall_mem_cons, List.forall_mem_singleton,
        hand_safe live, and_iff_right header]
      show (∀ cell ∈ _ ++ _ ++ _, Cell.FromStream cell) ↔ _
      rw [forall_mem_parts, and_iff_right complete]
      have none : (uciLength stream).toNat = 0 := by omega
      rw [none]
      exact ⟨fun _ => ⟨by omega, Nat.zero_le _⟩, fun _ => List.forall_mem_nil _⟩
  · have incomplete : ¬ ∀ cell ∈ fill commandBuffer stream, cell.FromStream :=
      fun complete => enough (size ▸ fromStream_fill.mp complete)
    constructor
    · intro quiet
      simp only [uci, setValues_live live] at quiet
      generalize ntohl _ = commandLength at quiet
      -- Either way the last event hands over what the first read has left incomplete.
      by_cases positive : 0 < commandLength
      · rw [if_pos positive, Quiet, List.forall_mem_cons, List.forall_mem_cons,
          List.forall_mem_singleton, hand_safe live] at quiet
        exact absurd (forall_mem_parts.mp quiet.2.2).1 incomplete
      · rw [if_neg positive, Quiet, List.forall_mem_cons, List.forall_mem_singleton,
          hand_safe live] at quiet
        exact absurd (forall_mem_parts.mp quiet.2).1 incomplete
    · intro complete
      exact absurd complete.1 enough

/-! ### Updates -/

theorem wumUpdate_quiet (live : Live table i) (size : commandBuffer.length = 5) {type : List Cell} :
    Quiet table (wumUpdate table memory commandBuffer type i stream) ↔
      (∀ cell ∈ type, cell.FromStream) ∧ 7 ≤ stream.length := by
  have header := header_safe table stream 7 (by decide)
  rw [Quiet, wumUpdate, setValues_live live, List.forall_mem_cons, List.forall_mem_singleton,
    hand_safe live, and_iff_right header]
  show (∀ cell ∈ _ ++ _, Cell.FromStream cell) ↔ _
  rw [List.forall_mem_append, fromStream_fill, List.length_append, size]
  rfl

/-- The two numbers in front of a fragment. -/
def seqNum (commandBuffer stream : List UInt8) : Int :=
  ntohl ((overlay (commandBuffer ++ [0, 0, 0]) stream).take 4)

def fragSize (commandBuffer stream : List UInt8) : Int :=
  ntohl ((overlay (commandBuffer ++ [0, 0, 0]) stream).drop 4)

/-- A fragment of this size is not taken. -/
def Refused (commandBuffer stream : List UInt8) : Prop :=
  seqNum commandBuffer stream < 0 ∨ fragSize commandBuffer stream ≤ 0

theorem wumFragment_eq (live : Live table i) {type : List Cell} :
    wumFragment table memory commandBuffer type i stream =
      if seqNum commandBuffer stream < 0 ∨ fragSize commandBuffer stream ≤ 0 then
        ([.fill commandBufferSize (min 8 stream.length)], none)
      else
        ([.fill commandBufferSize (min 8 stream.length),
          .fill (fragSize commandBuffer stream).toNat
            (min (fragSize commandBuffer stream).toNat (stream.drop 8).length),
          .hand i (.wum type (fill (commandBuffer ++ [0, 0, 0]) stream ++
            fill (List.replicate (fragSize commandBuffer stream).toNat 0) (stream.drop 8)))],
          some ((stream.drop 8).drop (fragSize commandBuffer stream).toNat)) := by
  have front : ntohl (values ((fill (commandBuffer ++ [0, 0, 0]) stream).take 4)) =
      seqNum commandBuffer stream := by
    rw [seqNum, ← values_fill, values, values, List.map_take]
  have back : ntohl (values ((fill (commandBuffer ++ [0, 0, 0]) stream).drop 4)) =
      fragSize commandBuffer stream := by
    rw [fragSize, ← values_fill, values, values, List.map_drop]
  simp only [wumFragment, front, back, setValues_live live]

theorem wumFragment_refused (live : Live table i) {type : List Cell}
    (refused : Refused commandBuffer stream) :
    Quiet table (wumFragment table memory commandBuffer type i stream) ∧
      (wumFragment table memory commandBuffer type i stream).2 = none := by
  have header := header_safe table stream 8 (by decide)
  rw [Refused] at refused
  rw [wumFragment_eq live, if_pos refused, Quiet, List.forall_mem_singleton]
  exact ⟨header, rfl⟩

theorem wumFragment_left_eq (live : Live table i) {type : List Cell}
    (taken : ¬ Refused commandBuffer stream) :
    (wumFragment table memory commandBuffer type i stream).2 =
      some ((stream.drop 8).drop (fragSize commandBuffer stream).toNat) := by
  rw [Refused] at taken
  rw [wumFragment_eq live, if_neg taken]

theorem wumFragment_quiet (live : Live table i) (size : commandBuffer.length = 5)
    {type : List Cell} (taken : ¬ Refused commandBuffer stream) :
    Quiet table (wumFragment table memory commandBuffer type i stream) ↔
      (∀ cell ∈ type, cell.FromStream) ∧ 8 ≤ stream.length ∧
        (fragSize commandBuffer stream).toNat ≤ (stream.drop 8).length := by
  have header := header_safe table stream 8 (by decide)
  have fragment : (Event.fill (fragSize commandBuffer stream).toNat
      (min (fragSize commandBuffer stream).toNat (stream.drop 8).length)).Safe table :=
    Nat.min_le_left _ _
  rw [Refused] at taken
  rw [wumFragment_eq live, if_neg taken, Quiet, List.forall_mem_cons, List.forall_mem_cons,
    List.forall_mem_singleton, hand_safe live, and_iff_right header, and_iff_right fragment]
  show (∀ cell ∈ _ ++ (_ ++ _), Cell.FromStream cell) ↔ _
  rw [List.forall_mem_append, List.forall_mem_append, fromStream_fill, fromStream_fill,
    List.length_append, size, List.length_replicate]
  rfl

/-! ### Texts -/

/-- The length of the text of a WLAN command. -/
def wlanLength (stream : List UInt8) : Int :=
  machineOrder (overlay [0, 0, 0, 0] (stream.drop 1))

def wlanTokens (stream : List UInt8) : List (List UInt8) :=
  tokens ((stream.drop 5).take (wlanLength stream).toNat)

theorem wlanText_eq : wlanText stream =
    if wlanLength stream + 1 < 0 then
      ([.fill 1 (min 1 stream.length), .fill 4 (min 4 (stream.drop 1).length)], none)
    else if wlanLength stream < 0 then
      ([.fill 1 (min 1 stream.length), .fill 4 (min 4 (stream.drop 1).length),
        .fill 0 (stream.drop 5).length], some ([], []))
    else
      ([.fill 1 (min 1 stream.length), .fill 4 (min 4 (stream.drop 1).length),
        .fill ((wlanLength stream).toNat + 1)
          (min (wlanLength stream).toNat (stream.drop 5).length)],
        some (wlanTokens stream, (stream.drop 5).drop (wlanLength stream).toNat)) := by
  simp only [wlanText, values_fill]
  rfl

theorem tokens_nil : tokens [] = [] := by
  simp [tokens, cString]

/-- No memory is found for a length below -1. -/
theorem wlanText_short (table : SessionTable) (short : wlanLength stream < -1) :
    ∃ events, wlanText stream = (events, none) ∧ ∀ event ∈ events, event.Safe table := by
  have negative : wlanLength stream + 1 < 0 := by omega
  refine ⟨_, by rw [wlanText_eq, if_pos negative], ?_⟩
  rw [List.forall_mem_cons, List.forall_mem_singleton]
  exact ⟨Nat.min_le_left _ _, Nat.min_le_left _ _⟩

theorem wlanText_long (table : SessionTable) (long : 0 ≤ wlanLength stream) :
    ∃ events, wlanText stream =
        (events, some (wlanTokens stream, (stream.drop 5).drop (wlanLength stream).toNat)) ∧
      ∀ event ∈ events, event.Safe table := by
  have enough : ¬ wlanLength stream + 1 < 0 := by omega
  have positive : ¬ wlanLength stream < 0 := by omega
  refine ⟨_, by rw [wlanText_eq, if_neg enough, if_neg positive], ?_⟩
  rw [List.forall_mem_cons, List.forall_mem_cons, List.forall_mem_singleton]
  exact ⟨Nat.min_le_left _ _, Nat.min_le_left _ _, (Nat.min_le_left _ _).trans (Nat.le_succ _)⟩

/-- With a length of -1 there is room for nothing, and no token. -/
theorem wlanText_between (between : wlanLength stream = -1) :
    ∃ events, wlanText stream = (events, some ([], [])) := by
  have enough : ¬ wlanLength stream + 1 < 0 := by omega
  have negative : wlanLength stream < 0 := by omega
  exact ⟨_, by rw [wlanText_eq, if_neg enough, if_pos negative]⟩

/-- The text has an id that is refused. -/
def NegativeID (found : List (List UInt8)) : Prop :=
  (∃ token, found[0]? = some token ∧ deviceID token < 0) ∨
    ∃ token, found[1]? = some token ∧ deviceID token < 0

/-- Memory that holds zeros. -/
def cleared : Memory where
  isNotFree := fun _ => false
  wumType := 0
  radioID := 0
  wlanID := 0

theorem addWlan_eq {events : List Event} {found : List (List UInt8)} {left : List UInt8}
    (live : Live table i) (text : wlanText stream = (events, some (found, left))) :
    addWlan table memory i stream =
      if (found[0]?.map deviceID).getD memory.radioID < 0 ∨
          (found[1]?.map deviceID).getD memory.wlanID < 0 then
        (events, some left)
      else
        (events ++ [.hand i (.addWlan (found[0]?.map deviceID) (found[1]?.map deviceID) found[2]?)],
          some left) := by
  simp only [addWlan, text, setValues_live live]

theorem delWlan_eq {events : List Event} {found : List (List UInt8)} {left : List UInt8}
    (live : Live table i) (text : wlanText stream = (events, some (found, left))) :
    delWlan table memory i stream =
      (events ++ [.hand i (.delWlan (found[0]?.map atoiBytes) (found[1]?.map atoiBytes))],
        some left) := by
  simp only [delWlan, text, setValues_live live]

theorem addWlan_assigned {found : List (List UInt8)} :
    (Parameters.addWlan (found[0]?.map deviceID) (found[1]?.map deviceID) found[2]?).Assigned ↔
      3 ≤ found.length := by
  simp [Parameters.Assigned]
  omega

theorem delWlan_assigned {found : List (List UInt8)} :
    (Parameters.delWlan (found[0]?.map atoiBytes) (found[1]?.map atoiBytes)).Assigned ↔
      2 ≤ found.length := by
  simp [Parameters.Assigned]
  omega

theorem addWlan_served (live : Live table i) (long : 0 ≤ wlanLength stream)
    (settled : NegativeID (wlanTokens stream) ∨ 3 ≤ (wlanTokens stream).length) :
    Quiet table (addWlan table memory i stream) ∧ (addWlan table memory i stream).2 =
      some ((stream.drop 5).drop (wlanLength stream).toNat) := by
  obtain ⟨events, text, safe⟩ := wlanText_long table long
  rw [addWlan_eq live text]
  by_cases refused : ((wlanTokens stream)[0]?.map deviceID).getD memory.radioID < 0 ∨
      ((wlanTokens stream)[1]?.map deviceID).getD memory.wlanID < 0
  · rw [if_pos refused]
    exact ⟨safe, rfl⟩
  · rw [if_neg refused]
    have enough : 3 ≤ (wlanTokens stream).length := by
      cases settled with
      | inr enough => exact enough
      | inl negative =>
        apply absurd _ refused
        cases negative with
        | inl first =>
          obtain ⟨token, found, negative⟩ := first
          exact Or.inl (by simpa [found] using negative)
        | inr second =>
          obtain ⟨token, found, negative⟩ := second
          exact Or.inr (by simpa [found] using negative)
    refine ⟨?_, rfl⟩
    rw [Quiet, List.forall_mem_append, List.forall_mem_singleton, hand_safe live]
    exact ⟨safe, addWlan_assigned.mpr enough⟩

theorem addWlan_of_quiet (live : Live table i) (quiet : Quiet table (addWlan table cleared i stream)) :
    wlanLength stream < -1 ∨ 0 ≤ wlanLength stream ∧
      (NegativeID (wlanTokens stream) ∨ 3 ≤ (wlanTokens stream).length) := by
  by_cases short : wlanLength stream < -1
  · exact Or.inl short
  by_cases long : 0 ≤ wlanLength stream
  · right
    refine ⟨long, ?_⟩
    obtain ⟨events, text, _⟩ := wlanText_long table long
    rw [addWlan_eq live text] at quiet
    by_cases refused : ((wlanTokens stream)[0]?.map deviceID).getD cleared.radioID < 0 ∨
        ((wlanTokens stream)[1]?.map deviceID).getD cleared.wlanID < 0
    · left
      cases refused with
      | inl first =>
        cases found : (wlanTokens stream)[0]? with
        | none => simp [found, cleared] at first
        | some token => exact Or.inl ⟨token, found, by simpa [found] using first⟩
      | inr second =>
        cases found : (wlanTokens stream)[1]? with
        | none => simp [found, cleared] at second
        | some token => exact Or.inr ⟨token, found, by simpa [found] using second⟩
    · right
      rw [if_neg refused, Quiet, List.forall_mem_append, List.forall_mem_singleton,
        hand_safe live, addWlan_assigned] at quiet
      exact quiet.2
  · obtain ⟨events, text⟩ := @wlanText_between stream (by omega)
    rw [addWlan_eq live text, if_neg (by simp [cleared]), Quiet, List.forall_mem_append,
      List.forall_mem_singleton, hand_safe live, addWlan_assigned] at quiet
    exact absurd quiet.2 (by simp)

theorem delWlan_served (live : Live table i) (long : 0 ≤ wlanLength stream)
    (enough : 2 ≤ (wlanTokens stream).length) :
    Quiet table (delWlan table memory i stream) ∧ (delWlan table memory i stream).2 =
      some ((stream.drop 5).drop (wlanLength stream).toNat) := by
  obtain ⟨events, text, safe⟩ := wlanText_long table long
  rw [delWlan_eq live text, Quiet, List.forall_mem_append, List.forall_mem_singleton,
    hand_safe live]
  exact ⟨⟨safe, delWlan_assigned.mpr enough⟩, rfl⟩

theorem delWlan_of_quiet (live : Live table i) (quiet : Quiet table (delWlan table memory i stream)) :
    wlanLength stream < -1 ∨ 0 ≤ wlanLength stream ∧ 2 ≤ (wlanTokens stream).length := by
  by_cases short : wlanLength stream < -1
  · exact Or.inl short
  by_cases long : 0 ≤ wlanLength stream
  · right
    obtain ⟨events, text, _⟩ := wlanText_long table long
    rw [delWlan_eq live text, Quiet, List.forall_mem_append, List.forall_mem_singleton,
      hand_safe live, delWlan_assigned] at quiet
    exact ⟨long, quiet.2⟩
  · obtain ⟨events, text⟩ := @wlanText_between stream (by omega)
    rw [delWlan_eq live text, Quiet, List.forall_mem_append, List.forall_mem_singleton,
      hand_safe live, delWlan_assigned] at quiet
    exact absurd quiet.2 (by simp)

theorem addWlan_noMemory (short : wlanLength stream < -1) :
    Quiet table (addWlan table memory i stream) ∧ (addWlan table memory i stream).2 = none := by
  obtain ⟨events, text, safe⟩ := wlanText_short table short
  rw [addWlan, text]
  exact ⟨safe, rfl⟩

theorem delWlan_noMemory (short : wlanLength stream < -1) :
    Quiet table (delWlan table memory i stream) ∧ (delWlan table memory i stream).2 = none := by
  obtain ⟨events, text, safe⟩ := wlanText_short table short
  rw [delWlan, text]
  exact ⟨safe, rfl⟩

/-! ### The type of an update message -/

theorem wum_update :
    wum table memory commandBuffer i (3 :: stream) =
      (.fill 1 1 :: (wumUpdate table memory commandBuffer [.stream 3] i stream).1,
        (wumUpdate table memory commandBuffer [.stream 3] i stream).2) := by
  simp [wum, fill, values, Cell.value]

theorem wum_fragment :
    wum table memory commandBuffer i (5 :: stream) =
      (.fill 1 1 :: (wumFragment table memory commandBuffer [.stream 5] i stream).1,
        (wumFragment table memory commandBuffer [.stream 5] i stream).2) := by
  simp [wum, fill, values, Cell.value]

theorem wum_other (live : Live table i) {type : UInt8} (notUpdate : type ≠ 3)
    (notFragment : type ≠ 5) :
    wum table memory commandBuffer i (type :: stream) =
      ([.fill 1 1, .hand i (.wum [.stream type] [])], some stream) := by
  simp [wum, fill, values, Cell.value, setValues_live live]

theorem wum_nil (live : Live table i) : ¬ Quiet table (wum table cleared commandBuffer i []) := by
  intro quiet
  have reached : wum table cleared commandBuffer i [] =
      ([.fill 1 0, .hand i (.wum [.old 0] [])], some []) := by
    simp [wum, fill, values, Cell.value, setValues_live live, cleared]
  rw [reached, Quiet, List.forall_mem_cons, List.forall_mem_singleton, hand_safe live] at quiet
  exact quiet.2 (.old 0) (by simp)

/-! ## Commands that do no harm

A predicate on the bytes of a stream, with one constructor for each shape of a command. -/

/-- The payload of a command for a live WTP, with what the stream has left behind it.  There is
nothing left when the thread ends with the command. -/
inductive ServesElement (commandBuffer stream : List UInt8) : Option (List UInt8) → Prop where
  | unknown (other : commandBuffer.headD 0 ∉ [1, 2, 3, 4, 5]) :
      ServesElement commandBuffer stream (some stream)
  | ofdm (element : commandBuffer.headD 0 = 1) (complete : 12 ≤ stream.length) :
      ServesElement commandBuffer stream (some (stream.drop 12))
  | uci (element : commandBuffer.headD 0 = 2) (header : 5 ≤ stream.length)
      (fits : uciLength stream ≤ 5115)
      (complete : (uciLength stream).toNat ≤ (stream.drop 5).length) :
      ServesElement commandBuffer stream (some ((stream.drop 5).drop (uciLength stream).toNat))
  | wumUpdate (element : commandBuffer.headD 0 = 3) {behind : List UInt8}
      (type : stream = 3 :: behind) (complete : 7 ≤ behind.length) :
      ServesElement commandBuffer stream (some (behind.drop 7))
  | wumRefused (element : commandBuffer.headD 0 = 3) {behind : List UInt8}
      (type : stream = 5 :: behind) (refused : Refused commandBuffer behind) :
      ServesElement commandBuffer stream none
  | wumFragment (element : commandBuffer.headD 0 = 3) {behind : List UInt8}
      (type : stream = 5 :: behind) (taken : ¬ Refused commandBuffer behind)
      (header : 8 ≤ behind.length)
      (complete : (fragSize commandBuffer behind).toNat ≤ (behind.drop 8).length) :
      ServesElement commandBuffer stream
        (some ((behind.drop 8).drop (fragSize commandBuffer behind).toNat))
  | wumOther (element : commandBuffer.headD 0 = 3) {code : UInt8} {behind : List UInt8}
      (type : stream = code :: behind) (notUpdate : code ≠ 3) (notFragment : code ≠ 5) :
      ServesElement commandBuffer stream (some behind)
  | noMemory (element : commandBuffer.headD 0 = 4 ∨ commandBuffer.headD 0 = 5)
      (short : wlanLength stream < -1) : ServesElement commandBuffer stream none
  | addWlan (element : commandBuffer.headD 0 = 4) (long : 0 ≤ wlanLength stream)
      (settled : NegativeID (wlanTokens stream) ∨ 3 ≤ (wlanTokens stream).length) :
      ServesElement commandBuffer stream (some ((stream.drop 5).drop (wlanLength stream).toNat))
  | delWlan (element : commandBuffer.headD 0 = 5) (long : 0 ≤ wlanLength stream)
      (enough : 2 ≤ (wlanTokens stream).length) :
      ServesElement commandBuffer stream (some ((stream.drop 5).drop (wlanLength stream).toNat))

/-- The element and the index behind the command byte, with zeros for what is missing. -/
def confHeader (stream : List UInt8) : List UInt8 := overlay (List.replicate 5 0) stream

def confIndex (stream : List UInt8) : Int := ntohl ((confHeader stream).drop 1)

inductive Serves (table : SessionTable) (stream : List UInt8) : Option (List UInt8) → Prop where
  | beyond (outside : table.gWTPs.length ≤ confIndex stream) : Serves table stream none
  | free (inside : 0 ≤ confIndex stream) (notLive : ¬ Live table (confIndex stream)) :
      Serves table stream none
  | element {left : Option (List UInt8)} (live : Live table (confIndex stream))
      (served : ServesElement (confHeader stream) (stream.drop 5) left) : Serves table stream left

/-- The streams that can be read from command `k` on. -/
inductive Harmless (tables : Nat → SessionTable) : Nat → List UInt8 → Prop where
  | nothing {k : Nat} : Harmless tables k []
  | quit {k : Nat} {stream : List UInt8} : Harmless tables k (0 :: stream)
  | list {k : Nat} {stream : List UInt8} (behind : Harmless tables (k + 1) stream) :
      Harmless tables k (1 :: stream)
  | served {k : Nat} {stream left : List UInt8} (command : Serves (tables k) stream (some left))
      (behind : Harmless tables (k + 1) left) : Harmless tables k (2 :: stream)
  | ended {k : Nat} {stream : List UInt8} (command : Serves (tables k) stream none) :
      Harmless tables k (2 :: stream)
  | unknown {k : Nat} {cmdMsg : UInt8} {stream : List UInt8} (other : cmdMsg ∉ [0, 1, 2])
      (behind : Harmless tables (k + 1) stream) : Harmless tables k (cmdMsg :: stream)

theorem length_confHeader : (confHeader stream).length = 5 := by
  simp [confHeader, overlay]
  omega

theorem manageElement_served (live : Live table i) (size : commandBuffer.length = 5)
    {left : Option (List UInt8)} (served : ServesElement commandBuffer stream left) :
    Quiet table (manageElement table memory commandBuffer i stream) ∧
      (manageElement table memory commandBuffer i stream).2 = left := by
  cases served with
  | unknown other =>
    have reached : manageElement table memory commandBuffer i stream = ([], some stream) := by
      simp at other
      simp [manageElement, other]
    rw [reached]
    exact ⟨List.forall_mem_nil _, rfl⟩
  | ofdm element complete =>
    rw [manageElement, element]
    exact ⟨(ofdm_quiet live).mpr complete, rfl⟩
  | uci element header fits complete =>
    rw [manageElement, element]
    exact ⟨(uci_quiet live size).mpr ⟨header, fits, complete⟩, uci_left_eq size header⟩
  | @wumUpdate element behind type complete =>
    rw [manageElement, element, type]
    have quiet : Quiet table (wumUpdate table memory commandBuffer [.stream 3] i behind) :=
      (wumUpdate_quiet live size).mpr ⟨by simp [Cell.FromStream], complete⟩
    show Quiet table (wum table memory commandBuffer i (3 :: behind)) ∧
      (wum table memory commandBuffer i (3 :: behind)).2 = _
    rw [wum_update, Quiet, List.forall_mem_cons]
    exact ⟨⟨le_rfl, quiet⟩, rfl⟩
  | @wumRefused element behind type refused =>
    rw [manageElement, element, type]
    have quiet : Quiet table (wumFragment table memory commandBuffer [.stream 5] i behind) ∧ _ :=
      wumFragment_refused live refused
    show Quiet table (wum table memory commandBuffer i (5 :: behind)) ∧
      (wum table memory commandBuffer i (5 :: behind)).2 = _
    rw [wum_fragment, Quiet, List.forall_mem_cons]
    exact ⟨⟨le_rfl, quiet.1⟩, quiet.2⟩
  | @wumFragment element behind type taken header complete =>
    rw [manageElement, element, type]
    have quiet : Quiet table (wumFragment table memory commandBuffer [.stream 5] i behind) :=
      (wumFragment_quiet live size taken).mpr ⟨by simp [Cell.FromStream], header, complete⟩
    show Quiet table (wum table memory commandBuffer i (5 :: behind)) ∧
      (wum table memory commandBuffer i (5 :: behind)).2 = _
    rw [wum_fragment, Quiet, List.forall_mem_cons]
    exact ⟨⟨le_rfl, quiet⟩, wumFragment_left_eq live taken⟩
  | @wumOther element code behind type notUpdate notFragment =>
    rw [manageElement, element, type]
    show Quiet table (wum table memory commandBuffer i (code :: behind)) ∧
      (wum table memory commandBuffer i (code :: behind)).2 = _
    rw [wum_other live notUpdate notFragment, Quiet, List.forall_mem_cons,
      List.forall_mem_singleton, hand_safe live]
    exact ⟨⟨le_rfl, by simp [Parameters.Assigned, Cell.FromStream]⟩, rfl⟩
  | noMemory element short =>
    cases element with
    | inl add =>
      rw [manageElement, add]
      exact addWlan_noMemory short
    | inr del =>
      rw [manageElement, del]
      exact delWlan_noMemory short
  | addWlan element long settled =>
    rw [manageElement, element]
    exact addWlan_served live long settled
  | delWlan element long enough =>
    rw [manageElement, element]
    exact delWlan_served live long enough

/-- What is quiet with cleared memory is one of the shapes. -/
theorem servesElement_of_quiet (live : Live table i) (size : commandBuffer.length = 5)
    (quiet : Quiet table (manageElement table cleared commandBuffer i stream)) :
    ∃ left, ServesElement commandBuffer stream left := by
  by_cases one : commandBuffer.headD 0 = 1
  · rw [manageElement, one] at quiet
    exact ⟨_, .ofdm one ((ofdm_quiet live).mp quiet)⟩
  by_cases two : commandBuffer.headD 0 = 2
  · rw [manageElement, two] at quiet
    obtain ⟨header, fits, complete⟩ := (uci_quiet live size).mp quiet
    exact ⟨_, .uci two header fits complete⟩
  by_cases three : commandBuffer.headD 0 = 3
  · rw [manageElement, three] at quiet
    have quiet : Quiet table (wum table cleared commandBuffer i stream) := quiet
    cases stream with
    | nil => exact absurd quiet (wum_nil live)
    | cons code behind =>
      by_cases update : code = 3
      · subst update
        rw [wum_update, Quiet, List.forall_mem_cons] at quiet
        have complete := ((wumUpdate_quiet live size).mp quiet.2).2
        exact ⟨_, .wumUpdate three rfl complete⟩
      by_cases fragment : code = 5
      · subst fragment
        by_cases refused : Refused commandBuffer behind
        · exact ⟨_, .wumRefused three rfl refused⟩
        · rw [wum_fragment, Quiet, List.forall_mem_cons] at quiet
          have complete := ((wumFragment_quiet live size refused).mp quiet.2).2
          exact ⟨_, .wumFragment three rfl refused complete.1 complete.2⟩
      exact ⟨_, .wumOther three rfl update fragment⟩
  by_cases four : commandBuffer.headD 0 = 4
  · rw [manageElement, four] at quiet
    cases addWlan_of_quiet live quiet with
    | inl short => exact ⟨_, .noMemory (Or.inl four) short⟩
    | inr settled => exact ⟨_, .addWlan four settled.1 settled.2⟩
  by_cases five : commandBuffer.headD 0 = 5
  · rw [manageElement, five] at quiet
    cases delWlan_of_quiet live quiet with
    | inl short => exact ⟨_, .noMemory (Or.inr five) short⟩
    | inr settled => exact ⟨_, .delWlan five settled.1 settled.2⟩
  have other : commandBuffer.headD 0 ∉ [1, 2, 3, 4, 5] := by
    simp only [List.mem_cons, List.not_mem_nil, or_false, not_or]
    exact ⟨one, two, three, four, five⟩
  exact ⟨_, .unknown other⟩

/-! ## A command -/

theorem lookup_safe (nonnegative : 0 ≤ i) (inside : i < table.gWTPs.length) :
    (Event.lookup i).Safe table := ⟨nonnegative, inside⟩

theorem confUpdate_served {left : Option (List UInt8)} (served : Serves table stream left) :
    Quiet table (confUpdate table memory stream) ∧ (confUpdate table memory stream).2 = left := by
  have header := header_safe table stream 5 (by decide)
  simp only [confUpdate, values_fill, ← confHeader.eq_1, ← confIndex.eq_1]
  cases served with
  | beyond outside =>
    rw [if_neg (by omega), Quiet, List.forall_mem_singleton]
    exact ⟨header, rfl⟩
  | free nonnegative notLive =>
    have taken : ¬ isNotFree table memory (confIndex stream) = true :=
      fun taken => notLive ((isNotFree_iff nonnegative).mp taken)
    by_cases inside : confIndex stream < table.gWTPs.length
    · rw [if_pos inside, if_neg taken, Quiet, List.forall_mem_cons, List.forall_mem_singleton]
      exact ⟨⟨header, lookup_safe nonnegative inside⟩, rfl⟩
    · rw [if_neg inside, Quiet, List.forall_mem_singleton]
      exact ⟨header, rfl⟩
  | element live element =>
    obtain ⟨nonnegative, inside⟩ := live.inside
    have inner : Quiet table (manageElement table memory (confHeader stream) (confIndex stream)
        (stream.drop 5)) ∧ _ := manageElement_served live length_confHeader element
    obtain ⟨quiet, ended⟩ := inner
    rw [if_pos inside, if_pos ((isNotFree_iff nonnegative).mpr live), Quiet, List.forall_mem_cons,
      List.forall_mem_cons]
    exact ⟨⟨header, lookup_safe nonnegative inside, quiet⟩, ended⟩

theorem serves_of_quiet (quiet : Quiet table (confUpdate table cleared stream)) :
    ∃ left, Serves table stream left := by
  simp only [confUpdate, values_fill, ← confHeader.eq_1, ← confIndex.eq_1] at quiet
  by_cases inside : confIndex stream < table.gWTPs.length
  · rw [if_pos inside] at quiet
    by_cases taken : isNotFree table cleared (confIndex stream) = true
    · rw [if_pos taken, Quiet, List.forall_mem_cons, List.forall_mem_cons] at quiet
      obtain ⟨_, lookup, later⟩ := quiet
      have live := (isNotFree_iff lookup.1).mp taken
      obtain ⟨left, served⟩ := servesElement_of_quiet live length_confHeader later
      exact ⟨left, .element live served⟩
    · rw [if_neg taken, Quiet, List.forall_mem_cons, List.forall_mem_singleton] at quiet
      have nonnegative := quiet.2.1
      exact ⟨_, .free nonnegative fun live => taken ((isNotFree_iff nonnegative).mpr live)⟩
  · exact ⟨_, .beyond (by omega)⟩

theorem scan_safe : ∀ event ∈ scan table, event.Safe table := by
  intro event member
  obtain ⟨j, inside, rfl⟩ := List.mem_map.mp member
  rw [List.mem_range] at inside
  exact lookup_safe (by omega) (by omega)

theorem list_safe : ∀ event ∈ list table, event.Safe table := by
  rw [list]
  by_cases active : 0 < table.gActiveWTPs
  · rw [if_pos active, List.forall_mem_append]
    refine ⟨scan_safe, ?_⟩
    by_cases announced : 0 < withoutUnnamed table.gWTPs table.gActiveWTPs
    · rw [if_pos announced]
      exact scan_safe
    · rw [if_neg announced]
      exact List.forall_mem_nil _
  · rw [if_neg active]
    exact List.forall_mem_nil _

end Handlers

/-! ## The whole stream -/

section Run

variable {tables : Nat → SessionTable} {memories : Nat → Memory} {k : Nat} {cmdMsg : UInt8}
  {stream left : List UInt8}

/-- The events of a command, with the read of its first byte. -/
def commandEvents (table : SessionTable) (outcome : Outcome) : List (SessionTable × Event) :=
  (.fill 1 1 :: outcome.1).map fun event => (table, event)

theorem run_ends (ends : (manageCommand (tables k) (memories k) cmdMsg stream).2 = none) :
    manageApplication tables memories k (cmdMsg :: stream) =
      commandEvents (tables k) (manageCommand (tables k) (memories k) cmdMsg stream) := by
  rw [manageApplication]
  split
  · rfl
  · rename_i left goes
    rw [ends] at goes
    cases goes

theorem run_goes (goes : (manageCommand (tables k) (memories k) cmdMsg stream).2 = some left) :
    manageApplication tables memories k (cmdMsg :: stream) =
      commandEvents (tables k) (manageCommand (tables k) (memories k) cmdMsg stream) ++
        manageApplication tables memories (k + 1) left := by
  rw [manageApplication]
  split
  · rename_i ends
    rw [goes] at ends
    cases ends
  · rename_i left' goes'
    rw [goes] at goes'
    cases goes'
    rfl

theorem commandEvents_safe {table : SessionTable} {outcome : Outcome} :
    (∀ happened ∈ commandEvents table outcome, happened.2.Safe happened.1) ↔ Quiet table outcome := by
  rw [commandEvents, List.forall_mem_map, List.forall_mem_cons]
  exact and_iff_right le_rfl

/-- A safe stream begins with a quiet command, whatever memory holds. -/
theorem StreamSafe.quiet (safe : StreamSafe tables k (cmdMsg :: stream)) (memory : Memory) :
    Quiet (tables k) (manageCommand (tables k) memory cmdMsg stream) := by
  have events := safe fun _ => memory
  cases rest : (manageCommand (tables k) memory cmdMsg stream).2 with
  | none =>
    rw [run_ends rest] at events
    exact commandEvents_safe.mp events
  | some left =>
    rw [run_goes rest, List.forall_mem_append] at events
    exact commandEvents_safe.mp events.1

theorem StreamSafe.behind (safe : StreamSafe tables k (cmdMsg :: stream))
    (goes : ∀ memory, (manageCommand (tables k) memory cmdMsg stream).2 = some left) :
    StreamSafe tables (k + 1) left := by
  intro memories
  have events := safe memories
  rw [run_goes (goes (memories k)), List.forall_mem_append] at events
  exact events.2

theorem streamSafe_ends
    (command : ∀ memory, Quiet (tables k) (manageCommand (tables k) memory cmdMsg stream) ∧
      (manageCommand (tables k) memory cmdMsg stream).2 = none) :
    StreamSafe tables k (cmdMsg :: stream) := by
  intro memories
  rw [run_ends (command (memories k)).2]
  exact commandEvents_safe.mpr (command (memories k)).1

theorem streamSafe_goes
    (command : ∀ memory, Quiet (tables k) (manageCommand (tables k) memory cmdMsg stream) ∧
      (manageCommand (tables k) memory cmdMsg stream).2 = some left)
    (behind : StreamSafe tables (k + 1) left) : StreamSafe tables k (cmdMsg :: stream) := by
  intro memories
  rw [run_goes (command (memories k)).2, List.forall_mem_append]
  exact ⟨commandEvents_safe.mpr (command (memories k)).1, behind memories⟩

theorem manageCommand_unknown {table : SessionTable} {memory : Memory} (other : cmdMsg ∉ [0, 1, 2]) :
    manageCommand table memory cmdMsg stream = ([], some stream) := by
  simp only [List.mem_cons, List.not_mem_nil, or_false, not_or] at other
  simp [manageCommand, other]

theorem safe_of_harmless (harmless : Harmless tables k stream) : StreamSafe tables k stream := by
  induction harmless with
  | nothing =>
    intro memories happened member
    rw [manageApplication] at member
    cases member
  | quit => exact streamSafe_ends fun memory => ⟨List.forall_mem_nil _, rfl⟩
  | list behind safe => exact streamSafe_goes (fun memory => ⟨list_safe, rfl⟩) safe
  | served command behind safe => exact streamSafe_goes (fun memory => confUpdate_served command) safe
  | ended command => exact streamSafe_ends fun memory => confUpdate_served command
  | unknown other behind safe =>
    apply streamSafe_goes _ safe
    intro memory
    rw [manageCommand_unknown other]
    exact ⟨List.forall_mem_nil _, rfl⟩

theorem harmless_of_safe (safe : StreamSafe tables k stream) : Harmless tables k stream := by
  -- What is left behind a command is shorter, so the induction is on the length.
  induction sized : stream.length using Nat.strong_induction_on generalizing k stream with
  | _ size inductionHypothesis =>
    cases stream with
    | nil => exact .nothing
    | cons cmdMsg stream =>
      have later {left : List UInt8} (goes : ∀ memory,
          (manageCommand (tables k) memory cmdMsg stream).2 = some left) :
          Harmless tables (k + 1) left := by
        have shorter := manageCommand_left (goes cleared)
        rw [List.length_cons] at sized
        exact inductionHypothesis left.length (by omega) (safe.behind goes) rfl
      by_cases zero : cmdMsg = 0
      · subst zero
        exact .quit
      by_cases one : cmdMsg = 1
      · subst one
        exact .list (later fun _ => rfl)
      by_cases two : cmdMsg = 2
      · subst two
        obtain ⟨left, command⟩ := serves_of_quiet (safe.quiet cleared)
        cases left with
        | none => exact .ended command
        | some left => exact .served command (later fun _ => (confUpdate_served command).2)
      have other : cmdMsg ∉ [0, 1, 2] := by
        simp only [List.mem_cons, List.not_mem_nil, or_false, not_or]
        exact ⟨zero, one, two⟩
      exact .unknown other (later fun _ => by rw [manageCommand_unknown other])

/-- Nothing goes wrong exactly in the streams whose commands for live WTPs have one of the shapes
above, and none of which has a negative index. -/
theorem stream_safe_iff (tables : Nat → SessionTable) (stream : List UInt8) :
    StreamSafe tables 0 stream ↔ Harmless tables 0 stream :=
  ⟨harmless_of_safe, safe_of_harmless⟩

/-- The index that stands for all the active WTPs is looked up like any other. -/
theorem allWTPs_not_safe :
    ¬ StreamSafe (fun _ => oneSession 2) 0 [2, 3, 0xff, 0xff, 0xff, 0xff, 1] := by
  intro safe
  have index : confIndex [3, 0xff, 0xff, 0xff, 0xff, 1] = -1 := by decide
  obtain ⟨left, command⟩ := serves_of_quiet (safe.quiet cleared)
  cases command with
  | beyond outside =>
    rw [index] at outside
    exact absurd outside (by decide)
  | free nonnegative _ =>
    rw [index] at nonnegative
    exact absurd nonnegative (by decide)
  | element live _ =>
    rw [index] at live
    exact absurd live.1 (by decide)

end Run

end WlanController.Interface
