import WlanController.Vendor.FirmwareSession

/-!
# What a delivered update leaves

The update tool cuts a package into fragments and sends them one after the other.  Each is
delivered at least once, but some may be delivered again before others arrive at all.  The WTP
stops at as many fragments as there are, so that it has what these were.
-/

namespace WlanController.Vendor

open Tiling (Block)
open SparseFile (fileOf)

/-! ## The update tool -/

/-- The loop of `WUMUpdate`: `left` bytes from `sent` on, as the fragments from `i` on. -/
def sendFragments (cupBuf : List UInt8) (left sent i : Nat) : List (Nat × List UInt8) :=
  if 0 < left then
    let toSend := min cupFragmentSize left
    (i, (cupBuf.drop sent).take toSend) :: sendFragments cupBuf (left - toSend) (sent + toSend) (i + 1)
  else []
termination_by left
decreasing_by
  simp only [cupFragmentSize]
  omega

def wumUpdateFragments (cupBuf : List UInt8) : List (Nat × List UInt8) :=
  sendFragments cupBuf cupBuf.length 0 0

def cupPiece (cupBuf : List UInt8) (i : Nat) : List UInt8 := Pieces.piece cupFragmentSize cupBuf i

def cupCount (cupBuf : List UInt8) : Nat := Pieces.count cupFragmentSize cupBuf.length

theorem mem_sendFragments {cupBuf : List UInt8} {left sent i : Nat}
    (whole : sent + left = cupBuf.length) (at_piece : 0 < left → sent = i * cupFragmentSize)
    (fragment : Nat × List UInt8) :
    fragment ∈ sendFragments cupBuf left sent i ↔
      i ≤ fragment.1 ∧ fragment.1 * cupFragmentSize < cupBuf.length ∧ 0 < left ∧
        fragment.2 = cupPiece cupBuf fragment.1 := by
  fun_induction sendFragments cupBuf left sent i with
  | case1 left sent i positive toSend inductionHypothesis =>
    have start := at_piece positive
    have size : toSend = min cupFragmentSize left := rfl
    have here : (cupBuf.drop sent).take toSend = cupPiece cupBuf i := by
      rw [cupPiece, Pieces.piece, ← start, List.take_eq_take_iff, List.length_drop]
      omega
    have rest := inductionHypothesis (by omega) (by
      intro more
      rw [Nat.succ_mul]
      omega)
    rw [List.mem_cons, rest, here]
    obtain ⟨index, bytes⟩ := fragment
    simp only [Prod.mk.injEq]
    simp only [cupFragmentSize] at size start ⊢
    constructor
    · intro either
      cases either with
      | inl same =>
        obtain ⟨rfl, rfl⟩ := same
        exact ⟨le_refl _, by omega, positive, rfl⟩
      | inr later => exact ⟨by omega, later.2.1, positive, later.2.2.2⟩
    · intro both
      obtain ⟨from_here, inside, _, same⟩ := both
      by_cases first : index = i
      case pos => exact .inl ⟨first, first ▸ same⟩
      case neg => exact .inr ⟨by omega, inside, by omega, same⟩
  | case2 left sent i none =>
    simp [none]

/-- The fragments are the pieces of the package, each with its index. -/
theorem mem_wumUpdateFragments {cupBuf : List UInt8} {fragment : Nat × List UInt8} :
    fragment ∈ wumUpdateFragments cupBuf ↔
      fragment.1 < cupCount cupBuf ∧ fragment.2 = cupPiece cupBuf fragment.1 := by
  rw [wumUpdateFragments, mem_sendFragments (by omega) (by omega), cupCount, mul_lt_iff_lt_count]
  constructor
  · intro both
    obtain ⟨_, inside, _, same⟩ := both
    exact ⟨inside, same⟩
  · intro both
    obtain ⟨inside, same⟩ := both
    have room := mul_lt_iff_lt_count.mpr inside
    exact ⟨Nat.zero_le _, inside, by omega, same⟩

/-! ## Packages -/

/-- A package that the WTP accepts: its version is newer and there is room for it. -/
structure Package where
  bytes : List UInt8
  positive : 0 < bytes.length
  /-- The size is an `int`. -/
  small : bytes.length < 2147483648
  major : UInt8
  minor : UInt8
  revision : UInt8
  newer : cwWTPCheckVersion major minor revision = true
  free : UInt64
  room : bytes.length < free.toNat

namespace Package

def request (package : Package) : WUMMessage where
  values := .updateRequest package.major package.minor package.revision
    (.ofNat package.bytes.length)
  free := package.free
  parsed := trivial

theorem length_cupPiece (bytes : List UInt8) (i : Nat) :
    (cupPiece bytes i).length = min cupFragmentSize (bytes.length - i * cupFragmentSize) :=
  Pieces.length_piece cupFragmentSize bytes i

theorem toNat_length_cupPiece (bytes : List UInt8) (i : Nat) :
    (UInt32.ofNat (cupPiece bytes i).length).toNat = (cupPiece bytes i).length := by
  have size := length_cupPiece bytes i
  simp only [UInt32.toNat_ofNat', cupFragmentSize] at size ⊢
  omega

theorem parsed_fragment (package : Package) (i : Nat) :
    CWVendorWumValues.Parsed (.cupFragment (.ofNat i) (.ofNat (cupPiece package.bytes i).length)
      (some (cupPiece package.bytes i))) := by
  have small : (cupPiece package.bytes i).length < 2147483648 := by
    have size := length_cupPiece package.bytes i
    simp only [cupFragmentSize] at size
    omega
  simp only [CWVendorWumValues.Parsed, toNat_length_cupPiece, if_pos small]
  exact ⟨_, rfl, rfl⟩

/-- How the fragment with an index arrives. -/
def fragment (package : Package) (i : Nat) : WUMMessage where
  values := .cupFragment (.ofNat i) (.ofNat (cupPiece package.bytes i).length)
    (some (cupPiece package.bytes i))
  free := package.free
  parsed := parsed_fragment package i

def blockOf (package : Package) (i : Nat) : Block UInt8 :=
  ⟨i * cupFragmentSize, cupPiece package.bytes i⟩

def storedOf (package : Package) (i : Nat) : StoredFragment := ⟨i, cupPiece package.bytes i⟩

theorem count_small (package : Package) : cupCount package.bytes < 2147483648 :=
  Nat.lt_of_le_of_lt (count_le _) package.small

end Package

/-- The fragments as they are delivered: each one that is sent, and no others. -/
structure Delivery (package : Package) where
  order : List Nat
  sent : ∀ i ∈ order, (i, cupPiece package.bytes i) ∈ wumUpdateFragments package.bytes
  all : ∀ fragment ∈ wumUpdateFragments package.bytes, fragment.1 ∈ order

def Delivery.messages {package : Package} (delivery : Delivery package) : List WUMMessage :=
  package.request :: delivery.order.map package.fragment

/-! ## Receiving -/

/-- The session has stored the fragments with these indices, in this order. -/
structure Session.Receiving (s : Session) (package : Package) (order : List Nat) : Prop where
  phase : s.wum.state = .busy
  busy : s.Busy
  cupSize : s.wum.cupSize = package.bytes.length
  stored : s.stored = order.map package.storedOf

variable {s : Session} {package : Package} {order : List Nat}

theorem Session.Receiving.total (receiving : s.Receiving package order) :
    s.wum.totalFragments = cupCount package.bytes := by
  have total := receiving.busy.total
  rw [receiving.cupSize, numFragments_of_nonneg] at total
  exact total

theorem Session.Receiving.received (receiving : s.Receiving package order) :
    s.wum.receivedFragments = order.length := by
  have counted := receiving.busy.counted
  rw [receiving.stored, List.length_map] at counted
  exact counted.symm

theorem toNat_index {i : Nat} (inside : i < cupCount package.bytes) :
    (UInt32.ofNat i).toNat = i := by
  have small := package.count_small
  simp only [UInt32.toNat_ofNat']
  omega

theorem Session.Receiving.due (receiving : s.Receiving package order) {i : Nat}
    (inside : i < cupCount package.bytes) :
    s.wum.Due (.ofNat i) (.ofNat (cupPiece package.bytes i).length) := by
  have before := mul_lt_iff_lt_count.mpr inside
  rw [WUMState.Due, toNat_index inside, receiving.total, Package.toNat_length_cupPiece,
    Package.length_cupPiece, WUMState.dueSize, receiving.cupSize]
  omega

theorem Session.Receiving.handle (receiving : s.Receiving package order) {i : Nat}
    (inside : i < cupCount package.bytes) :
    s.Step (package.fragment i) (s.store (.ofNat i) (cupPiece package.bytes i)).finish := by
  obtain ⟨taken, small, _⟩ := receiving.busy.due_inside (receiving.due inside)
  have values : (package.fragment i).values = .cupFragment (.ofNat i)
      (.ofNat (cupPiece package.bytes i).length) (some (cupPiece package.bytes i)) := rfl
  exact ⟨true, handle_stored values receiving.phase receiving.busy.opened taken small⟩

theorem Session.Receiving.stored_store (receiving : s.Receiving package order) {i : Nat}
    (inside : i < cupCount package.bytes) :
    (s.store (.ofNat i) (cupPiece package.bytes i)).stored =
      (order ++ [i]).map package.storedOf := by
  simp [Session.store, receiving.stored, toNat_index inside, Package.storedOf]

/-- A fragment that is not the last one. -/
theorem Session.Receiving.step (receiving : s.Receiving package order) {i : Nat}
    (inside : i < cupCount package.bytes) (unfinished : order.length + 1 < cupCount package.bytes) :
    ∃ s', s.Step (package.fragment i) s' ∧ s'.Receiving package (order ++ [i]) := by
  have room : s.wum.receivedFragments + 1 < s.wum.totalFragments := by
    rw [receiving.received, receiving.total]
    omega
  have step := receiving.handle inside
  have open_ : ¬ WUMIsComplete (s.store (.ofNat i) (cupPiece package.bytes i)).wum :=
    fun complete => complete.2 room
  rw [Session.finish_of_not open_] at step
  refine ⟨_, step, receiving.phase, ?_, receiving.cupSize, receiving.stored_store inside⟩
  exact receiving.busy.store (receiving.due inside) (Package.toNat_length_cupPiece _ _).symm room

/-- The fragment that makes them as many as there are. -/
theorem Session.Receiving.step_last (receiving : s.Receiving package order) {i : Nat}
    (inside : i < cupCount package.bytes) (last : order.length + 1 = cupCount package.bytes) :
    ∃ s', s.Step (package.fragment i) s' ∧ s'.wum.state = .ready ∧
      s'.wum.tmpFile = some (fileOf ((order ++ [i]).map package.blockOf)) := by
  have finished : s.wum.receivedFragments + 1 = s.wum.totalFragments := by
    rw [receiving.received, receiving.total]
    omega
  obtain ⟨_, _, offset⟩ := receiving.busy.due_inside (receiving.due inside)
  have step := receiving.handle inside
  have complete : WUMIsComplete (s.store (.ofNat i) (cupPiece package.bytes i)).wum :=
    ⟨receiving.phase, finished.not_lt⟩
  rw [Session.finish_of_complete complete] at step
  refine ⟨_, step, rfl, ?_⟩
  rw [toNat_index inside] at offset
  have blocks : (order.map package.storedOf).map StoredFragment.block = order.map package.blockOf := by
    simp [Package.blockOf, Package.storedOf, StoredFragment.block]
  simp [wumCloseFile, Session.store, receiving.busy.file, receiving.stored, blocks, offset,
    SparseFile.fileOf_append, Package.blockOf]

theorem Session.Receiving.run {more : List Nat} (receiving : s.Receiving package order)
    (inside : ∀ i ∈ more, i < cupCount package.bytes)
    (unfinished : order.length + more.length < cupCount package.bytes) :
    ∃ s', Run.Trace Session.Step s (more.map package.fragment) s' ∧
      s'.Receiving package (order ++ more) := by
  induction more generalizing s order with
  | nil => exact ⟨s, .nil s, by rwa [List.append_nil]⟩
  | cons i more inductionHypothesis =>
    rw [List.length_cons] at unfinished
    obtain ⟨s₁, step, receiving₁⟩ := receiving.step (inside i (by simp)) (by omega)
    obtain ⟨s', trace, receiving'⟩ := inductionHypothesis receiving₁
      (fun i member => inside i (List.mem_cons_of_mem _ member)) (by simp; omega)
    rw [List.append_assoc] at receiving'
    exact ⟨s', .cons step trace, receiving'⟩

/-- A session that is ready stays as it is. -/
theorem run_ready (package : Package) (ready : s.wum.state = .ready) (more : List Nat) :
    Run.Trace Session.Step s (more.map package.fragment) s := by
  induction more with
  | nil => exact .nil s
  | cons i more inductionHypothesis =>
    have values : (package.fragment i).values = .cupFragment (.ofNat i)
        (.ofNat (cupPiece package.bytes i).length) (some (cupPiece package.bytes i)) := rfl
    exact .cons ⟨false, handle_idle values (by simp [ready])⟩ inductionHypothesis

/-- The request is accepted. -/
theorem receiving_request (package : Package) (waiting : s.wum.state = .wait) :
    ∃ s', s.Step package.request s' ∧ s'.Receiving package [] := by
  have size : (UInt32.ofNat package.bytes.length).toNat = package.bytes.length := by
    have small := package.small
    simp only [UInt32.toNat_ofNat']
    omega
  have cupSize : asInt (UInt32.ofNat package.bytes.length).toNat = package.bytes.length := by
    rw [size]
    exact asInt_of_lt package.small
  have room : checkFreeSpace package.free (asInt (UInt32.ofNat package.bytes.length).toNat) =
      true := by
    have small := package.small
    have room := package.room
    rw [cupSize, checkFreeSpace, Int.emod_eq_of_lt (by omega) (by omega)]
    simpa using room
  cases prepared : wumPrepareForUpdate s.wum (asInt (UInt32.ofNat package.bytes.length).toNat) with
  | none => simp [wumPrepareForUpdate, waiting] at prepared
  | some wum =>
    obtain ⟨phase, same, busy⟩ := busy_of_prepared prepared
    have values : package.request.values = .updateRequest package.major package.minor
        package.revision (.ofNat package.bytes.length) := by rw [Package.request]
    have handled := handle_accepted values package.newer room prepared
    exact ⟨⟨wum, []⟩, ⟨true, handled⟩, phase, busy, same.trans cupSize, rfl⟩

/-- What is in the file when as many fragments have been delivered as there are. -/
theorem run_delivery (waiting : s.wum.state = .wait) (delivery : Delivery package) :
    ∃ s', Run.Trace Session.Step s delivery.messages s' ∧ s'.wum.state = .ready ∧
      s'.wum.tmpFile = some (fileOf
        ((delivery.order.take (cupCount package.bytes)).map package.blockOf)) := by
  have inside : ∀ i ∈ delivery.order, i < cupCount package.bytes := fun i member =>
    (mem_wumUpdateFragments.mp (delivery.sent i member)).1
  -- there is no index that is not delivered
  have enough : cupCount package.bytes ≤ delivery.order.length := by
    have within : List.range (cupCount package.bytes) ⊆ delivery.order := by
      intro i member
      exact delivery.all (i, cupPiece package.bytes i)
        (mem_wumUpdateFragments.mpr ⟨List.mem_range.mp member, rfl⟩)
    have fewer := (List.nodup_range.subperm within).length_le
    rwa [List.length_range] at fewer
  have positive : 0 < cupCount package.bytes := Pieces.count_pos package.positive
  obtain ⟨before, count⟩ : ∃ before, cupCount package.bytes = before + 1 :=
    ⟨_, (Nat.succ_pred_eq_of_pos positive).symm⟩
  have here : before < delivery.order.length := by omega
  have split : delivery.order = delivery.order.take before ++
      (delivery.order[before] :: delivery.order.drop (before + 1)) := by
    rw [List.cons_getElem_drop_succ, List.take_append_drop]
  have taken : delivery.order.take before ++ [delivery.order[before]] =
      delivery.order.take (cupCount package.bytes) := by
    rw [count, List.take_succ_eq_append_getElem here]
  have length : (delivery.order.take before).length = before := List.length_take_of_le here.le
  obtain ⟨s₁, request, receiving₁⟩ := receiving_request package waiting
  have known : ∀ i ∈ delivery.order.take before, i < cupCount package.bytes := fun i member =>
    inside i (List.mem_of_mem_take member)
  obtain ⟨s₂, first, receiving₂⟩ := receiving₁.run known (by
    rw [length, count, List.length_nil]
    omega)
  rw [List.nil_append] at receiving₂
  obtain ⟨s₃, last, ready, file⟩ := receiving₂.step_last
    (inside _ (List.getElem_mem here)) (by rw [length, count])
  have rest := run_ready package ready (delivery.order.drop (before + 1))
  refine ⟨s₃, .cons request ?_, ready, taken ▸ file⟩
  rw [split, List.map_append, List.map_cons]
  exact first.append (.cons last rest)

/-! ## What the file is -/

theorem blockOf_contains_iff {i position : Nat} (inside : position < package.bytes.length) :
    (package.blockOf i).Contains position ↔ position / cupFragmentSize = i := by
  simp only [Block.Contains, Block.stop, Package.blockOf, Package.length_cupPiece, cupFragmentSize]
  omega

theorem stop_blockOf {i : Nat} (inside : i < cupCount package.bytes) :
    (package.blockOf i).stop = min ((i + 1) * cupFragmentSize) package.bytes.length := by
  have before := mul_lt_iff_lt_count.mpr inside
  simp only [Block.stop, Package.blockOf, Package.length_cupPiece, cupFragmentSize] at before ⊢
  omega

/-- A byte of the package in the piece it belongs to. -/
theorem getElem?_cupPiece (bytes : List UInt8) {i index : Nat} (inside : index < cupFragmentSize) :
    (cupPiece bytes i)[index]? = bytes[i * cupFragmentSize + index]? := by
  rw [cupPiece, Pieces.piece, List.getElem?_take_of_lt inside, List.getElem?_drop]

theorem parts_blockOf (package : Package) (order : List Nat) :
    SparseFile.PartsOf (order.map package.blockOf) package.bytes := by
  intro block member position inside
  obtain ⟨i, _, same⟩ := List.mem_map.mp member
  subst same
  have low := inside.1
  have high := inside.2
  simp only [Block.stop, Package.blockOf, Package.length_cupPiece] at low high
  have index : position - i * cupFragmentSize < cupFragmentSize := by omega
  rw [Package.blockOf, getElem?_cupPiece _ index, Nat.add_sub_cancel' low]

/-- A piece of zeros in front of the last one need not be there. -/
def Dispensable (package : Package) (i : Nat) : Prop :=
  i + 1 < cupCount package.bytes ∧ ∀ byte ∈ cupPiece package.bytes i, byte = 0

theorem zero_of_dispensable {i position : Nat} (dispensable : Dispensable package i)
    (here : position / cupFragmentSize = i) (inside : position < package.bytes.length) :
    package.bytes[position]? = some 0 := by
  have low : i * cupFragmentSize ≤ position := here ▸ Nat.div_mul_le_self _ _
  have index : position - i * cupFragmentSize < cupFragmentSize := by
    simp only [cupFragmentSize] at here ⊢
    omega
  have there := getElem?_cupPiece package.bytes (i := i) index
  rw [Nat.add_sub_cancel' low, List.getElem?_eq_getElem inside] at there
  rw [List.getElem?_eq_getElem inside, dispensable.2 _ (List.mem_of_getElem? there)]

/-- The file is the package if no piece is missing but such. -/
theorem fileOf_eq_iff {order : List Nat} (inside : ∀ i ∈ order, i < cupCount package.bytes) :
    fileOf (order.map package.blockOf) = package.bytes ↔
      ∀ i < cupCount package.bytes, i ∈ order ∨ Dispensable package i := by
  have positive := package.positive
  have stops : ∀ block ∈ order.map package.blockOf, ∃ i ∈ order,
      block = package.blockOf i ∧ block.stop = min ((i + 1) * cupFragmentSize) package.bytes.length := by
    intro block member
    obtain ⟨i, member, same⟩ := List.mem_map.mp member
    exact ⟨i, member, same.symm, same ▸ stop_blockOf (inside i member)⟩
  rw [(parts_blockOf package order).fileOf_eq_iff]
  constructor
  · intro both i below
    obtain ⟨length, zero⟩ := both
    have room := mul_lt_iff_lt_count.mpr below
    by_cases there : i ∈ order
    case pos => exact .inl there
    case neg =>
      refine .inr ⟨?_, fun byte member => ?_⟩
      · -- without the last piece the file is too short
        by_contra last
        have short : (fileOf (order.map package.blockOf)).length ≤ i * cupFragmentSize := by
          apply SparseFile.length_fileOf_le
          intro block member
          obtain ⟨i', member, _, stop⟩ := stops block member
          have below' := inside i' member
          have different : i' ≠ i := fun same => there (same ▸ member)
          have earlier : (i' + 1) * cupFragmentSize ≤ i * cupFragmentSize :=
            Nat.mul_le_mul_right _ (by omega)
          omega
        omega
      · obtain ⟨index, at_index⟩ := List.getElem?_of_mem member
        have small : index < (cupPiece package.bytes i).length :=
          (List.getElem?_eq_some_iff.mp at_index).1
        rw [Package.length_cupPiece] at small
        rw [getElem?_cupPiece _ (by omega)] at at_index
        have missing : ∀ block ∈ order.map package.blockOf,
            ¬ block.Contains (i * cupFragmentSize + index) := by
          intro block member contains
          obtain ⟨i', member, same, _⟩ := stops block member
          rw [same, blockOf_contains_iff (by omega)] at contains
          have index : (i * cupFragmentSize + index) / cupFragmentSize = i := by
            simp only [cupFragmentSize] at small ⊢
            omega
          exact there (index.symm.trans contains ▸ member)
        have byte_zero := zero _ (by omega) missing
        rw [at_index] at byte_zero
        exact Option.some.inj byte_zero
  · intro all
    refine ⟨?_, fun position room free => ?_⟩
    · have count : 0 < cupCount package.bytes := Pieces.count_pos positive
      have last : cupCount package.bytes - 1 ∈ order := by
        cases all (cupCount package.bytes - 1) (by omega) with
        | inl there => exact there
        | inr dispensable =>
          have earlier := dispensable.1
          omega
      have upper : (fileOf (order.map package.blockOf)).length ≤ package.bytes.length := by
        apply SparseFile.length_fileOf_le
        intro block member
        obtain ⟨i, _, _, stop⟩ := stops block member
        omega
      have ends : (package.bytes.length - 1) / cupFragmentSize = cupCount package.bytes - 1 := by
        have room := mul_lt_iff_lt_count.mpr
          (show cupCount package.bytes - 1 < Pieces.count cupFragmentSize package.bytes.length by
            rw [← cupCount]; omega)
        have bound := Pieces.length_le_count_mul package.bytes.length
          (show 0 < cupFragmentSize by simp [cupFragmentSize])
        rw [← cupCount] at bound
        simp only [cupFragmentSize] at room bound ⊢
        omega
      have lower := SparseFile.lt_length_fileOf (List.mem_map_of_mem last)
        ((blockOf_contains_iff
          (show package.bytes.length - 1 < package.bytes.length by omega)).mpr ends)
      omega
    · have below : position / cupFragmentSize < cupCount package.bytes :=
        mul_lt_iff_lt_count.mp (Nat.lt_of_le_of_lt (Nat.div_mul_le_self _ _) room)
      cases all _ below with
      | inl there =>
        exact absurd ((blockOf_contains_iff room).mpr rfl) (free _ (List.mem_map_of_mem there))
      | inr dispensable => exact zero_of_dispensable dispensable rfl room

/-! ## The whole update -/

/-- A session that waits ends ready, with the package in its file. -/
def Delivery.Arrives (delivery : Delivery package) : Prop :=
  ∀ s : Session, s.wum.state = .wait →
    ∃ s', Run.Trace Session.Step s delivery.messages s' ∧ s'.wum.state = .ready ∧
      s'.wum.tmpFile = some package.bytes

/-- Among as many deliveries as there are fragments none is missing that matters. -/
def Delivery.Prompt (delivery : Delivery package) : Prop :=
  ∀ i < cupCount package.bytes,
    i ∈ delivery.order.take (cupCount package.bytes) ∨ Dispensable package i

theorem Session.Step.unique {s s' s'' : Session} {message : WUMMessage} (step : s.Step message s')
    (step' : s.Step message s'') : s' = s'' := by
  obtain ⟨success, handled⟩ := step
  obtain ⟨success', handled'⟩ := step'
  rw [handled] at handled'
  cases handled'
  rfl

theorem Delivery.arrives_iff (delivery : Delivery package) :
    delivery.Arrives ↔ delivery.Prompt := by
  have inside : ∀ i ∈ delivery.order.take (cupCount package.bytes), i < cupCount package.bytes :=
    fun i member => (mem_wumUpdateFragments.mp (delivery.sent i (List.mem_of_mem_take member))).1
  rw [Prompt, ← fileOf_eq_iff inside]
  constructor
  · intro arrives
    have waiting : Session.initial.wum.state = .wait := rfl
    obtain ⟨s', trace, _, file⟩ := run_delivery waiting delivery
    obtain ⟨s'', trace', _, file'⟩ := arrives _ waiting
    have same := trace.unique (fun _ _ _ _ step step' => step.unique step') trace'
    rw [← same, file] at file'
    exact Option.some.inj file'
  · intro same s waiting
    obtain ⟨s', trace, ready, file⟩ := run_delivery waiting delivery
    exact ⟨s', trace, ready, same ▸ file⟩

/-- What a session is required to do it does with regular messages, and a package arrives if its
    fragments are delivered before others are delivered again. -/
theorem firmwareUpdate_iff (messages : List WUMMessage) (package : Package)
    (delivery : Delivery package) :
    (SoundRun messages ↔ RegularRun messages) ∧ (delivery.Arrives ↔ delivery.Prompt) :=
  ⟨soundRun_iff messages, delivery.arrives_iff⟩

/-- A package of one byte more than a fragment has. -/
def twoFragments : Package where
  bytes := List.replicate 4001 1
  positive := by
    rw [List.length_replicate]
    omega
  small := by
    rw [List.length_replicate]
    omega
  major := 1
  minor := 0
  revision := 0
  newer := by simp [cwWTPCheckVersion, wtpVersionMajor]
  free := 8192
  room := by
    rw [List.length_replicate]
    decide

theorem cupCount_twoFragments : cupCount twoFragments.bytes = 2 := by
  have length : twoFragments.bytes.length = 4001 := List.length_replicate
  rw [cupCount, length]
  rfl

/-- Its first fragment is delivered again before the second one. -/
def deliveredTwice : Delivery twoFragments where
  order := [0, 0, 1]
  sent i member := by
    rw [mem_wumUpdateFragments, cupCount_twoFragments]
    simp only [List.mem_cons, List.not_mem_nil, or_false] at member
    exact ⟨by omega, rfl⟩
  all fragment member := by
    rw [mem_wumUpdateFragments, cupCount_twoFragments] at member
    have below := member.1
    simp only [List.mem_cons, List.not_mem_nil, or_false]
    omega

/-- `WTP_COMMIT_UPDATE` with nothing to commit. -/
def earlyCommit : WUMMessage where
  values := .plain wtpCommitUpdate (by simp [wtpCommitUpdate])
  free := 0
  parsed := trivial

/-- The package does not arrive, and the agent is started for nothing. -/
theorem deliveredTwice_not_arrived : ¬ deliveredTwice.Arrives ∧ ¬ SoundRun [earlyCommit] := by
  constructor
  · rw [Delivery.arrives_iff]
    intro prompt
    have second := prompt 1 (by simp [cupCount_twoFragments])
    simp [cupCount_twoFragments, deliveredTwice, Dispensable] at second
  · rw [soundRun_iff]
    intro regular
    have ready := regular.1 rfl
    cases ready

end WlanController.Vendor
