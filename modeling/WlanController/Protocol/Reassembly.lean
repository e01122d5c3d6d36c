import Mathlib.Data.List.Nodup
import WlanController.Foundation.Tiling
import WlanController.Protocol.FragmentList

/-!
# The reassembly loop

The loop walks through the list from one offset to the next.  A walk is described
without the loop, as the fragments it passes, and the loop is then shown to follow it.
-/

namespace WlanController.Protocol

/-! ## Looking up an offset -/

theorem OneMessage.eq_of_offset {fragmentsList : List CWProtocolFragment}
    (one : OneMessage fragmentsList) {el el' : CWProtocolFragment} (member : el ∈ fragmentsList)
    (member' : el' ∈ fragmentsList) (same : el.fragmentOffset = el'.fragmentOffset) : el = el' := by
  have nodup : (fragmentsList.map (·.fragmentOffset)).Nodup := List.pairwise_map.mpr one.distinct
  exact List.inj_on_of_nodup_map nodup member member' same

theorem findFragment_of_mem {fragmentsList : List CWProtocolFragment}
    (one : OneMessage fragmentsList) {el : CWProtocolFragment} (member : el ∈ fragmentsList) :
    findFragment fragmentsList el.fragmentOffset = some el := by
  cases found : findFragment fragmentsList el.fragmentOffset with
  | none =>
    have missing := List.find?_eq_none.mp found el member
    simp at missing
  | some other =>
    have equal := List.find?_some found
    simp only [beq_iff_eq, Nat.cast_inj] at equal
    rw [one.eq_of_offset (List.mem_of_find?_eq_some found) member equal]

theorem findFragment_cases (fragmentsList : List CWProtocolFragment) (offset : Nat) :
    findFragment fragmentsList offset = none ∨
      ∃ el ∈ fragmentsList, el.fragmentOffset = offset ∧
        findFragment fragmentsList offset = some el := by
  cases found : findFragment fragmentsList offset with
  | none => exact .inl rfl
  | some el =>
    have equal := List.find?_some found
    simp only [beq_iff_eq, Nat.cast_inj] at equal
    exact .inr ⟨el, List.mem_of_find?_eq_some found, equal, rfl⟩

/-! ## One round of the loop -/

/-- The message while the loop fills it: `done` is stored and `room` bytes are left. -/
def partly (done : List UInt8) (room : Nat) (dataMsgType : Option CWDataMsgType) :
    CWProtocolMessage :=
  { filled done room with dataMsgType }

@[simp] theorem contents_partly (done : List UInt8) (room : Nat)
    (dataMsgType : Option CWDataMsgType) : (partly done room dataMsgType).contents = done :=
  contents_filled done room

theorem cwCreateProtocolMessage_eq_partly (size : Nat) :
    cwCreateProtocolMessage size = partly [] size none := rfl

theorem run_storeRawBytes_partly {bytes done : List UInt8} {room : Nat}
    (fits : bytes.length ≤ room) (dataMsgType : Option CWDataMsgType) :
    (cwProtocolStoreRawBytes bytes).run (partly done room dataMsgType) =
      .ok () (partly (done ++ bytes) (room - bytes.length) dataMsgType) := by
  obtain ⟨more, rfl⟩ := Nat.exists_eq_add_of_le fits
  rw [Nat.add_sub_cancel_left]
  simp [EStateM.run, cwProtocolStoreRawBytes, partly, filled, ← Nat.add_assoc]

theorem run_storeRawBytes_partly_overflow {bytes done : List UInt8} {room : Nat}
    (beyond : room < bytes.length) (dataMsgType : Option CWDataMsgType) :
    (cwProtocolStoreRawBytes bytes).run (partly done room dataMsgType) =
      .error (.outOfBounds .message) (partly done room dataMsgType) := by
  have outside : ¬ bytes.length ≤ room := by omega
  simp [EStateM.run, cwProtocolStoreRawBytes, partly, filled, outside]

section Loop

variable {fragmentsList : List CWProtocolFragment} {dataMsgType : Option CWDataMsgType}

theorem reassemble_missing {offset : Nat} (missing : findFragment fragmentsList offset = none)
    (fuel : Nat) (message : CWProtocolMessage) :
    reassemble fragmentsList dataMsgType (fuel + 1) offset message =
      some (.error (.raised .invalidFormat "Bad Fragmented Messsage")) := by
  simp only [reassemble, missing]

theorem reassemble_overflow {offset : Nat} {el : CWProtocolFragment}
    (found : findFragment fragmentsList offset = some el) {room : Nat}
    (beyond : room < el.data.length) (fuel : Nat) (done : List UInt8)
    (noted : Option CWDataMsgType) :
    reassemble fragmentsList dataMsgType (fuel + 1) offset (partly done room noted) =
      some (.error (.outOfBounds .message)) := by
  simp only [reassemble, found, run_storeRawBytes_partly_overflow beyond]

theorem reassemble_last {offset : Nat} {el : CWProtocolFragment}
    (found : findFragment fragmentsList offset = some el) (last : el.last = 1) {room : Nat}
    (fits : el.data.length ≤ room) (fuel : Nat) (done : List UInt8)
    (noted : Option CWDataMsgType) :
    reassemble fragmentsList dataMsgType (fuel + 1) offset (partly done room noted) =
      some (.ok (partly (done ++ el.data) (room - el.data.length) dataMsgType)) := by
  simp only [reassemble, found, run_storeRawBytes_partly fits, if_pos last]
  rfl

theorem reassemble_next {offset : Nat} {el : CWProtocolFragment}
    (found : findFragment fragmentsList offset = some el) (notLast : el.last ≠ 1) {room : Nat}
    (fits : el.data.length ≤ room) (fuel : Nat) (done : List UInt8)
    (noted : Option CWDataMsgType) :
    reassemble fragmentsList dataMsgType (fuel + 1) offset (partly done room noted) =
      reassemble fragmentsList dataMsgType fuel (offset + el.data.length / 8 : Nat)
        (partly (done ++ el.data) (room - el.data.length) dataMsgType) := by
  have advance : (offset : Int) + el.dataLen / 8 = (offset + el.data.length / 8 : Nat) := by
    rw [el.dataLen_eq]
    push_cast
    rfl
  simp only [reassemble, found, run_storeRawBytes_partly fits, if_neg notLast, advance]
  rfl

end Loop

/-! ## Walks -/

/-- From one offset to another past fragments that are not last. -/
inductive Walk (fragmentsList : List CWProtocolFragment) :
    Nat → List CWProtocolFragment → Nat → Prop
  | nil (offset : Nat) : Walk fragmentsList offset [] offset
  | cons {el : CWProtocolFragment} {passed : List CWProtocolFragment} {final : Nat} :
      el ∈ fragmentsList → el.last ≠ 1 →
      Walk fragmentsList (el.fragmentOffset + el.data.length / 8) passed final →
      Walk fragmentsList el.fragmentOffset (el :: passed) final

/-- The fragments the loop comes to, starting at the beginning of the message. -/
def Reached (fragmentsList : List CWProtocolFragment) (el : CWProtocolFragment) : Prop :=
  el ∈ fragmentsList ∧ ∃ passed, Walk fragmentsList 0 passed el.fragmentOffset

/-- A fragment shorter than eight bytes that does not end the message: from it the loop
    goes on at the same offset. -/
def Short (el : CWProtocolFragment) : Prop := el.last ≠ 1 ∧ el.dataLen < 8

def passedBytes (passed : List CWProtocolFragment) : List UInt8 := passed.flatMap (·.data)

theorem length_passedBytes (passed : List CWProtocolFragment) :
    (passedBytes passed).length = (passed.map (·.data.length)).sum := by
  rw [passedBytes, List.length_flatMap]

section Walk

variable {fragmentsList : List CWProtocolFragment}

theorem Walk.append {offset middle final : Nat} {passed passed' : List CWProtocolFragment}
    (first : Walk fragmentsList offset passed middle)
    (second : Walk fragmentsList middle passed' final) :
    Walk fragmentsList offset (passed ++ passed') final := by
  induction first with
  | nil => exact second
  | cons member notLast _ inductionHypothesis =>
    exact .cons member notLast (inductionHypothesis second)

theorem Walk.pass {offset : Nat} {passed : List CWProtocolFragment} {el : CWProtocolFragment}
    (walk : Walk fragmentsList offset passed el.fragmentOffset) (member : el ∈ fragmentsList)
    (notLast : el.last ≠ 1) :
    Walk fragmentsList offset (passed ++ [el]) (el.fragmentOffset + el.data.length / 8) :=
  walk.append (.cons member notLast (.nil _))

theorem Walk.mem {offset final : Nat} {passed : List CWProtocolFragment}
    (walk : Walk fragmentsList offset passed final) {el : CWProtocolFragment}
    (member : el ∈ passed) : el ∈ fragmentsList ∧ el.last ≠ 1 := by
  induction walk with
  | nil => cases member
  | cons here notLast _ inductionHypothesis =>
    rcases List.mem_cons.mp member with rfl | later
    · exact ⟨here, notLast⟩
    · exact inductionHypothesis later

/-- Every fragment a walk from the beginning passes is reached. -/
theorem Walk.reached {offset final : Nat} {before passed : List CWProtocolFragment}
    (start : Walk fragmentsList 0 before offset) (walk : Walk fragmentsList offset passed final)
    {el : CWProtocolFragment} (member : el ∈ passed) : Reached fragmentsList el := by
  induction walk generalizing before with
  | nil => cases member
  | cons here notLast _ inductionHypothesis =>
    rcases List.mem_cons.mp member with rfl | later
    · exact ⟨here, before, start⟩
    · exact inductionHypothesis (start.pass here notLast) later

/-- Past fragments of eight bytes and more, offsets only grow. -/
theorem Walk.increasing {offset final : Nat} {passed : List CWProtocolFragment}
    (walk : Walk fragmentsList offset passed final) (long : ∀ el ∈ passed, 8 ≤ el.data.length) :
    offset ≤ final ∧ (∀ el ∈ passed, offset ≤ el.fragmentOffset ∧ el.fragmentOffset < final) ∧
      passed.Pairwise fun el el' => el.fragmentOffset < el'.fragmentOffset := by
  induction walk with
  | nil => exact ⟨Nat.le_refl _, (fun _ member => nomatch member), .nil⟩
  | cons here notLast rest inductionHypothesis =>
    rw [List.forall_mem_cons] at long
    obtain ⟨ordered, between, increasing⟩ := inductionHypothesis long.2
    have step := long.1
    refine ⟨by omega, ?_, ?_⟩
    · rw [List.forall_mem_cons]
      refine ⟨⟨Nat.le_refl _, by omega⟩, fun el member => ?_⟩
      have place := between el member
      exact ⟨by omega, place.2⟩
    · refine List.pairwise_cons.mpr ⟨fun el member => ?_, increasing⟩
      have place := between el member
      omega

end Walk

/-- The sizes of all fragments together. -/
theorem currentSize_eq (fragmentsList : List CWProtocolFragment) :
    currentSize fragmentsList = ((fragmentsList.map (·.data.length)).sum : Nat) := by
  induction fragmentsList with
  | nil => rfl
  | cons el fragmentsList inductionHypothesis =>
    rw [currentSize] at inductionHypothesis ⊢
    rw [List.map_cons, List.sum_cons, inductionHypothesis, el.dataLen_eq, List.map_cons,
      List.sum_cons]
    push_cast
    rfl

/-- The fragments a walk takes are all different. -/
theorem Walk.nodup_concat {fragmentsList passed : List CWProtocolFragment} {el : CWProtocolFragment}
    (walk : Walk fragmentsList 0 passed el.fragmentOffset)
    (long : ∀ el ∈ passed, 8 ≤ el.data.length) : (passed ++ [el]).Nodup := by
  obtain ⟨-, between, increasing⟩ := walk.increasing long
  refine List.nodup_append'.mpr ⟨?_, List.nodup_singleton el, ?_⟩
  · exact increasing.imp fun less equal => by
      rw [equal] at less
      exact absurd less (Nat.lt_irrefl _)
  · intro other passedOther single
    rw [List.mem_singleton.mp single] at passedOther
    exact absurd (between el passedOther).2 (Nat.lt_irrefl _)

theorem Walk.concat_subset {fragmentsList passed : List CWProtocolFragment} {offset final : Nat}
    {el : CWProtocolFragment} (walk : Walk fragmentsList offset passed final)
    (member : el ∈ fragmentsList) : passed ++ [el] ⊆ fragmentsList := by
  intro other inside
  rcases List.mem_append.mp inside with passedOther | single
  · exact (walk.mem passedOther).1
  · rwa [List.mem_singleton.mp single]

/-- What the loop has stored when it comes to a fragment, and that fragment, fit into
    the message. -/
theorem Walk.fits {fragmentsList passed : List CWProtocolFragment} {el : CWProtocolFragment}
    (walk : Walk fragmentsList 0 passed el.fragmentOffset) (member : el ∈ fragmentsList)
    (long : ∀ el ∈ passed, 8 ≤ el.data.length) :
    (passedBytes passed).length + el.data.length ≤ (fragmentsList.map (·.data.length)).sum := by
  have sums := Tiling.sum_le_sum_of_nodup (·.data.length) (walk.nodup_concat long)
    (walk.concat_subset member)
  rw [length_passedBytes]
  simpa using sums

/-- The loop follows a walk as long as there is room for what the walk passes. -/
theorem reassemble_walk {fragmentsList : List CWProtocolFragment} (one : OneMessage fragmentsList)
    {offset final : Nat} {passed : List CWProtocolFragment}
    (walk : Walk fragmentsList offset passed final) (dataMsgType : Option CWDataMsgType)
    {room : Nat} (fits : (passedBytes passed).length ≤ room) (fuel : Nat) (done : List UInt8)
    (noted : Option CWDataMsgType) :
    ∃ noted', reassemble fragmentsList dataMsgType (passed.length + fuel) offset
        (partly done room noted) =
      reassemble fragmentsList dataMsgType fuel final
        (partly (done ++ passedBytes passed) (room - (passedBytes passed).length) noted') := by
  induction walk generalizing done room noted with
  | nil offset =>
    refine ⟨noted, ?_⟩
    simp [passedBytes]
  | cons member notLast rest inductionHypothesis =>
    rename_i el passed final
    have split : passedBytes (el :: passed) = el.data ++ passedBytes passed := rfl
    rw [split, List.length_append] at fits
    have smaller : (passedBytes passed).length ≤ room - el.data.length := by omega
    obtain ⟨noted', same⟩ := inductionHypothesis smaller (done ++ el.data) dataMsgType
    refine ⟨noted', ?_⟩
    rw [List.length_cons, Nat.add_right_comm,
      reassemble_next (findFragment_of_mem one member) notLast (by omega), same, split,
      List.append_assoc, List.length_append, Nat.sub_sub]

/-- A loop that returns a message has walked to a last fragment. -/
theorem reassemble_ok {fragmentsList : List CWProtocolFragment}
    {dataMsgType : Option CWDataMsgType} (fuel : Nat) {offset : Nat} {done : List UInt8} {room : Nat}
    {noted : Option CWDataMsgType} {message : CWProtocolMessage}
    (returned : reassemble fragmentsList dataMsgType fuel offset (partly done room noted) =
      some (.ok message)) :
    ∃ passed el, el ∈ fragmentsList ∧ el.last = 1 ∧
      Walk fragmentsList offset passed el.fragmentOffset ∧
      (passedBytes passed).length + el.data.length ≤ room ∧
      message = partly (done ++ (passedBytes passed ++ el.data))
        (room - ((passedBytes passed).length + el.data.length)) dataMsgType := by
  induction fuel generalizing offset done room noted with
  | zero => cases returned
  | succ fuel inductionHypothesis =>
    rcases findFragment_cases fragmentsList offset with missing | ⟨el, member, rfl, found⟩
    · rw [reassemble_missing missing] at returned
      cases returned
    · by_cases beyond : room < el.data.length
      · rw [reassemble_overflow found beyond] at returned
        cases returned
      · have fits : el.data.length ≤ room := by omega
        by_cases last : el.last = 1
        · rw [reassemble_last found last fits] at returned
          cases returned
          refine ⟨[], el, member, last, .nil _, ?_, ?_⟩
          · simpa [passedBytes] using fits
          · simp [passedBytes]
        · rw [reassemble_next found last fits] at returned
          obtain ⟨passed, final, here, isLast, walk, room', rfl⟩ := inductionHypothesis returned
          refine ⟨el :: passed, final, here, isLast, .cons member last walk, ?_, ?_⟩
          · simp only [passedBytes, List.flatMap_cons, List.length_append] at room' ⊢
            omega
          · simp only [passedBytes, List.flatMap_cons, List.length_append, List.append_assoc]
            congr 1
            omega

theorem create_eq_partly {fragmentsList : List CWProtocolFragment}
    (complete : Complete fragmentsList) :
    cwCreateProtocolMessage (totalSize fragmentsList).toNat =
      partly (passedBytes [])
        ((fragmentsList.map (·.data.length)).sum - (passedBytes []).length) none := by
  rw [← complete.size, currentSize_eq, Int.toNat_natCast, cwCreateProtocolMessage_eq_partly]
  rfl

/-- A walk through a complete list to a last fragment makes the message returned. -/
theorem cwProtocolParseFragment_of_walk {fragmentsList fragments passed : List CWProtocolFragment}
    {call : ParseCall} {dataMsgType : Option CWDataMsgType}
    (extended : fragmentsWith fragmentsList call = some (fragments, dataMsgType))
    (one : OneMessage fragments) (complete : Complete fragments) {el : CWProtocolFragment}
    (member : el ∈ fragments) (last : el.last = 1)
    (walk : Walk fragments 0 passed el.fragmentOffset)
    (fits : (passedBytes passed).length + el.data.length ≤ (fragments.map (·.data.length)).sum) :
    ∃ fuel dataFlag radioMAC room,
      cwProtocolParseFragment fuel call.packet fragmentsList call.dataFlag call.radioMAC =
        some ⟨.ok (partly (passedBytes passed ++ el.data) room dataMsgType), [], dataFlag,
          radioMAC⟩ := by
  obtain ⟨dataFlag, radioMAC, returns⟩ := cwProtocolParseFragment_of_some extended
  obtain ⟨noted, looped⟩ := reassemble_walk one walk dataMsgType
    (Nat.le_of_add_right_le fits) 1 [] none
  rw [reassemble_last (findFragment_of_mem one member) last (Nat.le_sub_of_add_le' fits),
    List.nil_append] at looped
  have created := create_eq_partly complete
  rw [show passedBytes [] = [] from rfl, List.length_nil, Nat.sub_zero] at created
  refine ⟨passed.length + 1, dataFlag, radioMAC,
    (fragments.map (·.data.length)).sum - (passedBytes passed).length - el.data.length, ?_⟩
  rw [returns, completeMessage_of_complete complete, created, Option.map_map]
  exact congrArg _ looped

end WlanController.Protocol
