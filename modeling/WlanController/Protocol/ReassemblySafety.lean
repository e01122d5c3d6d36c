import WlanController.Protocol.Arrival
import WlanController.Protocol.Reassembly

/-!
# When reassembly ends inside its buffer

A complete list is put together within the allocated size, and the loop ends, exactly
when the loop comes to no fragment of less than eight bytes that is not last.  There it
stays at the same offset and stores the fragment over and over.
-/

namespace WlanController.Protocol

section Loop

variable {fragmentsList : List CWProtocolFragment} {dataMsgType : Option CWDataMsgType}

theorem eight_le_of_not_short {el : CWProtocolFragment} (long : ¬ Short el) (notLast : el.last ≠ 1) :
    8 ≤ el.data.length := by
  have size := el.dataLen_eq
  have large : ¬ el.dataLen < 8 := fun less => long ⟨notLast, less⟩
  omega

/-- Where no short fragment is reached, everything a walk passes is eight bytes long. -/
theorem Walk.long {final : Nat} {passed : List CWProtocolFragment}
    (walk : Walk fragmentsList 0 passed final)
    (noShort : ∀ el, Reached fragmentsList el → ¬ Short el) : ∀ el ∈ passed, 8 ≤ el.data.length :=
  fun el member => eight_le_of_not_short (noShort el (Walk.reached (.nil 0) walk member))
    (walk.mem member).2

/-- From any point of a walk the loop ends.  The induction is on how many offsets are
    still ahead, and each round leaves one behind. -/
theorem reassemble_returns (noShort : ∀ el, Reached fragmentsList el → ¬ Short el) (ahead : Nat)
    {passed : List CWProtocolFragment} {offset : Nat} (walk : Walk fragmentsList 0 passed offset)
    (bound : ∀ el ∈ fragmentsList, el.fragmentOffset < offset + ahead)
    (noted : Option CWDataMsgType) :
    ∃ fuel result, reassemble fragmentsList dataMsgType fuel offset
      (partly (passedBytes passed)
        ((fragmentsList.map (·.data.length)).sum - (passedBytes passed).length) noted) =
      some result := by
  induction ahead generalizing passed offset noted with
  | zero =>
    rcases findFragment_cases fragmentsList offset with missing | ⟨el, member, here, -⟩
    · exact ⟨1, _, reassemble_missing missing 0 _⟩
    · exact absurd (bound el member) (by omega)
  | succ ahead inductionHypothesis =>
    rcases findFragment_cases fragmentsList offset with missing | ⟨el, member, rfl, found⟩
    · exact ⟨1, _, reassemble_missing missing 0 _⟩
    · have fits := walk.fits member (walk.long noShort)
      have room : el.data.length ≤
          (fragmentsList.map (·.data.length)).sum - (passedBytes passed).length := by omega
      by_cases last : el.last = 1
      · exact ⟨1, _, reassemble_last found last room 0 _ _⟩
      · have long := eight_le_of_not_short (noShort el ⟨member, passed, walk⟩) last
        obtain ⟨fuel, result, returned⟩ := inductionHypothesis (walk.pass member last)
          (fun other inside => by
            have before := bound other inside
            omega)
          dataMsgType
        refine ⟨fuel + 1, result, ?_⟩
        rw [reassemble_next found last room, ← returned]
        simp [passedBytes, Nat.sub_sub]

/-- From any point of a walk the loop stays inside the message. -/
theorem reassemble_inBounds (noShort : ∀ el, Reached fragmentsList el → ¬ Short el) (fuel : Nat)
    {passed : List CWProtocolFragment} {offset : Nat} (walk : Walk fragmentsList 0 passed offset)
    (noted : Option CWDataMsgType) {failure : Failure}
    (failed : reassemble fragmentsList dataMsgType fuel offset
      (partly (passedBytes passed)
        ((fragmentsList.map (·.data.length)).sum - (passedBytes passed).length) noted) =
      some (.error failure)) :
    failure ≠ .outOfBounds .message := by
  induction fuel generalizing passed offset noted with
  | zero => cases failed
  | succ fuel inductionHypothesis =>
    rcases findFragment_cases fragmentsList offset with missing | ⟨el, member, rfl, found⟩
    · rw [reassemble_missing missing] at failed
      cases failed
      nofun
    · have fits := walk.fits member (walk.long noShort)
      have room : el.data.length ≤
          (fragmentsList.map (·.data.length)).sum - (passedBytes passed).length := by omega
      by_cases last : el.last = 1
      · rw [reassemble_last found last room] at failed
        cases failed
      · rw [reassemble_next found last room] at failed
        refine inductionHypothesis (walk.pass member last) dataMsgType ?_
        rw [← failed]
        simp [passedBytes, Nat.sub_sub]

/-- At a short fragment the loop stays where it is until the message is full. -/
theorem reassemble_short (one : OneMessage fragmentsList) {el : CWProtocolFragment}
    (member : el ∈ fragmentsList) (short : Short el) (fuel : Nat) (done : List UInt8) (room : Nat)
    (noted : Option CWDataMsgType) {result : Except Failure CWProtocolMessage}
    (returned : reassemble fragmentsList dataMsgType fuel el.fragmentOffset
      (partly done room noted) = some result) :
    result = .error (.outOfBounds .message) := by
  have found := findFragment_of_mem one member
  have same : el.fragmentOffset + el.data.length / 8 = el.fragmentOffset := by
    have size := el.dataLen_eq
    have less := short.2
    omega
  induction fuel generalizing done room noted with
  | zero => cases returned
  | succ fuel inductionHypothesis =>
    by_cases beyond : room < el.data.length
    · rw [reassemble_overflow found beyond] at returned
      cases returned
      rfl
    · rw [reassemble_next found short.1 (by omega), same] at returned
      exact inductionHypothesis _ _ _ returned

/-- A walk that leads to a short fragment ends outside the message if it ends. -/
theorem reassemble_walk_short (one : OneMessage fragmentsList) {el : CWProtocolFragment}
    (member : el ∈ fragmentsList) (short : Short el) {passed : List CWProtocolFragment}
    {offset final : Nat} (walk : Walk fragmentsList offset passed final)
    (arrives : final = el.fragmentOffset) (fuel : Nat) (done : List UInt8) (room : Nat)
    (noted : Option CWDataMsgType) {result : Except Failure CWProtocolMessage}
    (returned : reassemble fragmentsList dataMsgType fuel offset (partly done room noted) =
      some result) :
    result = .error (.outOfBounds .message) := by
  induction walk generalizing fuel done room noted with
  | nil offset =>
    subst arrives
    exact reassemble_short one member short fuel done room noted returned
  | cons here notLast rest inductionHypothesis =>
    rename_i first passed final
    have found := findFragment_of_mem one here
    cases fuel with
    | zero => cases returned
    | succ fuel =>
      by_cases beyond : room < first.data.length
      · rw [reassemble_overflow found beyond] at returned
        cases returned
        rfl
      · rw [reassemble_next found notLast (by omega)] at returned
        exact inductionHypothesis arrives _ _ _ _ returned

end Loop

/-! ## Calls -/

/-- The call returns, and it does not store outside the reassembled message. -/
def CallSafe (fragmentsList : List CWProtocolFragment) (call : ParseCall) : Prop :=
  (∃ fuel outcome,
    cwProtocolParseFragment fuel call.packet fragmentsList call.dataFlag call.radioMAC =
      some outcome) ∧
  ∀ fuel outcome,
    cwProtocolParseFragment fuel call.packet fragmentsList call.dataFlag call.radioMAC =
      some outcome →
    outcome.result ≠ .error (.outOfBounds .message)

/-- With the packet the stored fragments are complete by size, and following offsets
    from the beginning leads to a fragment of less than eight bytes that is not last. -/
def Stalls (fragmentsList : List CWProtocolFragment) (call : ParseCall) : Prop :=
  ∃ fragments dataMsgType,
    fragmentsWith fragmentsList call = some (fragments, dataMsgType) ∧
    Complete fragments ∧ ∃ el, Reached fragments el ∧ Short el

theorem callSafe_of_incomplete {fragmentsList : List CWProtocolFragment} {call : ParseCall}
    {fragments : List CWProtocolFragment} {dataMsgType : Option CWDataMsgType}
    (extended : fragmentsWith fragmentsList call = some (fragments, dataMsgType))
    (incomplete : ¬ Complete fragments) : CallSafe fragmentsList call := by
  obtain ⟨dataFlag, radioMAC, returns⟩ := cwProtocolParseFragment_of_some extended
  simp only [completeMessage_of_incomplete incomplete] at returns
  refine ⟨⟨0, _, returns 0⟩, fun fuel outcome returned => ?_⟩
  rw [returns fuel] at returned
  cases returned
  nofun

/-- A call on a complete list is as safe as the loop. -/
theorem callSafe_of_complete {fragmentsList : List CWProtocolFragment} {call : ParseCall}
    {fragments : List CWProtocolFragment} {dataMsgType : Option CWDataMsgType}
    (extended : fragmentsWith fragmentsList call = some (fragments, dataMsgType))
    (complete : Complete fragments) :
    CallSafe fragmentsList call ↔
      (∃ fuel result, reassemble fragments dataMsgType fuel 0
        (cwCreateProtocolMessage (totalSize fragments).toNat) = some result) ∧
      ∀ fuel result, reassemble fragments dataMsgType fuel 0
          (cwCreateProtocolMessage (totalSize fragments).toNat) = some result →
        result ≠ .error (.outOfBounds .message) := by
  obtain ⟨dataFlag, radioMAC, returns⟩ := cwProtocolParseFragment_of_some extended
  simp only [completeMessage_of_complete complete] at returns
  refine and_congr ⟨?_, ?_⟩ ⟨?_, ?_⟩
  · rintro ⟨fuel, outcome, returned⟩
    rw [returns fuel, Option.map_map, Option.map_eq_some_iff] at returned
    obtain ⟨result, looped, -⟩ := returned
    exact ⟨fuel, result, looped⟩
  · rintro ⟨fuel, result, looped⟩
    refine ⟨fuel, ⟨result, [], dataFlag, radioMAC⟩, ?_⟩
    rw [returns fuel, looped]
    rfl
  · intro safe fuel result looped
    refine safe fuel ⟨result, [], dataFlag, radioMAC⟩ ?_
    rw [returns fuel, looped]
    rfl
  · intro safe fuel outcome returned
    rw [returns fuel, Option.map_map, Option.map_eq_some_iff] at returned
    obtain ⟨result, looped, rfl⟩ := returned
    exact safe fuel result looped

/-- An offset behind every fragment of the list. -/
theorem exists_offset_bound (fragmentsList : List CWProtocolFragment) :
    ∃ bound, ∀ el ∈ fragmentsList, el.fragmentOffset < bound := by
  induction fragmentsList with
  | nil => exact ⟨0, fun _ member => nomatch member⟩
  | cons el fragmentsList inductionHypothesis =>
    obtain ⟨bound, below⟩ := inductionHypothesis
    refine ⟨bound + el.fragmentOffset + 1, ?_⟩
    rw [List.forall_mem_cons]
    refine ⟨by omega, fun other member => ?_⟩
    have less := below other member
    omega

theorem callSafe_iff {fragmentsList : List CWProtocolFragment} (one : OneMessage fragmentsList)
    (call : ParseCall) : CallSafe fragmentsList call ↔ ¬ Stalls fragmentsList call := by
  cases extended : fragmentsWith fragmentsList call with
  | none =>
    obtain ⟨outcome, returns, -, inBounds⟩ := cwProtocolParseFragment_of_none extended
    refine iff_of_true ⟨⟨0, outcome, returns 0⟩, fun fuel outcome' returned failed => ?_⟩ ?_
    · rw [returns fuel] at returned
      cases returned
      exact (inBounds _ failed).1 rfl
    · rintro ⟨fragments, dataMsgType, extended', -⟩
      rw [extended] at extended'
      cases extended'
  | some search =>
    obtain ⟨fragments, dataMsgType⟩ := search
    have one' := one.fragmentsWith extended
    have stalls : Stalls fragmentsList call ↔
        Complete fragments ∧ ∃ el, Reached fragments el ∧ Short el := by
      constructor
      · rintro ⟨fragments', dataMsgType', extended', stall⟩
        rw [extended] at extended'
        cases extended'
        exact stall
      · intro stall
        exact ⟨fragments, dataMsgType, extended, stall⟩
    rw [stalls]
    by_cases complete : Complete fragments
    · rw [callSafe_of_complete extended complete, create_eq_partly complete]
      constructor
      · rintro ⟨⟨fuel, result, returned⟩, inBounds⟩ ⟨-, el, ⟨member, passed, walk⟩, short⟩
        exact inBounds fuel result returned
          (reassemble_walk_short one' member short walk rfl fuel _ _ _ returned)
      · intro noStall
        have noShort : ∀ el, Reached fragments el → ¬ Short el := fun el reached short =>
          noStall ⟨complete, el, reached, short⟩
        obtain ⟨bound, below⟩ := exists_offset_bound fragments
        refine ⟨reassemble_returns noShort bound (.nil 0) (by simpa using below) none, ?_⟩
        rintro fuel result returned rfl
        exact reassemble_inBounds noShort fuel (.nil 0) none returned rfl
    · exact iff_of_true (callSafe_of_incomplete extended complete) fun stall => complete stall.1

/-- A run of calls is safe exactly when no call in it stalls. -/
theorem cwProtocolParseFragment_safe_iff (calls : List ParseCall) :
    Run.AllSteps ParseStep CallSafe [] calls ↔
      Run.AllSteps ParseStep (fun fragmentsList call => ¬ Stalls fragmentsList call) [] calls :=
  Run.AllSteps.congr_of_invariant oneMessage_preserved (fun _ call one => callSafe_iff one call)
    oneMessage_nil calls

/-- Two fragments of four bytes that are not last, one of them at the beginning, and a
    last one that announces just the size of the three. -/
def shortFragments : List CWProtocolFragment :=
  [arrivedFragment ⟨7, 1, 1⟩ [9, 10, 11, 12, 13, 14, 15, 16],
    arrivedFragment ⟨7, 5, 0⟩ [5, 6, 7, 8], arrivedFragment ⟨7, 0, 0⟩ [1, 2, 3, 4]]

theorem cwProtocolParseFragment_not_safe :
    ¬ Run.AllSteps ParseStep CallSafe []
      [fragmentCall ⟨7, 0, 0⟩ [1, 2, 3, 4], fragmentCall ⟨7, 5, 0⟩ [5, 6, 7, 8],
        fragmentCall ⟨7, 1, 1⟩ [9, 10, 11, 12, 13, 14, 15, 16]] := by
  rintro ⟨-, safe⟩
  obtain ⟨_, first⟩ := fragmentsWith_fragmentCall
    (representable_plain 7 0 0 (by decide) (by decide) (by decide))
    [1, 2, 3, 4]
    (show storeFragment [] _ _ = .ok shortFragments.tail.tail from rfl)
  obtain ⟨_, second⟩ := fragmentsWith_fragmentCall
    (representable_plain 7 5 0 (by decide) (by decide) (by decide))
    [5, 6, 7, 8]
    (show storeFragment shortFragments.tail.tail _ _ = .ok shortFragments.tail from rfl)
  obtain ⟨_, third⟩ := fragmentsWith_fragmentCall
    (representable_plain 7 1 1 (by decide) (by decide) (by decide))
    [9, 10, 11, 12, 13, 14, 15, 16]
    (show storeFragment shortFragments.tail _ _ = .ok shortFragments from rfl)
  obtain ⟨-, safe⟩ := safe _ (parseStep_of_incomplete first fun complete => complete.announced rfl)
  obtain ⟨safe, -⟩ := safe _ (parseStep_of_incomplete second fun complete => complete.announced rfl)
  have one : OneMessage shortFragments.tail := by
    constructor <;> decide
  refine (callSafe_iff one _).mp safe ⟨shortFragments, _, third, ⟨by decide, by decide⟩, ?_⟩
  exact ⟨arrivedFragment ⟨7, 0, 0⟩ [1, 2, 3, 4], ⟨by decide, [], .nil 0⟩, by decide, by decide⟩

end WlanController.Protocol
