import WlanController.Foundation.Run
import WlanController.Protocol.TransportHeaderBounds

/-!
# The fragment list along a run of calls

Whatever packets arrive, the list holds fragments of one message with pairwise distinct
offsets.
-/

namespace WlanController.Protocol

/-- The arguments of a call that come with the packet. -/
structure ParseCall where
  packet : Packet
  dataFlag : Bool
  radioMAC : Option EthAddr

/-- A call that returns. -/
def ParseStep (fragmentsList : List CWProtocolFragment) (call : ParseCall)
    (fragmentsList' : List CWProtocolFragment) : Prop :=
  ∃ fuel outcome,
    cwProtocolParseFragment fuel call.packet fragmentsList call.dataFlag call.radioMAC =
      some outcome ∧
    outcome.fragmentsList = fragmentsList'

/-- Fragments of a single message, each starting at an offset of its own. -/
structure OneMessage (fragmentsList : List CWProtocolFragment) : Prop where
  sameID : ∀ el ∈ fragmentsList, ∀ el' ∈ fragmentsList, el.fragmentID = el'.fragmentID
  distinct : fragmentsList.Pairwise fun el el' => el.fragmentOffset ≠ el'.fragmentOffset

theorem oneMessage_nil : OneMessage [] where
  sameID := fun _ member => nomatch member
  distinct := .nil

theorem oneMessage_singleton (el : CWProtocolFragment) : OneMessage [el] where
  sameID := by
    intro first member second member'
    rw [List.mem_singleton.mp member, List.mem_singleton.mp member']
  distinct := List.pairwise_singleton _ _

theorem dataLen_nonneg (el : CWProtocolFragment) : 0 ≤ el.dataLen := by
  rw [el.dataLen_eq]
  exact Int.natCast_nonneg _

/-- The call returns this, and nothing else however much fuel it gets. -/
def Returns (fragmentsList : List CWProtocolFragment) (call : ParseCall) (outcome : ParseOutcome) :
    Prop :=
  (∃ fuel,
    cwProtocolParseFragment fuel call.packet fragmentsList call.dataFlag call.radioMAC =
      some outcome) ∧
  ∀ fuel outcome',
    cwProtocolParseFragment fuel call.packet fragmentsList call.dataFlag call.radioMAC =
      some outcome' → outcome' = outcome

/-! ## Storing a fragment -/

theorem cwCompareFragment_eq_true {newEl oldEl : FragmentValues} :
    cwCompareFragment newEl oldEl = true ↔
      newEl.fragmentID = oldEl.fragmentID ∧ newEl.fragmentOffset = oldEl.fragmentOffset := by
  simp [cwCompareFragment]

/-- What `storeFragment` can do. -/
theorem storeFragment_cases (fragmentsList : List CWProtocolFragment)
    (transportVal : FragmentValues) (copied : Option CWProtocolFragment) :
    (∃ code,
      storeFragment fragmentsList transportVal copied =
        .error (.raised code none, fragmentsList)) ∨
    (∃ code, storeFragment fragmentsList transportVal copied = .error (.raised code none, [])) ∨
    (∃ fragPtr, copied = some fragPtr ∧
      storeFragment fragmentsList transportVal copied = .ok [fragPtr]) ∨
    (∃ fragPtr, copied = some fragPtr ∧
      storeFragment fragmentsList transportVal copied = .ok (fragPtr :: fragmentsList) ∧
      (∀ oldEl ∈ fragmentsList.head?, oldEl.fragmentID = transportVal.fragmentID) ∧
      ∀ oldEl ∈ fragmentsList,
        cwCompareFragment transportVal oldEl.toFragmentValues = false) := by
  unfold storeFragment
  split
  next sameMessage =>
    split
    next copy => exact .inl ⟨.needResource, rfl⟩
    next new =>
      cases copied with
      | none => exact .inl ⟨.outOfMemory, rfl⟩
      | some fragPtr =>
        refine .inr (.inr (.inr ⟨fragPtr, rfl, rfl, ?_, ?_⟩))
        · simpa [Option.all_eq_true] using sameMessage
        · simpa using new
  next otherMessage =>
    cases copied with
    | none => exact .inr (.inl ⟨.outOfMemory, rfl⟩)
    | some fragPtr => exact .inr (.inr (.inl ⟨fragPtr, rfl, rfl⟩))

theorem copyFragment_values {transportVal : FragmentValues} {packet : Packet} {offset : Nat}
    {fragPtr : CWProtocolFragment} (copied : copyFragment transportVal packet offset = some fragPtr) :
    fragPtr.toFragmentValues = transportVal := by
  unfold copyFragment at copied
  split at copied
  next inside =>
    cases copied
    rfl
  next outside => cases copied

theorem OneMessage.cons {fragmentsList : List CWProtocolFragment} (one : OneMessage fragmentsList)
    {fragPtr : CWProtocolFragment}
    (sameID : ∀ oldEl ∈ fragmentsList.head?, oldEl.fragmentID = fragPtr.fragmentID)
    (new : ∀ oldEl ∈ fragmentsList,
      cwCompareFragment fragPtr.toFragmentValues oldEl.toFragmentValues = false) :
    OneMessage (fragPtr :: fragmentsList) := by
  have all : ∀ el ∈ fragmentsList, el.fragmentID = fragPtr.fragmentID := by
    intro el member
    cases fragmentsList with
    | nil => cases member
    | cons head tail =>
      rw [one.sameID el member head List.mem_cons_self]
      exact sameID head rfl
  constructor
  case sameID =>
    have same : ∀ el ∈ fragPtr :: fragmentsList, el.fragmentID = fragPtr.fragmentID := by
      rw [List.forall_mem_cons]
      exact ⟨rfl, all⟩
    intro el member el' member'
    rw [same el member, same el' member']
  case distinct =>
    refine List.pairwise_cons.mpr ⟨fun el member equal => ?_, one.distinct⟩
    have different := new el member
    rw [cwCompareFragment_eq_true.mpr ⟨(all el member).symm, equal⟩] at different
    cases different

/-! ## One call -/

/-- The list a call looks for a complete message in: the stored fragments and the one
    in the packet.  `none` when the call ends before it looks. -/
def fragmentsWith (fragmentsList : List CWProtocolFragment) (call : ParseCall) :
    Option (List CWProtocolFragment × Option CWDataMsgType) :=
  match (cwParseTransportHeader call.dataFlag call.radioMAC).run ⟨call.packet.buf, 0, none⟩ with
  | .error _ _ => none
  | .ok header msg =>
    if header.values.isFragment = 0 then none
    else
      let transportVal : FragmentValues :=
        { fragmentID := header.values.fragmentID
          fragmentOffset := header.values.fragmentOffset
          last := header.values.last }
      match storeFragment fragmentsList transportVal
          (copyFragment transportVal call.packet msg.offset) with
      | .error _ => none
      | .ok fragmentsList => some (fragmentsList, msg.dataMsgType)

theorem singleFragment_inBounds (packet : Packet) (msg : CWProtocolMessage) {failure : Failure}
    (failed : singleFragment packet msg = .error failure) : failure.InBounds := by
  unfold singleFragment at failed
  split at failed
  next =>
    cases failed
    exact ⟨nofun, nofun⟩
  next =>
    have stored := (stores_rawBytes ((packet.buf.drop msg.offset).take
      (packet.readBytes - msg.offset))).run_create rfl
    simp only [stored] at failed
    cases failed

/-- A call that does not look for a complete message returns at once. -/
theorem cwProtocolParseFragment_of_none {fragmentsList : List CWProtocolFragment} {call : ParseCall}
    (ended : fragmentsWith fragmentsList call = none) :
    ∃ outcome,
      (∀ fuel, cwProtocolParseFragment fuel call.packet fragmentsList call.dataFlag call.radioMAC =
        some outcome) ∧
      (outcome.fragmentsList = fragmentsList ∨ outcome.fragmentsList = []) ∧
      ∀ failure, outcome.result = .error failure → failure.InBounds := by
  unfold fragmentsWith at ended
  unfold cwProtocolParseFragment
  cases parsed : (cwParseTransportHeader call.dataFlag call.radioMAC).run
      ⟨call.packet.buf, 0, none⟩ with
  | error failure msg =>
    refine ⟨_, fun fuel => rfl, .inl rfl, ?_⟩
    rintro _ ⟨⟩
    exact parseHeader_inBounds call.packet call.dataFlag call.radioMAC parsed
  | ok header msg =>
    simp only [parsed] at ended ⊢
    split
    next single =>
      exact ⟨_, fun fuel => rfl, .inl rfl, fun failure failed =>
        singleFragment_inBounds call.packet msg failed⟩
    next fragmented =>
      simp only [if_neg fragmented] at ended
      rcases storeFragment_cases fragmentsList
          { fragmentID := header.values.fragmentID
            fragmentOffset := header.values.fragmentOffset
            last := header.values.last }
          (copyFragment _ call.packet msg.offset) with
        ⟨code, stored⟩ | ⟨code, stored⟩ | ⟨fragPtr, _, stored⟩ | ⟨fragPtr, _, stored, _⟩
      · rw [stored]
        refine ⟨_, fun fuel => rfl, .inl rfl, ?_⟩
        rintro _ ⟨⟩
        exact ⟨nofun, nofun⟩
      · rw [stored]
        refine ⟨_, fun fuel => rfl, .inr rfl, ?_⟩
        rintro _ ⟨⟩
        exact ⟨nofun, nofun⟩
      · rw [stored] at ended
        cases ended
      · rw [stored] at ended
        cases ended

/-- Any other call returns what the search for a complete message returns. -/
theorem cwProtocolParseFragment_of_some {fragmentsList : List CWProtocolFragment} {call : ParseCall}
    {fragmentsList' : List CWProtocolFragment} {dataMsgType : Option CWDataMsgType}
    (extended : fragmentsWith fragmentsList call = some (fragmentsList', dataMsgType)) :
    ∃ dataFlag radioMAC, ∀ fuel,
      cwProtocolParseFragment fuel call.packet fragmentsList call.dataFlag call.radioMAC =
        (completeMessage fuel fragmentsList' dataMsgType).map fun (result, fragmentsList) =>
          ⟨result, fragmentsList, dataFlag, radioMAC⟩ := by
  unfold fragmentsWith at extended
  unfold cwProtocolParseFragment
  cases parsed : (cwParseTransportHeader call.dataFlag call.radioMAC).run
      ⟨call.packet.buf, 0, none⟩ with
  | error failure msg =>
    rw [parsed] at extended
    cases extended
  | ok header msg =>
    simp only [parsed] at extended ⊢
    split at extended
    next => cases extended
    next fragmented =>
      simp only [if_neg fragmented]
      split at extended
      next => cases extended
      next stored =>
        cases extended
        refine ⟨header.dataFlag, header.radioMAC, fun fuel => ?_⟩
        simp only [stored]
        cases completeMessage fuel fragmentsList' msg.dataMsgType <;> rfl

/-- A list whose sizes add up to the announced one. -/
structure Complete (fragmentsList : List CWProtocolFragment) : Prop where
  announced : totalSize fragmentsList ≠ 0
  size : currentSize fragmentsList = totalSize fragmentsList

theorem completeMessage_of_incomplete {fragmentsList : List CWProtocolFragment}
    (incomplete : ¬ Complete fragmentsList) (fuel : Nat) (dataMsgType : Option CWDataMsgType) :
    completeMessage fuel fragmentsList dataMsgType =
      some (.error (.raised .needResource none), fragmentsList) := by
  unfold completeMessage
  split
  next => rfl
  next announced =>
    split
    next => rfl
    next size => exact absurd ⟨announced, not_not.mp size⟩ incomplete

theorem completeMessage_of_complete {fragmentsList : List CWProtocolFragment}
    (complete : Complete fragmentsList) (fuel : Nat) (dataMsgType : Option CWDataMsgType) :
    completeMessage fuel fragmentsList dataMsgType =
      (reassemble fragmentsList dataMsgType fuel 0
        (cwCreateProtocolMessage (totalSize fragmentsList).toNat)).map fun result =>
          (result, []) := by
  rw [completeMessage, if_neg complete.announced, if_neg (not_not.mpr complete.size)]
  cases reassemble fragmentsList dataMsgType fuel 0
    (cwCreateProtocolMessage (totalSize fragmentsList).toNat) <;> rfl

/-! ## Fuel -/

/-- A loop that has ended ends in the same way with more fuel. -/
theorem reassemble_more {fragmentsList : List CWProtocolFragment}
    {dataMsgType : Option CWDataMsgType} {fuel : Nat} {currentOffset : Int}
    {message : CWProtocolMessage} {result : Except Failure CWProtocolMessage}
    (returned : reassemble fragmentsList dataMsgType fuel currentOffset message = some result)
    (more : Nat) :
    reassemble fragmentsList dataMsgType (fuel + more) currentOffset message = some result := by
  induction fuel generalizing currentOffset message with
  | zero => cases returned
  | succ fuel inductionHypothesis =>
    rw [Nat.succ_add]
    simp only [reassemble] at returned ⊢
    cases found : findFragment fragmentsList currentOffset with
    | none => simpa only [found] using returned
    | some el =>
      cases stored : (cwProtocolStoreRawBytes el.data).run message with
      | error failure left => simpa only [found, stored] using returned
      | ok _ left =>
        simp only [found, stored] at returned ⊢
        by_cases last : el.last = 1
        · rwa [if_pos last] at returned ⊢
        · rw [if_neg last] at returned ⊢
          exact inductionHypothesis returned

theorem completeMessage_more {fragmentsList : List CWProtocolFragment}
    {dataMsgType : Option CWDataMsgType} {fuel : Nat}
    {search : Except Failure CWProtocolMessage × List CWProtocolFragment}
    (returned : completeMessage fuel fragmentsList dataMsgType = some search) (more : Nat) :
    completeMessage (fuel + more) fragmentsList dataMsgType = some search := by
  by_cases complete : Complete fragmentsList
  · rw [completeMessage_of_complete complete] at returned ⊢
    obtain ⟨result, looped, rfl⟩ := Option.map_eq_some_iff.mp returned
    rw [reassemble_more looped more]
    rfl
  · rwa [completeMessage_of_incomplete complete] at returned ⊢

/-- A call has one outcome. -/
theorem returns_of_some {fragmentsList : List CWProtocolFragment} {call : ParseCall}
    {outcome : ParseOutcome} (fuel : Nat)
    (returned : cwProtocolParseFragment fuel call.packet fragmentsList call.dataFlag call.radioMAC =
      some outcome) : Returns fragmentsList call outcome := by
  refine ⟨⟨fuel, returned⟩, fun fuel' outcome' returned' => ?_⟩
  cases extended : fragmentsWith fragmentsList call with
  | none =>
    obtain ⟨single, returns, -⟩ := cwProtocolParseFragment_of_none extended
    rw [returns] at returned returned'
    cases returned
    cases returned'
    rfl
  | some search =>
    obtain ⟨dataFlag, radioMAC, returns⟩ := cwProtocolParseFragment_of_some extended
    rw [returns] at returned returned'
    obtain ⟨result, searched, rfl⟩ := Option.map_eq_some_iff.mp returned
    obtain ⟨result', searched', rfl⟩ := Option.map_eq_some_iff.mp returned'
    have more := completeMessage_more searched fuel'
    have more' := completeMessage_more searched' fuel
    rw [Nat.add_comm, more] at more'
    cases more'
    rfl

theorem OneMessage.fragmentsWith {fragmentsList : List CWProtocolFragment}
    (one : OneMessage fragmentsList) {call : ParseCall}
    {fragmentsList' : List CWProtocolFragment} {dataMsgType : Option CWDataMsgType}
    (extended : fragmentsWith fragmentsList call = some (fragmentsList', dataMsgType)) :
    OneMessage fragmentsList' := by
  unfold Protocol.fragmentsWith at extended
  split at extended
  next => cases extended
  next header msg parsed =>
    split at extended
    next => cases extended
    next =>
      simp only at extended
      generalize values : (FragmentValues.mk _ _ _) = transportVal at extended
      rcases storeFragment_cases fragmentsList transportVal
          (copyFragment transportVal call.packet msg.offset) with
        ⟨code, stored⟩ | ⟨code, stored⟩ | ⟨fragPtr, copied, stored⟩ |
          ⟨fragPtr, copied, stored, sameID, new⟩
      · rw [stored] at extended
        cases extended
      · rw [stored] at extended
        cases extended
      · rw [stored] at extended
        cases extended
        exact oneMessage_singleton fragPtr
      · rw [stored] at extended
        cases extended
        rw [← copyFragment_values copied] at sameID new
        exact one.cons sameID new

/-! ## Runs -/

theorem completeMessage_list {fuel : Nat} {fragmentsList : List CWProtocolFragment}
    {dataMsgType : Option CWDataMsgType} {result : Except Failure CWProtocolMessage}
    {left : List CWProtocolFragment}
    (returned : completeMessage fuel fragmentsList dataMsgType = some (result, left)) :
    left = fragmentsList ∨ left = [] := by
  by_cases complete : Complete fragmentsList
  · rw [completeMessage_of_complete complete, Option.map_eq_some_iff] at returned
    obtain ⟨_, _, equal⟩ := returned
    cases equal
    exact .inr rfl
  · rw [completeMessage_of_incomplete complete] at returned
    cases returned
    exact .inl rfl

/-- Every call keeps the list in order. -/
theorem OneMessage.step {fragmentsList fragmentsList' : List CWProtocolFragment} {call : ParseCall}
    (one : OneMessage fragmentsList) (step : ParseStep fragmentsList call fragmentsList') :
    OneMessage fragmentsList' := by
  obtain ⟨fuel, outcome, returned, rfl⟩ := step
  cases extended : Protocol.fragmentsWith fragmentsList call with
  | none =>
    obtain ⟨outcome', returns, list, -⟩ := cwProtocolParseFragment_of_none extended
    rw [returns fuel] at returned
    cases returned
    rcases list with same | empty
    · rwa [same]
    · rw [empty]
      exact oneMessage_nil
  | some search =>
    obtain ⟨fragments, dataMsgType⟩ := search
    obtain ⟨dataFlag, radioMAC, returns⟩ := cwProtocolParseFragment_of_some extended
    rw [returns fuel, Option.map_eq_some_iff] at returned
    obtain ⟨⟨result, left⟩, searched, rfl⟩ := returned
    rcases completeMessage_list searched with rfl | rfl
    · exact one.fragmentsWith extended
    · exact oneMessage_nil

theorem oneMessage_preserved (fragmentsList : List CWProtocolFragment) (call : ParseCall)
    (fragmentsList' : List CWProtocolFragment) (one : OneMessage fragmentsList)
    (step : ParseStep fragmentsList call fragmentsList') : OneMessage fragmentsList' :=
  one.step step

theorem oneMessage_run {calls : List ParseCall} {fragmentsList : List CWProtocolFragment}
    (trace : Run.Trace ParseStep [] calls fragmentsList) : OneMessage fragmentsList :=
  trace.invariant oneMessage_preserved oneMessage_nil

end WlanController.Protocol
