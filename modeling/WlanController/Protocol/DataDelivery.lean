import WlanController.Protocol.DataHeaders
import WlanController.Protocol.Delivery
import WlanController.Protocol.ReassemblySoundness

/-!
# Data frames from one end to the other

The fragments of a data frame reach the receiver in any order.  Whether the frame comes out,
and as what kind of message, depends on the kind it was sent as.
-/

namespace WlanController.Protocol

/-! ## What the calls of a run return -/

/-- One result for each call, where every call gets the list the one before it left. -/
inductive Receives : List CWProtocolFragment → List ParseCall →
    List (Except Failure CWProtocolMessage) → Prop
  | nil (fragmentsList : List CWProtocolFragment) : Receives fragmentsList [] []
  | cons {fragmentsList : List CWProtocolFragment} {call : ParseCall} {outcome : ParseOutcome}
      {calls : List ParseCall} {results : List (Except Failure CWProtocolMessage)} :
      Returns fragmentsList call outcome → Receives outcome.fragmentsList calls results →
      Receives fragmentsList (call :: calls) (outcome.result :: results)

/-- Delivered once each on the data channel, in whatever order, the packets make one call
    return a message, and that message has these contents and this kind. -/
def DeliversOnce (packets : List CWProtocolMessage) (contents : List UInt8)
    (dataMsgType : CWDataMsgType) : Prop :=
  ∀ deliveries : List (Delivery packets),
    (deliveries.map Delivery.index).Perm (List.finRange packets.length) →
    (∀ delivery ∈ deliveries, delivery.dataFlag = true) →
    ∃ results message, Receives [] (deliveries.map Delivery.call) results ∧
      results.filterMap Except.toOption = [message] ∧ message.contents = contents ∧
      message.dataMsgType = some dataMsgType

/-- What the invariant of the list says about every call's message holds of all messages. -/
theorem Receives.messages (Inv : List CWProtocolFragment → Prop) (P : CWProtocolMessage → Prop)
    {fragmentsList : List CWProtocolFragment} {calls : List ParseCall}
    {results : List (Except Failure CWProtocolMessage)}
    (receives : Receives fragmentsList calls results)
    (step : ∀ fragmentsList, ∀ call ∈ calls, ∀ outcome, Inv fragmentsList →
      Returns fragmentsList call outcome →
      Inv outcome.fragmentsList ∧ ∀ message, outcome.result = .ok message → P message)
    (start : Inv fragmentsList) : ∀ message, .ok message ∈ results → P message := by
  induction receives with
  | nil => exact fun message member => nomatch member
  | cons returns _ inductionHypothesis =>
    obtain ⟨kept, here⟩ := step _ _ List.mem_cons_self _ start returns
    intro message member
    rcases List.mem_cons.mp member with first | later
    · exact here message first.symm
    · exact inductionHypothesis (fun list call inside => step list call (List.mem_cons_of_mem _ inside))
        kept message later

/-- Calls that wait, and one that completes the message. -/
theorem receives_of_waits {fragmentsList fragmentsList' : List CWProtocolFragment}
    {calls : List ParseCall} {last : ParseCall} {contents : List UInt8}
    (trace : Run.Trace Waits fragmentsList calls fragmentsList')
    (completes : Completes fragmentsList' last contents) :
    ∃ results message, Receives fragmentsList (calls ++ [last]) results ∧
      results.filterMap Except.toOption = [message] ∧ message.contents = contents := by
  induction trace with
  | nil fragmentsList =>
    obtain ⟨outcome, message, returns, result, stored, _⟩ := completes
    refine ⟨[outcome.result], message, .cons returns (.nil _), ?_, stored⟩
    simp [result, Except.toOption]
  | cons waits _ inductionHypothesis =>
    obtain ⟨outcome, returns, result, rfl⟩ := waits
    obtain ⟨results, message, receives, single, stored⟩ := inductionHypothesis completes
    refine ⟨outcome.result :: results, message, .cons returns receives, ?_, stored⟩
    rw [result]
    exact single

theorem mem_of_filterMap_toOption {results : List (Except Failure CWProtocolMessage)}
    {message : CWProtocolMessage} (single : results.filterMap Except.toOption = [message]) :
    .ok message ∈ results := by
  have member : message ∈ results.filterMap Except.toOption := by simp [single]
  obtain ⟨result, inside, value⟩ := List.mem_filterMap.mp member
  cases result with
  | error failure => cases value
  | ok message' =>
    cases value
    exact inside

/-! ## The message one call returns -/

/-- The header of the packet, read. -/
def HeaderRead (call : ParseCall) (header : ParsedTransportHeader) (msg : CWProtocolMessage) : Prop :=
  (cwParseTransportHeader call.dataFlag call.radioMAC).run ⟨call.packet.buf, 0, none⟩ =
    .ok header msg

theorem HeaderRead.unique {call : ParseCall} {header header' : ParsedTransportHeader}
    {msg msg' : CWProtocolMessage} (read : HeaderRead call header msg)
    (read' : HeaderRead call header' msg') : header = header' ∧ msg = msg' := by
  rw [HeaderRead] at read read'
  rw [read] at read'
  cases read'
  exact ⟨rfl, rfl⟩

/-- A message has the kind of the packet it was completed by, and one that came in
    fragments is no longer than announced. -/
theorem Returns.message {fragmentsList : List CWProtocolFragment} {call : ParseCall}
    {outcome : ParseOutcome} (returns : Returns fragmentsList call outcome)
    {message : CWProtocolMessage} (result : outcome.result = .ok message) :
    ∃ header msg, HeaderRead call header msg ∧ message.dataMsgType = msg.dataMsgType ∧
      (header.values.isFragment ≠ 0 → ∃ fragments dataMsgType,
        fragmentsWith fragmentsList call = some (fragments, dataMsgType) ∧
        (message.contents.length : Int) ≤ totalSize fragments) := by
  obtain ⟨⟨fuel, returned⟩, -⟩ := returns
  unfold cwProtocolParseFragment at returned
  unfold HeaderRead fragmentsWith
  cases parsed : (cwParseTransportHeader call.dataFlag call.radioMAC).run
      ⟨call.packet.buf, 0, none⟩ with
  | error failure msg =>
    rw [parsed] at returned
    cases returned
    cases result
  | ok header msg =>
    simp only [parsed] at returned
    refine ⟨header, msg, rfl, ?_⟩
    by_cases whole : header.values.isFragment = 0
    · rw [if_pos whole] at returned
      cases returned
      refine ⟨?_, fun fragmented => absurd whole fragmented⟩
      simp only [singleFragment] at result
      split at result
      · cases result
      · split at result
        · cases result
        · cases result
          rfl
    · simp only [if_neg whole] at returned ⊢
      split at returned
      · cases returned
        cases result
      · next fragments stored =>
        simp only [stored]
        obtain ⟨⟨ended, left⟩, searched, outcomes⟩ := Option.bind_eq_some_iff.mp returned
        cases outcomes
        simp only at result
        subst result
        by_cases complete : Complete fragments
        · rw [completeMessage_of_complete complete, Option.map_eq_some_iff] at searched
          obtain ⟨ended, looped, equal⟩ := searched
          cases equal
          rw [cwCreateProtocolMessage_eq_partly] at looped
          obtain ⟨passed, el, _, _, _, room, rfl⟩ := reassemble_ok fuel looped
          refine ⟨rfl, fun _ => ⟨fragments, _, rfl, ?_⟩⟩
          have announced := complete.size
          rw [currentSize_eq] at announced
          rw [contents_partly, List.nil_append, List.length_append]
          omega
        · rw [completeMessage_of_incomplete complete] at searched
          cases searched

/-! ## Fragments that end too early -/

/-- No stored fragment that is marked as the last one ends at `size` or behind it. -/
def EndsBefore (size : Nat) (fragmentsList : List CWProtocolFragment) : Prop :=
  ∀ el ∈ fragmentsList, el.last = 1 → (el.fragmentOffset * 8 + el.dataLen : Int) < size

/-- Nor does the fragment in the packet. -/
def CallEndsBefore (size : Nat) (call : ParseCall) : Prop :=
  ∀ header msg, HeaderRead call header msg → header.values.isFragment ≠ 0 ∧
    (header.values.last = 1 →
      (header.values.fragmentOffset * 8 + ((call.packet.readBytes : Int) - msg.offset) : Int) < size)

theorem EndsBefore.totalSize_lt {size : Nat} (positive : 0 < size)
    {fragmentsList : List CWProtocolFragment} (before : EndsBefore size fragmentsList) :
    totalSize fragmentsList < size := by
  by_cases announced : totalSize fragmentsList = 0
  · omega
  · obtain ⟨el, member, last, ends⟩ := exists_last_of_totalSize announced
    rw [ends]
    exact before el member last

theorem copyFragment_dataLen {transportVal : FragmentValues} {packet : Packet} {offset : Nat}
    {fragPtr : CWProtocolFragment} (copied : copyFragment transportVal packet offset = some fragPtr) :
    fragPtr.dataLen = (packet.readBytes : Int) - offset := by
  unfold copyFragment at copied
  split at copied
  · cases copied
    rfl
  · cases copied

/-- The fragment a call adds ends too early as well. -/
theorem EndsBefore.fragmentsWith {size : Nat} {fragmentsList : List CWProtocolFragment}
    (before : EndsBefore size fragmentsList) {call : ParseCall} (ends : CallEndsBefore size call)
    {fragments : List CWProtocolFragment} {dataMsgType : Option CWDataMsgType}
    (extended : fragmentsWith fragmentsList call = some (fragments, dataMsgType)) :
    EndsBefore size fragments := by
  unfold Protocol.fragmentsWith at extended
  split at extended
  next => cases extended
  next header msg parsed =>
    obtain ⟨fragmented, short⟩ := ends header msg parsed
    simp only [if_neg fragmented] at extended
    generalize values : (FragmentValues.mk _ _ _) = transportVal at extended
    have added : ∀ fragPtr, copyFragment transportVal call.packet msg.offset = some fragPtr →
        fragPtr.last = 1 → (fragPtr.fragmentOffset * 8 + fragPtr.dataLen : Int) < size := by
      intro fragPtr copied last
      rw [copyFragment_dataLen copied]
      rw [copyFragment_values copied, ← values] at last ⊢
      exact short last
    rcases storeFragment_cases fragmentsList transportVal
        (copyFragment transportVal call.packet msg.offset) with
      ⟨code, stored⟩ | ⟨code, stored⟩ | ⟨fragPtr, copied, stored⟩ | ⟨fragPtr, copied, stored, -⟩
    · rw [stored] at extended
      cases extended
    · rw [stored] at extended
      cases extended
    · rw [stored] at extended
      cases extended
      intro el member
      rw [List.mem_singleton.mp member]
      exact added fragPtr copied
    · rw [stored] at extended
      cases extended
      exact List.forall_mem_cons.mpr ⟨added fragPtr copied, before⟩

/-- Such a call returns no message of `size` bytes, and leaves such a list. -/
theorem EndsBefore.step {size : Nat} (positive : 0 < size) {fragmentsList : List CWProtocolFragment}
    (before : EndsBefore size fragmentsList) {call : ParseCall} (ends : CallEndsBefore size call)
    {outcome : ParseOutcome} (returns : Returns fragmentsList call outcome) :
    EndsBefore size outcome.fragmentsList ∧
      ∀ message, outcome.result = .ok message → message.contents.length ≠ size := by
  constructor
  · obtain ⟨⟨fuel, returned⟩, -⟩ := returns
    cases extended : Protocol.fragmentsWith fragmentsList call with
    | none =>
      obtain ⟨outcome', alike, list, -⟩ := cwProtocolParseFragment_of_none extended
      rw [alike fuel] at returned
      cases returned
      rcases list with same | empty
      · rwa [same]
      · rw [empty]
        exact fun _ member => nomatch member
    | some search =>
      obtain ⟨fragments, dataMsgType⟩ := search
      obtain ⟨dataFlag, radioMAC, alike⟩ := cwProtocolParseFragment_of_some extended
      rw [alike fuel, Option.map_eq_some_iff] at returned
      obtain ⟨⟨result, left⟩, searched, rfl⟩ := returned
      rcases completeMessage_list searched with rfl | rfl
      · exact before.fragmentsWith ends extended
      · exact fun _ member => nomatch member
  · intro message result
    obtain ⟨header, msg, read, -, sizes⟩ := returns.message result
    obtain ⟨fragments, dataMsgType, extended, bounded⟩ := sizes (ends header msg read).1
    have less := (before.fragmentsWith ends extended).totalSize_lt positive
    omega

end WlanController.Protocol
