import WlanController.Foundation.CountedArray
import WlanController.Protocol.Message

/-!
# The elements of a message and their count

Five messages end in elements for each radio.  Their assemblers allocate the array `msgElems`
for a number of elements that was counted for a single radio, fill it through `&msgElems[++k]`
and pass the number they have allocated to `CWAssembleMessage`.

What an element looks like does not matter here, so the assemblers of the elements are a
parameter.
-/

namespace WlanController.Elements

open Protocol CountedArray

/-- The elements of the five messages. -/
inductive MsgElem where
  | acDescriptor | acName | controlIPv4Addresses | ecnSupport | localIPv4Addresses
  | acIPv4List | acIPv6List | resultCode
  | acNameOfWTP | acNameWithIndex | radioAdminState | statisticsTimer | rebootStatistics
  | locationData | boardData | descriptor | ipv4Address | name | sessionID
  | frameTunnelMode | macType | discoveryType
  | radioInformation (radio : Nat)
  | multiDomainCapability (radio : Nat)
  | macOperation (radio : Nat)
  | supportedRates (radio : Nat)
  deriving DecidableEq, Repr

/-- What the `CWAssembleMsgElem…` function of an element returns. -/
abbrev Assemblers := MsgElem → Except Failure CWProtocolMessage

/-- An element of the list that the Join Response is called with. -/
inductive JoinResponseElement where
  | known (element : MsgElem) (listed : element = .acIPv4List ∨ element = .acIPv6List ∨
      element = .resultCode)
  | other (type : Nat)

/-- The messages with the numbers that their assemblers depend on. -/
inductive CountedMessage where
  | discoveryResponse (supportIPv6 : Bool) (numPhyActive : Nat)
  | joinResponse (radioCount : Nat) (msgElemList : List JoinResponseElement)
  | discoveryRequest (radioCount : Nat)
  | joinRequest (radioCount : Nat)
  | configureRequest (radioCount : Nat)

abbrev ElementStep := Step CWProtocolMessage Failure

section Assemblers

variable (assembled : Assemblers)

/-- `CWAssembleMsgElem…(&(msgElems[++k]))`, one after the other. -/
def elementSteps (elements : List MsgElem) : List ElementStep :=
  elements.map fun element => .element (assembled element)

/-- The loop over the radios. -/
def radioSteps (elements : Nat → List MsgElem) (radioCount : Nat) : List ElementStep :=
  (List.range radioCount).flatMap fun radio => elementSteps assembled (elements radio)

def cwAssembleDiscoveryResponse (supportIPv6 : Bool) (numPhyActive : Nat) :
    Outcome CWProtocolMessage Failure :=
  let msgElemCount := if supportIPv6 then 4 + 1 else 4
  fill msgElemCount []
    (elementSteps assembled [.acDescriptor, .acName, .controlIPv4Addresses] ++
      radioSteps assembled (fun radio => [.radioInformation radio]) numPhyActive)

/-- The `switch` over the types of the listed elements. -/
def joinResponseStep : JoinResponseElement → ElementStep
  | .known element _ => .element (assembled element)
  | .other _ =>
      .giveUp (.raised .invalidFormat
        (some "Unrecognized Message Element for Join Response Message"))

def cwAssembleJoinResponse (radioCount : Nat) (msgElemList : List JoinResponseElement) :
    Outcome CWProtocolMessage Failure :=
  let mandatoryMsgElemCount := 6
  fill (msgElemList.length + mandatoryMsgElemCount) []
    (elementSteps assembled
      [.acDescriptor, .acName, .ecnSupport, .localIPv4Addresses, .controlIPv4Addresses] ++
      (radioSteps assembled (fun radio => [.radioInformation radio]) radioCount ++
        msgElemList.map (joinResponseStep assembled)))

def cwAssembleDiscoveryRequest (radioCount : Nat) : Outcome CWProtocolMessage Failure :=
  let msgElemCount := 6
  fill msgElemCount []
    (elementSteps assembled [.discoveryType, .boardData, .descriptor, .frameTunnelMode, .macType] ++
      radioSteps assembled (fun radio => [.radioInformation radio]) radioCount)

def cwAssembleJoinRequest (radioCount : Nat) : Outcome CWProtocolMessage Failure :=
  let msgElemCount := 10
  fill msgElemCount []
    (elementSteps assembled
      [.locationData, .boardData, .descriptor, .ipv4Address, .name, .sessionID, .frameTunnelMode,
        .macType, .ecnSupport] ++
      radioSteps assembled (fun radio => [.radioInformation radio]) radioCount)

def cwAssembleConfigureRequest (radioCount : Nat) : Outcome CWProtocolMessage Failure :=
  let msgElemCount := 9
  fill msgElemCount []
    (elementSteps assembled
      [.acNameOfWTP, .acNameWithIndex, .radioAdminState, .statisticsTimer, .rebootStatistics] ++
      radioSteps assembled
        (fun radio => [.radioInformation radio, .multiDomainCapability radio, .macOperation radio,
          .supportedRates radio]) radioCount)

end Assemblers

namespace CountedMessage

/-- The number of elements that are allocated and passed to `CWAssembleMessage`. -/
def msgElemCount : CountedMessage → Nat
  | discoveryResponse supportIPv6 _ => if supportIPv6 then 4 + 1 else 4
  | joinResponse _ msgElemList => msgElemList.length + 6
  | discoveryRequest _ => 6
  | joinRequest _ => 10
  | configureRequest _ => 9

/-- What its assembler makes, element by element. -/
def steps (assembled : Assemblers) : CountedMessage → List ElementStep
  | discoveryResponse _ numPhyActive =>
      elementSteps assembled [.acDescriptor, .acName, .controlIPv4Addresses] ++
        radioSteps assembled (fun radio => [.radioInformation radio]) numPhyActive
  | joinResponse radioCount msgElemList =>
      elementSteps assembled
        [.acDescriptor, .acName, .ecnSupport, .localIPv4Addresses, .controlIPv4Addresses] ++
        (radioSteps assembled (fun radio => [.radioInformation radio]) radioCount ++
          msgElemList.map (joinResponseStep assembled))
  | discoveryRequest radioCount =>
      elementSteps assembled
        [.discoveryType, .boardData, .descriptor, .frameTunnelMode, .macType] ++
        radioSteps assembled (fun radio => [.radioInformation radio]) radioCount
  | joinRequest radioCount =>
      elementSteps assembled
        [.locationData, .boardData, .descriptor, .ipv4Address, .name, .sessionID, .frameTunnelMode,
          .macType, .ecnSupport] ++
        radioSteps assembled (fun radio => [.radioInformation radio]) radioCount
  | configureRequest radioCount =>
      elementSteps assembled
        [.acNameOfWTP, .acNameWithIndex, .radioAdminState, .statisticsTimer, .rebootStatistics] ++
        radioSteps assembled
          (fun radio => [.radioInformation radio, .multiDomainCapability radio, .macOperation radio,
            .supportedRates radio]) radioCount

def assemble (assembled : Assemblers) : CountedMessage → Outcome CWProtocolMessage Failure
  | discoveryResponse supportIPv6 numPhyActive =>
      cwAssembleDiscoveryResponse assembled supportIPv6 numPhyActive
  | joinResponse radioCount msgElemList => cwAssembleJoinResponse assembled radioCount msgElemList
  | discoveryRequest radioCount => cwAssembleDiscoveryRequest assembled radioCount
  | joinRequest radioCount => cwAssembleJoinRequest assembled radioCount
  | configureRequest radioCount => cwAssembleConfigureRequest assembled radioCount

/-- No element is written behind the array, and as many are written as are announced. -/
def CountsRight (message : CountedMessage) (assembled : Assemblers) : Prop :=
  (message.assemble assembled).Counted message.msgElemCount

/-- An element cannot be assembled, or is not one of the message, while there is room left. -/
def GivesUp (message : CountedMessage) (assembled : Assemblers) : Prop :=
  EndsEarly message.msgElemCount (message.steps assembled)

def radios : CountedMessage → Nat
  | discoveryResponse _ numPhyActive => numPhyActive
  | joinResponse radioCount _ => radioCount
  | discoveryRequest radioCount => radioCount
  | joinRequest radioCount => radioCount
  | configureRequest radioCount => radioCount

/-- The radios that the array has room for: one, and a second one in place of the IPv6 addresses
    that are counted and never assembled. -/
def countedRadios : CountedMessage → Nat
  | discoveryResponse supportIPv6 _ => if supportIPv6 then 2 else 1
  | joinResponse _ _ => 1
  | discoveryRequest _ => 1
  | joinRequest _ => 1
  | configureRequest _ => 1

theorem assemble_eq_fill (message : CountedMessage) (assembled : Assemblers) :
    message.assemble assembled = fill message.msgElemCount [] (message.steps assembled) := by
  cases message <;> rfl

theorem length_elementSteps (assembled : Assemblers) (elements : List MsgElem) :
    (elementSteps assembled elements).length = elements.length :=
  List.length_map _

/-- Every radio has as many elements as the others. -/
theorem length_radioSteps (assembled : Assemblers) {elements : Nat → List MsgElem} {count : Nat}
    (each : ∀ radio, (elements radio).length = count) (radioCount : Nat) :
    (radioSteps assembled elements radioCount).length = count * radioCount := by
  induction radioCount with
  | zero => simp [radioSteps]
  | succ radioCount inductionHypothesis =>
    rw [radioSteps, List.range_succ, List.flatMap_append, List.length_append, ← radioSteps,
      inductionHypothesis, Nat.mul_succ]
    simp [length_elementSteps, each]

theorem length_radioInformations (assembled : Assemblers) (radioCount : Nat) :
    (radioSteps assembled (fun radio => [.radioInformation radio]) radioCount).length =
      radioCount := by
  have each := length_radioSteps assembled (fun radio => List.length_singleton (a := MsgElem.radioInformation radio))
    radioCount
  rwa [Nat.one_mul] at each

/-- The elements fill the array if there are as many radios as were counted. -/
theorem length_steps_iff (message : CountedMessage) (assembled : Assemblers) :
    (message.steps assembled).length = message.msgElemCount ↔
      message.radios = message.countedRadios := by
  cases message with
  | discoveryResponse supportIPv6 numPhyActive =>
    simp only [steps, List.length_append, length_elementSteps, length_radioInformations,
      List.length_cons, List.length_nil, msgElemCount, CountedMessage.radios, countedRadios]
    cases supportIPv6 <;> simp <;> omega
  | joinResponse radioCount msgElemList =>
    simp only [steps, List.length_append, length_elementSteps, length_radioInformations,
      List.length_cons, List.length_nil, List.length_map, msgElemCount, CountedMessage.radios, countedRadios]
    omega
  | discoveryRequest radioCount =>
    simp only [steps, List.length_append, length_elementSteps, length_radioInformations,
      List.length_cons, List.length_nil, msgElemCount, CountedMessage.radios, countedRadios]
    omega
  | joinRequest radioCount =>
    simp only [steps, List.length_append, length_elementSteps, length_radioInformations,
      List.length_cons, List.length_nil, msgElemCount, CountedMessage.radios, countedRadios]
    omega
  | configureRequest radioCount =>
    have radios := length_radioSteps assembled (fun radio => show
      [MsgElem.radioInformation radio, .multiDomainCapability radio, .macOperation radio,
        .supportedRates radio].length = 4 from rfl) radioCount
    simp only [steps, List.length_append, length_elementSteps, radios, List.length_cons,
      List.length_nil, msgElemCount, CountedMessage.radios, countedRadios]
    omega

/-- The count of a message is right exactly for the number of radios it was made for, unless its
    assembler gives up before the array is full. -/
theorem countsRight_iff (message : CountedMessage) (assembled : Assemblers) :
    message.CountsRight assembled ↔
      message.GivesUp assembled ∨ message.radios = message.countedRadios := by
  have counted := counted_fill_iff message.msgElemCount [] (message.steps assembled)
  rw [List.length_nil, Nat.zero_add, length_steps_iff] at counted
  rw [CountsRight, assemble_eq_fill, counted, GivesUp]

/-- With two radios the last element is written behind the array, without radios a slot stays
    empty that is announced. -/
theorem joinRequest_counts_wrong :
    ¬ (joinRequest 2).CountsRight (fun _ => .ok (cwCreateProtocolMessage 0)) ∧
      ¬ (joinRequest 0).CountsRight (fun _ => .ok (cwCreateProtocolMessage 0)) := by
  simp [CountsRight, assemble, cwAssembleJoinRequest, elementSteps, radioSteps, fill,
    Outcome.Counted, msgElemCount, List.range_succ]

end CountedMessage

end WlanController.Elements
