import WlanController.Foundation.Run
import Mathlib.Data.List.Nodup

/-!
# The command slot of a session

An application that commands a WTP puts the command into the slot of its session and waits until
the session thread has dealt with it.  The slot holds one command, with the application it came
from, and a flag that a command has been sent and not been answered.  One condition wakes the
waiting applications, and `pthread_cond_signal` wakes any one of them.
-/

namespace WlanController.Interface

inductive InterfaceCommand where
  | ofdmControl
  | uciControl
  | wtpUpdate
  | ieeeWlanConfiguration
  deriving DecidableEq

/-- A call of one of the four functions that set the values. -/
structure Submission where
  command : InterfaceCommand
  /-- The address of the values. -/
  values : Nat
  socketIndex : Nat

/-- What the session thread finds in the slot when it picks a command up. -/
structure PickUp where
  submission : Nat
  command : InterfaceCommand
  values : Option Nat
  applicationIndex : Nat

/-- A request that is sent again until its response comes. -/
structure AcknowledgedRequest where
  seqNum : Nat
  /-- The submission it is for, or none if the session sends it by itself. -/
  command : Option (Nat × InterfaceCommand)

/-- A submission is known by its position in the list of all. -/
structure CommandSlot where
  isNotFree : Bool
  isRequestClose : Bool
  /-- `none` for `NO_CMD`. -/
  interfaceCommand : Option InterfaceCommand
  ofdmValues : Option Nat
  vendorValues : Option Nat
  cmdWLAN : Option Nat
  applicationIndex : Nat
  /-- `none` for `CW_FALSE`, and else the submission whose command was sent. -/
  interfaceCommandProgress : Option Nat
  interfaceResult : Int
  isRetransmitting : Bool
  responseSeqNum : Nat
  submissions : List Submission
  /-- The submissions whose callers wait for `interfaceComplete`. -/
  waiting : List Nat
  pickedUp : List PickUp
  requests : List AcknowledgedRequest
  /-- The submissions whose callers were woken, with those whose commands were completed. -/
  woken : List (Nat × Nat)
  /-- The applications a payload was forwarded to, with the submissions it was the answer to. -/
  forwarded : List (Nat × Nat)

namespace CommandSlot

/-- A session that has just begun. -/
def initial : CommandSlot where
  isNotFree := true
  isRequestClose := false
  interfaceCommand := none
  ofdmValues := none
  vendorValues := none
  cmdWLAN := none
  applicationIndex := 0
  interfaceCommandProgress := none
  interfaceResult := 0
  isRetransmitting := false
  responseSeqNum := 0
  submissions := []
  waiting := []
  pickedUp := []
  requests := []
  woken := []
  forwarded := []

/-! ## Submitting -/

/-- What the four functions share, up to the wait. -/
def submit (command : InterfaceCommand) (values socketIndex : Nat) (s : CommandSlot) :
    CommandSlot :=
  { s with
    interfaceCommand := some command
    applicationIndex := socketIndex
    submissions := s.submissions ++ [⟨command, values, socketIndex⟩]
    waiting := s.submissions.length :: s.waiting }

def cwOFDMSetValues (socketIndex ofdmValues : Nat) (s : CommandSlot) : CommandSlot :=
  { s with ofdmValues := some ofdmValues }.submit .ofdmControl ofdmValues socketIndex

def cwVendorSetValues (socketIndex vendorValues : Nat) (s : CommandSlot) : CommandSlot :=
  { s with vendorValues := some vendorValues }.submit .uciControl vendorValues socketIndex

def cwWumSetValues (socketIndex vendorValues : Nat) (s : CommandSlot) : CommandSlot :=
  { s with vendorValues := some vendorValues }.submit .wtpUpdate vendorValues socketIndex

def cwWLANSetValues (socketIndex cmdWLAN : Nat) (s : CommandSlot) : CommandSlot :=
  { s with cmdWLAN := some cmdWLAN }.submit .ieeeWlanConfiguration cmdWLAN socketIndex

/-- The function for this command. -/
def setValues (submission : Submission) (s : CommandSlot) : CommandSlot :=
  match submission.command with
  | .ofdmControl => s.cwOFDMSetValues submission.socketIndex submission.values
  | .uciControl => s.cwVendorSetValues submission.socketIndex submission.values
  | .wtpUpdate => s.cwWumSetValues submission.socketIndex submission.values
  | .ieeeWlanConfiguration => s.cwWLANSetValues submission.socketIndex submission.values

/-- The values that the request for a command is assembled from. -/
def values (s : CommandSlot) : InterfaceCommand → Option Nat
  | .ofdmControl => s.ofdmValues
  | .uciControl | .wtpUpdate => s.vendorValues
  | .ieeeWlanConfiguration => s.cmdWLAN

/-! ## The session thread -/

/-- The condition is signalled as this command is completed, and this caller is woken if any is
    waiting. -/
def signal (completed caller : Nat) (s : CommandSlot) : Option CommandSlot :=
  match s.waiting with
  | [] => some s
  | _ :: _ =>
      if caller ∈ s.waiting then
        some { s with
          waiting := s.waiting.erase caller, woken := (caller, completed) :: s.woken }
      else none

def cwACStopRetransmission (s : CommandSlot) : CommandSlot :=
  if s.isRetransmitting then { s with isRetransmitting := false, responseSeqNum := 0 } else s

/-- A request is sent, or given up if that fails. -/
def cwACSendAcknowledgedPacket (request : AcknowledgedRequest) (sent : Bool) (s : CommandSlot) :
    CommandSlot :=
  let s := { s with
    isRetransmitting := true, responseSeqNum := request.seqNum
    requests := s.requests ++ [request] }
  if sent then s else s.cwACStopRetransmission

/-- The command is taken from the slot, its request assembled and sent. -/
def pickUp (seqNum : Nat) (assembled sent : Bool) (caller : Nat) (s : CommandSlot) :
    Option CommandSlot :=
  match s.interfaceCommand with
  | none => none
  | some command =>
      let submission := s.submissions.length - 1
      let found : PickUp := ⟨submission, command, s.values command, s.applicationIndex⟩
      let s := { s with pickedUp := found :: s.pickedUp }
      let s := if assembled then
        s.cwACSendAcknowledgedPacket ⟨seqNum, some (submission, command)⟩ sent else s
      let s := { s with interfaceCommand := none }
      if assembled && sent then some { s with interfaceCommandProgress := some submission }
      else signal submission caller { s with interfaceResult := 0 }

/-- A command has been answered, or its session is closed. -/
def complete (completed caller : Nat) (s : CommandSlot) : Option CommandSlot :=
  if s.interfaceCommandProgress.isSome then
    signal completed caller { s with interfaceResult := 1, interfaceCommandProgress := none }
  else some s

/-- The payload goes to the application that the slot names, and a commit asks to close. -/
def cwSaveConfigurationUpdateResponseMessage (submission : Nat) (payload commits : Bool)
    (s : CommandSlot) : CommandSlot :=
  if payload then
    { s with
      forwarded := (s.applicationIndex, submission) :: s.forwarded
      isRequestClose := s.isRequestClose || commits }
  else s

/-- The cases of `ACEnterRun` for a response, by the request that the WTP answers with it.  Only
    its sequence number is compared. -/
def acEnterRun (request : AcknowledgedRequest) (payload commits : Bool) (caller : Nat)
    (s : CommandSlot) : Option CommandSlot :=
  if s.responseSeqNum ≠ request.seqNum then some s
  else
    let s := s.cwACStopRetransmission
    match request.command with
    | none => some s
    | some (submission, .ieeeWlanConfiguration) => s.complete submission caller
    | some (submission, _) =>
        (s.cwSaveConfigurationUpdateResponseMessage submission payload commits).complete
          submission caller

def cwCloseThread (caller : Nat) (s : CommandSlot) : Option CommandSlot :=
  (s.cwACStopRetransmission.complete (s.interfaceCommandProgress.getD 0) caller).map fun s =>
    { s with isNotFree := false }

end CommandSlot

/-! ## Steps -/

inductive CommandEvent where
  | submit (submission : Submission)
  | pickUp (seqNum : Nat) (assembled sent : Bool)
  /-- The session sends a request of its own. -/
  | request (seqNum : Nat) (sent : Bool)
  /-- A response, by the number of the request that it answers. -/
  | respond (number : Nat) (payload commits : Bool)
  | requestClose
  | close

/-- `none` where the step is not possible; the caller is the one that a signal wakes. -/
def CommandEvent.exec (caller : Nat) (s : CommandSlot) : CommandEvent → Option CommandSlot
  | .submit submission => some (s.setValues submission)
  | .pickUp seqNum assembled sent =>
      if s.isNotFree && !s.isRequestClose then s.pickUp seqNum assembled sent caller else none
  | .request seqNum sent =>
      if s.isNotFree then some (s.cwACSendAcknowledgedPacket ⟨seqNum, none⟩ sent) else none
  | .respond number payload commits =>
      if s.isNotFree then
        s.requests[number]?.bind fun request => s.acEnterRun request payload commits caller
      else none
  | .requestClose => if s.isNotFree then some { s with isRequestClose := true } else none
  | .close => if s.isNotFree then s.cwCloseThread caller else none

def CommandStep (s : CommandSlot) (event : CommandEvent) (s' : CommandSlot) : Prop :=
  ∃ caller, event.exec caller s = some s'

/-! ## What is asked of the slot -/

namespace CommandSlot

/-- The command is in the slot of a live session. -/
def Pending (s : CommandSlot) (submission : Nat) : Prop :=
  s.isNotFree = true ∧ s.interfaceCommand.isSome ∧ submission + 1 = s.submissions.length

/-- The command has been sent, and its response is the one the session waits for. -/
def InProgress (s : CommandSlot) (submission : Nat) : Prop :=
  s.interfaceCommandProgress = some submission ∧ s.isRetransmitting = true ∧
    ∃ request ∈ s.requests.getLast?, request.command.map Prod.fst = some submission ∧
      s.responseSeqNum = request.seqNum

/-- The slot serves those who submit commands. -/
structure Served (s : CommandSlot) : Prop where
  once : (s.pickedUp.map PickUp.submission).Nodup
  own : ∀ found ∈ s.pickedUp, ∃ submission, s.submissions[found.submission]? = some submission ∧
    found.command = submission.command ∧ found.values = some submission.values ∧
      found.applicationIndex = submission.socketIndex
  woken : ∀ wake ∈ s.woken, wake.1 = wake.2
  forwarded : ∀ answer ∈ s.forwarded, ∃ submission, s.submissions[answer.2]? = some submission ∧
    answer.1 = submission.socketIndex
  waiting : ∀ submission ∈ s.waiting, s.Pending submission ∨ s.InProgress submission

/-- Whatever state a step leads to. -/
def StaysServed (s : CommandSlot) (event : CommandEvent) : Prop :=
  ∀ s', CommandStep s event s' → s'.Served

/-- A response that is accepted answers the command in progress, and no other command waits in the
    slot; or none is in progress, and its payload goes where it belongs. -/
def Answers (s : CommandSlot) (payload : Bool) (request : AcknowledgedRequest) : Prop :=
  match request.command with
  | none => s.interfaceCommandProgress = none
  | some (submission, command) =>
      if s.interfaceCommandProgress.isSome then
        s.InProgress submission ∧ s.interfaceCommand = none
      else payload = true → command ≠ .ieeeWlanConfiguration →
        (s.submissions[submission]?).map Submission.socketIndex = some s.applicationIndex

/-- The steps that serve.  A command is submitted to a live session whose slot is empty; it is
    picked up, and any other request is sent, while none is in progress; what is accepted answers
    the command in progress; and the session is closed while the slot is empty. -/
def Exclusive (s : CommandSlot) : CommandEvent → Prop
  | .submit _ => s.isNotFree = true ∧ s.interfaceCommand = none
  | .pickUp _ _ _ => s.isNotFree = true → s.isRequestClose = false → s.interfaceCommand.isSome →
      s.interfaceCommandProgress = none
  | .request _ _ => s.isNotFree = true → s.interfaceCommandProgress = none
  | .respond number payload _ => s.isNotFree = true → ∀ request ∈ s.requests[number]?,
      s.responseSeqNum = request.seqNum → s.Answers payload request
  | .requestClose => True
  | .close => s.isNotFree = true → s.interfaceCommand = none

end CommandSlot

end WlanController.Interface
