import WlanController.Radios.RadiosInfo
import WlanController.Sessions.Retransmission

/-!
# What the states make of a message

Each state of a session has a handler, which the thread calls for a message that has been
received whole.  The functions that parse, save and assemble are represented by what they
return.
-/

namespace WlanController.Sessions

/-- `if(!(...)) return CW_FALSE;` -/
def orReturn (called rest : Thread Bool) : Thread Bool := do
  if ← called then rest else return false

/-- What the assembling of messages yields. -/
inductive Assembly
  | assembled (fragments : List Packet)
  | fails (raised : Option CWErrorCode)

/-- The messages of the session are replaced. -/
def assemble : Assembly → Thread Bool
  | .assembled fragments => do
    modify fun s => { s with messages := some fragments, messagesCount := fragments.length }
    return true
  | .fails raised => call (.fails raised)

/-- A timer of the session that cannot be requested closes it. -/
def requestOrClose (added : Bool) : Thread Unit := do
  if ← cwErr (← requestCurrentTimer added) then return () else cwCloseThread

/-! ## The states up to RUN -/

/-- What comes of a request, in the order in which the functions are called. -/
structure Request where
  parse : Call
  save : Call
  /-- there is memory for what the handler itself creates -/
  allocated : Bool
  assembly : Assembly
  taken : List Bool
  timerAdded : Bool

def answer (r : Request) : Thread Bool :=
  orReturn (assemble r.assembly) (cwACSendFragments r.taken)

def enterState (state : CWStateTransition) : Thread Bool := do
  modify fun s => { s with currentState := state }
  return true

/-- What cannot be saved only changes the result code of the response. -/
def acEnterJoin (r : Request) : Thread Bool :=
  orReturn (call r.parse) do
    cancelCurrentTimer
    let _ ← call r.save
    if r.allocated then orReturn (answer r) (enterState .configure) else raiseError .outOfMemory

def acEnterConfigure (r : Request) : Thread Bool :=
  orReturn (call r.parse) <| orReturn (call r.save) <| orReturn (answer r) do
    requestOrClose r.timerAdded
    enterState .dataCheck

def acEnterDataCheck (r : Request) : Thread Bool := do
  cancelCurrentTimer
  if r.allocated then
    orReturn (call r.parse) <| orReturn (call r.save) <| orReturn (answer r) (enterState .run)
  else raiseError .outOfMemory

/-! ## RUN -/

/-- `CWControlHeaderValues`, as far as it is used. -/
structure ControlHeader where
  messageTypeValue : UInt32
  seqNum : UInt8

/-- The types that the switch over messages in RUN knows. -/
inductive MessageType
  | configureUpdateResponse
  | changeStateEventRequest
  | echoRequest
  | stationConfigurationResponse
  | clearConfigurationResponse
  | wlanConfigurationResponse
  | dataTransferRequest
  | wtpEventRequest
  deriving DecidableEq

/-- `CW_MSG_TYPE_VALUE_...` -/
def MessageType.value : MessageType → UInt32
  | configureUpdateResponse => 8
  | changeStateEventRequest => 11
  | echoRequest => 13
  | stationConfigurationResponse => 26
  | clearConfigurationResponse => 24
  | wlanConfigurationResponse => 3398914
  | dataTransferRequest => 21
  | wtpEventRequest => 9

def MessageType.all : List MessageType :=
  [configureUpdateResponse, changeStateEventRequest, echoRequest, stationConfigurationResponse,
    clearConfigurationResponse, wlanConfigurationResponse, dataTransferRequest, wtpEventRequest]

def MessageType.ofValue (value : UInt32) : Option MessageType :=
  all.find? fun messageType => messageType.value = value

/-- The payload of a Configuration Update Response. -/
inductive VendorPayload
  | uci
  /-- the first byte tells which answer of the update manager it is -/
  | wum (answer : UInt8)
  deriving DecidableEq

/-- `WTP_COMMIT_ACK` -/
def wtpCommitAck : UInt8 := 8

/-- `CW_PROTOCOL_SUCCESS` -/
def cwProtocolSuccess : UInt32 := 0

/-- A control message in RUN: its header, and what comes of its body. -/
structure ControlMessage where
  header : ControlHeader
  parse : Call
  resultCode : UInt32
  vendorValues : Option VendorPayload
  /-- the Assigned BSSID elements that have been parsed, each with its radio and WLAN -/
  assigned : List (Int × Int × EthAddr)
  /-- whether the payload could be handed to the application -/
  forwarded : Bool
  save : Call
  assembly : Assembly
  taken : List Bool
  timerAdded : Bool

/-- A message in RUN. -/
inductive RunMessage
  /-- a data message that makes no difference to the session -/
  | data (result : Call)
  /-- a frame that a station is associated by, so that the WTP is sent a request -/
  | association (seqNum : UInt8) (assembly : Assembly) (taken : List Bool) (timerAdded : Bool)
  | control (m : ControlMessage)

def cwACParseGenericRunMessage (header : ControlHeader) : Thread Bool := do
  if header.messageTypeValue % 2 = 1 then return true
  else if (← get).responseSeqNum ≠ header.seqNum.toNat then raiseError .invalidFormat
  else return true

def cwRestartNeighborDeadTimer (added : Bool) : Thread Unit := do
  cancelCurrentTimer
  requestOrClose added

/-- The command of the interface that waits for a response is done. -/
def completeInterfaceCommand : Thread Unit := do
  if (← get).interfaceCommandProgress then
    modify fun s => { s with interfaceResult := 1, interfaceCommandProgress := false }

/-- `CWParseIEEEConfigurationResponseMessage` stores the BSSIDs as it parses. -/
def Configuration.assign (c : Configuration) (element : Int × Int × EthAddr) : Configuration :=
  let radioIndex := Radios.cwIEEEBindingGetIndexFromDevID element.1
  let wlanIndex := Radios.cwIEEEBindingGetIndexFromDevID element.2.1
  if 0 ≤ radioIndex ∧ radioIndex < Radios.wtpRadioMax ∧ 0 ≤ wlanIndex ∧
      wlanIndex < Radios.wtpMaxInterfaces then
    { c with
      BSSID := fun radio wlan =>
        if radio = radioIndex ∧ wlan = wlanIndex then some element.2.2 else c.BSSID radio wlan }
  else c

def cwBindingSaveConfigurationUpdateResponse (resultCode : UInt32) : Thread Unit :=
  modify fun s => { s with
    configuration := if resultCode = cwProtocolSuccess then
      { s.configuration with
        bindingValues := s.configuration.qosValues.getD s.configuration.bindingValues }
    else s.configuration }

/-- The caller does not look at what this function returns. -/
def cwSaveConfigurationUpdateResponseMessage (m : ControlMessage) : Thread Unit :=
  match m.vendorValues with
  | some payload => do
    if m.forwarded && payload = .wum wtpCommitAck && m.resultCode = cwProtocolSuccess then
      modify fun s => { s with isRequestClose := true }
  | none => cwBindingSaveConfigurationUpdateResponse m.resultCode

/-- A response that has been parsed: no more retransmission, and the session is alive. -/
def acceptResponse (m : ControlMessage) : Thread Unit := do
  cwACStopRetransmission
  cwRestartNeighborDeadTimer m.timerAdded

/-- The fragments of an answer in RUN are not those of the session. -/
def sendAnswer (m : ControlMessage) : Thread Bool :=
  match m.assembly with
  | .assembled fragments => sendEach fragments m.taken
  | .fails raised => call (.fails raised)

/-- The switch over the type of a control message. -/
def handleControl (m : ControlMessage) : Thread Bool :=
  match MessageType.ofValue m.header.messageTypeValue with
  | some .configureUpdateResponse =>
    orReturn (call m.parse) do
      acceptResponse m
      cwSaveConfigurationUpdateResponseMessage m
      completeInterfaceCommand
      return true
  | some .stationConfigurationResponse =>
    orReturn (call m.parse) do
      acceptResponse m
      return true
  | some .clearConfigurationResponse =>
    orReturn (call m.parse) do
      acceptResponse m
      completeInterfaceCommand
      return true
  | some .wlanConfigurationResponse => do
    modify fun s => { s with configuration := m.assigned.foldl Configuration.assign s.configuration }
    orReturn (call m.parse) do
      acceptResponse m
      completeInterfaceCommand
      return true
  | some .changeStateEventRequest | some .wtpEventRequest =>
    orReturn (call m.parse) do
      cwRestartNeighborDeadTimer m.timerAdded
      orReturn (call m.save) (sendAnswer m)
  | some .echoRequest | some .dataTransferRequest =>
    orReturn (call m.parse) do
      cwRestartNeighborDeadTimer m.timerAdded
      sendAnswer m
  | none => sendAnswer m

def acEnterRun : RunMessage → Thread Bool
  | .data result => call result
  | .association seqNum assembly taken timerAdded => do
    match assembly with
    | .assembled fragments =>
      let _ ← sendRequest MessageType.stationConfigurationResponse.value.toNat seqNum.toNat fragments
        taken timerAdded
      return true
    | .fails raised =>
      let _ ← call (.fails raised)
      return true
  | .control m =>
    orReturn (cwACParseGenericRunMessage m.header) <| orReturn (handleControl m) (enterState .run)

/-! ## What the calls leave -/

section Calls

variable (s : WTPManager)

/-- The error that is pending after a call that may fail. -/
def Call.leaves (lastError : Option CWErrorCode) : Call → Option CWErrorCode
  | .succeeds => lastError
  | .fails raised => raised.or lastError

theorem call_run (result : Call) :
    call result s = .ok (decide (result = .succeeds)) { s with lastError := result.leaves s.lastError } := by
  cases result with
  | succeeds => rfl
  | fails raised =>
    cases raised with
    | none => rfl
    | some code => rfl

theorem orReturn_congr {called other : Thread Bool} {s' : WTPManager} (same : called s = other s')
    (rest : Thread Bool) : orReturn called rest s = orReturn other rest s' := by
  simp only [orReturn, bind_run, same]

theorem orReturn_run_of_true {called rest : Thread Bool} {s' : WTPManager}
    (went : called s = .ok true s') : orReturn called rest s = rest s' := by
  simp [orReturn, went]

theorem orReturn_run_of_false {called rest : Thread Bool} {s' : WTPManager}
    (failed : called s = .ok false s') : orReturn called rest s = .ok false s' := by
  simp [orReturn, failed]

theorem orReturn_call_succeeds {result : Call} (succeeds : result = .succeeds) (rest : Thread Bool) :
    orReturn (call result) rest s = rest s := by
  rw [succeeds]
  exact orReturn_run_of_true s rfl

theorem orReturn_call_fails {result : Call} (fails : result ≠ .succeeds) (rest : Thread Bool) :
    orReturn (call result) rest s = .ok false { s with lastError := result.leaves s.lastError } := by
  refine orReturn_run_of_false s ?_
  rw [call_run, decide_eq_false fails]

/-- The command that waits for a response is done with. -/
theorem cwCloseThread_of_stopped {s' : WTPManager}
    (stopped : cwACStopRetransmission { s with currentTimer := false } = .ok () s') :
    cwCloseThread s = .error .closed
      { s' with
        interfaceResult := if s'.interfaceCommandProgress then 1 else s'.interfaceResult
        interfaceCommandProgress := false } := by
  simp only [cwCloseThread, bind_run, cancelCurrentTimer, modify_run, stopped, get_run, ite_run]
  cases waiting : s'.interfaceCommandProgress with
  | true => rfl
  | false =>
    cases s'
    cases waiting
    rfl

theorem cwCloseThread_of_crashed {ending : Ending} {s' : WTPManager}
    (crashed : cwACStopRetransmission { s with currentTimer := false } = .error ending s') :
    cwCloseThread s = .error ending s' := by
  simp only [cwCloseThread, bind_run, cancelCurrentTimer, modify_run, crashed]

/-- The thread does not return from its end, and has given up its request. -/
theorem cwCloseThread_run :
    ∃ ending s', cwCloseThread s = .error ending s' ∧ (ending = .closed ∨ ending = .crashed) ∧
      s'.isRetransmitting = false := by
  cases retransmitting : s.isRetransmitting with
  | false =>
    have stopped := cwACStopRetransmission_idle { s with currentTimer := false } retransmitting
    exact ⟨_, _, cwCloseThread_of_stopped s stopped, .inl rfl, retransmitting⟩
  | true =>
    cases readable : WTPManager.fragments { s with currentTimer := false } with
    | none =>
      have crashed := cwACStopRetransmission_crashes _ readable retransmitting
      exact ⟨_, _, cwCloseThread_of_crashed s crashed, .inr rfl, rfl⟩
    | some fragments =>
      have stopped := cwACStopRetransmission_run _ readable retransmitting
      exact ⟨_, _, cwCloseThread_of_stopped s stopped, .inl rfl, rfl⟩

theorem cwCloseThread_ends :
    ∃ ending s', cwCloseThread s = .error ending s' ∧ ending ≠ .exited := by
  obtain ⟨ending, s', ended, either, -⟩ := cwCloseThread_run s
  refine ⟨ending, s', ended, fun exited => ?_⟩
  rw [exited] at either
  cases either with
  | inl closed => cases closed
  | inr crashed => cases crashed

theorem requestOrClose_added :
    requestOrClose true s = .ok () { s with currentTimer := true } := rfl

/-- Errors that the handling of an error passes over. -/
def Passed (lastError : Option CWErrorCode) : Prop :=
  lastError = some .success ∨ lastError = some .none

/-- What becomes of a timer that is not added depends on the error that is pending. -/
theorem requestOrClose_cases (added : Bool) :
    (requestOrClose added s = .ok () { s with currentTimer := added } ∧
      (added = true ∨ Passed s.lastError)) ∨
    (added = false ∧ ¬ Passed s.lastError ∧ ∃ ending s', requestOrClose added s = .error ending s' ∧
      (ending = .exited ↔ s.lastError = some .outOfMemory)) := by
  cases added with
  | true => exact .inl ⟨requestOrClose_added s, .inl rfl⟩
  | false =>
    obtain ⟨ending, s', closes, notExited⟩ := cwCloseThread_ends { s with currentTimer := false }
    cases lastError : s.lastError with
    | none =>
      refine .inr ⟨rfl, by simp [Passed], .processExited, { s with currentTimer := false }, ?_,
        by simp⟩
      simp [requestOrClose, requestCurrentTimer, cwErr, cwErrorHandleLast, lastError]
    | some code =>
      cases code with
      | success =>
        refine .inl ⟨?_, .inr (.inl rfl)⟩
        simp [requestOrClose, requestCurrentTimer, cwErr, cwErrorHandleLast, lastError]
      | none =>
        refine .inl ⟨?_, .inr (.inr rfl)⟩
        simp [requestOrClose, requestCurrentTimer, cwErr, cwErrorHandleLast, lastError]
      | outOfMemory =>
        refine .inr ⟨rfl, by simp [Passed], .exited, { s with currentTimer := false }, ?_, by simp⟩
        simp [requestOrClose, requestCurrentTimer, cwErr, cwErrorHandleLast, lastError]
      | _ =>
        refine .inr ⟨rfl, by simp [Passed], ending, s', ?_, by simp [notExited]⟩
        rw [lastError] at closes
        simpa [requestOrClose, requestCurrentTimer, cwErr, cwErrorHandleLast, lastError] using closes

/-- A response that is not awaited is a message that does not fit. -/
def Unexpected (header : ControlHeader) : Prop :=
  header.messageTypeValue % 2 ≠ 1 ∧ s.responseSeqNum ≠ header.seqNum.toNat

theorem cwACParseGenericRunMessage_of_unexpected {header : ControlHeader}
    (unexpected : Unexpected s header) :
    cwACParseGenericRunMessage header s = .ok false { s with lastError := some .invalidFormat } := by
  rw [cwACParseGenericRunMessage, if_neg unexpected.1, bind_run, get_run]
  simp only [ite_run, if_pos unexpected.2]
  rfl

theorem cwACParseGenericRunMessage_of_expected {header : ControlHeader}
    (expected : ¬ Unexpected s header) : cwACParseGenericRunMessage header s = .ok true s := by
  rw [cwACParseGenericRunMessage]
  by_cases request : header.messageTypeValue % 2 = 1
  · rw [if_pos request]
    rfl
  · have number : ¬ s.responseSeqNum ≠ header.seqNum.toNat := fun other => expected ⟨request, other⟩
    rw [if_neg request, bind_run, get_run]
    simp only [ite_run, if_neg number]
    rfl

/-- The response tells that a software update has been committed. -/
def ControlMessage.Commits (m : ControlMessage) : Prop :=
  m.vendorValues = some (.wum wtpCommitAck) ∧ m.forwarded = true ∧
    m.resultCode = cwProtocolSuccess

instance (m : ControlMessage) : Decidable m.Commits :=
  inferInstanceAs (Decidable (_ ∧ _ ∧ _))

theorem cwSaveConfigurationUpdateResponseMessage_run (m : ControlMessage) :
    ∃ configuration, cwSaveConfigurationUpdateResponseMessage m s = .ok ()
      { s with
        configuration := configuration
        isRequestClose := s.isRequestClose || decide m.Commits } := by
  cases vendor : m.vendorValues with
  | none =>
    have uncommitted : ¬ m.Commits := fun commits => by
      rw [ControlMessage.Commits, vendor] at commits
      cases commits.1
    rw [cwSaveConfigurationUpdateResponseMessage, vendor, decide_eq_false uncommitted, Bool.or_false]
    exact ⟨_, rfl⟩
  | some payload =>
    refine ⟨s.configuration, ?_⟩
    have committed : (m.forwarded && decide (payload = .wum wtpCommitAck) &&
        decide (m.resultCode = cwProtocolSuccess)) = decide m.Commits := by
      rw [Bool.eq_iff_iff]
      simp [ControlMessage.Commits, vendor, and_assoc, and_left_comm]
    simp only [cwSaveConfigurationUpdateResponseMessage, vendor, committed, ite_run, modify_run,
      pure_run]
    cases decide m.Commits with
    | true => simp
    | false => simp

/-- The response is assembled, and all of it is sent. -/
def Request.Sent (r : Request) (fragments : List Packet) : Prop :=
  r.assembly = .assembled fragments ∧ allTaken fragments r.taken = true

theorem answer_of_sent {r : Request} {fragments : List Packet} (sent : r.Sent fragments) :
    answer r s = .ok true
      { s with messages := none, messagesCount := 0, sent := s.sent ++ fragments } := by
  have assembled : assemble r.assembly s = .ok true
      { s with messages := some fragments, messagesCount := fragments.length } := by
    rw [sent.1]
    rfl
  rw [answer, orReturn_run_of_true s assembled, cwACSendFragments_run _ r.taken rfl rfl]
  simp [sent.2, attempted_of_allTaken sent.2, sendError]

/-- The error of an answer that is not sent. -/
def Request.answerError (r : Request) (lastError : Option CWErrorCode) : Option CWErrorCode :=
  match r.assembly with
  | .assembled _ => some .sending
  | .fails raised => raised.or lastError

/-- An answer that is not sent leaves the fragments behind, if they have been assembled. -/
theorem answer_of_not_sent {r : Request} (unsent : ∀ fragments, ¬ r.Sent fragments) :
    ∃ messages messagesCount sent, answer r s = .ok false
      { s with
        messages := messages, messagesCount := messagesCount, sent := sent
        lastError := r.answerError s.lastError } ∧
      (r.answerError s.lastError ≠ some .sending →
        messages = s.messages ∧ messagesCount = s.messagesCount) := by
  cases assembly : r.assembly with
  | fails raised =>
    refine ⟨s.messages, s.messagesCount, s.sent, ?_, fun _ => ⟨rfl, rfl⟩⟩
    refine orReturn_run_of_false s ?_
    simp [Request.answerError, assembly, assemble, call_run, Call.leaves]
  | assembled fragments =>
    have all : allTaken fragments r.taken = false := by
      rw [← Bool.not_eq_true]
      exact fun all => unsent fragments ⟨assembly, all⟩
    have assembled : assemble r.assembly s = .ok true
        { s with messages := some fragments, messagesCount := fragments.length } := by
      rw [assembly]
      rfl
    refine ⟨some fragments, fragments.length, s.sent ++ attempted fragments r.taken, ?_, ?_⟩
    · rw [answer, orReturn_run_of_true s assembled, cwACSendFragments_run _ r.taken rfl rfl]
      simp [all, Request.answerError, assembly, sendError]
    · intro other
      simp [Request.answerError, assembly] at other

end Calls

end WlanController.Sessions
