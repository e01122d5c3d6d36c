import WlanController.Foundation.Programs
import WlanController.Foundation.Run
import WlanController.Sessions.States

/-!
# The loop of a session

The thread of a session waits for a packet or a command, blocks the signals of the timers,
handles what has come, and unblocks them.  A turn that finds no whole message goes on with
the next one at once and leaves the critical signal blocked.
-/

namespace WlanController.Sessions

/-- A whole message, with what each handler would make of it. -/
structure SessionMessage where
  request : Request
  run : RunMessage

/-- What `CWProtocolParseFragment` yields. -/
inductive Reassembled
  | message (m : SessionMessage)
  | fails (raised : Option CWErrorCode)

/-- A packet of the list.  An encrypted one is received through the security layer. -/
structure Received where
  security : Option Call
  reassembled : Reassembled

inductive InterfaceCommand
  | qos
  | ieeeWLANConfiguration
  | clearConfigMsg
  | ofdmControl
  | uciControl
  | wtpUpdate
  deriving DecidableEq

/-- `CW_MSG_TYPE_VALUE_WLAN_CONFIGURATION_REQUEST` -/
def cwMsgTypeValueWLANConfigurationRequest : UInt32 := 3398913

/-- The type that is stored as that of the response. -/
def InterfaceCommand.responseType : InterfaceCommand → UInt32
  | qos | ofdmControl | uciControl | wtpUpdate => MessageType.configureUpdateResponse.value
  | ieeeWLANConfiguration => cwMsgTypeValueWLANConfigurationRequest
  | clearConfigMsg => MessageType.clearConfigurationResponse.value

/-! ## One turn -/

def blockSignals : Thread Unit := modify fun s => { s with criticalBlocked := true }

def unblockSignals : Thread Unit := modify fun s => { s with criticalBlocked := false }

def handle (m : SessionMessage) : Thread Bool := do
  match (← get).currentState with
  | .join => acEnterJoin m.request
  | .configure => acEnterConfigure m.request
  | .dataCheck => acEnterDataCheck m.request
  | .run => acEnterRun m.run

/-- What becomes of a handler that has failed. -/
def handleFailure : Thread Unit := do
  if (← cwErrorGetLastErrorCode) = .invalidFormat then
    let _ ← cwErrorHandleLast
  else
    let _ ← cwErrorHandleLast
    cwCloseThread

def dispatch (m : SessionMessage) : Thread Unit := do
  if ← handle m then return () else handleFailure

def receive : Option Call → Thread Bool
  | none => return true
  | some result => do cwErr (← call result)

/-- The packets that the thread does not understand end the turn before its end. -/
def handlePacket (p : Received) : Thread Unit := do
  blockSignals
  if ← receive p.security then
    match p.reassembled with
    | .message m =>
      dispatch m
      unblockSignals
    | .fails raised =>
      let _ ← call (.fails raised)
      if (← cwErrorGetLastErrorCode) = .needResource then return ()
      else
        let _ ← cwErrorHandleLast

def handleCommand (command : InterfaceCommand) (seqNum : UInt8) (assembly : Assembly)
    (taken : List Bool) (timerAdded : Bool) : Thread Unit := do
  blockSignals
  let sent ← match assembly with
    | .assembled fragments =>
      sendRequest command.responseType.toNat seqNum.toNat fragments taken timerAdded
    | .fails raised => call (.fails raised)
  if sent then modify fun s => { s with interfaceCommandProgress := true }
  else modify fun s => { s with interfaceResult := 0 }
  unblockSignals

/-- The thread of another session sends the request that a station which it has handed over
    needs.  An error is one of that thread. -/
def handOver (seqNum : UInt8) (fragments : List Packet) (taken : List Bool) (timerAdded : Bool) :
    Thread Unit := do
  let lastError := (← get).lastError
  let _ ← sendRequest MessageType.stationConfigurationResponse.value.toNat seqNum.toNat fragments
    taken timerAdded
  modify fun s => { s with lastError := lastError }

/-- Before each turn the thread looks whether it has been asked to close. -/
def turn (program : Thread Unit) : Thread Unit := do
  if (← get).isRequestClose then cwCloseThread else program

/-! ## Sessions in a run -/

inductive SessionEvent
  | packet (p : Received)
  | command (command : InterfaceCommand) (seqNum : UInt8) (assembly : Assembly) (taken : List Bool)
      (timerAdded : Bool)
  /-- the thread of another session has handed a station over -/
  | handedOver (seqNum : UInt8) (fragments : List Packet) (taken : List Bool) (timerAdded : Bool)
  | criticalTimerExpired
  | softTimerExpired (maxRetransmit : Nat) (taken : List Bool) (timerAdded : Bool)
  /-- the thread wakes up without a packet or a command -/
  | wakes

/-- A response that a request waits for. -/
structure Awaited where
  messageType : MessageType
  seqNum : UInt8
  deriving DecidableEq

/-- A session between two turns. -/
structure Served where
  session : WTPManager
  /-- the critical timer has expired, but its signal is blocked -/
  expired : Bool
  /-- a packet has been handled -/
  received : Bool
  /-- the request that has been sent last, until its response has been parsed -/
  outstanding : Option Awaited

inductive Outcome
  | continues (w : Served)
  | ends (ending : Ending) (s : WTPManager)

def Outcome.session : Outcome → WTPManager
  | continues w => w.session
  | ends _ s => s

/-- A blocked signal is delivered when it gets unblocked. -/
def Served.delivered (w : Served) : Served :=
  if w.expired && !w.session.criticalBlocked then
    { w with session := { w.session with isRequestClose := true }, expired := false }
  else w

/-- A program of the thread, with what is known of the session if it returns. -/
def Served.after (w : Served) (program : Thread Unit) (received : Bool)
    (outstanding : WTPManager → Option Awaited) : Outcome :=
  match program w.session with
  | .ok _ s =>
    .continues
      { session := s, expired := w.expired, received := received, outstanding := outstanding s
        : Served }.delivered
  | .error ending s => .ends ending s

/-- The response to the request of a command. -/
def InterfaceCommand.awaited : InterfaceCommand → UInt8 → Awaited
  | qos, seqNum | ofdmControl, seqNum | uciControl, seqNum | wtpUpdate, seqNum =>
    ⟨.configureUpdateResponse, seqNum⟩
  | ieeeWLANConfiguration, seqNum => ⟨.wlanConfigurationResponse, seqNum⟩
  | clearConfigMsg, seqNum => ⟨.clearConfigurationResponse, seqNum⟩

/-- Whether the sending of a request succeeds, which it does exactly when the session is
    left retransmitting. -/
def awaitedAfter (awaited : Awaited) (s : WTPManager) : Option Awaited :=
  if s.isRetransmitting then some awaited else none

def ControlMessage.isResponseTo (m : ControlMessage) (awaited : Awaited) : Prop :=
  m.header.messageTypeValue = awaited.messageType.value ∧ m.header.seqNum = awaited.seqNum

instance (m : ControlMessage) (awaited : Awaited) : Decidable (m.isResponseTo awaited) :=
  inferInstanceAs (Decidable (_ ∧ _))

/-- What is outstanding after a message in RUN. -/
def Served.outstandingAfter (w : Served) (m : RunMessage) (s : WTPManager) : Option Awaited :=
  match m with
  | .data _ => w.outstanding
  | .association seqNum assembly _ _ =>
    match assembly with
    | .assembled _ => awaitedAfter ⟨.stationConfigurationResponse, seqNum⟩ s
    | .fails _ => w.outstanding
  | .control m =>
    w.outstanding.filter fun awaited => !(decide (m.isResponseTo awaited) && m.parse = .succeeds)

def Served.outstandingAfterPacket (w : Served) (p : Received) (s : WTPManager) : Option Awaited :=
  match p.reassembled with
  | .message m => if w.session.currentState = .run then w.outstandingAfter m.run s else w.outstanding
  | .fails _ => w.outstanding

/-- A step of the thread, of a handler of its signals or of another thread; there is none
    where the event cannot happen. -/
def Served.exec (w : Served) : SessionEvent → Option Outcome
  | .packet p => some (w.after (turn (handlePacket p)) true (w.outstandingAfterPacket p))
  | .command command seqNum assembly taken timerAdded =>
    some (w.after (turn (handleCommand command seqNum assembly taken timerAdded)) w.received
      fun s =>
        match assembly with
        | .assembled _ => awaitedAfter (command.awaited seqNum) s
        | .fails _ => w.outstanding)
  | .handedOver seqNum fragments taken timerAdded =>
    some (w.after (handOver seqNum fragments taken timerAdded) w.received
      (awaitedAfter ⟨.stationConfigurationResponse, seqNum⟩))
  | .criticalTimerExpired =>
    if w.session.currentTimer then
      some (.continues
        { w with session := { w.session with currentTimer := false }, expired := true
          : Served }.delivered)
    else none
  | .softTimerExpired maxRetransmit taken timerAdded =>
    some (w.after (cwSoftTimerExpiredHandler maxRetransmit taken timerAdded) w.received
      fun _ => w.outstanding)
  | .wakes => some (w.after (turn (pure ())) w.received fun _ => w.outstanding)

def SessionStep (w : Served) (event : SessionEvent) (w' : Served) : Prop :=
  w.exec event = some (.continues w')

def Served.start (slot : WTPManager) : Served where
  session := slot.start
  expired := false
  received := false
  outstanding := none

/-- A request that is parsed and answered. -/
def plainRequest : Request :=
  { parse := .succeeds, save := .succeeds, allocated := true, assembly := .assembled [[1, 2, 3]]
    taken := [], timerAdded := true }

/-- A message that is not encrypted. -/
def packetOf (m : SessionMessage) : Received := { security := none, reassembled := .message m }

/-! ## What a turn leaves -/

/-- The packet passes the security layer, or an error of it is passed over. -/
def Passes (security : Option Call) (lastError : Option CWErrorCode) : Prop :=
  ∀ result, security = some result → result = .succeeds ∨ Passed (result.leaves lastError)

/-- The packet brings a message to its handler. -/
def Delivers (w : Served) (p : Received) (m : SessionMessage) : Prop :=
  p.reassembled = .message m ∧ w.session.isRequestClose = false ∧
    Passes p.security w.session.lastError

/-- The error that is pending after the security layer. -/
def pendingAfter (lastError : Option CWErrorCode) : Option Call → Option CWErrorCode
  | none => lastError
  | some result => result.leaves lastError

theorem receive_of_passes {security : Option Call} {s : WTPManager}
    (passes : Passes security s.lastError) :
    receive security s = .ok true { s with lastError := pendingAfter s.lastError security } := by
  cases security with
  | none => rfl
  | some result =>
    cases result with
    | succeeds => rfl
    | fails raised =>
      have passed : Passed ((Call.fails raised).leaves s.lastError) :=
        (passes _ rfl).resolve_left Call.noConfusion
      rw [receive, bind_run, call_run]
      cases passed with
      | inl success => simp [cwErr, cwErrorHandleLast, success, pendingAfter]
      | inr nothing => simp [cwErr, cwErrorHandleLast, nothing, pendingAfter]

/-- What comes of a turn that brings no message: without an error the process ends, and
    without memory the thread. -/
def unhandled (lastError : Option CWErrorCode) : Thread Unit := do
  modify fun s => { s with lastError := lastError }
  match lastError with
  | none => throw .processExited
  | some .outOfMemory => throw .exited
  | some _ => return ()

theorem receive_of_not_passes {security : Option Call} {s : WTPManager}
    (fails : ¬ Passes security s.lastError) :
    receive security s =
      match unhandled (pendingAfter s.lastError security) s with
      | .ok _ s' => .ok false s'
      | .error ending s' => .error ending s' := by
  cases security with
  | none => exact absurd (fun _ absent => nomatch absent) fails
  | some result =>
    cases result with
    | succeeds =>
      refine absurd (fun result same => .inl ?_) fails
      cases same
      rfl
    | fails raised =>
      have unpassed : ¬ Passed ((Call.fails raised).leaves s.lastError) := by
        refine fun passed => fails fun result same => .inr ?_
        cases same
        exact passed
      rw [receive, bind_run, call_run, pendingAfter]
      cases pending : (Call.fails raised).leaves s.lastError with
      | none => simp [cwErr, cwErrorHandleLast, unhandled]
      | some code =>
        cases code with
        | success => exact absurd (.inl pending) unpassed
        | none => exact absurd (.inr pending) unpassed
        | _ => simp [cwErr, cwErrorHandleLast, unhandled]

section Packets

variable {p : Received} {s : WTPManager}

theorem handlePacket_of_not_passes (fails : ¬ Passes p.security s.lastError) :
    handlePacket p s =
      unhandled (pendingAfter s.lastError p.security) { s with criticalBlocked := true } := by
  rw [handlePacket, bind_run, blockSignals, modify_run]
  simp only [bind_run]
  rw [receive_of_not_passes (s := { s with criticalBlocked := true }) fails]
  cases unhandled (pendingAfter s.lastError p.security) { s with criticalBlocked := true } with
  | ok _ s' => rfl
  | error ending s' => rfl

/-- The signals have not been unblocked when the next turn begins. -/
theorem handlePacket_of_fails {raised : Option CWErrorCode}
    (passes : Passes p.security s.lastError) (fragment : p.reassembled = .fails raised) :
    handlePacket p s =
      unhandled (raised.or (pendingAfter s.lastError p.security))
        { s with criticalBlocked := true } := by
  rw [handlePacket, bind_run, blockSignals, modify_run]
  simp only [bind_run]
  rw [receive_of_passes (s := { s with criticalBlocked := true }) passes]
  simp only [if_true, fragment, bind_run, call_run, Call.leaves, cwErrorGetLastErrorCode, get_run,
    pure_run]
  cases raised.or (pendingAfter s.lastError p.security) with
  | none => simp [cwErrorHandleLast, unhandled]
  | some code => cases code <;> simp [cwErrorHandleLast, unhandled]

/-- A message that passes goes to its handler. -/
theorem handlePacket_of_message {m : SessionMessage} (passes : Passes p.security s.lastError)
    (message : p.reassembled = .message m) :
    handlePacket p s =
      match dispatch m
        { s with criticalBlocked := true, lastError := pendingAfter s.lastError p.security } with
      | .ok _ s' => .ok () { s' with criticalBlocked := false }
      | .error ending s' => .error ending s' := by
  rw [handlePacket, bind_run, blockSignals, modify_run]
  simp only [bind_run]
  rw [receive_of_passes (s := { s with criticalBlocked := true }) passes]
  simp only [if_true, message, bind_run]
  cases dispatch m
    { s with criticalBlocked := true, lastError := pendingAfter s.lastError p.security } with
  | ok _ s' => rfl
  | error ending s' => rfl

end Packets

/-- A message that does not fit is ignored, and any other failure ends the thread. -/
theorem handleFailure_cases (s : WTPManager) :
    s.lastError = some .invalidFormat ∧ handleFailure s = .ok () s ∨
    s.lastError ≠ some .invalidFormat ∧ ∃ ending s', handleFailure s = .error ending s' ∧
      (ending = .exited ↔ s.lastError = some .outOfMemory) := by
  obtain ⟨ending, s', closes, notExited⟩ := cwCloseThread_ends s
  have closed (other : s.lastError ≠ some .outOfMemory) :
      ending = .exited ↔ s.lastError = some .outOfMemory := iff_of_false notExited other
  cases lastError : s.lastError with
  | none =>
    refine .inr ⟨by simp, .processExited, s, ?_, by simp⟩
    simp [handleFailure, cwErrorGetLastErrorCode, cwErrorHandleLast, lastError]
  | some code =>
    cases code with
    | invalidFormat =>
      refine .inl ⟨rfl, ?_⟩
      simp [handleFailure, cwErrorGetLastErrorCode, cwErrorHandleLast, lastError]
    | outOfMemory =>
      refine .inr ⟨by simp, .exited, s, ?_, by simp⟩
      simp [handleFailure, cwErrorGetLastErrorCode, cwErrorHandleLast, lastError]
    | _ =>
      refine .inr ⟨by simp, ending, s', ?_, lastError ▸ closed (by simp [lastError])⟩
      simpa [handleFailure, cwErrorGetLastErrorCode, cwErrorHandleLast, lastError] using closes

theorem handle_run (m : SessionMessage) (s : WTPManager) :
    handle m s = match s.currentState with
      | .join => acEnterJoin m.request s
      | .configure => acEnterConfigure m.request s
      | .dataCheck => acEnterDataCheck m.request s
      | .run => acEnterRun m.run s := by
  simp only [handle, bind_run, get_run]
  cases s.currentState <;> rfl

section Turns

variable {program : Thread Unit} {s s' : WTPManager}

theorem turn_of_requested (requested : s.isRequestClose = true) :
    turn program s = cwCloseThread s := by
  simp only [turn, bind_run, get_run, ite_run, if_pos requested]

theorem turn_of_open (live : s.isRequestClose = false) : turn program s = program s := by
  simp [turn, live]

variable {w : Served} {received : Bool} {outstanding : WTPManager → Option Awaited}

theorem after_of_ok (returned : program w.session = .ok () s') :
    w.after program received outstanding =
      .continues { session := s', expired := w.expired, received := received
                   outstanding := outstanding s' : Served }.delivered := by
  rw [Served.after, returned]

theorem after_of_error {ending : Ending} (ended : program w.session = .error ending s') :
    w.after program received outstanding = .ends ending s' := by
  rw [Served.after, ended]

end Turns

section Dispatch

variable {m : SessionMessage} {s s' : WTPManager}

theorem dispatch_of_handled (handled : handle m s = .ok true s') : dispatch m s = .ok () s' := by
  simp [dispatch, handled]

theorem dispatch_of_failed (failed : handle m s = .ok false s') :
    dispatch m s = handleFailure s' := by
  simp [dispatch, failed]

theorem dispatch_of_ended {ending : Ending} (ended : handle m s = .error ending s') :
    dispatch m s = .error ending s' := by
  simp [dispatch, ended]

end Dispatch

end WlanController.Sessions
