import WlanController.Sessions.ManageWTP

/-!
# What the functions of the thread leave alone

Most functions of the thread change the timers, the errors and the retransmission.  An
invariant that these changes keep is kept by all programs that are built from the functions.
-/

namespace WlanController.Sessions

open Programs

/-- The invariant is kept by what the functions do to a session besides answering requests. -/
structure Robust (Inv : WTPManager → Prop) : Prop where
  lastError : ∀ s lastError, Inv s → Inv { s with lastError := lastError }
  sent : ∀ s sent, Inv s → Inv { s with sent := sent }
  currentTimer : ∀ s currentTimer, Inv s → Inv { s with currentTimer := currentTimer }
  isRequestClose : ∀ s, Inv s → Inv { s with isRequestClose := true }
  criticalBlocked : ∀ s blocked, Inv s → Inv { s with criticalBlocked := blocked }
  configuration : ∀ s configuration, Inv s → Inv { s with configuration := configuration }
  interfaceCommand : ∀ s result progress, Inv s →
    Inv { s with interfaceResult := result, interfaceCommandProgress := progress }
  /-- the retransmission stops, and its messages are freed unless that crashes -/
  stopped : ∀ s messages, Inv s → messages = s.messages ∨ messages = none → Inv
    { s with
      isRetransmitting := false, currentPacketTimer := false, responseType := unusedMsgType
      responseSeqNum := 0, messages := messages }

variable {Inv : WTPManager → Prop}

theorem keeps_cwErrorGetLastErrorCode : Keeps Inv cwErrorGetLastErrorCode :=
  keeps_get.bind fun _ => keeps_pure _

theorem keeps_cwErrorHandleLast : Keeps Inv cwErrorHandleLast := by
  refine keeps_get.bind fun s => ?_
  split
  · exact keeps_throw _
  · exact keeps_pure true
  · exact keeps_pure true
  · exact keeps_throw _
  · exact keeps_pure false

theorem keeps_cwErr (arg : Bool) : Keeps Inv (cwErr arg) :=
  Keeps.ite (keeps_pure true) keeps_cwErrorHandleLast

theorem keeps_readFragments : Keeps Inv readFragments := by
  refine keeps_get.bind fun s => ?_
  split
  · exact keeps_throw _
  · exact keeps_pure _

theorem keeps_orReturn {called rest : Thread Bool} (first : Keeps Inv called)
    (second : Keeps Inv rest) : Keeps Inv (orReturn called rest) :=
  first.bind fun _ => Keeps.ite second (keeps_pure false)

namespace Robust

variable (robust : Robust Inv)

include robust

theorem keeps_raiseError (code : CWErrorCode) : Keeps Inv (raiseError code) :=
  (keeps_modify fun s => robust.lastError s (some code)).bind fun _ => keeps_pure false

theorem keeps_call (result : Call) : Keeps Inv (call result) := by
  cases result with
  | succeeds => exact keeps_pure true
  | fails raised =>
    cases raised with
    | none => exact keeps_pure false
    | some code => exact robust.keeps_raiseError code

theorem keeps_receive (security : Option Call) : Keeps Inv (receive security) := by
  cases security with
  | none => exact keeps_pure true
  | some result => exact (robust.keeps_call result).bind fun received => keeps_cwErr received

theorem keeps_sendEach (messages : List Packet) (taken : List Bool) :
    Keeps Inv (sendEach messages taken) := by
  intro s holds
  rw [left_of_ok (sendEach_run s messages taken)]
  have sent := robust.sent s (s.sent ++ attempted messages taken) holds
  exact robust.lastError _ (sendError s.lastError (allTaken messages taken)) sent

theorem keeps_cancelCurrentTimer : Keeps Inv cancelCurrentTimer :=
  keeps_modify fun s => robust.currentTimer s false

theorem keeps_cwACStopRetransmission : Keeps Inv cwACStopRetransmission := by
  intro s holds
  cases retransmitting : s.isRetransmitting with
  | false =>
    rw [left_of_ok (cwACStopRetransmission_idle s retransmitting)]
    exact holds
  | true =>
    cases readable : s.fragments with
    | some fragments =>
      rw [left_of_ok (cwACStopRetransmission_run s readable retransmitting)]
      exact robust.stopped s none holds (.inr rfl)
    | none =>
      rw [left_of_error (cwACStopRetransmission_crashes s readable retransmitting)]
      exact robust.stopped s s.messages holds (.inl rfl)

theorem keeps_completeInterfaceCommand : Keeps Inv completeInterfaceCommand :=
  keeps_get.bind fun _ =>
    Keeps.ite (keeps_modify fun s => robust.interfaceCommand s 1 false) (keeps_pure _)

theorem keeps_cwCloseThread : Keeps Inv cwCloseThread := by
  refine robust.keeps_cancelCurrentTimer.bind fun _ => ?_
  refine robust.keeps_cwACStopRetransmission.bind fun _ => keeps_get.bind fun _ => ?_
  refine Keeps.ite (Keeps.bind ?_ fun _ => keeps_throw _) (keeps_throw _)
  exact keeps_modify fun s => robust.interfaceCommand s 1 false

theorem keeps_requestOrClose (added : Bool) : Keeps Inv (requestOrClose added) := by
  refine Keeps.bind ?_ fun added => (keeps_cwErr added).bind fun went => ?_
  · exact (keeps_modify fun s => robust.currentTimer s added).bind fun _ => keeps_pure added
  · exact Keeps.ite (keeps_pure _) robust.keeps_cwCloseThread

theorem keeps_unhandled (lastError : Option CWErrorCode) : Keeps Inv (unhandled lastError) := by
  refine (keeps_modify fun s => robust.lastError s lastError).bind fun _ => ?_
  split
  · exact keeps_throw _
  · exact keeps_throw _
  · exact keeps_pure _

theorem keeps_handleFailure : Keeps Inv handleFailure := by
  refine keeps_cwErrorGetLastErrorCode.bind fun code => Keeps.ite ?_ ?_
  · exact keeps_cwErrorHandleLast.bind fun _ => keeps_pure _
  · exact keeps_cwErrorHandleLast.bind fun _ => robust.keeps_cwCloseThread

/-! ## Control messages -/

theorem keeps_cwACParseGenericRunMessage (header : ControlHeader) :
    Keeps Inv (cwACParseGenericRunMessage header) := by
  refine Keeps.ite (keeps_pure true) (keeps_get.bind fun s => Keeps.ite ?_ (keeps_pure true))
  exact robust.keeps_raiseError _

theorem keeps_cwRestartNeighborDeadTimer (added : Bool) :
    Keeps Inv (cwRestartNeighborDeadTimer added) :=
  robust.keeps_cancelCurrentTimer.bind fun _ => robust.keeps_requestOrClose added

theorem keeps_cwSaveConfigurationUpdateResponseMessage (m : ControlMessage) :
    Keeps Inv (cwSaveConfigurationUpdateResponseMessage m) := by
  rw [cwSaveConfigurationUpdateResponseMessage]
  cases m.vendorValues with
  | none => exact keeps_modify fun s => robust.configuration s _
  | some payload => exact Keeps.ite (keeps_modify robust.isRequestClose) (keeps_pure _)

theorem keeps_acceptResponse (m : ControlMessage) : Keeps Inv (acceptResponse m) :=
  robust.keeps_cwACStopRetransmission.bind fun _ =>
    robust.keeps_cwRestartNeighborDeadTimer m.timerAdded

theorem keeps_sendAnswer (m : ControlMessage) : Keeps Inv (sendAnswer m) := by
  rw [sendAnswer]
  cases m.assembly with
  | assembled fragments => exact robust.keeps_sendEach fragments m.taken
  | fails raised => exact robust.keeps_call _

theorem keeps_handleControl (m : ControlMessage) : Keeps Inv (handleControl m) := by
  have answered : Keeps Inv (sendAnswer m) := robust.keeps_sendAnswer m
  have restarted : Keeps Inv (cwRestartNeighborDeadTimer m.timerAdded) :=
    robust.keeps_cwRestartNeighborDeadTimer m.timerAdded
  have accepted : Keeps Inv (acceptResponse m) := robust.keeps_acceptResponse m
  have completed : Keeps Inv completeInterfaceCommand := robust.keeps_completeInterfaceCommand
  have parsed {rest : Thread Bool} (next : Keeps Inv rest) :
      Keeps Inv (orReturn (call m.parse) rest) :=
    keeps_orReturn (robust.keeps_call m.parse) next
  rw [handleControl]
  cases MessageType.ofValue m.header.messageTypeValue with
  | none => exact answered
  | some messageType =>
    cases messageType with
    | configureUpdateResponse =>
      refine parsed (accepted.bind fun _ => Keeps.bind ?_ fun _ => ?_)
      · exact robust.keeps_cwSaveConfigurationUpdateResponseMessage m
      · exact completed.bind fun _ => keeps_pure true
    | stationConfigurationResponse => exact parsed (accepted.bind fun _ => keeps_pure true)
    | clearConfigurationResponse =>
      exact parsed (accepted.bind fun _ => completed.bind fun _ => keeps_pure true)
    | wlanConfigurationResponse =>
      refine Keeps.bind (keeps_modify fun s => robust.configuration s _) fun _ => ?_
      exact parsed (accepted.bind fun _ => completed.bind fun _ => keeps_pure true)
    | changeStateEventRequest =>
      exact parsed (restarted.bind fun _ => keeps_orReturn (robust.keeps_call m.save) answered)
    | wtpEventRequest =>
      exact parsed (restarted.bind fun _ => keeps_orReturn (robust.keeps_call m.save) answered)
    | echoRequest => exact parsed (restarted.bind fun _ => answered)
    | dataTransferRequest => exact parsed (restarted.bind fun _ => answered)

end Robust

/-- The invariant is also kept as the access controller sends its requests, again and again. -/
structure Steady (Inv : WTPManager → Prop) : Prop extends Robust Inv where
  request : ∀ msgType seqNum fragments taken timerAdded,
    Keeps Inv (sendRequest msgType seqNum fragments taken timerAdded)
  softTimer : ∀ maxRetransmit taken timerAdded,
    Keeps Inv (cwSoftTimerExpiredHandler maxRetransmit taken timerAdded)

namespace Steady

variable (steady : Steady Inv)

include steady

theorem keeps_acEnterRun (entered : Keeps Inv (enterState .run)) (m : RunMessage) :
    Keeps Inv (acEnterRun m) := by
  cases m with
  | data result => exact steady.keeps_call result
  | association seqNum assembly taken timerAdded =>
    cases assembly with
    | assembled fragments => exact (steady.request _ _ _ _ _).bind fun _ => keeps_pure true
    | fails raised => exact (steady.keeps_call _).bind fun _ => keeps_pure true
  | control m =>
    refine keeps_orReturn (steady.keeps_cwACParseGenericRunMessage m.header) ?_
    exact keeps_orReturn (steady.keeps_handleControl m) entered

theorem keeps_handleCommand (command : InterfaceCommand) (seqNum : UInt8) (assembly : Assembly)
    (taken : List Bool) (timerAdded : Bool) :
    Keeps Inv (handleCommand command seqNum assembly taken timerAdded) := by
  have marked (sent : Bool) : Keeps Inv (do
      if sent then modify fun s => { s with interfaceCommandProgress := true }
      else modify fun s => { s with interfaceResult := 0 }
      unblockSignals : Thread Unit) := by
    have unblocked : Keeps Inv unblockSignals := keeps_modify fun s => steady.criticalBlocked s false
    refine Keeps.ite (Keeps.bind ?_ fun _ => unblocked) (Keeps.bind ?_ fun _ => unblocked)
    · exact keeps_modify fun s => steady.interfaceCommand s s.interfaceResult true
    · exact keeps_modify fun s => steady.interfaceCommand s 0 s.interfaceCommandProgress
  refine (keeps_modify fun s => steady.criticalBlocked s true).bind fun _ => ?_
  cases assembly with
  | assembled fragments => exact (steady.request _ _ _ _ _).bind marked
  | fails raised => exact (steady.keeps_call _).bind marked

theorem keeps_handOver (seqNum : UInt8) (fragments : List Packet) (taken : List Bool)
    (timerAdded : Bool) : Keeps Inv (handOver seqNum fragments taken timerAdded) := by
  refine keeps_get.bind fun s => (steady.request _ _ _ _ _).bind fun _ => ?_
  exact keeps_modify fun s' => steady.lastError s' s.lastError

end Steady

/-! ## Steps -/

theorem Robust.keeps_turn (robust : Robust Inv) {program : Thread Unit} (kept : Keeps Inv program) :
    Keeps Inv (turn program) :=
  keeps_get.bind fun _ => Keeps.ite robust.keeps_cwCloseThread kept

theorem Robust.delivered (robust : Robust Inv) {w : Served} (holds : Inv w.session) :
    Inv w.delivered.session := by
  rw [Served.delivered]
  split
  · exact robust.isRequestClose _ holds
  · exact holds

/-- The program leaves a session with the invariant, and so does the delivery of a signal. -/
theorem Robust.after (robust : Robust Inv) {w : Served} {program : Thread Unit}
    (kept : Inv (left program w.session)) (received : Bool)
    (outstanding : WTPManager → Option Awaited) :
    Inv (w.after program received outstanding).session := by
  rw [Served.after]
  cases result : program w.session with
  | error ending s' =>
    rw [left_of_error result] at kept
    exact kept
  | ok _ s' =>
    rw [left_of_ok result] at kept
    exact robust.delivered kept

/-- What is not a packet keeps the invariant. -/
theorem Steady.exec (steady : Steady Inv) {w : Served} {event : SessionEvent} {outcome : Outcome}
    (other : ∀ p, event ≠ .packet p) (happens : w.exec event = some outcome)
    (holds : Inv w.session) : Inv outcome.session := by
  cases event with
  | packet p => exact absurd rfl (other p)
  | command command seqNum assembly taken timerAdded =>
    cases happens
    have kept := steady.keeps_handleCommand command seqNum assembly taken timerAdded
    exact steady.after (steady.keeps_turn kept _ holds) _ _
  | handedOver seqNum fragments taken timerAdded =>
    cases happens
    exact steady.after (steady.keeps_handOver seqNum fragments taken timerAdded _ holds) _ _
  | criticalTimerExpired =>
    rw [Served.exec] at happens
    split at happens
    next =>
      cases happens
      have cancelled := steady.currentTimer _ false holds
      exact steady.delivered cancelled
    next => cases happens
  | softTimerExpired maxRetransmit taken timerAdded =>
    cases happens
    exact steady.after (steady.softTimer maxRetransmit taken timerAdded _ holds) _ _
  | wakes =>
    cases happens
    exact steady.after (steady.keeps_turn (keeps_pure _) _ holds) _ _

end WlanController.Sessions
