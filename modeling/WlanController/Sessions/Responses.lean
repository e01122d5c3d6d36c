import WlanController.Sessions.Keeping

/-!
# Responses to the requests of the access controller

A request is stored with the type and the number of its response.  Only the number is looked
at when a response comes, and it is set to zero, a number that requests do have, when nothing
is awaited.
-/

namespace WlanController.Sessions

open Programs

/-- What a session knows of its request: the retransmission, the command that waits for the
    response, and the configuration that responses confirm. -/
structure Pending where
  messages : Option (List Packet)
  messagesCount : Nat
  retransmissionCount : Nat
  currentPacketTimer : Bool
  isRetransmitting : Bool
  responseType : Int
  responseSeqNum : Int
  interfaceCommandProgress : Bool
  interfaceResult : Int
  configuration : Configuration

def WTPManager.pending (s : WTPManager) : Pending where
  messages := s.messages
  messagesCount := s.messagesCount
  retransmissionCount := s.retransmissionCount
  currentPacketTimer := s.currentPacketTimer
  isRetransmitting := s.isRetransmitting
  responseType := s.responseType
  responseSeqNum := s.responseSeqNum
  interfaceCommandProgress := s.interfaceCommandProgress
  interfaceResult := s.interfaceResult
  configuration := s.configuration

/-- The types of the responses to the requests that the access controller sends. -/
def MessageType.isResponse : MessageType → Bool
  | configureUpdateResponse | stationConfigurationResponse | clearConfigurationResponse
  | wlanConfigurationResponse => true
  | changeStateEventRequest | echoRequest | dataTransferRequest | wtpEventRequest => false

/-- The thread gets as far as `acceptResponse`. -/
def ControlMessage.ProcessedAsResponse (m : ControlMessage) (s : WTPManager) : Prop :=
  ¬ Unexpected s m.header ∧
    (∃ messageType, MessageType.ofValue m.header.messageTypeValue = some messageType ∧
      messageType.isResponse = true) ∧
    m.parse = .succeeds

/-- The message is a response, but not to the request that is outstanding. -/
def Unawaited (w : Served) (m : ControlMessage) : Prop :=
  m.header.messageTypeValue % 2 ≠ 1 ∧
    ∀ awaited, w.outstanding = some awaited → ¬ m.isResponseTo awaited

/-- A response that is received in RUN is processed only if it answers the outstanding
    request, and otherwise nothing becomes of it. -/
def OnlyAwaited (w : Served) : SessionEvent → Prop
  | .packet p => ∀ request m outcome, Delivers w p ⟨request, .control m⟩ →
      w.session.currentState = .run → Unawaited w m → w.exec (.packet p) = some outcome →
      ¬ m.ProcessedAsResponse w.session ∧ outcome.session.pending = w.session.pending
  | .command _ _ _ _ _ | .handedOver _ _ _ _ | .criticalTimerExpired | .softTimerExpired _ _ _
  | .wakes => True

/-! ## What an unawaited response must not do -/

section Conditions

variable (s : WTPManager)

/-- The error does not close the session, or there is nothing to be lost. -/
def FailsHarmlessly (lastError : Option CWErrorCode) : Prop :=
  lastError = none ∨ lastError = some .outOfMemory ∨ lastError = some .invalidFormat ∨
    s.isRetransmitting = false ∧ s.interfaceCommandProgress = false

/-- The answer to a message of a type that is not known. -/
def AnswersHarmlessly (m : ControlMessage) : Prop :=
  match m.assembly with
  | .assembled fragments => allTaken fragments m.taken = true ∨ FailsHarmlessly s (some .sending)
  | .fails raised => FailsHarmlessly s (raised.or s.lastError)

/-- The body cannot be parsed, and no BSSID has been stored before that was found out. -/
def ParsesHarmlessly (m : ControlMessage) (messageType : MessageType) : Prop :=
  m.parse ≠ .succeeds ∧ FailsHarmlessly s (m.parse.leaves s.lastError) ∧
    (messageType = .wlanConfigurationResponse →
      m.assigned.foldl Configuration.assign s.configuration = s.configuration)

/-- The number is not the stored one, or the response comes to nothing after all. -/
def PassedOver (m : ControlMessage) : Prop :=
  Unexpected s m.header ∨
    match MessageType.ofValue m.header.messageTypeValue with
    | none => AnswersHarmlessly s m
    | some messageType => ParsesHarmlessly s m messageType

end Conditions

/-- Responses that do not answer the outstanding request are passed over. -/
def PassesOverUnawaited (w : Served) : SessionEvent → Prop
  | .packet p => ∀ request m, Delivers w p ⟨request, .control m⟩ →
      w.session.currentState = .run → Unawaited w m →
      PassedOver { w.session with lastError := pendingAfter w.session.lastError p.security } m
  | .command _ _ _ _ _ | .handedOver _ _ _ _ | .criticalTimerExpired | .softTimerExpired _ _ _
  | .wakes => True

/-! ## What the end of a session does -/

section Failures

variable {s : WTPManager}

/-- Nothing is lost with a session only if it has no request and no command waits. -/
theorem left_cwCloseThread_pending_iff {pending : Pending}
    (retransmitting : pending.isRetransmitting = s.isRetransmitting)
    (waiting : pending.interfaceCommandProgress = s.interfaceCommandProgress) :
    (left cwCloseThread s).pending = pending ↔
      s.pending = pending ∧ s.isRetransmitting = false ∧ s.interfaceCommandProgress = false := by
  cases idle : s.isRetransmitting with
  | true =>
    obtain ⟨ending, s', ended, -, stopped⟩ := cwCloseThread_run s
    rw [left_of_error ended]
    refine iff_of_false (fun same => ?_) (fun lost => by cases lost.2.1)
    have running : pending.isRetransmitting = false := same ▸ stopped
    rw [retransmitting, idle] at running
    cases running
  | false =>
    have stopped := cwACStopRetransmission_idle { s with currentTimer := false } idle
    rw [left_of_error (cwCloseThread_of_stopped s stopped)]
    cases progress : s.interfaceCommandProgress with
    | true =>
      refine iff_of_false (fun same => ?_) (fun lost => by cases lost.2.2)
      have done : pending.interfaceCommandProgress = false := same ▸ rfl
      rw [waiting, progress] at done
      cases done
    | false => simp [WTPManager.pending, progress]

/-- A failure is harmless if it does not close the session, or closes one with nothing to
    lose. -/
theorem left_handleFailure_pending_iff {pending : Pending}
    (retransmitting : pending.isRetransmitting = s.isRetransmitting)
    (waiting : pending.interfaceCommandProgress = s.interfaceCommandProgress) :
    (left handleFailure s).pending = pending ↔
      s.pending = pending ∧ FailsHarmlessly s s.lastError := by
  have closes := left_cwCloseThread_pending_iff retransmitting waiting
  have harmless (same : left handleFailure s = s) (passed : FailsHarmlessly s s.lastError) :
      (left handleFailure s).pending = pending ↔
        s.pending = pending ∧ FailsHarmlessly s s.lastError := by
    rw [same]
    exact (and_iff_left passed).symm
  cases lastError : s.lastError with
  | none =>
    rw [← lastError]
    refine harmless ?_ (.inl lastError)
    simp [left, handleFailure, cwErrorGetLastErrorCode, cwErrorHandleLast, lastError]
  | some code =>
    rw [← lastError]
    cases code with
    | outOfMemory =>
      refine harmless ?_ (.inr (.inl lastError))
      simp [left, handleFailure, cwErrorGetLastErrorCode, cwErrorHandleLast, lastError]
    | invalidFormat =>
      refine harmless ?_ (.inr (.inr (.inl lastError)))
      simp [left, handleFailure, cwErrorGetLastErrorCode, cwErrorHandleLast, lastError]
    | _ =>
      have closed : left handleFailure s = left cwCloseThread s := left_congr (by
        simp [handleFailure, cwErrorGetLastErrorCode, cwErrorHandleLast, lastError])
      rw [closed, closes, lastError]
      simp [FailsHarmlessly]

end Failures

/-! ## Responses in RUN -/

/-- Responses have even types. -/
theorem isResponse_of_even {value : UInt32} {messageType : MessageType}
    (known : MessageType.ofValue value = some messageType) (even : value % 2 ≠ 1) :
    messageType.isResponse = true := by
  rw [MessageType.ofValue] at known
  have same : messageType.value = value := by simpa using List.find?_some known
  subst same
  cases messageType with
  | configureUpdateResponse => rfl
  | stationConfigurationResponse => rfl
  | clearConfigurationResponse => rfl
  | wlanConfigurationResponse => rfl
  | _ => exact absurd rfl even

section Messages

variable {s : WTPManager} {m : ControlMessage}

/-- What `acceptResponse` is called for. -/
theorem handleControl_of_parsed {messageType : MessageType}
    (known : MessageType.ofValue m.header.messageTypeValue = some messageType)
    (response : messageType.isResponse = true) (parsed : m.parse = .succeeds) :
    ∃ configuration rest, handleControl m s =
      (do acceptResponse m; rest : Thread Bool) { s with configuration := configuration } := by
  rw [handleControl, known]
  cases messageType with
  | configureUpdateResponse => exact ⟨s.configuration, _, orReturn_call_succeeds s parsed _⟩
  | stationConfigurationResponse => exact ⟨s.configuration, _, orReturn_call_succeeds s parsed _⟩
  | clearConfigurationResponse => exact ⟨s.configuration, _, orReturn_call_succeeds s parsed _⟩
  | wlanConfigurationResponse =>
    exact ⟨m.assigned.foldl Configuration.assign s.configuration, _,
      orReturn_call_succeeds _ parsed _⟩
  | _ => cases response

/-- The BSSIDs of a response that cannot be parsed. -/
theorem handleControl_of_unparsed {messageType : MessageType}
    (known : MessageType.ofValue m.header.messageTypeValue = some messageType)
    (response : messageType.isResponse = true) (unparsed : m.parse ≠ .succeeds) :
    handleControl m s = .ok false
      { s with
        configuration := if messageType = .wlanConfigurationResponse then
            m.assigned.foldl Configuration.assign s.configuration
          else s.configuration
        lastError := m.parse.leaves s.lastError } := by
  rw [handleControl, known]
  cases messageType with
  | configureUpdateResponse => exact orReturn_call_fails s unparsed _
  | stationConfigurationResponse => exact orReturn_call_fails s unparsed _
  | clearConfigurationResponse => exact orReturn_call_fails s unparsed _
  | wlanConfigurationResponse => exact orReturn_call_fails _ unparsed _
  | _ => cases response

theorem acEnterRun_of_expected (expected : ¬ Unexpected s m.header) :
    acEnterRun (.control m) s = orReturn (handleControl m) (enterState .run) s :=
  orReturn_run_of_true s (cwACParseGenericRunMessage_of_expected s expected)

theorem handle_of_run (request : Request) (inRun : s.currentState = .run) :
    handle ⟨request, .control m⟩ s = acEnterRun (.control m) s := by
  rw [handle_run, inRun]

/-- A response that is processed stops the retransmission, whatever follows. -/
theorem ControlMessage.ProcessedAsResponse.accepts (processed : m.ProcessedAsResponse s) :
    ∃ configuration rest, acEnterRun (.control m) s =
      orReturn (do acceptResponse m; rest) (enterState .run)
        { s with configuration := configuration } := by
  obtain ⟨expected, ⟨messageType, known, response⟩, parsed⟩ := processed
  obtain ⟨configuration, rest, accepted⟩ := handleControl_of_parsed (s := s) known response parsed
  refine ⟨configuration, rest, (acEnterRun_of_expected expected).trans ?_⟩
  exact orReturn_congr s accepted _

/-- The failure of a handler that has not touched the request. -/
theorem left_dispatch_of_failed {message : SessionMessage} {s' : WTPManager}
    (failed : handle message s = .ok false s')
    (retransmitting : s'.isRetransmitting = s.isRetransmitting)
    (waiting : s'.interfaceCommandProgress = s.interfaceCommandProgress) :
    (left (dispatch message) s).pending = s.pending ↔
      s'.pending = s.pending ∧ FailsHarmlessly s' s'.lastError := by
  rw [left_congr (dispatch_of_failed failed)]
  exact left_handleFailure_pending_iff retransmitting.symm waiting.symm

/-- A message of a type that is not known only has an answer. -/
theorem answersHarmlessly_iff {request : Request} (inRun : s.currentState = .run)
    (expected : ¬ Unexpected s m.header)
    (unknown : MessageType.ofValue m.header.messageTypeValue = none) :
    (left (dispatch ⟨request, .control m⟩) s).pending = s.pending ↔ AnswersHarmlessly s m := by
  have handled : handle ⟨request, .control m⟩ s = orReturn (sendAnswer m) (enterState .run) s := by
    refine (handle_of_run request inRun).trans ((acEnterRun_of_expected expected).trans ?_)
    simp only [orReturn, bind_run, handleControl, unknown]
  cases assembly : m.assembly with
  | assembled fragments =>
    have answered : sendAnswer m s = sendEach fragments m.taken s := by
      rw [sendAnswer, assembly]
    rw [sendEach_run] at answered
    rw [AnswersHarmlessly, assembly]
    cases all : allTaken fragments m.taken with
    | true =>
      rw [all] at answered
      rw [orReturn_run_of_true s answered] at handled
      rw [left_of_ok (dispatch_of_handled handled)]
      exact iff_of_true rfl (.inl all)
    | false =>
      rw [all] at answered
      rw [orReturn_run_of_false s answered] at handled
      rw [left_dispatch_of_failed handled rfl rfl]
      simp only [all, Bool.false_eq_true, false_or]
      exact and_iff_right rfl
  | fails raised =>
    have answered : sendAnswer m s = call (.fails raised) s := by
      rw [sendAnswer, assembly]
    rw [call_run] at answered
    rw [orReturn_run_of_false s answered] at handled
    rw [left_dispatch_of_failed handled rfl rfl, AnswersHarmlessly, assembly]
    exact and_iff_right rfl

theorem parsesHarmlessly_iff {request : Request} {messageType : MessageType}
    (inRun : s.currentState = .run) (expected : ¬ Unexpected s m.header)
    (known : MessageType.ofValue m.header.messageTypeValue = some messageType)
    (response : messageType.isResponse = true) :
    (¬ m.ProcessedAsResponse s ∧
        (left (dispatch ⟨request, .control m⟩) s).pending = s.pending) ↔
      ParsesHarmlessly s m messageType := by
  by_cases parsed : m.parse = .succeeds
  · refine iff_of_false (fun rejected => ?_) fun harmless => harmless.1 parsed
    exact rejected.1 ⟨expected, ⟨messageType, known, response⟩, parsed⟩
  · have handled := (handle_of_run request inRun).trans ((acEnterRun_of_expected expected).trans
      (orReturn_run_of_false s (handleControl_of_unparsed known response parsed)))
    have unprocessed : ¬ m.ProcessedAsResponse s := fun processed => parsed processed.2.2
    rw [left_dispatch_of_failed handled rfl rfl, and_iff_right unprocessed, ParsesHarmlessly,
      and_iff_right parsed, and_comm]
    refine and_congr Iff.rfl ?_
    by_cases assigns : messageType = .wlanConfigurationResponse
    · simp [WTPManager.pending, assigns]
    · simp [WTPManager.pending, assigns]

/-- Exactly the responses that are passed over leave the request alone. -/
theorem passedOver_iff {request : Request} (inRun : s.currentState = .run)
    (even : m.header.messageTypeValue % 2 ≠ 1) :
    (¬ m.ProcessedAsResponse s ∧
        (left (dispatch ⟨request, .control m⟩) s).pending = s.pending) ↔ PassedOver s m := by
  rw [PassedOver]
  by_cases unexpected : Unexpected s m.header
  · have handled := (handle_of_run request inRun).trans
      (orReturn_run_of_false s (cwACParseGenericRunMessage_of_unexpected s unexpected))
    have ignored := (left_dispatch_of_failed handled rfl rfl).mpr ⟨rfl, .inr (.inr (.inl rfl))⟩
    exact iff_of_true ⟨fun processed => processed.1 unexpected, ignored⟩ (.inl unexpected)
  · rw [or_iff_right unexpected]
    cases known : MessageType.ofValue m.header.messageTypeValue with
    | some messageType =>
      exact parsesHarmlessly_iff inRun unexpected known (isResponse_of_even known even)
    | none =>
      have unprocessed : ¬ m.ProcessedAsResponse s := fun processed => by
        obtain ⟨messageType, found, -⟩ := processed.2.1
        rw [known] at found
        cases found
      rw [and_iff_right unprocessed]
      exact answersHarmlessly_iff inRun unexpected known

end Messages

/-! ## Steps -/

section Steps

variable {w : Served} {p : Received}

theorem delivered_pending (w : Served) : w.delivered.session.pending = w.session.pending := by
  rw [Served.delivered]
  split <;> rfl

/-- What a message leaves of the request is what its handler leaves. -/
theorem packet_pending {m : SessionMessage} (delivers : Delivers w p m)
    (outstanding : WTPManager → Option Awaited) :
    (w.after (turn (handlePacket p)) true outstanding).session.pending =
      (left (dispatch m) { w.session with
        criticalBlocked := true
        lastError := pendingAfter w.session.lastError p.security }).pending := by
  obtain ⟨message, live, passes⟩ := delivers
  have handled := (turn_of_open live).trans (handlePacket_of_message passes message)
  cases result : dispatch m { w.session with
      criticalBlocked := true, lastError := pendingAfter w.session.lastError p.security } with
  | ok _ s' =>
    rw [result] at handled
    rw [after_of_ok handled, left_of_ok result]
    exact delivered_pending _
  | error ending s' =>
    rw [result] at handled
    rw [after_of_error handled, left_of_error result]
    rfl

theorem onlyAwaited_iff (w : Served) (event : SessionEvent) :
    OnlyAwaited w event ↔ PassesOverUnawaited w event := by
  cases event with
  | packet p =>
    have here {request : Request} {m : ControlMessage} (delivers : Delivers w p ⟨request, .control m⟩)
        (inRun : w.session.currentState = .run) (unawaited : Unawaited w m) :
        (¬ m.ProcessedAsResponse w.session ∧
            (w.after (turn (handlePacket p)) true (w.outstandingAfterPacket p)).session.pending =
              w.session.pending) ↔
          PassedOver
            { w.session with lastError := pendingAfter w.session.lastError p.security } m := by
      rw [packet_pending delivers]
      -- the signals make no difference to what a response does
      exact passedOver_iff (s := { w.session with
        criticalBlocked := true
        lastError := pendingAfter w.session.lastError p.security }) inRun unawaited.1
    constructor
    · intro only request m delivers inRun unawaited
      exact (here delivers inRun unawaited).mp (only request m _ delivers inRun unawaited rfl)
    · intro passes request m outcome delivers inRun unawaited happens
      cases happens
      exact (here delivers inRun unawaited).mpr (passes request m delivers inRun unawaited)
  | _ => exact Iff.rfl

end Steps

/-! ## Runs -/

/-- Along every run of a session only the response to the outstanding request is processed in
    RUN and no other response touches the request, exactly when the others are passed over. -/
theorem run_onlyAwaited_iff (slot : WTPManager) (events : List SessionEvent) :
    Run.AllSteps SessionStep OnlyAwaited (.start slot) events ↔
      Run.AllSteps SessionStep PassesOverUnawaited (.start slot) events :=
  Run.AllSteps.congr onlyAwaited_iff _ events

/-- A response to some update of the configuration. -/
def updateResponse (seqNum : UInt8) : ControlMessage where
  header := ⟨MessageType.configureUpdateResponse.value, seqNum⟩
  parse := .succeeds
  resultCode := cwProtocolSuccess
  vendorValues := none
  assigned := []
  forwarded := false
  save := .succeeds
  assembly := .assembled []
  taken := []
  timerAdded := true

/-- A session enters RUN and sends the request for a station, and a response of another type
    comes with the number of that request. -/
theorem updateResponse_not_onlyAwaited :
    ¬ Run.AllSteps SessionStep OnlyAwaited (.start emptySlot)
      ([.packet (packetOf ⟨plainRequest, .data .succeeds⟩),
        .packet (packetOf ⟨plainRequest, .data .succeeds⟩),
        .packet (packetOf ⟨plainRequest, .data .succeeds⟩),
        .packet (packetOf ⟨plainRequest, .association 7 (.assembled [[1, 2, 3]]) [] true⟩)] ++
        [.packet (packetOf ⟨plainRequest, .control (updateResponse 7)⟩)]) := by
  intro only
  have unawaited {w : Served} (sent : w.outstanding = some ⟨.stationConfigurationResponse, 7⟩) :
      Unawaited w (updateResponse 7) := by
    refine ⟨by decide, fun awaited outstanding answers => ?_⟩
    rw [sent] at outstanding
    cases outstanding
    exact absurd answers.1 (by decide)
  have requested := only.at_end (.cons rfl (.cons rfl (.cons rfl (.cons rfl (.nil _)))))
  have rejected := requested plainRequest (updateResponse 7) _
    ⟨rfl, rfl, fun _ absent => nomatch absent⟩ rfl (unawaited rfl) rfl
  exact rejected.1 ⟨fun unexpected => unexpected.2 rfl, ⟨.configureUpdateResponse, rfl, rfl⟩, rfl⟩

end WlanController.Sessions
