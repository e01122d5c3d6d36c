import WlanController.Sessions.Keeping

/-!
# The critical timer

The critical timer closes a session that makes no progress.  It has to run, with its signal
unblocked, whenever the thread waits for a packet; but the handlers of JOIN and DATA_CHECK
cancel it for good, and a turn that finds no whole message leaves its signal blocked.
-/

namespace WlanController.Sessions

open Programs

/-- The session is closed as soon as its thread wakes up. -/
def ClosesNow (w : Served) : Prop := ∃ s, w.exec .wakes = some (.ends .closed s)

/-- The session is closed at once, or after its critical timer has expired. -/
def Guarded (w : Served) : Prop :=
  ClosesNow w ∨ ∃ w', w.exec .criticalTimerExpired = some (.continues w') ∧ ClosesNow w'

/-- The session is guarded once a packet has been received, or the thread ends, but not
    without giving back the slot. -/
def Outcome.Stays : Outcome → Prop
  | continues w => w.received = true → Guarded w
  | ends ending _ => ending ≠ .exited

def StaysGuarded (w : Served) (event : SessionEvent) : Prop :=
  ∀ outcome, w.exec event = some outcome → outcome.Stays

/-! ## What a packet must not do -/

/-- The timer runs, or it has expired, or the session has been asked to close. -/
def Armed (s : WTPManager) (expired : Bool) : Prop :=
  s.isRequestClose = true ∨ s.currentTimer = true ∨ expired = true

/-- A failure closes the session, but not for want of memory, and a message that does not
    fit is ignored. -/
def FailsSafely (armed : Prop) (lastError : Option CWErrorCode) : Prop :=
  lastError ≠ some .outOfMemory ∧ (lastError = some .invalidFormat → armed)

def CallSafe (result : Call) (lastError : Option CWErrorCode) (armed rest : Prop) : Prop :=
  (result = .succeeds → rest) ∧
    (result ≠ .succeeds → FailsSafely armed (result.leaves lastError))

/-- Messages that are assembled and not taken close the session. -/
def AnswerSafe (assembly : Assembly) (taken : List Bool) (lastError : Option CWErrorCode)
    (armed rest : Prop) : Prop :=
  match assembly with
  | .assembled fragments => allTaken fragments taken = true → rest
  | .fails raised => FailsSafely armed (raised.or lastError)

def RequestSafe (added : Bool) (lastError : Option CWErrorCode) (rest : Prop) : Prop :=
  (added = true ∨ Passed lastError → rest) ∧
    (¬ (added = true ∨ Passed lastError) → lastError ≠ some .outOfMemory)

section Handlers

variable (s : WTPManager) (expired : Bool)

/-- The session once its timer has been cancelled, and perhaps requested again. -/
def ArmedWith (added : Bool) : Prop := Armed { s with currentTimer := added } expired

/-- The timer of JOIN is cancelled, and CONFIGURE has none. -/
def JoinSafe (r : Request) : Prop :=
  CallSafe r.parse s.lastError (Armed s expired) <|
    r.allocated = true ∧
      AnswerSafe r.assembly r.taken (r.save.leaves s.lastError) (ArmedWith s expired false)
        (ArmedWith s expired false)

def ConfigureSafe (r : Request) : Prop :=
  CallSafe r.parse s.lastError (Armed s expired) <|
    CallSafe r.save s.lastError (Armed s expired) <|
      AnswerSafe r.assembly r.taken s.lastError (Armed s expired) <|
        RequestSafe r.timerAdded s.lastError (ArmedWith s expired r.timerAdded)

/-- The timer of DATA_CHECK is cancelled before the message is parsed, and RUN begins with
    none. -/
def DataCheckSafe (r : Request) : Prop :=
  r.allocated = true ∧
    CallSafe r.parse s.lastError (ArmedWith s expired false)
      (CallSafe r.save s.lastError (ArmedWith s expired false)
        (AnswerSafe r.assembly r.taken s.lastError (ArmedWith s expired false)
          (ArmedWith s expired false)))

/-- The body of a message in RUN, whose timer is requested again once it has been parsed. -/
def BodySafe (m : ControlMessage) (rest : Prop) : Prop :=
  CallSafe m.parse s.lastError (Armed s expired) (RequestSafe m.timerAdded s.lastError rest)

def ControlSafe (m : ControlMessage) : Prop :=
  let restarted := ArmedWith s expired m.timerAdded
  let answered (armed : Prop) := AnswerSafe m.assembly m.taken s.lastError armed armed
  match MessageType.ofValue m.header.messageTypeValue with
  | none => answered (Armed s expired)
  | some .configureUpdateResponse => BodySafe s expired m (m.Commits ∨ restarted)
  | some .stationConfigurationResponse | some .clearConfigurationResponse
  | some .wlanConfigurationResponse => BodySafe s expired m restarted
  | some .changeStateEventRequest | some .wtpEventRequest =>
    BodySafe s expired m (CallSafe m.save s.lastError restarted (answered restarted))
  | some .echoRequest | some .dataTransferRequest => BodySafe s expired m (answered restarted)

def RunSafe : RunMessage → Prop
  | .data result => CallSafe result s.lastError (Armed s expired) (Armed s expired)
  | .association _ _ _ _ => Armed s expired
  | .control m =>
    (Unexpected s m.header → Armed s expired) ∧
      (¬ Unexpected s m.header → ControlSafe s expired m)

def MessageSafe (m : SessionMessage) : Prop :=
  match s.currentState with
  | .join => JoinSafe s expired m.request
  | .configure => ConfigureSafe s expired m.request
  | .dataCheck => DataCheckSafe s expired m.request
  | .run => RunSafe s expired m.run

/-- A packet without a message leaves the signal blocked, unless it ends the process. -/
def PacketSafe (p : Received) : Prop :=
  let lastError := pendingAfter s.lastError p.security
  (Passes p.security s.lastError →
    match p.reassembled with
    | .message m => MessageSafe { s with lastError := lastError } expired m
    | .fails raised => raised.or lastError = none) ∧
  (¬ Passes p.security s.lastError → lastError = none)

end Handlers

/-- The packet leaves the timer armed, or it closes the session. -/
def Rearms (w : Served) : SessionEvent → Prop
  | .packet p => w.session.isRequestClose = true ∨ PacketSafe w.session w.expired p
  | .command _ _ _ _ _ | .handedOver _ _ _ _ | .criticalTimerExpired | .softTimerExpired _ _ _
  | .wakes => True

/-! ## What the handlers make of the timer -/

/-- What a handler leaves, as the thread goes on from it. -/
def HandledSafely (expired : Bool) : EStateM.Result Ending WTPManager Bool → Prop
  | .ok true s => Armed s expired
  | .ok false s => FailsSafely (Armed s expired) s.lastError
  | .error ending _ => ending ≠ .exited

section Safe

variable {expired : Bool} {s : WTPManager} {rest : Thread Bool}

theorem safe_orReturn_call (result : Call) :
    HandledSafely expired (orReturn (call result) rest s) ↔
      CallSafe result s.lastError (Armed s expired) (HandledSafely expired (rest s)) := by
  by_cases succeeds : result = .succeeds
  · rw [orReturn_call_succeeds s succeeds]
    exact ⟨fun safe => ⟨fun _ => safe, fun fails => absurd succeeds fails⟩,
      fun safe => safe.1 succeeds⟩
  · rw [orReturn_call_fails s succeeds]
    exact ⟨fun safe => ⟨fun went => absurd went succeeds, fun _ => safe⟩,
      fun safe => safe.2 succeeds⟩

theorem failsSafely_sending {armed : Prop} : FailsSafely armed (some .sending) := by
  simp [FailsSafely]

theorem safe_orReturn_answer {r : Request} (next : Prop)
    (went : ∀ fragments, HandledSafely expired
      (rest { s with messages := none, messagesCount := 0, sent := s.sent ++ fragments }) ↔ next) :
    HandledSafely expired (orReturn (answer r) rest s) ↔
      AnswerSafe r.assembly r.taken s.lastError (Armed s expired) next := by
  cases assembly : r.assembly with
  | fails raised =>
    have unsent : ∀ fragments, ¬ r.Sent fragments := fun fragments sent => by
      rw [Request.Sent, assembly] at sent
      cases sent.1
    obtain ⟨_, _, _, failed, -⟩ := answer_of_not_sent s unsent
    rw [orReturn_run_of_false s failed, Request.answerError, assembly]
    exact Iff.rfl
  | assembled fragments =>
    by_cases all : allTaken fragments r.taken = true
    · rw [orReturn_run_of_true s (answer_of_sent s ⟨assembly, all⟩), went]
      exact ⟨fun safe _ => safe, fun safe => safe all⟩
    · have unsent : ∀ fragments, ¬ r.Sent fragments := fun other sent => by
        rw [Request.Sent, assembly] at sent
        cases sent.1
        exact all sent.2
      obtain ⟨_, _, _, failed, -⟩ := answer_of_not_sent s unsent
      rw [orReturn_run_of_false s failed, Request.answerError, assembly]
      exact iff_of_true failsSafely_sending fun went => absurd went all

theorem safe_requestOrClose (added : Bool) :
    HandledSafely expired ((do requestOrClose added; rest : Thread Bool) s) ↔
      RequestSafe added s.lastError
        (HandledSafely expired (rest { s with currentTimer := added })) := by
  rw [bind_run]
  cases requestOrClose_cases s added with
  | inl requested =>
    rw [requested.1]
    exact ⟨fun safe => ⟨fun _ => safe, fun fails => absurd requested.2 fails⟩,
      fun safe => safe.1 requested.2⟩
  | inr closed =>
    obtain ⟨notAdded, unpassed, ending, s', ended, exited⟩ := closed
    have fails : ¬ (added = true ∨ Passed s.lastError) := by
      simp [notAdded, unpassed]
    rw [ended]
    exact ⟨fun safe => ⟨fun went => absurd went fails, fun _ memory => safe (exited.mpr memory)⟩,
      fun safe memory => safe.2 fails (exited.mp memory)⟩

theorem acEnterJoin_safe_iff (r : Request) :
    HandledSafely expired (acEnterJoin r s) ↔ JoinSafe s expired r := by
  rw [acEnterJoin, safe_orReturn_call, JoinSafe]
  simp only [bind_run, cancelCurrentTimer, modify_run, call_run]
  cases r.allocated with
  | false =>
    -- there is no memory for the result code
    have unsafely : ¬ HandledSafely expired (raiseError .outOfMemory
        { s with currentTimer := false, lastError := r.save.leaves s.lastError }) :=
      fun safe => safe.1 rfl
    simp [unsafely]
  | true =>
    rw [if_pos rfl, safe_orReturn_answer (ArmedWith s expired false) fun _ => Iff.rfl]
    simp only [true_and]
    exact Iff.rfl

theorem acEnterConfigure_safe_iff (r : Request) :
    HandledSafely expired (acEnterConfigure r s) ↔ ConfigureSafe s expired r := by
  rw [acEnterConfigure, safe_orReturn_call, safe_orReturn_call,
    safe_orReturn_answer (RequestSafe r.timerAdded s.lastError (ArmedWith s expired r.timerAdded))
      fun _ => safe_requestOrClose r.timerAdded]
  exact Iff.rfl

theorem acEnterDataCheck_safe_iff (r : Request) :
    HandledSafely expired (acEnterDataCheck r s) ↔ DataCheckSafe s expired r := by
  simp only [acEnterDataCheck, bind_run, cancelCurrentTimer, modify_run, DataCheckSafe]
  cases r.allocated with
  | false =>
    have unsafely : ¬ HandledSafely expired
        (raiseError .outOfMemory { s with currentTimer := false }) := fun safe => safe.1 rfl
    simp [unsafely]
  | true =>
    rw [if_pos rfl, safe_orReturn_call, safe_orReturn_call,
      safe_orReturn_answer (ArmedWith s expired false) fun _ => Iff.rfl]
    simp only [true_and]
    exact Iff.rfl

/-! ## RUN -/

theorem safe_sendAnswer (m : ControlMessage) :
    HandledSafely expired (sendAnswer m s) ↔
      AnswerSafe m.assembly m.taken s.lastError (Armed s expired) (Armed s expired) := by
  rw [sendAnswer]
  cases m.assembly with
  | assembled fragments =>
    simp only [sendEach_run]
    cases all : allTaken fragments m.taken with
    | true => exact ⟨fun safe _ => safe, fun safe => safe all⟩
    | false => exact iff_of_true failsSafely_sending fun went => by simp [all] at went
  | fails raised =>
    simp only [call_run]
    exact Iff.rfl

theorem safe_cwRestartNeighborDeadTimer (added : Bool) :
    HandledSafely expired ((do cwRestartNeighborDeadTimer added; rest : Thread Bool) s) ↔
      RequestSafe added s.lastError
        (HandledSafely expired (rest { s with currentTimer := added })) := by
  have cancelled : (do cwRestartNeighborDeadTimer added; rest : Thread Bool) s =
      (do requestOrClose added; rest : Thread Bool) { s with currentTimer := false } := by
    simp only [bind_run, cwRestartNeighborDeadTimer, cancelCurrentTimer, modify_run]
  rw [cancelled]
  exact safe_requestOrClose added

theorem safe_acceptResponse (drained : Drained s) (m : ControlMessage) :
    HandledSafely expired ((do acceptResponse m; rest : Thread Bool) s) ↔
      RequestSafe m.timerAdded s.lastError
        (HandledSafely expired (rest { s.stopped with currentTimer := m.timerAdded })) := by
  have accepted : (do acceptResponse m; rest : Thread Bool) s =
      (do cwRestartNeighborDeadTimer m.timerAdded; rest : Thread Bool) s.stopped := by
    simp only [bind_run, acceptResponse, drained.stop]
  rw [accepted, safe_cwRestartNeighborDeadTimer]
  simp only [stopped_lastError]

theorem armedWith_stopped (added : Bool) :
    Armed { s.stopped with currentTimer := added } expired ↔ ArmedWith s expired added := by
  simp [Armed, ArmedWith]

theorem safe_completeInterfaceCommand :
    HandledSafely expired ((do completeInterfaceCommand; return true : Thread Bool) s) ↔
      Armed s expired := by
  simp only [bind_run, completeInterfaceCommand, get_run, ite_run, modify_run, pure_run]
  by_cases progress : s.interfaceCommandProgress = true
  · simp only [if_pos progress]
    exact Iff.rfl
  · simp only [if_neg progress]
    exact Iff.rfl

/-- The body is parsed, and what is left to do leaves the session armed like this. -/
theorem safe_body {m : ControlMessage} (drained : Drained s) {next : Prop}
    (went : HandledSafely expired (rest { s.stopped with currentTimer := m.timerAdded }) ↔ next) :
    HandledSafely expired (orReturn (call m.parse) (do acceptResponse m; rest) s) ↔
      BodySafe s expired m next := by
  rw [safe_orReturn_call, safe_acceptResponse drained, went]
  exact Iff.rfl

theorem safe_restarted {m : ControlMessage} :
    HandledSafely expired
        (orReturn (call m.parse) (do cwRestartNeighborDeadTimer m.timerAdded; rest) s) ↔
      BodySafe s expired m (HandledSafely expired (rest { s with currentTimer := m.timerAdded })) := by
  rw [safe_orReturn_call, safe_cwRestartNeighborDeadTimer]
  exact Iff.rfl

theorem handleControl_safe_iff (drained : Drained s) (m : ControlMessage) :
    HandledSafely expired (handleControl m s) ↔ ControlSafe s expired m := by
  have completed (s' : WTPManager) : HandledSafely expired
      ((do completeInterfaceCommand; return true : Thread Bool) s') ↔ Armed s' expired :=
    safe_completeInterfaceCommand
  have restarted : Armed { s.stopped with currentTimer := m.timerAdded } expired ↔
      ArmedWith s expired m.timerAdded := armedWith_stopped m.timerAdded
  rw [handleControl, ControlSafe]
  cases MessageType.ofValue m.header.messageTypeValue with
  | none => exact safe_sendAnswer m
  | some messageType =>
    cases messageType with
    | configureUpdateResponse =>
      refine safe_body drained ?_
      obtain ⟨configuration, saved⟩ := cwSaveConfigurationUpdateResponseMessage_run
        { s.stopped with currentTimer := m.timerAdded } m
      rw [bind_run, saved]
      refine (completed _).trans ?_
      simp [Armed, ArmedWith, or_assoc, or_left_comm]
    | stationConfigurationResponse => exact safe_body drained restarted
    | clearConfigurationResponse => exact safe_body drained ((completed _).trans restarted)
    | wlanConfigurationResponse =>
      -- the BSSIDs are stored before it is known whether the body can be parsed
      have stored : Drained { s with
          configuration := m.assigned.foldl Configuration.assign s.configuration } := drained
      exact safe_body stored ((completed _).trans (armedWith_stopped m.timerAdded))
    | changeStateEventRequest =>
      refine safe_restarted.trans ?_
      rw [safe_orReturn_call, safe_sendAnswer]
      exact Iff.rfl
    | wtpEventRequest =>
      refine safe_restarted.trans ?_
      rw [safe_orReturn_call, safe_sendAnswer]
      exact Iff.rfl
    | echoRequest =>
      refine safe_restarted.trans ?_
      rw [safe_sendAnswer]
      exact Iff.rfl
    | dataTransferRequest =>
      refine safe_restarted.trans ?_
      rw [safe_sendAnswer]
      exact Iff.rfl

theorem safe_orReturn_enterRun (called : Thread Bool) :
    HandledSafely expired (orReturn called (enterState .run) s) ↔
      HandledSafely expired (called s) := by
  simp only [orReturn, bind_run]
  cases called s with
  | error ending s' => exact Iff.rfl
  | ok went s' => cases went <;> exact Iff.rfl

theorem acEnterRun_safe_iff (drained : Drained s) (m : RunMessage) :
    HandledSafely expired (acEnterRun m s) ↔ RunSafe s expired m := by
  cases m with
  | data result => 
    rw [acEnterRun, call_run, RunSafe]
    by_cases succeeds : result = .succeeds
    · rw [decide_eq_true succeeds]
      exact ⟨fun safe => ⟨fun _ => safe, fun fails => absurd succeeds fails⟩,
        fun safe => safe.1 succeeds⟩
    · rw [decide_eq_false succeeds]
      exact ⟨fun safe => ⟨fun went => absurd went succeeds, fun _ => safe⟩,
        fun safe => safe.2 succeeds⟩
  | association seqNum assembly taken timerAdded =>
    cases assembly with
    | assembled fragments =>
      simp only [acEnterRun, bind_run, sendRequest_run]
      exact Iff.rfl
    | fails raised =>
      simp only [acEnterRun, bind_run, call_run]
      exact Iff.rfl
  | control m =>
    rw [acEnterRun, RunSafe]
    by_cases unexpected : Unexpected s m.header
    · rw [orReturn_run_of_false s (cwACParseGenericRunMessage_of_unexpected s unexpected)]
      have ignored : FailsSafely (Armed s expired) (some .invalidFormat) ↔ Armed s expired := by
        simp [FailsSafely]
      exact ignored.trans ⟨fun armed => ⟨fun _ => armed, fun expected => absurd unexpected expected⟩,
        fun safe => safe.1 unexpected⟩
    · rw [orReturn_run_of_true s (cwACParseGenericRunMessage_of_expected s unexpected),
        safe_orReturn_enterRun, handleControl_safe_iff drained]
      exact ⟨fun safe => ⟨fun absent => absurd absent unexpected, fun _ => safe⟩,
        fun safe => safe.2 unexpected⟩

theorem handle_safe_iff (drained : Drained s) (m : SessionMessage) :
    HandledSafely expired (handle m s) ↔ MessageSafe s expired m := by
  rw [handle_run, MessageSafe]
  cases s.currentState with
  | join => exact acEnterJoin_safe_iff m.request
  | configure => exact acEnterConfigure_safe_iff m.request
  | dataCheck => exact acEnterDataCheck_safe_iff m.request
  | run => exact acEnterRun_safe_iff drained m.run

end Safe

/-! ## No fragments are left -/

theorem robust_drained : Robust Drained where
  lastError := fun _ _ => id
  sent := fun _ _ => id
  currentTimer := fun _ _ => id
  isRequestClose := fun _ => id
  criticalBlocked := fun _ _ => id
  configuration := fun _ _ => id
  interfaceCommand := fun _ _ _ => id
  stopped := fun _ _ _ _ retransmitting => by cases retransmitting

theorem drained_sendRequest (msgType seqNum : Int) (fragments : List Packet) (taken : List Bool)
    (timerAdded : Bool) : Keeps Drained (sendRequest msgType seqNum fragments taken timerAdded) := by
  intro s _
  rw [left_of_ok (sendRequest_run msgType seqNum fragments taken timerAdded s)]
  intro retransmitting
  have all : allTaken fragments taken = true := (Bool.and_eq_true_iff.mp retransmitting).1
  exact ⟨rfl, if_pos all⟩

theorem drained_enterState (state : CWStateTransition) : Keeps Drained (enterState state) :=
  fun _ => id

theorem steady_drained : Steady Drained where
  toRobust := robust_drained
  request := drained_sendRequest
  softTimer := fun maxRetransmit taken timerAdded s drained => by
    have idle := cwSoftTimerExpiredHandler_run maxRetransmit taken timerAdded s
      fun retransmitting => (drained retransmitting).1
    rw [left_of_ok idle]
    exact drained

/-- A handler leaves no fragments, unless they could not be sent. -/
def LeavesDrained : EStateM.Result Ending WTPManager Bool → Prop
  | .ok true s => Drained s
  | .ok false s => s.lastError = some .invalidFormat → Drained s
  | .error _ _ => True

section Fragments

variable {s : WTPManager} {rest : Thread Bool}

theorem leavesDrained_of_keeps {program : Thread Bool} (kept : Keeps Drained program)
    (drained : Drained s) : LeavesDrained (program s) := by
  have here := kept s drained
  cases result : program s with
  | error ending s' => trivial
  | ok went s' =>
    rw [left_of_ok result] at here
    cases went with
    | true => exact here
    | false => exact fun _ => here

theorem leavesDrained_orReturn_call {result : Call} (drained : Drained s)
    (went : LeavesDrained (rest s)) : LeavesDrained (orReturn (call result) rest s) := by
  by_cases succeeds : result = .succeeds
  · rw [orReturn_call_succeeds s succeeds]
    exact went
  · rw [orReturn_call_fails s succeeds]
    exact fun _ => drained

theorem leavesDrained_orReturn_answer {r : Request} (drained : Drained s)
    (went : ∀ s', Drained s' → LeavesDrained (rest s')) :
    LeavesDrained (orReturn (answer r) rest s) := by
  by_cases answered : ∃ fragments, r.Sent fragments
  · obtain ⟨fragments, sent⟩ := answered
    rw [orReturn_run_of_true s (answer_of_sent s sent)]
    exact went _ fun _ => ⟨rfl, rfl⟩
  · obtain ⟨messages, messagesCount, _, failed, same⟩ :=
      answer_of_not_sent s fun fragments sent => answered ⟨fragments, sent⟩
    rw [orReturn_run_of_false s failed]
    intro format retransmitting
    -- the session that goes on has not been given the fragments
    have unsent : r.answerError s.lastError ≠ some .sending := fun sending => by
      rw [sending] at format
      cases format
    obtain ⟨sameMessages, sameCount⟩ := same unsent
    have before := drained retransmitting
    exact ⟨sameMessages.trans before.1, sameCount.trans before.2⟩

theorem handle_leavesDrained (drained : Drained s) (m : SessionMessage) :
    LeavesDrained (handle m s) := by
  have cancelled : Drained { s with currentTimer := false } := drained
  rw [handle_run]
  cases s.currentState with
  | join =>
    refine leavesDrained_orReturn_call drained ?_
    simp only [bind_run, cancelCurrentTimer, modify_run, call_run]
    cases m.request.allocated with
    | false => exact fun _ => drained
    | true =>
      have saved : Drained
        { s with currentTimer := false, lastError := m.request.save.leaves s.lastError } := drained
      exact leavesDrained_orReturn_answer saved fun _ => id
  | configure =>
    refine leavesDrained_orReturn_call drained (leavesDrained_orReturn_call drained ?_)
    refine leavesDrained_orReturn_answer drained fun s' => leavesDrained_of_keeps ?_
    have requested := robust_drained.keeps_requestOrClose m.request.timerAdded
    exact requested.bind fun _ => drained_enterState .dataCheck
  | dataCheck =>
    simp only [acEnterDataCheck, bind_run, cancelCurrentTimer, modify_run]
    cases m.request.allocated with
    | false => exact fun _ => drained
    | true =>
      rw [if_pos rfl]
      refine leavesDrained_orReturn_call cancelled (leavesDrained_orReturn_call cancelled ?_)
      exact leavesDrained_orReturn_answer cancelled fun _ => id
  | run =>
    have kept := steady_drained.keeps_acEnterRun (drained_enterState .run) m.run
    exact leavesDrained_of_keeps kept drained

/-- The thread goes on only if the message has been handled or did not fit. -/
theorem dispatch_drained (drained : Drained s) {m : SessionMessage} {s' : WTPManager}
    (returned : dispatch m s = .ok () s') : Drained s' := by
  have leaves := handle_leavesDrained drained m
  cases result : handle m s with
  | error ending s₁ =>
    rw [dispatch_of_ended result] at returned
    cases returned
  | ok went s₁ =>
    rw [result] at leaves
    cases went with
    | true =>
      rw [dispatch_of_handled result] at returned
      cases returned
      exact leaves
    | false =>
      rw [dispatch_of_failed result] at returned
      cases handleFailure_cases s₁ with
      | inl ignored =>
        rw [ignored.2] at returned
        cases returned
        exact leaves ignored.1
      | inr failed =>
        obtain ⟨-, _, _, ended, -⟩ := failed
        rw [ended] at returned
        cases returned

end Fragments

/-! ## Steps -/

section Steps

variable {w : Served}

theorem Drained.closes {s : WTPManager} (drained : Drained s) :
    ∃ s', cwCloseThread s = .error .closed s' := by
  have cancelled : Drained { s with currentTimer := false } := drained
  exact ⟨_, cwCloseThread_of_stopped s cancelled.stop⟩

theorem closesNow_iff (drained : Drained w.session) :
    ClosesNow w ↔ w.session.isRequestClose = true := by
  rw [ClosesNow, Served.exec]
  cases requested : w.session.isRequestClose with
  | true =>
    obtain ⟨s', closed⟩ := drained.closes
    refine iff_of_true ⟨s', ?_⟩ rfl
    rw [after_of_error ((turn_of_requested requested).trans closed)]
  | false =>
    have returned : turn (pure ()) w.session = .ok () w.session := turn_of_open requested
    rw [after_of_ok returned]
    refine iff_of_false (fun closes => ?_) Bool.false_ne_true
    obtain ⟨s, ended⟩ := closes
    cases ended

theorem isRequestClose_delivered_iff (w : Served) : w.delivered.session.isRequestClose = true ↔
    w.session.isRequestClose = true ∨ w.session.criticalBlocked = false ∧ w.expired = true := by
  rw [Served.delivered]
  cases expired : w.expired <;> cases blocked : w.session.criticalBlocked <;> simp

/-- What the expiry of the timer comes to. -/
theorem guarded_iff (drained : Drained w.session) :
    Guarded w ↔ w.session.isRequestClose = true ∨
      w.session.currentTimer = true ∧ w.session.criticalBlocked = false := by
  rw [Guarded, closesNow_iff drained, Served.exec]
  cases running : w.session.currentTimer with
  | false => simp
  | true =>
    have cancelled : Drained { w.session with currentTimer := false } := drained
    have delivered := robust_drained.delivered
      (w := { w with session := { w.session with currentTimer := false }, expired := true }) cancelled
    simp only [if_true, Option.some.injEq, Outcome.continues.injEq, exists_eq_left', true_and]
    rw [closesNow_iff delivered, isRequestClose_delivered_iff]
    simp

theorem guarded_delivered_iff (drained : Drained w.session) :
    Guarded w.delivered ↔ w.session.isRequestClose = true ∨ w.session.criticalBlocked = false ∧
      (w.session.currentTimer = true ∨ w.expired = true) := by
  rw [guarded_iff (robust_drained.delivered drained), isRequestClose_delivered_iff]
  have timer : w.delivered.session.currentTimer = w.session.currentTimer := by
    rw [Served.delivered]
    split <;> rfl
  have blocked : w.delivered.session.criticalBlocked = w.session.criticalBlocked := by
    rw [Served.delivered]
    split <;> rfl
  rw [timer, blocked, or_assoc, and_or_left, and_comm (a := w.session.currentTimer = true)]
  exact or_congr_right or_comm

theorem delivered_received (w : Served) : w.delivered.received = w.received := by
  rw [Served.delivered]
  split <;> rfl

theorem stays_of_ok {program : Thread Unit} {s' : WTPManager}
    {outstanding : WTPManager → Option Awaited} (returned : program w.session = .ok () s')
    (drained : Drained s') (received : Bool) :
    (w.after program received outstanding).Stays ↔
      (received = true → s'.isRequestClose = true ∨ s'.criticalBlocked = false ∧
        (s'.currentTimer = true ∨ w.expired = true)) := by
  rw [after_of_ok returned, Outcome.Stays, delivered_received, guarded_delivered_iff]
  exact drained

theorem stays_of_error {program : Thread Unit} {s' : WTPManager} {ending : Ending}
    {outstanding : WTPManager → Option Awaited} (ended : program w.session = .error ending s')
    (received : Bool) :
    (w.after program received outstanding).Stays ↔ ending ≠ .exited := by
  rw [after_of_error ended, Outcome.Stays]

/-- A session that has been asked to close gives back its slot. -/
theorem stays_of_requested {program : Thread Unit} {outstanding : WTPManager → Option Awaited}
    (requested : w.session.isRequestClose = true) (received : Bool) :
    (w.after (turn program) received outstanding).Stays := by
  obtain ⟨ending, s', closed, notExited⟩ := cwCloseThread_ends w.session
  exact (stays_of_error ((turn_of_requested requested).trans closed) received).mpr notExited

/-- Without a message the signal stays blocked in a session that goes on. -/
theorem stays_unhandled_iff {program : Thread Unit} {outstanding : WTPManager → Option Awaited}
    (drained : Drained w.session) (live : w.session.isRequestClose = false)
    {lastError : Option CWErrorCode} 
    (result : program w.session = unhandled lastError { w.session with criticalBlocked := true }) :
    (w.after program true outstanding).Stays ↔ lastError = none := by
  have goesOn {s' : WTPManager} (returned : program w.session = .ok () s')
      (same : s' = { w.session with criticalBlocked := true, lastError := lastError }) :
      ¬ (w.after program true outstanding).Stays := by
    have kept : Drained s' := same ▸ drained
    rw [stays_of_ok returned kept, same]
    simp [live]
  cases lastError with
  | none => exact iff_of_true ((stays_of_error result true).mpr (by simp)) rfl
  | some code =>
    refine iff_of_false ?_ (by simp)
    cases code with
    | outOfMemory => exact fun stays => (stays_of_error result true).mp stays rfl
    | _ => exact goesOn result rfl

theorem dispatch_safe_iff (m : SessionMessage) (s : WTPManager) (expired : Bool) :
    (match dispatch m s with
      | .ok _ s' => Armed s' expired
      | .error ending _ => ending ≠ .exited) ↔ HandledSafely expired (handle m s) := by
  cases result : handle m s with
  | error ending s' =>
    rw [dispatch_of_ended result]
    exact Iff.rfl
  | ok handled s' =>
    cases handled with
    | true =>
      rw [dispatch_of_handled result]
      exact Iff.rfl
    | false =>
      rw [dispatch_of_failed result]
      cases handleFailure_cases s' with
      | inl ignored =>
        rw [ignored.2]
        show Armed s' expired ↔ FailsSafely (Armed s' expired) s'.lastError
        rw [FailsSafely, ignored.1]
        simp
      | inr failed =>
        obtain ⟨unfit, ending, _, ended, exited⟩ := failed
        rw [ended]
        show ending ≠ .exited ↔ FailsSafely (Armed s' expired) s'.lastError
        rw [FailsSafely, ne_eq, exited]
        exact ⟨fun memory => ⟨memory, fun format => absurd format unfit⟩, fun safe => safe.1⟩

/-- A message goes to its handler, and then the signals are unblocked. -/
theorem stays_message_iff {p : Received} {m : SessionMessage}
    {outstanding : WTPManager → Option Awaited} (drained : Drained w.session)
    (live : w.session.isRequestClose = false) (passes : Passes p.security w.session.lastError)
    (message : p.reassembled = .message m) :
    (w.after (turn (handlePacket p)) true outstanding).Stays ↔
      MessageSafe { w.session with lastError := pendingAfter w.session.lastError p.security }
        w.expired m := by
  have handled : turn (handlePacket p) w.session = _ :=
    (turn_of_open live).trans (handlePacket_of_message passes message)
  have blocked : Drained { w.session with
      criticalBlocked := true, lastError := pendingAfter w.session.lastError p.security } := drained
  have safe := (dispatch_safe_iff m _ w.expired).trans (handle_safe_iff blocked m)
  cases result : dispatch m { w.session with
      criticalBlocked := true, lastError := pendingAfter w.session.lastError p.security } with
  | ok _ s' =>
    rw [result] at handled safe
    have drained' := robust_drained.criticalBlocked s' false (dispatch_drained blocked result)
    refine (stays_of_ok handled drained' true).trans (Iff.trans ?_ safe)
    simp [Armed]
  | error ending s' =>
    rw [result] at handled safe
    exact (stays_of_error handled true).trans safe

theorem stays_packet_iff (drained : Drained w.session) (p : Received) :
    StaysGuarded w (.packet p) ↔ Rearms w (.packet p) := by
  have stays : StaysGuarded w (.packet p) ↔
      (w.after (turn (handlePacket p)) true (w.outstandingAfterPacket p)).Stays :=
    ⟨fun all => all _ rfl, fun stays outcome happens => by
      cases happens
      exact stays⟩
  rw [stays, Rearms]
  cases requested : w.session.isRequestClose with
  | true => exact iff_of_true (stays_of_requested requested true) (.inl rfl)
  | false =>
    rw [or_iff_right Bool.false_ne_true, PacketSafe]
    by_cases passes : Passes p.security w.session.lastError
    · cases reassembled : p.reassembled with
      | message m =>
        rw [stays_message_iff drained requested passes reassembled]
        exact ⟨fun safe => ⟨fun _ => safe, fun fails => absurd passes fails⟩,
          fun safe => safe.1 passes⟩
      | fails raised =>
        rw [stays_unhandled_iff drained requested
          ((turn_of_open requested).trans (handlePacket_of_fails passes reassembled))]
        exact ⟨fun safe => ⟨fun _ => safe, fun fails => absurd passes fails⟩,
          fun safe => safe.1 passes⟩
    · rw [stays_unhandled_iff drained requested
        ((turn_of_open requested).trans (handlePacket_of_not_passes passes))]
      exact ⟨fun safe => ⟨fun passed => absurd passed passes, fun _ => safe⟩,
        fun safe => safe.2 passes⟩

theorem drained_packet {p : Received} {outstanding : WTPManager → Option Awaited} {w' : Served}
    (drained : Drained w.session)
    (continues : w.after (turn (handlePacket p)) true outstanding = .continues w') :
    Drained w'.session := by
  have kept : Drained (left (turn (handlePacket p)) w.session) → Drained w'.session := fun kept => by
    have after := robust_drained.after kept true outstanding
    rw [continues] at after
    exact after
  apply kept
  cases requested : w.session.isRequestClose with
  | true =>
    rw [left_congr (turn_of_requested requested)]
    exact robust_drained.keeps_cwCloseThread _ drained
  | false =>
    rw [left_congr (turn_of_open requested)]
    by_cases passes : Passes p.security w.session.lastError
    · cases reassembled : p.reassembled with
      | fails raised =>
        rw [left_congr (handlePacket_of_fails passes reassembled)]
        exact robust_drained.keeps_unhandled _ _ drained
      | message m =>
        have handled := handlePacket_of_message passes reassembled
        have blocked : Drained { w.session with
          criticalBlocked := true, lastError := pendingAfter w.session.lastError p.security } := drained
        cases result : dispatch m { w.session with
            criticalBlocked := true, lastError := pendingAfter w.session.lastError p.security } with
        | ok _ s' =>
          rw [result] at handled
          rw [left_of_ok handled]
          exact robust_drained.criticalBlocked s' false (dispatch_drained blocked result)
        | error ending s' =>
          -- the thread has ended
          rw [result] at handled
          rw [after_of_error ((turn_of_open requested).trans handled)] at continues
          cases continues
    · rw [left_congr (handlePacket_of_not_passes passes)]
      exact robust_drained.keeps_unhandled _ _ drained

theorem drained_step {event : SessionEvent} {w' : Served} (drained : Drained w.session)
    (step : SessionStep w event w') : Drained w'.session := by
  by_cases packet : ∃ p, event = .packet p
  · obtain ⟨p, rfl⟩ := packet
    exact drained_packet drained (Option.some.inj step)
  · exact steady_drained.exec (fun p same => packet ⟨p, same⟩) step drained

/-- What is known of a session between two packets. -/
structure Watchful (w : Served) : Prop where
  drained : Drained w.session
  guarded : w.received = true → Guarded w

/-- Whatever leaves the timer and its signal alone leaves the session guarded. -/
theorem Watchful.stays_of_same (watchful : Watchful w) {program : Thread Unit} {s' : WTPManager}
    {outstanding : WTPManager → Option Awaited} (returned : program w.session = .ok () s')
    (drained : Drained s') (close : s'.isRequestClose = w.session.isRequestClose)
    (timer : s'.currentTimer = w.session.currentTimer)
    (blocked : w.session.criticalBlocked = false → s'.criticalBlocked = false) :
    (w.after program w.received outstanding).Stays := by
  rw [stays_of_ok returned drained, close, timer]
  intro received
  cases (guarded_iff watchful.drained).mp (watchful.guarded received) with
  | inl requested => exact .inl requested
  | inr running => exact .inr ⟨blocked running.2, .inl running.1⟩

theorem handleCommand_run (command : InterfaceCommand) (seqNum : UInt8) (assembly : Assembly)
    (taken : List Bool) (timerAdded : Bool) (s : WTPManager) :
    ∃ s', handleCommand command seqNum assembly taken timerAdded s = .ok () s' ∧
      s'.isRequestClose = s.isRequestClose ∧ s'.currentTimer = s.currentTimer ∧
      s'.criticalBlocked = false := by
  cases assembly with
  | assembled fragments =>
    simp only [handleCommand, blockSignals, unblockSignals, bind_run, modify_run, sendRequest_run,
      ite_run]
    cases allTaken fragments taken && timerAdded with
    | true => exact ⟨_, rfl, rfl, rfl, rfl⟩
    | false => exact ⟨_, rfl, rfl, rfl, rfl⟩
  | fails raised =>
    simp only [handleCommand, blockSignals, unblockSignals, bind_run, modify_run, call_run, ite_run]
    exact ⟨_, rfl, rfl, rfl, rfl⟩

theorem Watchful.stays (watchful : Watchful w) {event : SessionEvent}
    (other : ∀ p, event ≠ .packet p) : StaysGuarded w event := by
  intro outcome happens
  cases event with
  | packet p => exact absurd rfl (other p)
  | command command seqNum assembly taken timerAdded =>
    cases happens
    cases requested : w.session.isRequestClose with
    | true => exact stays_of_requested requested w.received
    | false =>
      obtain ⟨s', returned, close, timer, blocked⟩ :=
        handleCommand_run command seqNum assembly taken timerAdded w.session
      have drained := steady_drained.keeps_handleCommand command seqNum assembly taken timerAdded
        _ watchful.drained
      rw [left_of_ok returned] at drained
      exact watchful.stays_of_same ((turn_of_open requested).trans returned) drained close timer
        fun _ => blocked
  | handedOver seqNum fragments taken timerAdded =>
    cases happens
    have drained := steady_drained.keeps_handOver seqNum fragments taken timerAdded _ watchful.drained
    obtain ⟨s', returned, close, timer, blocked⟩ : ∃ s',
        handOver seqNum fragments taken timerAdded w.session = .ok () s' ∧
          s'.isRequestClose = w.session.isRequestClose ∧
          s'.currentTimer = w.session.currentTimer ∧
          s'.criticalBlocked = w.session.criticalBlocked := by
      simp only [handOver, bind_run, get_run, sendRequest_run, modify_run]
      exact ⟨_, rfl, rfl, rfl, rfl⟩
    rw [left_of_ok returned] at drained
    exact watchful.stays_of_same returned drained close timer blocked.trans
  | criticalTimerExpired =>
    rw [Served.exec] at happens
    split at happens
    next =>
      cases happens
      have cancelled : Drained { w.session with currentTimer := false } := watchful.drained
      rw [Outcome.Stays, delivered_received, guarded_delivered_iff
        (w := { w with session := { w.session with currentTimer := false }, expired := true })
        cancelled]
      intro received
      cases (guarded_iff watchful.drained).mp (watchful.guarded received) with
      | inl requested => exact .inl requested
      | inr running => exact .inr ⟨running.2, .inr rfl⟩
    next => cases happens
  | softTimerExpired maxRetransmit taken timerAdded =>
    cases happens
    have returned := cwSoftTimerExpiredHandler_run maxRetransmit taken timerAdded w.session
      fun retransmitting => (watchful.drained retransmitting).1
    exact watchful.stays_of_same returned watchful.drained rfl rfl id
  | wakes =>
    cases happens
    cases requested : w.session.isRequestClose with
    | true => exact stays_of_requested requested w.received
    | false =>
      have returned : turn (pure ()) w.session = .ok () w.session := turn_of_open requested
      exact watchful.stays_of_same returned watchful.drained rfl rfl id

theorem Watchful.stays_iff (watchful : Watchful w) (event : SessionEvent) :
    StaysGuarded w event ↔ Rearms w event := by
  by_cases packet : ∃ p, event = .packet p
  · obtain ⟨p, rfl⟩ := packet
    exact stays_packet_iff watchful.drained p
  · have other : ∀ p, event ≠ .packet p := fun p same => packet ⟨p, same⟩
    refine iff_of_true (watchful.stays other) ?_
    cases event with
    | packet p => exact absurd rfl (other p)
    | _ => trivial

theorem Watchful.step (watchful : Watchful w) {event : SessionEvent} {w' : Served}
    (stays : StaysGuarded w event) (step : SessionStep w event w') : Watchful w' where
  drained := drained_step watchful.drained step
  guarded := stays _ step

theorem watchful_start (slot : WTPManager) : Watchful (.start slot) where
  drained := fun retransmitting => by cases retransmitting
  guarded := fun received => by cases received

end Steps

/-! ## Runs -/

/-- Along every run of a session its critical timer guards it between two packets, exactly
    when every packet leaves the timer armed or closes the session. -/
theorem run_staysGuarded_iff (slot : WTPManager) (events : List SessionEvent) :
    Run.AllSteps SessionStep StaysGuarded (.start slot) events ↔
      Run.AllSteps SessionStep Rearms (.start slot) events := by
  exact Run.AllSteps.congr_of_kept (fun _ event watchful => watchful.stays_iff event)
    (fun _ _ _ watchful stays step => watchful.step stays step) (watchful_start slot) events

/-- The first Join Request of a session is answered, and no timer runs in CONFIGURE. -/
theorem joinRequest_not_staysGuarded :
    ¬ Run.AllSteps SessionStep StaysGuarded (.start emptySlot)
      [.packet (packetOf ⟨plainRequest, .data .succeeds⟩)] := by
  intro stays
  cases ((watchful_start emptySlot).stays_iff _).mp stays.1 with
  | inl requested => cases requested
  | inr safe =>
    have joins := safe.1 fun _ absent => nomatch absent
    have armed : ArmedWith emptySlot.start false false := (joins.1 rfl).2 rfl
    rcases armed with requested | running | expired
    · cases requested
    · cases running
    · cases expired

end WlanController.Sessions
