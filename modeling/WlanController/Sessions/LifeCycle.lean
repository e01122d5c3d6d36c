import WlanController.Sessions.Keeping

/-!
# The life cycle of a session

A session goes from JOIN to RUN one state at a time.  In JOIN the state is entered even if the
values of the request could not be saved.
-/

namespace WlanController.Sessions

open Programs

/-! ## The state is kept -/

section Keeping

variable {state : CWStateTransition}

/-- The program leaves a session in the state that it was in. -/
def KeepsState {α : Type} (state : CWStateTransition) (program : Thread α) : Prop :=
  Keeps (fun s => s.currentState = state) program

theorem keepsState_modify {f : WTPManager → WTPManager}
    (same : ∀ s, (f s).currentState = s.currentState) :
    KeepsState state (modify f : Thread Unit) :=
  keeps_modify fun s holds => (same s).trans holds

theorem robust_state : Robust fun s => s.currentState = state where
  lastError := fun _ _ => id
  sent := fun _ _ => id
  currentTimer := fun _ _ => id
  isRequestClose := fun _ => id
  criticalBlocked := fun _ _ => id
  configuration := fun _ _ => id
  interfaceCommand := fun _ _ _ => id
  stopped := fun _ _ holds _ => holds

theorem keepsState_cwACSendFragments (taken : List Bool) :
    KeepsState state (cwACSendFragments taken) := by
  refine keeps_get.bind fun s => Keeps.ite (robust_state.keeps_raiseError _) ?_
  refine keeps_readFragments.bind fun messages => ?_
  refine (robust_state.keeps_sendEach messages taken).bind fun all => Keeps.ite ?_ (keeps_pure false)
  refine Keeps.bind ?_ fun _ => keeps_pure true
  exact keeps_readFragments.bind fun _ => keepsState_modify fun _ => rfl

theorem keepsState_cwACResendAcknowledgedPacket (taken : List Bool) (timerAdded : Bool) :
    KeepsState state (cwACResendAcknowledgedPacket taken timerAdded) := by
  refine (keepsState_cwACSendFragments taken).bind fun sent => Keeps.ite ?_ (keeps_pure false)
  exact (keepsState_modify fun _ => rfl).bind fun _ => keeps_pure timerAdded

theorem keepsState_sendRequest (msgType seqNum : Int) (fragments : List Packet)
    (taken : List Bool) (timerAdded : Bool) :
    KeepsState state (sendRequest msgType seqNum fragments taken timerAdded) := by
  intro s holds
  rw [left_of_ok (sendRequest_run msgType seqNum fragments taken timerAdded s)]
  exact holds

theorem keepsState_assemble (assembly : Assembly) : KeepsState state (assemble assembly) := by
  cases assembly with
  | assembled fragments => exact (keepsState_modify fun _ => rfl).bind fun _ => keeps_pure true
  | fails raised => exact robust_state.keeps_call _

theorem keepsState_answer (r : Request) : KeepsState state (answer r) :=
  keeps_orReturn (keepsState_assemble r.assembly) (keepsState_cwACSendFragments r.taken)

theorem keepsState_cwSoftTimerExpiredHandler (maxRetransmit : Nat) (taken : List Bool)
    (timerAdded : Bool) :
    KeepsState state (cwSoftTimerExpiredHandler maxRetransmit taken timerAdded) := by
  refine keeps_get.bind fun s => Keeps.ite (keeps_pure _) (Keeps.bind ?_ fun _ => ?_)
  · exact keepsState_modify fun _ => rfl
  · refine keeps_get.bind fun s => Keeps.ite (keepsState_modify ?_) ?_
    · exact fun _ => rfl
    · refine (keepsState_cwACResendAcknowledgedPacket taken timerAdded).bind fun sent => ?_
      exact (keeps_cwErr sent).bind fun went => Keeps.ite (keeps_pure _) robust_state.keeps_cwCloseThread

theorem steady_state : Steady fun s => s.currentState = state where
  toRobust := robust_state
  request := keepsState_sendRequest
  softTimer := keepsState_cwSoftTimerExpiredHandler

/-- RUN is never left. -/
theorem keepsState_acEnterRun (m : RunMessage) : KeepsState .run (acEnterRun m) :=
  steady_state.keeps_acEnterRun (Keeps.bind (keeps_modify fun _ _ => rfl) fun _ => keeps_pure true) m

end Keeping

/-! ## The handlers -/

def CWStateTransition.next : CWStateTransition → Option CWStateTransition
  | join => some configure
  | configure => some dataCheck
  | dataCheck => some run
  | run => none

/-- The request has been parsed and saved, and its response has been sent. -/
structure Completed (r : Request) (s s' : WTPManager) : Prop where
  parsed : r.parse = .succeeds
  saved : r.save = .succeeds
  answered : ∃ fragments, r.Sent fragments ∧ s'.sent = s.sent ++ fragments

/-- All that a Join Request needs but the saving of its values. -/
structure Joins (r : Request) : Prop where
  parsed : r.parse = .succeeds
  allocated : r.allocated = true
  answered : ∃ fragments, r.Sent fragments

section Handlers

variable {r : Request} {s : WTPManager}

theorem acEnterJoin_of_joins (parsed : r.parse = .succeeds) (allocated : r.allocated = true)
    {fragments : List Packet} (sent : r.Sent fragments) :
    acEnterJoin r s = .ok true
      { s with
        currentTimer := false, lastError := r.save.leaves s.lastError, messages := none
        messagesCount := 0, sent := s.sent ++ fragments, currentState := .configure } := by
  rw [acEnterJoin, orReturn_call_succeeds s parsed]
  simp only [bind_run, cancelCurrentTimer, modify_run, call_run, if_pos allocated]
  rw [orReturn_run_of_true _ (answer_of_sent _ sent)]
  rfl

/-- The state is the same, or the next one after its request has been completed. -/
def Advanced (r : Request) (s s' : WTPManager) : Prop :=
  s'.currentState = s.currentState ∨
    s.currentState.next = some s'.currentState ∧ Completed r s s'

/-- A handler has completed the request of the state if it advances. -/
def Advances (r : Request) (s : WTPManager) : EStateM.Result Ending WTPManager Bool → Prop
  | .ok true s' => Advanced r s s'
  | .ok false s' => s'.currentState = s.currentState
  | .error _ s' => s'.currentState = s.currentState

/-- Without all that it needs a Join Request leaves JOIN as it is. -/
theorem acEnterJoin_of_not_joins (fails : ¬ Joins r) :
    ∃ s', acEnterJoin r s = .ok false s' ∧ s'.currentState = s.currentState := by
  by_cases parsed : r.parse = .succeeds
  · rw [acEnterJoin, orReturn_call_succeeds s parsed]
    simp only [bind_run, cancelCurrentTimer, modify_run, call_run]
    cases allocated : r.allocated with
    | false => exact ⟨_, rfl, rfl⟩
    | true =>
      have unsent : ∀ fragments, ¬ r.Sent fragments :=
        fun fragments sent => fails ⟨parsed, allocated, fragments, sent⟩
      rw [if_pos rfl]
      obtain ⟨_, _, _, answered, -⟩ := answer_of_not_sent
        { s with currentTimer := false, lastError := r.save.leaves s.lastError } unsent
      exact ⟨_, orReturn_run_of_false _ answered, rfl⟩
  · exact ⟨_, orReturn_call_fails s parsed _, rfl⟩

/-- The first of the calls that fails ends the handler. -/
theorem advances_of_calls {rest : Thread Bool}
    (went : r.parse = .succeeds → r.save = .succeeds → ∀ fragments, r.Sent fragments →
      Advances r s (rest { s with
        messages := none, messagesCount := 0, sent := s.sent ++ fragments })) :
    Advances r s
      ((orReturn (call r.parse) <| orReturn (call r.save) <| orReturn (answer r) rest) s) := by
  by_cases parsed : r.parse = .succeeds
  · rw [orReturn_call_succeeds s parsed]
    by_cases saved : r.save = .succeeds
    · rw [orReturn_call_succeeds s saved]
      by_cases answered : ∃ fragments, r.Sent fragments
      · obtain ⟨fragments, sent⟩ := answered
        rw [orReturn_run_of_true s (answer_of_sent s sent)]
        exact went parsed saved fragments sent
      · obtain ⟨_, _, _, failed, -⟩ :=
          answer_of_not_sent s fun fragments sent => answered ⟨fragments, sent⟩
        rw [orReturn_run_of_false s failed]
        exact rfl
    · rw [orReturn_call_fails s saved]
      exact rfl
  · rw [orReturn_call_fails s parsed]
    exact rfl

theorem acEnterConfigure_advances (r : Request) (inState : s.currentState = .configure) :
    Advances r s (acEnterConfigure r s) := by
  refine advances_of_calls fun parsed saved fragments sent => ?_
  rw [bind_run]
  cases requestOrClose_cases
    { s with messages := none, messagesCount := 0, sent := s.sent ++ fragments } r.timerAdded with
  | inl requested =>
    rw [requested.1]
    exact .inr ⟨by rw [inState]; rfl, parsed, saved, fragments, sent, rfl⟩
  | inr closed =>
    obtain ⟨-, -, ending, s', ended, -⟩ := closed
    have kept : (left (requestOrClose r.timerAdded)
        { s with messages := none, messagesCount := 0, sent := s.sent ++ fragments }).currentState =
        s.currentState := robust_state.keeps_requestOrClose r.timerAdded _ rfl
    rw [left_of_error ended] at kept
    rw [ended]
    exact kept

/-- Only the state counts, and what has been sent. -/
theorem Advanced.congr {s₁ s₁' : WTPManager} {s' : WTPManager}
    (advanced : Advanced r s₁ s₁') (state : s.currentState = s₁.currentState)
    (sent : s.sent = s₁.sent) (state' : s'.currentState = s₁'.currentState)
    (sent' : s'.sent = s₁'.sent) : Advanced r s s' := by
  rw [Advanced, state, state']
  refine advanced.imp id fun ⟨next, completed⟩ => ⟨next, completed.parsed, completed.saved, ?_⟩
  rw [sent, sent']
  exact completed.answered

theorem Advances.of_cancelled {result : EStateM.Result Ending WTPManager Bool}
    (advances : Advances r { s with currentTimer := false } result) : Advances r s result := by
  cases result with
  | error ending s' => exact advances
  | ok handled s' =>
    cases handled with
    | false => exact advances
    | true => exact Advanced.congr advances rfl rfl rfl rfl

theorem acEnterDataCheck_advances (r : Request) (inState : s.currentState = .dataCheck) :
    Advances r s (acEnterDataCheck r s) := by
  simp only [acEnterDataCheck, bind_run, cancelCurrentTimer, modify_run]
  cases allocated : r.allocated with
  | false => exact rfl
  | true =>
    rw [if_pos rfl]
    refine Advances.of_cancelled (advances_of_calls fun parsed saved fragments sent => .inr ?_)
    exact ⟨by rw [inState]; rfl, parsed, saved, fragments, sent, rfl⟩

theorem acEnterRun_advances (r : Request) (m : RunMessage) (inState : s.currentState = .run) :
    Advances r s (acEnterRun m s) := by
  have kept := keepsState_acEnterRun m s inState
  cases result : acEnterRun m s with
  | error ending s' =>
    rw [left_of_error result] at kept
    exact kept.trans inState.symm
  | ok handled s' =>
    rw [left_of_ok result] at kept
    cases handled with
    | false => exact kept.trans inState.symm
    | true => exact .inl (kept.trans inState.symm)

/-- The message is a Join Request whose response is sent though its values are not saved. -/
def JoinsUnsaved (m : SessionMessage) (s : WTPManager) : Prop :=
  s.currentState = .join ∧ Joins m.request ∧ m.request.save ≠ .succeeds

theorem handle_advances_iff (m : SessionMessage) (s : WTPManager) :
    Advances m.request s (handle m s) ↔ ¬ JoinsUnsaved m s := by
  cases inState : s.currentState with
  | configure =>
    have same : handle m s = acEnterConfigure m.request s := by rw [handle_run, inState]
    rw [same]
    exact iff_of_true (acEnterConfigure_advances m.request inState) fun unsaved => by
      rw [JoinsUnsaved, inState] at unsaved
      cases unsaved.1
  | dataCheck =>
    have same : handle m s = acEnterDataCheck m.request s := by rw [handle_run, inState]
    rw [same]
    exact iff_of_true (acEnterDataCheck_advances m.request inState) fun unsaved => by
      rw [JoinsUnsaved, inState] at unsaved
      cases unsaved.1
  | run =>
    have same : handle m s = acEnterRun m.run s := by rw [handle_run, inState]
    rw [same]
    exact iff_of_true (acEnterRun_advances m.request m.run inState) fun unsaved => by
      rw [JoinsUnsaved, inState] at unsaved
      cases unsaved.1
  | join =>
    have same : handle m s = acEnterJoin m.request s := by rw [handle_run, inState]
    rw [same]
    by_cases joins : Joins m.request
    · obtain ⟨parsed, allocated, fragments, sent⟩ := joins
      rw [acEnterJoin_of_joins parsed allocated sent]
      constructor
      · intro advances unsaved
        cases advances with
        | inl kept =>
          rw [inState] at kept
          cases kept
        | inr advanced => exact unsaved.2.2 advanced.2.saved
      · intro saved
        have saves : m.request.save = .succeeds := by
          by_contra fails
          exact saved ⟨inState, ⟨parsed, allocated, fragments, sent⟩, fails⟩
        exact .inr ⟨by rw [inState]; rfl, parsed, saves, fragments, sent, rfl⟩
    · obtain ⟨s', failed, kept⟩ := acEnterJoin_of_not_joins (s := s) joins
      rw [failed]
      exact iff_of_true kept fun unsaved => joins unsaved.2.1

end Handlers

/-! ## Steps -/

theorem handle_of_joinsUnsaved {m : SessionMessage} {s : WTPManager} (unsaved : JoinsUnsaved m s) :
    ∃ s', handle m s = .ok true s' := by
  obtain ⟨inState, ⟨parsed, allocated, fragments, sent⟩, -⟩ := unsaved
  have same : handle m s = acEnterJoin m.request s := by rw [handle_run, inState]
  exact ⟨_, same.trans (acEnterJoin_of_joins parsed allocated sent)⟩

theorem left_dispatch_iff (m : SessionMessage) (s : WTPManager) :
    Advanced m.request s (left (dispatch m) s) ↔ ¬ JoinsUnsaved m s := by
  have advances := handle_advances_iff m s
  cases result : handle m s with
  | error ending s' =>
    have ended := dispatch_of_ended result
    have saved : ¬ JoinsUnsaved m s := fun unsaved => by
      obtain ⟨_, joined⟩ := handle_of_joinsUnsaved unsaved
      rw [joined] at result
      cases result
    rw [result] at advances
    rw [left_of_error ended]
    exact iff_of_true (.inl (advances.mpr saved)) saved
  | ok handled s' =>
    cases handled with
    | true =>
      have returned := dispatch_of_handled result
      rw [result] at advances
      rw [left_of_ok returned]
      exact advances
    | false =>
      have saved : ¬ JoinsUnsaved m s := fun unsaved => by
        obtain ⟨_, joined⟩ := handle_of_joinsUnsaved unsaved
        rw [joined] at result
        cases result
      have failed := left_congr (dispatch_of_failed result)
      rw [result] at advances
      have kept : (left handleFailure s').currentState = s.currentState :=
        robust_state.keeps_handleFailure s' (advances.mpr saved)
      rw [failed]
      exact iff_of_true (.inl kept) saved

/-- A message that passes goes to its handler. -/
theorem left_handlePacket {p : Received} {m : SessionMessage} {s : WTPManager}
    (message : p.reassembled = .message m) (passes : Passes p.security s.lastError) :
    ∃ lastError,
      (left (handlePacket p) s).currentState =
        (left (dispatch m) { s with criticalBlocked := true, lastError := lastError }).currentState ∧
      (left (handlePacket p) s).sent =
        (left (dispatch m) { s with criticalBlocked := true, lastError := lastError }).sent := by
  refine ⟨pendingAfter s.lastError p.security, ?_⟩
  rw [left, handlePacket_of_message passes message, left]
  cases dispatch m
    { s with criticalBlocked := true, lastError := pendingAfter s.lastError p.security } with
  | error ending s' => exact ⟨rfl, rfl⟩
  | ok _ s' => exact ⟨rfl, rfl⟩

/-- Anything else leaves the state alone. -/
theorem keepsState_handlePacket {p : Received} {s : WTPManager}
    (stops : ∀ m, p.reassembled = .message m → ¬ Passes p.security s.lastError) :
    (left (handlePacket p) s).currentState = s.currentState := by
  by_cases passes : Passes p.security s.lastError
  · cases reassembled : p.reassembled with
    | message m => exact absurd passes (stops m reassembled)
    | fails raised =>
      rw [left_congr (handlePacket_of_fails passes reassembled)]
      exact robust_state.keeps_unhandled _ _ rfl
  · rw [left_congr (handlePacket_of_not_passes passes)]
    exact robust_state.keeps_unhandled _ _ rfl

/-- The state stays, or a request that has been completed has advanced it. -/
def StateAdvances (w : Served) (event : SessionEvent) : Prop :=
  ∀ outcome, w.exec event = some outcome →
    outcome.session.currentState = w.session.currentState ∨
      ∃ p m, event = .packet p ∧ p.reassembled = .message m ∧
        w.session.currentState.next = some outcome.session.currentState ∧
        Completed m.request w.session outcome.session

/-- No Join Request is answered whose values could not be saved. -/
def SavesJoin (w : Served) : SessionEvent → Prop
  | .packet p => ∀ m, Delivers w p m → ¬ JoinsUnsaved m w.session
  | .command _ _ _ _ _ | .handedOver _ _ _ _ | .criticalTimerExpired | .softTimerExpired _ _ _ |
    .wakes => True

theorem delivered_state (w : Served) : w.delivered.session.currentState = w.session.currentState ∧
    w.delivered.session.sent = w.session.sent := by
  rw [Served.delivered]
  split
  · exact ⟨rfl, rfl⟩
  · exact ⟨rfl, rfl⟩

theorem after_state (w : Served) (program : Thread Unit) (received : Bool)
    (outstanding : WTPManager → Option Awaited) :
    (w.after program received outstanding).session.currentState =
        (left program w.session).currentState ∧
      (w.after program received outstanding).session.sent = (left program w.session).sent := by
  rw [Served.after, left]
  cases program w.session with
  | ok _ s => exact delivered_state _
  | error ending s => exact ⟨rfl, rfl⟩

theorem joinsUnsaved_congr {m : SessionMessage} {s s' : WTPManager}
    (same : s'.currentState = s.currentState) : JoinsUnsaved m s' ↔ JoinsUnsaved m s := by
  rw [JoinsUnsaved, JoinsUnsaved, same]

/-- A packet that finds the session asked to close, or that brings no message. -/
theorem packet_state {w : Served} {p : Received} (stops : ∀ m, ¬ Delivers w p m) :
    (left (turn (handlePacket p)) w.session).currentState = w.session.currentState := by
  cases requested : w.session.isRequestClose with
  | true =>
    have closed : left (turn (handlePacket p)) w.session = left cwCloseThread w.session := by
      simp only [left, turn, bind_run, get_run, ite_run, if_pos requested]
    rw [closed]
    exact robust_state.keeps_cwCloseThread _ rfl
  | false =>
    have went : left (turn (handlePacket p)) w.session = left (handlePacket p) w.session := by
      simp [left, turn, requested]
    rw [went]
    exact keepsState_handlePacket fun m message passes => stops m ⟨message, requested, passes⟩

theorem stateAdvances_message_iff {w : Served} {p : Received} {m : SessionMessage}
    (message : p.reassembled = .message m) : StateAdvances w (.packet p) ↔
      Advanced m.request w.session
        (w.after (turn (handlePacket p)) true (w.outstandingAfterPacket p)).session := by
  constructor
  · intro advances
    refine (advances _ rfl).imp id fun ⟨p', m', same, message', advanced⟩ => ?_
    cases same
    rw [message] at message'
    cases message'
    exact advanced
  · intro advanced outcome happens
    cases happens
    exact advanced.imp id fun completed => ⟨p, m, rfl, message, completed⟩

/-- A message that reaches its handler. -/
theorem stateAdvances_iff_of_delivers {w : Served} {p : Received} {m : SessionMessage}
    (delivers : Delivers w p m) : StateAdvances w (.packet p) ↔ ¬ JoinsUnsaved m w.session := by
  obtain ⟨message, requested, passes⟩ := delivers
  have went : left (turn (handlePacket p)) w.session = left (handlePacket p) w.session := by
    simp [left, turn, requested]
  obtain ⟨lastError, sameState, sameSent⟩ := left_handlePacket message passes
  have state := after_state w (turn (handlePacket p)) true (w.outstandingAfterPacket p)
  rw [went, sameState, sameSent] at state
  have dispatched := left_dispatch_iff m
    { w.session with criticalBlocked := true, lastError := lastError }
  have unsaved : JoinsUnsaved m { w.session with criticalBlocked := true, lastError := lastError } ↔
      JoinsUnsaved m w.session := joinsUnsaved_congr rfl
  rw [stateAdvances_message_iff message, ← unsaved, ← dispatched]
  constructor
  · intro advanced
    exact Advanced.congr advanced rfl rfl state.1.symm state.2.symm
  · intro advanced
    exact Advanced.congr advanced rfl rfl state.1 state.2

theorem stateAdvances_iff (w : Served) (event : SessionEvent) :
    StateAdvances w event ↔ SavesJoin w event := by
  by_cases packet : ∃ p, event = .packet p
  · obtain ⟨p, rfl⟩ := packet
    by_cases delivers : ∃ m, Delivers w p m
    · obtain ⟨m, delivered⟩ := delivers
      rw [stateAdvances_iff_of_delivers delivered]
      constructor
      · intro saved m' delivered'
        have message := delivered.1
        rw [delivered'.1] at message
        cases message
        exact saved
      · intro saves
        exact saves m delivered
    · have stops : ∀ m, ¬ Delivers w p m := fun m delivered => delivers ⟨m, delivered⟩
      refine iff_of_true (fun outcome happens => .inl ?_) fun m delivered => absurd delivered (stops m)
      cases happens
      exact (after_state _ _ _ _).1.trans (packet_state stops)
  · have saves : SavesJoin w event := by
      cases event with
      | packet p => exact absurd ⟨p, rfl⟩ packet
      | _ => trivial
    refine iff_of_true (fun outcome happens => .inl ?_) saves
    exact steady_state.exec (fun p same => packet ⟨p, same⟩) happens rfl

/-! ## Runs -/

/-- Along every run of a session the state advances as it should exactly when no Join Request
    is answered whose values could not be saved. -/
theorem run_stateAdvances_iff (slot : WTPManager) (events : List SessionEvent) :
    Run.AllSteps SessionStep StateAdvances (.start slot) events ↔
      Run.AllSteps SessionStep SavesJoin (.start slot) events :=
  Run.AllSteps.congr stateAdvances_iff _ events

/-- What a Join Request without a name comes to. -/
def unsavedRequest : Request := { plainRequest with save := .fails (some .wrongArg) }

/-- The first Join Request of a session has no name. -/
theorem joinRequest_not_stateAdvances : ¬ Run.AllSteps SessionStep StateAdvances (.start emptySlot)
    [.packet (packetOf ⟨unsavedRequest, .data .succeeds⟩)] := by
  intro advances
  cases advances.1 _ rfl with
  | inl same => cases same
  | inr advanced =>
    obtain ⟨p, m, same, message, -, completed⟩ := advanced
    cases same
    cases message
    cases completed.saved

end WlanController.Sessions
