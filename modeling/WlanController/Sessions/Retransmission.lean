import WlanController.Foundation.Run
import WlanController.Sessions.WTPManager

/-!
# Retransmission of requests

A request is sent until its response comes.  The fragments are freed as soon as they have
been sent once, so that the handler of the soft timer finds nothing to send again.
-/

namespace WlanController.Sessions

/-- What every sender of a request does with the fragments it has assembled. -/
def sendRequest (msgType seqNum : Int) (fragments : List Packet) (taken : List Bool)
    (timerAdded : Bool) : Thread Bool := do
  modify fun s => { s with messages := some fragments, messagesCount := fragments.length }
  if ← cwACSendAcknowledgedPacket msgType seqNum taken timerAdded then return true
  else
    cwACStopRetransmission
    return false

def cwSoftTimerExpiredHandler (maxRetransmit : Nat) (taken : List Bool) (timerAdded : Bool) :
    Thread Unit := do
  let s ← get
  if !s.isRetransmitting || s.messages.isNone then return ()
  else
    modify fun s => { s with retransmissionCount := s.retransmissionCount + 1 }
    if (← get).retransmissionCount ≥ maxRetransmit then
      modify fun s => { s with isRequestClose := true }
    else if ← cwErr (← cwACResendAcknowledgedPacket taken timerAdded) then return ()
    else cwCloseThread

inductive RetransmissionEvent
  /-- a request, which has at least one fragment -/
  | send (msgType seqNum : Int) (first : Packet) (rest : List Packet) (taken : List Bool)
      (timerAdded : Bool)
  | softTimerExpired (taken : List Bool) (timerAdded : Bool)
  | matchingResponse
  | stop

/-- A session, and the request that waits for its response with the number of times that
    the timer has expired since it was sent. -/
structure Watched where
  session : WTPManager
  outstanding : Option (List Packet × Nat)

/-- The session after a program, if it returns or if it ends. -/
def after {α : Type} (program : Thread α) (s : WTPManager) : WTPManager :=
  match program s with
  | .ok _ s' => s'
  | .error _ s' => s'

section Events

variable (maxRetransmit : Nat)

/-- The thread runs on, with what it then waits for. -/
def Watched.step (w : Watched) : RetransmissionEvent → Option Watched
  | .send msgType seqNum first rest taken timerAdded =>
    match sendRequest msgType seqNum (first :: rest) taken timerAdded w.session with
    | .ok true s => some { session := s, outstanding := some (first :: rest, 0) }
    | .ok false s => some { session := s, outstanding := none }
    | .error _ _ => none
  | .softTimerExpired taken timerAdded =>
    match cwSoftTimerExpiredHandler maxRetransmit taken timerAdded w.session with
    | .ok _ s => some
      { session := s, outstanding := w.outstanding.map fun request => (request.1, request.2 + 1) }
    | .error _ _ => none
  | .matchingResponse | .stop =>
    match cwACStopRetransmission w.session with
    | .ok _ s => some { session := s, outstanding := none }
    | .error _ _ => none

def Step (w : Watched) (event : RetransmissionEvent) (w' : Watched) : Prop :=
  w.step maxRetransmit event = some w'

/-- An expiry sends the outstanding request again, or the session is given up as dead;
    nothing else sends a request again. -/
def Retransmits (w : Watched) : RetransmissionEvent → Prop
  | .send msgType seqNum first rest taken timerAdded =>
    (after (sendRequest msgType seqNum (first :: rest) taken timerAdded) w.session).sent =
      w.session.sent ++ attempted (first :: rest) taken
  | .softTimerExpired taken timerAdded =>
    let s := after (cwSoftTimerExpiredHandler maxRetransmit taken timerAdded) w.session
    match w.outstanding with
    | some (fragments, expiries) =>
      if expiries + 1 ≥ maxRetransmit then s.isRequestClose = true
      else s.sent = w.session.sent ++ attempted fragments taken
    | none => s.sent = w.session.sent
  | .matchingResponse | .stop =>
    (after cwACStopRetransmission w.session).sent = w.session.sent

/-- The soft timer does not expire while a request is outstanding. -/
def ExpiresIdle (w : Watched) : RetransmissionEvent → Prop
  | .softTimerExpired _ _ => w.outstanding = none
  | .send _ _ _ _ _ _ | .matchingResponse | .stop => True

end Events

/-! ## What the functions leave -/

/-- A request that has been sent is outstanding without its fragments, and one that has
    not been sent is forgotten. -/
theorem sendRequest_run (msgType seqNum : Int) (fragments : List Packet) (taken : List Bool)
    (timerAdded : Bool) (s : WTPManager) :
    sendRequest msgType seqNum fragments taken timerAdded s =
      .ok (allTaken fragments taken && timerAdded)
        { s with
          messages := none
          messagesCount := if allTaken fragments taken then 0 else fragments.length
          retransmissionCount := 0
          currentPacketTimer := allTaken fragments taken && timerAdded
          isRetransmitting := allTaken fragments taken && timerAdded
          responseType := if allTaken fragments taken && timerAdded then msgType else unusedMsgType
          responseSeqNum := if allTaken fragments taken && timerAdded then seqNum else 0
          sent := s.sent ++ attempted fragments taken
          lastError := sendError s.lastError (allTaken fragments taken) } := by
  simp only [sendRequest, cwACSendAcknowledgedPacket, cwACResendAcknowledgedPacket, bind_run,
    modify_run]
  rw [cwACSendFragments_run _ taken rfl rfl]
  cases all : allTaken fragments taken with
  | false => simp [cwACStopRetransmission, readFragments, WTPManager.fragments]
  | true =>
    cases timerAdded with
    | false => simp [cwACStopRetransmission, readFragments, WTPManager.fragments]
    | true => simp

/-- While a response is awaited no fragments are left. -/
def Drained (s : WTPManager) : Prop :=
  s.isRetransmitting = true → s.messages = none ∧ s.messagesCount = 0

/-- The session after the retransmission has been stopped, where no fragments were left. -/
def WTPManager.stopped (s : WTPManager) : WTPManager :=
  if s.isRetransmitting then
    { s with
      isRetransmitting := false, currentPacketTimer := false, responseType := unusedMsgType
      responseSeqNum := 0, messages := none }
  else s

theorem Drained.stop {s : WTPManager} (drained : Drained s) :
    cwACStopRetransmission s = .ok () s.stopped := by
  cases retransmitting : s.isRetransmitting with
  | false =>
    rw [WTPManager.stopped, retransmitting]
    exact cwACStopRetransmission_idle s retransmitting
  | true =>
    obtain ⟨absent, counted⟩ := drained retransmitting
    have readable : s.fragments = some [] := by
      simp [WTPManager.fragments, absent, counted]
    rw [WTPManager.stopped, retransmitting]
    exact cwACStopRetransmission_run s readable retransmitting

section Stopped

variable (s : WTPManager)

@[simp] theorem stopped_isRetransmitting : s.stopped.isRetransmitting = false := by
  rw [WTPManager.stopped]
  split
  next => rfl
  next idle => exact Bool.not_eq_true _ ▸ idle

@[simp] theorem stopped_isRequestClose : s.stopped.isRequestClose = s.isRequestClose := by
  rw [WTPManager.stopped]
  split <;> rfl

@[simp] theorem stopped_lastError : s.stopped.lastError = s.lastError := by
  rw [WTPManager.stopped]
  split <;> rfl

@[simp] theorem stopped_currentTimer : s.stopped.currentTimer = s.currentTimer := by
  rw [WTPManager.stopped]
  split <;> rfl

@[simp] theorem stopped_sent : s.stopped.sent = s.sent := by
  rw [WTPManager.stopped]
  split <;> rfl

end Stopped

/-- Without messages the handler does nothing. -/
theorem cwSoftTimerExpiredHandler_run (maxRetransmit : Nat) (taken : List Bool) (timerAdded : Bool)
    (s : WTPManager) (freed : s.isRetransmitting = true → s.messages = none) :
    cwSoftTimerExpiredHandler maxRetransmit taken timerAdded s = .ok () s := by
  cases retransmitting : s.isRetransmitting with
  | false => simp [cwSoftTimerExpiredHandler, retransmitting]
  | true => simp [cwSoftTimerExpiredHandler, freed retransmitting]

/-- The fragments have been freed while their response is awaited. -/
structure Freed (w : Watched) : Prop where
  live : w.session.isRequestClose = false
  retransmitting : w.session.isRetransmitting = w.outstanding.isSome
  messages : w.session.isRetransmitting = true →
    w.session.messages = none ∧ w.session.messagesCount = 0
  nonempty : ∀ request, w.outstanding = some request → request.1 ≠ []

theorem freed_idle {s : WTPManager} (live : s.isRequestClose = false)
    (idle : s.isRetransmitting = false) : Freed { session := s, outstanding := none } where
  live := live
  retransmitting := idle
  messages := fun retransmitting => by simp [idle] at retransmitting
  nonempty := fun request awaited => by cases awaited

variable {maxRetransmit : Nat} {w w' : Watched} {event : RetransmissionEvent}

theorem Freed.stop (freed : Freed w) :
    ∃ s, cwACStopRetransmission w.session = .ok () s ∧ s.sent = w.session.sent ∧
      Freed { session := s, outstanding := none } := by
  have drained : Drained w.session := freed.messages
  refine ⟨_, drained.stop, stopped_sent _, freed_idle ?_ (stopped_isRetransmitting _)⟩
  rw [stopped_isRequestClose]
  exact freed.live

theorem Freed.step (freed : Freed w) (step : Step maxRetransmit w event w') : Freed w' := by
  cases event with
  | send msgType seqNum first rest taken timerAdded =>
    rw [Step, Watched.step, sendRequest_run] at step
    cases all : allTaken (first :: rest) taken && timerAdded with
    | false =>
      rw [all] at step
      cases step
      exact freed_idle freed.live rfl
    | true =>
      rw [all] at step
      cases step
      rw [Bool.and_eq_true] at all
      exact ⟨freed.live, rfl, fun _ => ⟨rfl, by rw [all.1]; rfl⟩, fun request awaited => by
        cases awaited
        exact List.cons_ne_nil _ _⟩
  | softTimerExpired taken timerAdded =>
    rw [Step, Watched.step, cwSoftTimerExpiredHandler_run _ _ _ _
      fun retransmitting => (freed.messages retransmitting).1] at step
    cases step
    refine ⟨freed.live, by simp [freed.retransmitting], freed.messages, ?_⟩
    intro request awaited
    obtain ⟨earlier, awaitedBefore, rfl⟩ := Option.map_eq_some_iff.mp awaited
    exact freed.nonempty earlier awaitedBefore
  | matchingResponse =>
    obtain ⟨s, returned, -, freed'⟩ := freed.stop
    rw [Step, Watched.step, returned] at step
    cases step
    exact freed'
  | stop =>
    obtain ⟨s, returned, -, freed'⟩ := freed.stop
    rw [Step, Watched.step, returned] at step
    cases step
    exact freed'

/-! ## Runs -/

theorem Freed.retransmits_iff (freed : Freed w) (event : RetransmissionEvent) :
    Retransmits maxRetransmit w event ↔ ExpiresIdle w event := by
  cases event with
  | send msgType seqNum first rest taken timerAdded =>
    simp [Retransmits, ExpiresIdle, after, sendRequest_run]
  | softTimerExpired taken timerAdded =>
    have same : after (cwSoftTimerExpiredHandler maxRetransmit taken timerAdded) w.session =
        w.session := by
      rw [after, cwSoftTimerExpiredHandler_run _ _ _ _
        fun retransmitting => (freed.messages retransmitting).1]
    simp only [Retransmits, ExpiresIdle, same]
    cases outstanding : w.outstanding with
    | none => simp
    | some request =>
      -- neither of what is owed happens
      obtain ⟨fragments, expiries⟩ := request
      have nonempty : attempted fragments taken ≠ [] := by
        cases fragments with
        | nil => exact absurd rfl (freed.nonempty _ outstanding)
        | cons first rest => exact List.cons_ne_nil _ _
      simp [freed.live, nonempty]
  | matchingResponse =>
    obtain ⟨s, returned, same, -⟩ := freed.stop
    simp [Retransmits, ExpiresIdle, after, returned, same]
  | stop =>
    obtain ⟨s, returned, same, -⟩ := freed.stop
    simp [Retransmits, ExpiresIdle, after, returned, same]

/-- Along every run of a session each request is sent again at every expiry, and given up
    after the last, exactly when no expiry meets an outstanding request. -/
theorem run_retransmits_iff (maxRetransmit : Nat) (slot : WTPManager)
    (events : List RetransmissionEvent) :
    Run.AllSteps (Step maxRetransmit) (Retransmits maxRetransmit)
        { session := slot.start, outstanding := none } events ↔
      Run.AllSteps (Step maxRetransmit) ExpiresIdle
        { session := slot.start, outstanding := none } events := by
  have preserved : ∀ w event w', Freed w → Step maxRetransmit w event w' → Freed w' :=
    fun _ _ _ freed step => freed.step step
  exact Run.AllSteps.congr_of_invariant preserved (fun _ event freed => freed.retransmits_iff event)
    (freed_idle rfl rfl) events

/-- A session in which nothing has happened yet. -/
def emptySlot : WTPManager where
  currentState := .join
  isRequestClose := false
  lastError := none
  currentTimer := false
  criticalBlocked := true
  messages := none
  messagesCount := 0
  retransmissionCount := 0
  currentPacketTimer := false
  isRetransmitting := false
  responseType := unusedMsgType
  responseSeqNum := 0
  interfaceCommandProgress := false
  interfaceResult := 0
  configuration := { BSSID := fun _ _ => none, bindingValues := [], qosValues := none }
  sent := []

/-- One request, and an expiry of the timer: nothing is sent again. -/
theorem softTimer_not_retransmits : ¬ Run.AllSteps (Step 5) (Retransmits 5)
    { session := emptySlot.start, outstanding := none }
    [.send 26 7 [1, 2, 3] [] [] true, .softTimerExpired [] true] := by
  rintro ⟨-, rest⟩
  have sent : Step 5 { session := emptySlot.start, outstanding := none }
    (.send 26 7 [1, 2, 3] [] [] true) _ := rfl
  obtain ⟨expired, -⟩ := rest _ sent
  have freed := (freed_idle (s := emptySlot.start) rfl rfl).step sent
  cases (freed.retransmits_iff _).mp expired

end WlanController.Sessions
