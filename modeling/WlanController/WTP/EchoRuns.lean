import WlanController.WTP.EchoSupervision

/-!
# Runs of the supervision

A message that comes while the handler runs arms a timer of its own, and the handler arms another
when it is done.  From then on both are handled and armed again for ever, since only the last one
is known by its identifier.  Where that does not happen every armed echo timer is the last one.
-/

namespace WlanController.WTP

open Timers Run

namespace EchoState

variable {settings : EchoSettings} {s s' : EchoState}

/-- What the steps keep as long as they are uncrossed. -/
structure Kept (s : EchoState) : Prop where
  issued : Issued s.timers
  current : ∀ timer ∈ s.timers.waiting, IsEcho timer → (timer.1 : Int) = s.gCWEchoRequestTimerID
  set : s.inRun = true → s.gEchoTimerSet = true
  armed : s.Supervising → ∃ timer ∈ s.timers.waiting, IsEcho timer
  counts : s.handler ≠ .sent → s.gWTPEchoRetransmissionCount = s.unanswered
  /-- The echo request that was sent is not yet counted. -/
  pending : s.handler = .sent →
    s.gWTPEchoRetransmissionCount + (if s.answered then 0 else 1) = s.unanswered
  declared : s.inRun = true → s.gWTPExitRunEcho = s.exhausted

theorem kept_initial (now : Nat) : Kept (initial now) where
  issued := issued_timerInit now
  current := fun _ member => by simp [initial, timerInit, TimerState.waiting, waitingIn] at member
  set := fun running => by simp [initial] at running
  armed := fun supervising => by simp [initial, Supervising] at supervising
  counts := fun _ => rfl
  pending := fun sent => by simp [initial] at sent
  declared := fun _ => rfl

/-- There is one echo timer at most, since the last one is the only one. -/
theorem Kept.supervised (kept : Kept s) : Supervised s where
  one := by
    intro timer waiting echo timer' waiting' echo'
    apply kept.issued.eq_of_id (mem_armed.mpr (.inr waiting)) (mem_armed.mpr (.inr waiting'))
    have same := (kept.current timer waiting echo).trans (kept.current timer' waiting' echo').symm
    exact Int.ofNat_inj.mp same
  armed := kept.armed
  counts := kept.counts
  declared := kept.declared

/-! ## Starting and stopping the echo timer -/

theorem accepts_echo (settings : EchoSettings) :
    Accepts settings.gEchoInterval 0 (some echoCall) := by
  have positive := settings.interval_pos
  refine ⟨rfl, ?_⟩
  omega

theorem start_eq (settings : EchoSettings) (s : EchoState) :
    s.cwStartEchoRequestTimer settings = (true, { s with
      timers := (timerAdd settings.gEchoInterval 0 (some echoCall) s.timers).2
      gCWEchoRequestTimerID := s.timers.cur_id
      gEchoTimerSet := true }) := by
  have identifier : (timerAdd settings.gEchoInterval 0 (some echoCall) s.timers).1 =
      (s.timers.cur_id : Int) := by
    rw [timerAdd_fst, if_pos (accepts_echo settings)]
  have accepted : (s.timers.cur_id : Int) ≠ -1 := by omega
  simp only [cwStartEchoRequestTimer, identifier, if_neg accepted]

/-- The timers once an echo timer has been added. -/
def addEcho (settings : EchoSettings) (timers : TimerState TimerCall) : TimerState TimerCall :=
  (timerAdd settings.gEchoInterval 0 (some echoCall) timers).2

theorem mem_addEcho (timers : TimerState TimerCall) (timer : Nat × TimerCall) :
    timer ∈ (addEcho settings timers).waiting ↔
      timer = (timers.cur_id, echoCall) ∨ timer ∈ timers.waiting :=
  mem_waiting_timerAdd (accepts_echo settings) timer

theorem addEcho_armed (timers : TimerState TimerCall) :
    ∃ timer ∈ (addEcho settings timers).waiting, IsEcho timer :=
  ⟨_, (mem_addEcho timers _).mpr (.inl rfl), rfl⟩

/-- The new echo timer is the last one. -/
theorem addEcho_current (settings : EchoSettings) (unarmed : s.Unarmed) :
    ∀ timer ∈ (addEcho settings s.timers).waiting, IsEcho timer →
      (timer.1 : Int) = s.timers.cur_id := by
  intro timer waiting echo
  cases (mem_addEcho s.timers timer).mp waiting with
  | inl new =>
    rw [new]
  | inr old => exact absurd echo (unarmed timer old)

/-- Where an echo timer is armed already, there are two of them then. -/
theorem unarmed_of_one (kept : Kept s) (one : ∀ timer ∈ (addEcho settings s.timers).waiting,
    IsEcho timer → ∀ timer' ∈ (addEcho settings s.timers).waiting, IsEcho timer' →
      timer = timer') : s.Unarmed := by
  intro timer waiting echo
  have same := one timer ((mem_addEcho s.timers timer).mpr (.inr waiting)) echo
    (s.timers.cur_id, echoCall) ((mem_addEcho s.timers _).mpr (.inl rfl)) rfl
  have given := kept.issued.armed_lt (mem_armed.mpr (.inr waiting))
  rw [same] at given
  exact Nat.lt_irrefl _ given

theorem Kept.stop_unarmed (kept : Kept s) : s.cwStopEchoRequestsTimer.Unarmed := by
  intro timer waiting echo
  have left := (mem_waiting_timerRem kept.issued s.gCWEchoRequestTimerID timer).mp waiting
  exact left.2 (kept.current timer left.1 echo)

theorem Kept.clear (kept : Kept s) : Kept s.clearRunState where
  issued := kept.issued.remove _
  current := fun timer waiting echo => absurd echo (kept.stop_unarmed timer waiting)
  set := fun running => Bool.noConfusion running
  armed := fun supervising => Bool.noConfusion supervising.1
  counts := kept.counts
  pending := kept.pending
  declared := fun running => Bool.noConfusion running

/-! ## The steps -/

theorem enter_eq (settings : EchoSettings) (s : EchoState) : s.cwWTPEnterRun settings = { s with
    timers := addEcho settings s.timers
    gCWEchoRequestTimerID := s.timers.cur_id
    gEchoTimerSet := true
    gWTPEchoRetransmissionCount := 0
    unanswered := 0
    answered := true
    exhausted := false
    inRun := true } := by
  simp only [cwWTPEnterRun, start_eq]
  rfl

theorem Kept.enter (kept : Kept s) (living : s.gWTPExitRunEcho = false) (unarmed : s.Unarmed) :
    Kept (s.cwWTPEnterRun settings) := by
  rw [enter_eq]
  constructor
  case issued => exact kept.issued.add _ _ _
  case current => exact addEcho_current settings unarmed
  case set => exact fun _ => rfl
  case armed => exact fun _ => addEcho_armed s.timers
  case counts => exact fun _ => rfl
  case pending => exact fun _ => rfl
  case declared => exact fun _ => living

theorem receive_eq (settings : EchoSettings) (s : EchoState) : s.receive settings = { s with
    timers := addEcho settings (timerRem s.gCWEchoRequestTimerID s.timers)
    gCWEchoRequestTimerID := s.timers.cur_id
    gEchoTimerSet := true
    gWTPEchoRetransmissionCount := 0
    unanswered := 0
    answered := true } := by
  have counter := cur_id_timerRem s.timers s.gCWEchoRequestTimerID
  simp only [EchoState.receive, cwResetEchoRequestRetransmit, start_eq, cwStopEchoRequestsTimer,
    counter]
  rfl

theorem Kept.receive (kept : Kept s) : Kept (s.receive settings) := by
  have counter := cur_id_timerRem s.timers s.gCWEchoRequestTimerID
  have current := addEcho_current settings kept.stop_unarmed
  rw [receive_eq]
  constructor
  case issued => exact (kept.issued.remove _).add _ _ _
  case current =>
    intro timer waiting echo
    have same := current timer waiting echo
    rw [cwStopEchoRequestsTimer, counter] at same
    exact same
  case set => exact fun _ => rfl
  case armed => exact fun _ => addEcho_armed _
  case counts => exact fun _ => rfl
  case pending => exact fun _ => rfl
  case declared => exact kept.declared

/-- The handler returns without having started a timer. -/
theorem Kept.returns (kept : Kept s) (unsent : s.handler ≠ .sent)
    (dead : s.inRun = true → s.gWTPDataChannelDeadFlag = true ∨ s.gWTPExitRunEcho = true) :
    Kept s.handlerReturns where
  issued := kept.issued.sublist rfl (List.Sublist.map _ (List.sublist_append_right _ _))
  current := kept.current
  set := kept.set
  armed := by
    intro supervising
    obtain ⟨running, channel, peer, _⟩ := supervising
    cases dead running with
    | inl channelDead => exact absurd (channel.symm.trans channelDead) Bool.noConfusion
    | inr declared => exact absurd (peer.symm.trans declared) Bool.noConfusion
  counts := fun _ => kept.counts unsent
  pending := fun sent => EchoHandler.noConfusion sent
  declared := kept.declared

theorem Kept.note (kept : Kept s)
    (declared : s.inRun = true → s.gWTPExitRunEcho = (s.note settings).exhausted) :
    Kept (s.note settings) where
  issued := kept.issued
  current := kept.current
  set := kept.set
  armed := kept.armed
  counts := kept.counts
  pending := kept.pending
  declared := declared

/-- Too many echo requests were not answered, and the AC is declared dead. -/
theorem Kept.declare (kept : Kept s) (unsent : s.handler ≠ .sent)
    (exceeded : settings.gWTPMaxRetransmitEcho ≤ s.unanswered) :
    Kept ({ s.note settings with gWTPExitRunEcho := true }).handlerReturns where
  issued := kept.issued.sublist rfl (List.Sublist.map _ (List.sublist_append_right _ _))
  current := kept.current
  set := kept.set
  armed := fun supervising => absurd supervising.2.2.1 Bool.noConfusion
  counts := fun _ => kept.counts unsent
  pending := fun sent => EchoHandler.noConfusion sent
  declared := by
    intro running
    have running : s.inRun = true := running
    simp [handlerReturns, EchoState.note, running, exceeded]

/-- What the handler finds is what went unanswered, since it has not sent its own request yet. -/
theorem Kept.check (kept : Kept s) (entered : s.handler = .entered) :
    Kept ((s.note settings).check settings) := by
  have unsent : s.handler ≠ .sent := by simp [entered]
  have counts := kept.counts unsent
  have same : (s.note settings).gWTPEchoRetransmissionCount = s.unanswered := counts
  unfold EchoState.check
  by_cases set : (s.note settings).gEchoTimerSet = false
  · -- a timer that was stopped is found outside of RUN only
    have outside : s.inRun = true → False := by
      intro running
      exact absurd ((kept.set running).symm.trans set) Bool.noConfusion
    rw [if_pos set]
    have noted : Kept (s.note settings) := kept.note fun running => (outside running).elim
    exact noted.returns unsent fun running => (outside running).elim
  · rw [if_neg set]
    by_cases exceeded : settings.gWTPMaxRetransmitEcho ≤
        (s.note settings).gWTPEchoRetransmissionCount
    · rw [if_pos exceeded]
      exact kept.declare unsent (same ▸ exceeded)
    · rw [if_neg exceeded]
      have quiet : (s.note settings).exhausted = s.exhausted := by
        rw [same] at exceeded
        simp [EchoState.note, exceeded]
      have noted := kept.note fun running => (kept.declared running).trans quiet.symm
      by_cases dead : (s.note settings).gWTPDataChannelDeadFlag = true
      · rw [if_pos dead]
        exact noted.returns unsent fun _ => .inl dead
      · rw [if_neg dead]
        exact { noted with
          counts := fun _ => counts
          pending := fun sent => EchoHandler.noConfusion sent }

theorem Kept.send (kept : Kept s) (checked : s.handler = .checked) : Kept s.send where
  issued := kept.issued
  current := kept.current
  set := kept.set
  armed := kept.armed
  counts := fun unsent => absurd rfl unsent
  pending := by
    intro _
    have counts := kept.counts (by simp [checked])
    simp [EchoState.send, counts]
  declared := kept.declared

theorem Kept.increment (kept : Kept s) (sent : s.handler = .sent) (unanswered : s.answered = false) :
    Kept s.increment where
  issued := kept.issued
  current := kept.current
  set := kept.set
  armed := kept.armed
  counts := by
    intro _
    have pending := kept.pending sent
    show s.gWTPEchoRetransmissionCount + 1 = s.unanswered
    simpa [unanswered] using pending
  pending := fun sent => EchoHandler.noConfusion sent
  declared := kept.declared

theorem rearm_eq (settings : EchoSettings) (s : EchoState) : s.rearm settings = { s with
    timers := { addEcho settings s.timers with ticker := .idle }
    gCWEchoRequestTimerID := s.timers.cur_id
    gEchoTimerSet := true
    handler := .returned } := by
  simp only [EchoState.rearm, start_eq]
  rfl

theorem Kept.rearm (kept : Kept s) (counted : s.handler = .counted) (unarmed : s.Unarmed) :
    Kept (s.rearm settings) := by
  rw [rearm_eq]
  have added : Issued (addEcho settings s.timers) := kept.issued.add _ _ _
  constructor
  case issued => exact added.sublist rfl (List.Sublist.map _ (List.sublist_append_right _ _))
  case current => exact addEcho_current settings unarmed
  case set => exact fun _ => rfl
  case armed => exact fun _ => addEcho_armed s.timers
  case counts => exact fun _ => kept.counts (by simp [counted])
  case pending => exact fun sent => EchoHandler.noConfusion sent
  case declared => exact kept.declared

/-! ## The steps of the timers -/

theorem ticker_timerAdd (timers : TimerState TimerCall) (sec usec : Int) (hndlr : Option TimerCall) :
    (timerAdd sec usec hndlr timers).2.ticker = timers.ticker := by
  by_cases accepts : Accepts sec usec hndlr
  · cases hndlr with
    | none => simp [Accepts] at accepts
    | some call =>
      obtain ⟨timerq, alarm, added⟩ := timerAdd_fields timers accepts
      rw [added]
      rfl
  · rw [timerAdd_rejected accepts]

theorem expiring_congr {timers : TimerState TimerCall} (same : timers.ticker = s.timers.ticker) :
    expiring { s with timers := timers } = s.expiring := by
  unfold expiring
  rw [same]

/-- Only the call of the handler and its return end that an echo timer is being handled. -/
theorem expiring_of_step {timers : TimerState TimerCall} {event : Timers.Event TimerCall}
    (stepped : Timers.step s.timers event timers)
    (calls : event = .start ∨ event = .finish → s.expiring = false)
    (settled : expiring { s with timers := timers } = false) : s.expiring = false := by
  cases event with
  | advance time =>
    cases stepped
    exact settled
  | add sec usec hndlr =>
    cases stepped
    exact (expiring_congr (ticker_timerAdd s.timers sec usec hndlr)).symm.trans settled
  | remove id =>
    cases stepped
    cases id <;> exact settled
  | ring =>
    simp only [Timers.step, exec] at stepped
    split at stepped
    case h_1 =>
      split at stepped
      case isTrue =>
        cases stepped
        exact settled
      case isFalse => cases stepped
    case h_2 => cases stepped
  | arm =>
    simp only [Timers.step, exec] at stepped
    split at stepped
    case h_1 ticker _ => simp [expiring, ticker]
    case h_2 => cases stepped
  | wake =>
    simp only [Timers.step, exec] at stepped
    split at stepped
    case h_1 ticker _ => simp [expiring, ticker]
    case h_2 => cases stepped
  | take =>
    simp only [Timers.step, exec] at stepped
    split at stepped
    case h_1 ticker _ => simp [expiring, ticker]
    case h_2 => cases stepped
  | start => exact calls (.inl rfl)
  | finish => exact calls (.inr rfl)

/-- An echo timer that has been taken off the queue is being handled. -/
theorem Kept.tick (kept : Kept s) {timers : TimerState TimerCall}
    {event : Timers.Event TimerCall} (stepped : Timers.step s.timers event timers)
    (adds : ∀ sec usec hndlr, event ≠ .add sec usec hndlr) (removes : ∀ id, event ≠ .remove id)
    (calls : event = .start ∨ event = .finish → s.expiring = false) :
    Kept { s with timers := timers } := by
  have waits := waiting_step stepped adds removes
  exact { kept with
    issued := kept.issued.step stepped
    current := by
      intro timer waiting echo
      apply kept.current timer _ echo
      cases waits with
      | inl same => exact same ▸ waiting
      | inr taken =>
        obtain ⟨first, _, before⟩ := taken
        rw [before]
        exact List.mem_cons_of_mem _ waiting
    armed := by
      intro supervising
      obtain ⟨running, channel, peer, settled⟩ := supervising
      have before := expiring_of_step stepped calls settled
      obtain ⟨timer, waiting, echo⟩ := kept.armed ⟨running, channel, peer, before⟩
      refine ⟨timer, ?_, echo⟩
      cases waits with
      | inl same => exact same ▸ waiting
      | inr taken =>
        obtain ⟨first, ticker, was⟩ := taken
        rw [was] at waiting
        cases List.mem_cons.mp waiting with
        | inl same =>
          -- it would be the one that is about to be handled
          rw [same] at echo
          simp [expiring, ticker, echo] at settled
        | inr later => exact later }

theorem Kept.addOther (kept : Kept s) (sec usec : Int) {hndlr : Option TimerCall}
    (other : ∀ call ∈ hndlr, call.timer_hdl ≠ .cwWTPEchoRequestTimerExpiredHandler) :
    Kept { s with timers := (timerAdd sec usec hndlr s.timers).2 } := by
  have waiting : ∀ timer, IsEcho timer →
      (timer ∈ (timerAdd sec usec hndlr s.timers).2.waiting ↔ timer ∈ s.timers.waiting) := by
    intro timer echo
    by_cases accepts : Accepts sec usec hndlr
    · cases hndlr with
      | none => simp [Accepts] at accepts
      | some call =>
        rw [mem_waiting_timerAdd accepts]
        apply or_iff_right
        intro new
        rw [new] at echo
        exact other call rfl echo
    · rw [timerAdd_rejected accepts]
  exact { kept with
    issued := kept.issued.add sec usec hndlr
    current := fun timer member echo => kept.current timer ((waiting timer echo).mp member) echo
    armed := by
      intro supervising
      have before := (expiring_congr (ticker_timerAdd s.timers sec usec hndlr)).symm.trans
        supervising.2.2.2
      obtain ⟨timer, member, echo⟩ := kept.armed
        ⟨supervising.1, supervising.2.1, supervising.2.2.1, before⟩
      exact ⟨timer, (waiting timer echo).mpr member, echo⟩ }

theorem ticker_timerRem (timers : TimerState TimerCall) (id : Int) :
    (timerRem id timers).ticker = timers.ticker := by
  cases id <;> rfl

theorem Kept.removeOther (kept : Kept s) {id : Int}
    (spared : s.Supervising → ∀ timer ∈ s.timers.waiting, IsEcho timer → (timer.1 : Int) ≠ id) :
    Kept { s with timers := timerRem id s.timers } := by
  have waiting := mem_waiting_timerRem kept.issued id
  exact { kept with
    issued := kept.issued.remove id
    current := fun timer member echo => kept.current timer ((waiting timer).mp member).1 echo
    armed := by
      intro supervising
      have before := (expiring_congr (ticker_timerRem s.timers id)).symm.trans supervising.2.2.2
      have supervising : s.Supervising :=
        ⟨supervising.1, supervising.2.1, supervising.2.2.1, before⟩
      obtain ⟨timer, member, echo⟩ := kept.armed supervising
      exact ⟨timer, (waiting timer).mpr ⟨member, spared supervising timer member echo⟩, echo⟩ }

theorem Kept.library (kept : Kept s) {event : Timers.Event TimerCall}
    (uncrossed : s.Uncrossed (.library event))
    (stepped : EchoStep settings s (.library event) s') : Kept s' := by
  have tick : ∀ event : Timers.Event TimerCall, (∀ sec usec hndlr, event ≠ .add sec usec hndlr) →
      (∀ id, event ≠ .remove id) → (event = .start ∨ event = .finish → s.expiring = false) →
      s.library event = some s' → Kept s' := by
    intro event adds removes calls stepped
    obtain ⟨timers, next, rfl⟩ := Option.map_eq_some_iff.mp stepped
    exact kept.tick next adds removes calls
  cases event with
  | add sec usec hndlr =>
    simp only [EchoStep, EchoEvent.exec] at stepped
    split at stepped
    case isTrue other =>
      cases stepped
      exact kept.addOther sec usec other
    case isFalse => cases stepped
  | remove id =>
    cases stepped
    exact kept.removeOther uncrossed
  | start =>
    simp only [EchoStep, EchoEvent.exec] at stepped
    split at stepped
    case isTrue => cases stepped
    case isFalse settled =>
      exact tick .start (by simp) (by simp) (fun _ => by simpa using settled) stepped
  | finish =>
    simp only [EchoStep, EchoEvent.exec] at stepped
    split at stepped
    case isTrue => cases stepped
    case isFalse settled =>
      exact tick .finish (by simp) (by simp) (fun _ => by simpa using settled) stepped
  | advance time => exact tick (.advance time) (by simp) (by simp) (by simp) stepped
  | ring => exact tick .ring (by simp) (by simp) (by simp) stepped
  | arm => exact tick .arm (by simp) (by simp) (by simp) stepped
  | wake => exact tick .wake (by simp) (by simp) (by simp) stepped
  | take => exact tick .take (by simp) (by simp) (by simp) stepped

/-- While the handler runs none need be armed. -/
theorem Kept.expire (kept : Kept s) (stepped : EchoStep settings s .expire s') : Kept s' := by
  simp only [EchoStep, EchoEvent.exec] at stepped
  split at stepped
  case isFalse => cases stepped
  case isTrue expires =>
    obtain ⟨called, next, rfl⟩ := Option.map_eq_some_iff.mp stepped
    obtain ⟨timers, started, rfl⟩ := Option.map_eq_some_iff.mp next
    have issued := kept.issued.step started
    simp only [exec] at started
    split at started
    case h_2 => cases started
    case h_1 timer ticker =>
      have echo : IsEcho timer.call := by simpa [expiring, ticker] using expires.1
      cases started
      exact { kept with
        issued := issued
        armed := by
          intro supervising
          have settled := supervising.2.2.2
          simp [expiring, echo] at settled
        counts := fun _ => kept.counts (by simp [expires.2])
        pending := fun sent => EchoHandler.noConfusion sent }

/-! ## Runs -/

theorem Kept.pass (kept : Kept s) : Kept s.pass := by
  unfold EchoState.pass
  split
  case isTrue => exact kept.clear
  case isFalse =>
    split
    case isTrue => exact kept.clear
    case isFalse => exact kept

theorem Kept.step (kept : Kept s) {event : EchoEvent} (uncrossed : s.Uncrossed event)
    (stepped : EchoStep settings s event s') : Kept s' := by
  cases event with
  | library event => exact kept.library uncrossed stepped
  | expire => exact kept.expire stepped
  | enter =>
    obtain ⟨outside, next⟩ := Option.ite_none_left_eq_some.mp stepped
    cases next
    obtain ⟨living, unarmed⟩ := uncrossed (by simpa using outside)
    exact kept.enter living unarmed
  | pass =>
    obtain ⟨_, next⟩ := Option.ite_none_right_eq_some.mp stepped
    cases next
    exact kept.pass
  | fails =>
    obtain ⟨_, next⟩ := Option.ite_none_right_eq_some.mp stepped
    cases next
    exact kept.clear
  | receive =>
    obtain ⟨_, next⟩ := Option.ite_none_right_eq_some.mp stepped
    cases next
    exact kept.receive
  | dataChannelDies =>
    obtain ⟨_, next⟩ := Option.ite_none_right_eq_some.mp stepped
    cases next
    exact { kept with armed := fun supervising => Bool.noConfusion supervising.2.1 }
  | check =>
    obtain ⟨entered, next⟩ := Option.ite_none_right_eq_some.mp stepped
    cases next
    exact kept.check entered
  | send =>
    obtain ⟨checked, next⟩ := Option.ite_none_right_eq_some.mp stepped
    cases next
    exact kept.send checked
  | increment =>
    obtain ⟨sent, next⟩ := Option.ite_none_right_eq_some.mp stepped
    cases next
    exact kept.increment sent (uncrossed sent)
  | rearm =>
    obtain ⟨counted, next⟩ := Option.ite_none_right_eq_some.mp stepped
    cases next
    exact kept.rearm counted (uncrossed counted)

/-- The main loop sees no flag but that of the data channel and of the echo requests. -/
theorem Kept.leaves (kept : Kept s) {event : EchoEvent} (stepped : EchoStep settings s event s') :
    s.Leaves s' event := by
  cases event with
  | pass =>
    intro alive
    obtain ⟨running, next⟩ := Option.ite_none_right_eq_some.mp stepped
    cases next
    have declared := kept.declared running
    simp only [EchoState.pass, alive, Bool.false_eq_true, if_false]
    rw [declared]
    cases s.exhausted with
    | true => simp [clearRunState]
    | false => simp [running]
  | _ => trivial

/-! ## No other step keeps up the supervision -/

theorem Kept.uncrossed_increment (kept : Kept s) (stays : s.StaysSupervised settings .increment) :
    s.Uncrossed .increment := by
  intro sent
  have counted := (stays s.increment (if_pos sent)).1.counts (by simp [EchoState.increment])
  have pending := kept.pending sent
  cases answered : s.answered with
  | false => rfl
  | true =>
    have counted : s.gWTPEchoRetransmissionCount + 1 = s.unanswered := counted
    rw [answered, if_pos rfl] at pending
    omega

theorem Kept.uncrossed_rearm (kept : Kept s) (stays : s.StaysSupervised settings .rearm) :
    s.Uncrossed .rearm := by
  intro counted
  have one := (stays (s.rearm settings) (if_pos counted)).1.one
  rw [rearm_eq] at one
  exact unarmed_of_one kept one

theorem Kept.uncrossed_enter (kept : Kept s) (stays : s.StaysSupervised settings .enter) :
    s.Uncrossed .enter := by
  intro outside
  have entered := (stays (s.cwWTPEnterRun settings) (if_neg (by simp [outside]))).1
  rw [enter_eq] at entered
  exact ⟨entered.declared rfl, unarmed_of_one kept entered.one⟩

theorem Kept.uncrossed_remove (kept : Kept s) {id : Int}
    (stays : s.StaysSupervised settings (.library (.remove id))) :
    s.Uncrossed (.library (.remove id)) := by
  intro supervising timer waiting echo same
  have ticker := ticker_timerRem s.timers id
  have settled := (expiring_congr ticker).trans supervising.2.2.2
  obtain ⟨timer', waiting', echo'⟩ := (stays { s with timers := timerRem id s.timers } rfl).1.armed
    ⟨supervising.1, supervising.2.1, supervising.2.2.1, settled⟩
  -- the last echo timer was the only one
  obtain ⟨before, different⟩ := (mem_waiting_timerRem kept.issued id timer').mp waiting'
  have current := kept.current timer waiting echo
  have current' := kept.current timer' before echo'
  exact different (current'.trans (current.symm.trans same))

theorem Kept.uncrossed (kept : Kept s) {event : EchoEvent}
    (stays : s.StaysSupervised settings event) : s.Uncrossed event := by
  cases event with
  | increment => exact kept.uncrossed_increment stays
  | rearm => exact kept.uncrossed_rearm stays
  | enter => exact kept.uncrossed_enter stays
  | library event =>
    cases event with
    | remove id => exact kept.uncrossed_remove stays
    | _ => trivial
  | _ => trivial

theorem Kept.staysSupervised_iff (kept : Kept s) (event : EchoEvent) :
    s.StaysSupervised settings event ↔ s.Uncrossed event := by
  constructor
  · exact kept.uncrossed
  · intro uncrossed s' stepped
    exact ⟨(kept.step uncrossed stepped).supervised, kept.leaves stepped⟩

theorem allSteps_uncrossed_iff (settings : EchoSettings) (now : Nat) (events : List EchoEvent) :
    AllSteps (EchoStep settings) (StaysSupervised settings) (initial now) events ↔
      AllSteps (EchoStep settings) Uncrossed (initial now) events := by
  have agree : ∀ s event, Kept s → (s.StaysSupervised settings event ↔ s.Uncrossed event) :=
    fun s event kept => kept.staysSupervised_iff event
  have preserved : ∀ s event s', Kept s → s.StaysSupervised settings event →
      EchoStep settings s event s' → Kept s' :=
    fun s event s' kept stays stepped => kept.step (kept.uncrossed stays) stepped
  exact AllSteps.congr_of_kept agree preserved (kept_initial now) events

/-- The supervision is kept up all along a run exactly if its steps are uncrossed. -/
theorem supervision_iff (settings : EchoSettings) (now : Nat) (events : List EchoEvent) :
    (initial now).Supervised ∧
        AllSteps (EchoStep settings) (StaysSupervised settings) (initial now) events ↔
      AllSteps (EchoStep settings) Uncrossed (initial now) events := by
  rw [allSteps_uncrossed_iff]
  exact and_iff_right (kept_initial now).supervised

theorem defaultInterval_pos : (0 : Int) < 5 := by decide

/-- The defaults. -/
def defaultEcho : EchoSettings where
  gEchoInterval := 5
  interval_pos := defaultInterval_pos
  gWTPMaxRetransmitEcho := 10

/-- A message comes while the first echo request is being sent. -/
def crossedMessage : List EchoEvent :=
  [.enter, .library .arm, .library (.advance 5000000), .library .ring, .library .wake,
    .library .take, .expire, .check, .receive, .send, .increment]

/-- The message has armed a timer when the handler is about to start its own. -/
theorem crossedMessage_not_supervised : ¬ ∀ (settings : EchoSettings) (now : Nat)
    (events : List EchoEvent), (initial now).Supervised ∧
      AllSteps (EchoStep settings) (StaysSupervised settings) (initial now) events := by
  intro holds
  have all := (allSteps_uncrossed_iff defaultEcho 0 _).mp
    (holds defaultEcho 0 (crossedMessage ++ [.rearm])).2
  have armed : (crossedMessage.foldlM (fun s event => EchoEvent.exec defaultEcho s event)
      (initial 0)).any (fun s => s.handler = .counted ∧ (1, echoCall) ∈ s.timers.waiting) = true := by
    decide +kernel
  obtain ⟨s, returned, found⟩ := (Option.any_eq_true _ _).mp armed
  obtain ⟨counted, waiting⟩ := of_decide_eq_true found
  have unarmed : s.handler = .counted → s.Unarmed := all.at_end (trace_of_foldlM returned)
  exact unarmed counted (1, echoCall) waiting rfl

end EchoState

end WlanController.WTP
