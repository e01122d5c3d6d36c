import WlanController.WTP.JoinAttempts

/-!
# Runs of the attempts to join

The flag that the handler clears is never set again, so that one timer that expires is the end of
every attempt after it.  A timer that is armed when its attempt is left expires in a later one, or
in the session that follows.
-/

namespace WlanController.WTP

open Timers Run

namespace JoinState

variable {settings : JoinSettings} {s s' : JoinState}

structure KeptApart (s : JoinState) : Prop where
  issued : Issued s.timers
  unleaked : s.Unleaked
  /-- The timer that has been removed waits no more, but its handler may be about to be called. -/
  stopped : s.point = .removed → ∀ timer ∈ s.timers.waiting, ¬ IsWaitJoin timer
  flag : s.gSuccessfulHandshake = !s.lapsed

theorem keptApart_initial (settings : JoinSettings) (now : Nat) :
    KeptApart (initial settings now) where
  issued := issued_timerInit now
  unleaked := fun timer armed => by
    simp [initial, timerInit, TimerState.armed, TimerState.taken, TimerState.waiting, waitingIn,
      Ticker.taken] at armed
  stopped := fun removed => by simp [initial] at removed
  flag := rfl

/-- Between the attempts no wait-join timer is armed. -/
theorem Unleaked.not_armed (unleaked : s.Unleaked)
    (outside : s.point = .outside ∨ s.point = .timer) : ¬ s.Armed := by
  intro armed
  obtain ⟨timer, member, waitJoin⟩ := armed
  have inside := unleaked timer member waitJoin
  cases outside with
  | inl before => exact inside.1 before
  | inr entered => exact inside.2.1 entered

theorem unleaked_of_not_armed (unarmed : ¬ s.Armed) : s.Unleaked :=
  fun timer armed waitJoin => absurd ⟨timer, armed, waitJoin⟩ unarmed

theorem Expires.armed (expires : s.Expires) : s.Armed := by
  obtain ⟨timer, taken, waitJoin⟩ := expires
  exact ⟨timer, mem_armed.mpr (.inl taken), waitJoin⟩

/-! ## Stopping the timer -/

theorem KeptApart.stop_armed_iff (kept : KeptApart s) : s.stopTimer.Armed ↔ s.Expires := by
  constructor
  · intro armed
    obtain ⟨timer, member, waitJoin⟩ := armed
    cases (mem_armed_remove kept.issued _ timer).mp member with
    | inl taken => exact ⟨timer, taken, waitJoin⟩
    | inr waiting =>
      -- the timer of the attempt is the only one
      have current := kept.unleaked timer (mem_armed.mpr (.inr waiting.1)) waitJoin
      exact absurd current.2.2 waiting.2
  · intro expires
    obtain ⟨timer, taken, waitJoin⟩ := expires
    exact ⟨timer, (mem_armed_remove kept.issued _ timer).mpr (.inl taken), waitJoin⟩

theorem KeptApart.leave (kept : KeptApart s) (unarmed : ¬ s.Armed) (next : CWStateTransition) :
    KeptApart (s.leave next) :=
  { kept with
    unleaked := unleaked_of_not_armed unarmed
    stopped := fun removed => JoinPoint.noConfusion removed }

theorem leave_unleaked_iff (next : CWStateTransition) : (s.leave next).Unleaked ↔ ¬ s.Armed := by
  constructor
  · intro unleaked
    exact unleaked.not_armed (.inl rfl)
  · exact fun unarmed => unleaked_of_not_armed unarmed

/-- What a way out asks for that stops the timer. -/
theorem KeptApart.fail_stops_iff (kept : KeptApart s) (stops : s.point.stopsTimer = true) :
    s.fail.Unleaked ↔ ¬ s.Expires := by
  rw [JoinState.fail, if_pos stops, leave_unleaked_iff, kept.stop_armed_iff]

/-- And one that does not. -/
theorem fail_leaves_iff (leaves : s.point.stopsTimer = false) : s.fail.Unleaked ↔ ¬ s.Armed := by
  rw [JoinState.fail, if_neg (by simp [leaves]), leave_unleaked_iff]

/-! ## The parts that every step keeps -/

theorem accepts_waitJoin : Accepts gCWWaitJoin 0 (some JoinTimer.cwWTPWaitJoinExpired) := by
  decide

theorem fail_issued (issued : Issued s.timers) : Issued s.fail.timers := by
  unfold JoinState.fail
  split
  · exact issued.remove _
  · exact issued

theorem fail_flag (s : JoinState) :
    s.fail.gSuccessfulHandshake = s.gSuccessfulHandshake ∧ s.fail.lapsed = s.lapsed := by
  unfold JoinState.fail
  split <;> exact ⟨rfl, rfl⟩

theorem KeptApart.fail (kept : KeptApart s) (unleaked : s.fail.Unleaked) : KeptApart s.fail where
  issued := fail_issued kept.issued
  unleaked := unleaked
  stopped := fun removed => JoinPoint.noConfusion removed
  flag := by
    rw [(fail_flag s).1, (fail_flag s).2]
    exact kept.flag

/-- A call that succeeded leads to another place of the same attempt. -/
theorem KeptApart.move (kept : KeptApart s) {point : JoinPoint} (inside : point ≠ .outside)
    (started : point ≠ .timer) (unstopped : point ≠ .removed) (inTime : Bool) :
    KeptApart { s with point := point, inTime := inTime } :=
  { kept with
    unleaked := fun timer armed waitJoin =>
      ⟨inside, started, (kept.unleaked timer armed waitJoin).2.2⟩
    stopped := fun removed => absurd removed unstopped }

/-- The timers change, and no wait-join timer becomes armed. -/
theorem KeptApart.timers (kept : KeptApart s) {timers : TimerState JoinTimer}
    (issued : Issued timers)
    (before : ∀ timer ∈ timers.armed, IsWaitJoin timer → timer ∈ s.timers.armed)
    (queued : ∀ timer ∈ timers.waiting, IsWaitJoin timer → timer ∈ s.timers.waiting) :
    KeptApart { s with timers := timers } :=
  { kept with
    issued := issued
    unleaked := fun timer armed waitJoin =>
      kept.unleaked timer (before timer armed waitJoin) waitJoin
    stopped := fun removed timer waiting waitJoin =>
      kept.stopped removed timer (queued timer waiting waitJoin) waitJoin }

/-! ## The steps of the library -/

theorem KeptApart.tick (kept : KeptApart s) {event : Timers.Event JoinTimer}
    (adds : ∀ sec usec hndlr, event ≠ .add sec usec hndlr)
    (stepped : s.library event = some s') : KeptApart s' := by
  obtain ⟨timers, next, rfl⟩ := Option.map_eq_some_iff.mp stepped
  apply kept.timers (kept.issued.step next)
  · exact fun timer armed _ => armed_of_step kept.issued next adds armed
  · exact fun timer waiting _ => waiting_of_step kept.issued next adds waiting

theorem KeptApart.addOther (kept : KeptApart s) {sec usec : Int} {hndlr : Option JoinTimer}
    (other : some .cwWTPWaitJoinExpired ≠ hndlr)
    (stepped : s.library (.add sec usec hndlr) = some s') : KeptApart s' := by
  cases stepped
  by_cases accepts : Accepts sec usec hndlr
  · cases hndlr with
    | none => simp [Accepts] at accepts
    | some call =>
      have old : ∀ timer, IsWaitJoin timer → timer ≠ (s.timers.cur_id, call) := by
        intro timer waitJoin same
        rw [same] at waitJoin
        exact other (congrArg some waitJoin.symm)
      apply kept.timers (kept.issued.add sec usec (some call))
      · intro timer armed waitJoin
        rw [mem_armed, taken_timerAdd, mem_waiting_timerAdd accepts] at armed
        rw [mem_armed]
        exact armed.imp_right fun waiting => waiting.resolve_left (old timer waitJoin)
      · intro timer waiting waitJoin
        rw [mem_waiting_timerAdd accepts] at waiting
        exact waiting.resolve_left (old timer waitJoin)
  · rw [timerAdd_rejected accepts]
    exact kept

theorem KeptApart.library (kept : KeptApart s) {event : Timers.Event JoinTimer}
    (stepped : JoinStep settings s (.library event) s') : KeptApart s' := by
  cases event with
  | add sec usec hndlr =>
    obtain ⟨other, next⟩ := Option.ite_none_right_eq_some.mp stepped
    exact kept.addOther other next
  | start =>
    obtain ⟨_, next⟩ := Option.ite_none_left_eq_some.mp stepped
    exact kept.tick (by simp) next
  | finish =>
    obtain ⟨_, next⟩ := Option.ite_none_left_eq_some.mp stepped
    exact kept.tick (by simp) next
  | advance time => exact kept.tick (by simp) stepped
  | remove id => exact kept.tick (by simp) stepped
  | ring => exact kept.tick (by simp) stepped
  | arm => exact kept.tick (by simp) stepped
  | wake => exact kept.tick (by simp) stepped
  | take => exact kept.tick (by simp) stepped

/-! ## The handler -/

theorem KeptApart.expire (kept : KeptApart s) : KeptApart s.expire := by
  unfold JoinState.expire
  split
  · exact { kept with }
  · exact kept

theorem KeptApart.handle (kept : KeptApart s) : KeptApart s.cwWTPWaitJoinExpired :=
  { kept with flag := rfl }

/-! ## The attempt -/

theorem KeptApart.enter (kept : KeptApart s) (outside : s.point = .outside) (memory : Bool) :
    KeptApart (s.enter settings memory) := by
  have unarmed := kept.unleaked.not_armed (.inl outside)
  unfold JoinState.enter
  split
  · exact kept.leave unarmed _
  · exact { kept with
      unleaked := unleaked_of_not_armed unarmed
      stopped := fun removed => JoinPoint.noConfusion removed }

/-- The first timer of an attempt is the only one. -/
theorem KeptApart.addTimer (kept : KeptApart s) (unarmed : ¬ s.Armed) (memory : Bool) :
    KeptApart (s.addTimer memory) := by
  cases memory with
  | false =>
    exact { kept with
      unleaked := unleaked_of_not_armed unarmed
      stopped := fun removed => JoinPoint.noConfusion removed }
  | true =>
    have identifier := timerAdd_fst (s := s.timers) gCWWaitJoin 0 .cwWTPWaitJoinExpired
    rw [if_pos accepts_waitJoin] at identifier
    have given : (s.timers.cur_id : Int) ≠ -1 := by omega
    simp only [JoinState.addTimer, if_true, identifier, if_neg given]
    exact { kept with
      issued := kept.issued.add _ _ _
      unleaked := by
        intro timer armed waitJoin
        cases armed_add_cases armed with
        | inl before => exact absurd ⟨timer, before, waitJoin⟩ unarmed
        | inr new =>
          obtain ⟨_, call, _, same⟩ := new
          exact ⟨by simp, by simp, by rw [same]⟩
      stopped := fun removed => JoinPoint.noConfusion removed }

theorem next_inside (settings : JoinSettings) {point : JoinPoint} (inside : point ≠ .outside)
    (unsaved : point ≠ .saved) (before : point ≠ .removed) :
    point.next settings ≠ .outside ∧ point.next settings ≠ .timer ∧
      point.next settings ≠ .removed := by
  cases point with
  | outside => exact absurd rfl inside
  | saved => exact absurd rfl unsaved
  | removed => exact absurd rfl before
  | dataSocket | receiveDataFrame =>
    simp only [JoinPoint.next]
    split <;> simp
  | _ => simp [JoinPoint.next]

theorem KeptApart.succeed (kept : KeptApart s)
    (stepped : JoinStep settings s (.call true) s') : KeptApart s' := by
  simp only [JoinStep, JoinEvent.exec] at stepped
  split at stepped
  case h_1 | h_2 | h_3 => cases stepped
  case h_4 point =>
    cases stepped
    exact kept.addTimer (kept.unleaked.not_armed (.inr point)) true
  case h_5 =>
    cases stepped
    exact kept.move (by simp) (by simp) (by simp) _
  case h_6 outside saved removed _ _ =>
    cases stepped
    have moved := next_inside settings outside saved removed
    exact kept.move moved.1 moved.2.1 moved.2.2 _

/-- The places with a call whose failure is the end of the attempt. -/
theorem exec_fail (inside : s.point ≠ .outside) (started : s.point ≠ .timer)
    (unsaved : s.point ≠ .saved) (before : s.point ≠ .removed) :
    JoinEvent.exec settings s (.call false) = some s.fail := by
  cases point : s.point with
  | outside => exact absurd point inside
  | timer => exact absurd point started
  | saved => exact absurd point unsaved
  | removed => exact absurd point before
  | _ => simp [JoinEvent.exec, point, JoinState.call, JoinState.request]

/-- What a call that fails asks for. -/
theorem KeptApart.fail_iff (kept : KeptApart s) (inside : s.point ≠ .outside)
    (started : s.point ≠ .timer) (unsaved : s.point ≠ .saved) (before : s.point ≠ .removed) :
    s.fail.Unleaked ↔ s.Apart (.call false) := by
  cases point : s.point with
  | outside => exact absurd point inside
  | timer => exact absurd point started
  | saved => exact absurd point unsaved
  | removed => exact absurd point before
  | dataSocket | receiveDataFrame =>
    have leaves := fail_leaves_iff (s := s) (by rw [point]; rfl)
    simpa only [Apart, point] using leaves
  | _ =>
    have stops := kept.fail_stops_iff (by rw [point]; rfl)
    simpa only [Apart, point] using stops

theorem KeptApart.failed (kept : KeptApart s) (apart : s.Apart (.call false))
    (stepped : JoinStep settings s (.call false) s') : KeptApart s' := by
  simp only [JoinStep, JoinEvent.exec] at stepped
  split at stepped
  case h_1 | h_2 | h_3 => cases stepped
  case h_4 point =>
    cases stepped
    exact kept.addTimer (kept.unleaked.not_armed (.inr point)) false
  case h_5 point =>
    cases stepped
    have unleaked := (kept.fail_iff (by simp [point]) (by simp [point]) (by simp [point])
      (by simp [point])).mpr apart
    exact kept.fail unleaked
  case h_6 outside saved removed timer _ =>
    cases stepped
    exact kept.fail ((kept.fail_iff outside timer saved removed).mpr apart)

/-- The timer is removed. -/
theorem KeptApart.remove (kept : KeptApart s) :
    KeptApart { s.stopTimer with point := .removed } where
  issued := kept.issued.remove _
  unleaked := by
    intro timer armed waitJoin
    have current := kept.unleaked timer (armed_of_remove kept.issued armed) waitJoin
    exact ⟨by simp, by simp, current.2.2⟩
  stopped := by
    intro _ timer waiting waitJoin
    have left := (mem_waiting_timerRem kept.issued _ timer).mp waiting
    have current := kept.unleaked timer (mem_armed.mpr (.inr left.1)) waitJoin
    exact left.2 current.2.2
  flag := kept.flag

/-! ## The end of an attempt -/

theorem KeptApart.complete_iff (kept : KeptApart s) (removed : s.point = .removed) :
    s.complete.Unleaked ∧ (s.inTime = true → s.complete.nextState = .enterConfigure) ↔
      ¬ s.Expires ∧ (s.inTime = true → s.lapsed = false) := by
  have armed : s.Armed ↔ s.Expires := by
    constructor
    · intro armed
      obtain ⟨timer, member, waitJoin⟩ := armed
      cases mem_armed.mp member with
      | inl taken => exact ⟨timer, taken, waitJoin⟩
      | inr waiting => exact absurd waitJoin (kept.stopped removed timer waiting)
    · exact Expires.armed
  unfold JoinState.complete
  cases lapsed : s.lapsed with
  | true =>
    have cleared : s.gSuccessfulHandshake = false := by rw [kept.flag, lapsed]; rfl
    rw [if_pos cleared, kept.fail_stops_iff (by rw [removed]; rfl)]
    simp [JoinState.fail, JoinState.leave]
  | false =>
    have standing : s.gSuccessfulHandshake ≠ false := by rw [kept.flag, lapsed]; simp
    rw [if_neg standing, leave_unleaked_iff, armed]
    simp [JoinState.leave]

theorem KeptApart.complete (kept : KeptApart s) (unleaked : s.complete.Unleaked) :
    KeptApart s.complete := by
  unfold JoinState.complete at unleaked ⊢
  split
  case isTrue expired =>
    rw [if_pos expired] at unleaked
    exact kept.fail unleaked
  case isFalse met =>
    rw [if_neg met] at unleaked
    exact kept.leave ((leave_unleaked_iff _).mp unleaked) _

/-! ## Runs -/

theorem KeptApart.step (kept : KeptApart s) {event : JoinEvent} (apart : s.Apart event)
    (stepped : JoinStep settings s event s') : KeptApart s' := by
  cases event with
  | library event => exact kept.library stepped
  | expire =>
    obtain ⟨_, next⟩ := Option.ite_none_right_eq_some.mp stepped
    exact kept.expire.tick (by simp) next
  | handle =>
    obtain ⟨_, next⟩ := Option.ite_none_right_eq_some.mp stepped
    exact kept.handle.tick (by simp) next
  | transition next =>
    obtain ⟨_, next⟩ := Option.ite_none_right_eq_some.mp stepped
    cases next
    exact { kept with }
  | enter memory =>
    obtain ⟨between, next⟩ := Option.ite_none_right_eq_some.mp stepped
    cases next
    exact kept.enter between.1 memory
  | call succeeds =>
    cases succeeds with
    | true => exact kept.succeed stepped
    | false => exact kept.failed apart stepped
  | remove =>
    obtain ⟨_, next⟩ := Option.ite_none_right_eq_some.mp stepped
    cases next
    exact kept.remove
  | complete =>
    obtain ⟨removed, next⟩ := Option.ite_none_right_eq_some.mp stepped
    cases next
    exact kept.complete ((kept.complete_iff removed).mpr (apart removed)).1

theorem KeptApart.apart (kept : KeptApart s) {event : JoinEvent}
    (stays : s.StaysIndependent settings event) : s.Apart event := by
  cases event with
  | call succeeds =>
    cases succeeds with
    | true => trivial
    | false =>
      cases point : s.point with
      | outside | timer | saved | removed => simp only [Apart, point]
      | _ =>
        have inside : s.point ≠ .outside ∧ s.point ≠ .timer ∧ s.point ≠ .saved ∧
            s.point ≠ .removed := by simp [point]
        obtain ⟨inside, started, unsaved, before⟩ := inside
        have failed := (stays s.fail (exec_fail inside started unsaved before)).1
        exact (kept.fail_iff inside started unsaved before).mp failed
  | complete =>
    intro removed
    exact (kept.complete_iff removed).mp (stays s.complete (if_pos removed))
  | _ => trivial

theorem KeptApart.stays_iff (kept : KeptApart s) (event : JoinEvent) :
    s.StaysIndependent settings event ↔ s.Apart event := by
  constructor
  · exact kept.apart
  · intro apart s' stepped
    have after := (kept.step apart stepped).unleaked
    cases event with
    | complete =>
      obtain ⟨removed, next⟩ := Option.ite_none_right_eq_some.mp stepped
      cases next
      exact (kept.complete_iff removed).mpr (apart removed)
    | _ => exact ⟨after, trivial⟩

/-- In every run the attempts to join are independent of one another exactly as long as every step
    keeps them apart. -/
theorem staysIndependent_iff (settings : JoinSettings) (now : Nat) (events : List JoinEvent) :
    AllSteps (JoinStep settings) (StaysIndependent settings) (initial settings now) events ↔
      AllSteps (JoinStep settings) Apart (initial settings now) events := by
  have agree : ∀ s event, KeptApart s → (s.StaysIndependent settings event ↔ s.Apart event) :=
    fun s event kept => kept.stays_iff event
  have preserved : ∀ s event s', KeptApart s → s.StaysIndependent settings event →
      JoinStep settings s event s' → KeptApart s' :=
    fun s event s' kept stays stepped => kept.step (kept.apart stays) stepped
  exact AllSteps.congr_of_kept agree preserved (keptApart_initial settings now) events

/-- The WTP as the makefile builds it. -/
def plainSettings : JoinSettings where
  CW_NO_DTLS := true
  CW_DTLS_DATA_CHANNEL := false
  gWTPForceACAddress := false

/-- Discovery finds an AC, and the attempt comes as far as its request. -/
def untilRequest : List JoinEvent :=
  [.transition .enterJoin, .enter true, .call true, .call true, .call true, .call true, .call true]

/-- The first AC does not answer, and the second one does at once. -/
def secondAC : List JoinEvent :=
  untilRequest ++
    [.library .arm, .library (.advance 60000000), .library .ring, .library .wake, .library .take,
      .expire, .handle, .call false] ++
    untilRequest ++ [.call true, .remove]

/-- The flag is still cleared when the response of the second AC has been saved. -/
theorem secondAC_not_entered : ¬ ∀ (settings : JoinSettings) (now : Nat) (events : List JoinEvent),
    AllSteps (JoinStep settings) (StaysIndependent settings) (initial settings now) events := by
  intro holds
  have all := holds plainSettings 0 (secondAC ++ [.complete])
  have saved : (secondAC.foldlM (fun s event => JoinEvent.exec plainSettings s event)
      (initial plainSettings 0)).any (fun s => s.point = .removed ∧ s.inTime = true ∧
        s.complete.nextState = .enterDiscovery) = true := by
    decide +kernel
  obtain ⟨s, returned, found⟩ := (Option.any_eq_true _ _).mp saved
  obtain ⟨removed, inTime, discovery⟩ := of_decide_eq_true found
  have stays : s.StaysIndependent plainSettings .complete := all.at_end (trace_of_foldlM returned)
  have entered : s.complete.nextState = .enterConfigure :=
    (stays s.complete (if_pos removed)).2 inTime
  rw [discovery] at entered
  exact CWStateTransition.noConfusion entered

end JoinState

end WlanController.WTP
