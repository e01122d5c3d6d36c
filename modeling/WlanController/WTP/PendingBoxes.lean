import WlanController.WTP.PendingRequests

/-!
# The boxes of the pending requests

As long as the boxes are kept, at most one of them is occupied: `CWUpdatePendingMsgBox` takes every
identifier but zero for a failure, and an identifier is given away once.  `Tidy` says what the
state then looks like, and `Allowed` which steps keep it so; no other step keeps the boxes.
-/

namespace WlanController.WTP

open Timers Run

namespace PendingState

/-- The timers of the boxes. -/
def IsRetransmit (timer : Nat × TimerCall) : Prop :=
  timer.2.timer_hdl = .cwWTPRetransmitTimerExpiredHandler

instance (timer : Nat × TimerCall) : Decidable (IsRetransmit timer) :=
  inferInstanceAs (Decidable (_ = _))

/-- The timer that `timer_add` gave the identifier zero, set for a box. -/
def boxTimer (address : Nat) : Nat × TimerCall :=
  (0, ⟨.cwWTPRetransmitTimerExpiredHandler, some address⟩)

structure Tidy (s : PendingState) : Prop where
  issued : Issued s.timers
  free : ∀ k, ¬ s.Occupied k → s.gPendingRequestMsgs k = .zero
  occupied : ∀ k, s.Occupied k → ∃ address, s.ints address = some (some k) ∧
    (s.gPendingRequestMsgs k).timer_arg = some address ∧ (s.gPendingRequestMsgs k).timer = 0 ∧
    (s.gPendingRequestMsgs k).msgElems.isSome ∧ boxTimer address ∈ s.timers.armed
  owned : ∀ timer ∈ s.timers.armed, IsRetransmit timer →
    timer.1 = 0 ∧ ∃ k, s.Occupied k ∧ s.Names k timer
  callers : ∀ caller ∈ s.callers, (∃ k, s.ints caller.pendingReqIndex = some (some k)) ∧
    ∀ k, (s.gPendingRequestMsgs k).timer_arg ≠ some caller.pendingReqIndex
  apart : (s.callers.map PendingCaller.pendingReqIndex).Nodup

/-! ## Steps that keep the boxes -/

/-- No timer that waits has this identifier. -/
def Unclaimed (s : PendingState) (id : Int) : Prop :=
  ∀ timer ∈ s.timers.waiting, (timer.1 : Int) ≠ id

/-- No box has a timer with this identifier. -/
def Spared (s : PendingState) (id : Int) : Prop :=
  ∀ timer ∈ s.timers.waiting, IsRetransmit timer → (timer.1 : Int) ≠ id

/-- The message is no response and spares the timers of the boxes, or it is the response of an
    occupied box whose handler is not about to be called. -/
def MayReceive (s : PendingState) (messageTypeValue seqNum : Nat) (gEchoInterval : Int)
    (allocated : Bool) : Prop :=
  match s.pendingBox messageTypeValue seqNum with
  | none => s.Spared s.gCWEchoRequestTimerID
  | some k =>
      if s.Occupied k then
        s.expiring = none ∧ 0 < gEchoInterval ∧ allocated = true ∧ IsResponse messageTypeValue
      else
        s.Spared s.gCWEchoRequestTimerID ∧ ∀ timer ∈ s.timers.waiting,
          (timer.1 : Int) ≠ s.gCWEchoRequestTimerID →
            (timer.1 : Int) ≠ (s.gPendingRequestMsgs k).timer

/-- The conditions under which the steps keep the boxes. -/
def Allowed (s : PendingState) : PendingEvent → Prop
  | .library (.remove id) => s.Spared id
  | .library _ => True
  | .startEcho .. => True
  | .send address _ _ _ => s.ints address = none → ∀ k ∈ s.firstFree,
      s.Unclaimed (s.gPendingRequestMsgs k).timer
  | .update i msgType timer_sec _ allocated => ∀ caller ∈ s.callers[i]?, ∀ k,
      s.ints caller.pendingReqIndex = some (some k) → msgType ≠ unusedMsgType →
        ¬ s.Occupied k ∧ 0 < timer_sec ∧ allocated = true ∧ s.timers.cur_id = 0
  | .receive messageTypeValue seqNum gEchoInterval allocated =>
      s.MayReceive messageTypeValue seqNum gEchoInterval allocated
  | .reset k =>
      if s.Occupied k then s.expiring = none else s.Unclaimed (s.gPendingRequestMsgs k).timer
  | .expire _ _ => s.expiring = none

theorem allowed_reset_iff {s : PendingState} {k : PendingIndex} : s.Allowed (.reset k) ↔
    if s.Occupied k then s.expiring = none else s.Unclaimed (s.gPendingRequestMsgs k).timer :=
  Iff.rfl

/-! ## What a tidy state says -/

theorem tidy_initial (now : Nat) : Tidy (initial now) where
  issued := issued_timerInit now
  free := fun _ _ => rfl
  occupied := fun _ occupied => absurd rfl occupied
  owned := fun _ armed => by simp [initial, timerInit, TimerState.armed, TimerState.taken,
    TimerState.waiting, waitingIn, Ticker.taken] at armed
  callers := fun _ member => by simp [initial] at member
  apart := List.nodup_nil

variable {s : PendingState}

theorem names_boxTimer {address : Nat} {k : PendingIndex} (names : s.ints address = some (some k)) :
    s.Names k (boxTimer address) :=
  ⟨rfl, names⟩

/-- There is one timer of a box at most. -/
theorem Tidy.eq_of_retransmit (tidy : Tidy s) {timer timer' : Nat × TimerCall}
    (armed : timer ∈ s.timers.armed) (retransmit : IsRetransmit timer)
    (armed' : timer' ∈ s.timers.armed) (retransmit' : IsRetransmit timer') : timer = timer' := by
  apply tidy.issued.eq_of_id armed armed'
  rw [(tidy.owned timer armed retransmit).1, (tidy.owned timer' armed' retransmit').1]

theorem names_unique {k k' : PendingIndex} {timer : Nat × TimerCall} (names : s.Names k timer)
    (names' : s.Names k' timer) : k = k' := by
  have same := names.2.symm.trans names'.2
  simpa using same

theorem Tidy.eq_of_occupied (tidy : Tidy s) {k k' : PendingIndex} (occupied : s.Occupied k)
    (occupied' : s.Occupied k') : k = k' := by
  obtain ⟨address, live, _, _, _, armed⟩ := tidy.occupied k occupied
  obtain ⟨address', live', _, _, _, armed'⟩ := tidy.occupied k' occupied'
  have same := tidy.eq_of_retransmit armed rfl armed' rfl
  apply names_unique (names_boxTimer live)
  rw [same]
  exact names_boxTimer live'

theorem Tidy.kept (tidy : Tidy s) : s.BoxesKept := by
  constructor
  case occupied =>
    intro k occupied
    obtain ⟨address, live, _, _, _, armed⟩ := tidy.occupied k occupied
    refine ⟨boxTimer address, ⟨armed, names_boxTimer live⟩, ?_⟩
    intro timer both
    exact tidy.eq_of_retransmit both.1 both.2.1 armed rfl
  case free =>
    intro k unoccupied timer armed names
    obtain ⟨_, k', occupied, names'⟩ := tidy.owned timer armed names.1
    exact unoccupied (names_unique names names' ▸ occupied)
  case live =>
    intro timer armed retransmit
    obtain ⟨_, k, _, names⟩ := tidy.owned timer armed retransmit
    exact ⟨k, names⟩

/-- Steps that change neither the boxes nor their timers. -/
theorem Tidy.same (tidy : Tidy s) {s' : PendingState} (issued : Issued s'.timers)
    (boxes : s'.gPendingRequestMsgs = s.gPendingRequestMsgs) (ints : s'.ints = s.ints)
    (callers : s'.callers = s.callers)
    (armed : ∀ timer, IsRetransmit timer → (timer ∈ s'.timers.armed ↔ timer ∈ s.timers.armed)) :
    Tidy s' := by
  have occupied : ∀ k, s'.Occupied k ↔ s.Occupied k := fun k => by rw [Occupied, Occupied, boxes]
  have names : ∀ k timer, s'.Names k timer ↔ s.Names k timer := fun k timer => by
    rw [Names, Names, ints]
  constructor
  case issued => exact issued
  case free =>
    intro k unoccupied
    rw [boxes]
    exact tidy.free k fun here => unoccupied ((occupied k).mpr here)
  case occupied =>
    intro k here
    obtain ⟨address, live, arg, zero, elems, waits⟩ := tidy.occupied k ((occupied k).mp here)
    rw [boxes, ints]
    exact ⟨address, live, arg, zero, elems, (armed (boxTimer address) rfl).mpr waits⟩
  case owned =>
    intro timer here retransmit
    obtain ⟨zero, k, held, named⟩ := tidy.owned timer ((armed timer retransmit).mp here) retransmit
    exact ⟨zero, k, (occupied k).mpr held, (names k timer).mpr named⟩
  case callers =>
    rw [callers, ints, boxes]
    exact tidy.callers
  case apart =>
    rw [callers]
    exact tidy.apart

/-! ## Other subsystems -/

/-- A timer is added that is not for a box. -/
theorem mem_armed_add {s : TimerState TimerCall} {sec usec : Int} {hndlr : Option TimerCall}
    (other : ∀ call ∈ hndlr, call.timer_hdl ≠ .cwWTPRetransmitTimerExpiredHandler)
    (timer : Nat × TimerCall) (retransmit : IsRetransmit timer) :
    timer ∈ (timerAdd sec usec hndlr s).2.armed ↔ timer ∈ s.armed := by
  by_cases accepts : Accepts sec usec hndlr
  · cases hndlr with
    | none => simp [Accepts] at accepts
    | some call =>
      have different : timer ≠ (s.cur_id, call) := by
        intro same
        apply other call rfl
        rw [IsRetransmit, same] at retransmit
        exact retransmit
      rw [mem_armed, mem_armed, taken_timerAdd, mem_waiting_timerAdd accepts]
      simp [different]
  · rw [timerAdd_rejected accepts]

/-- What is spared stays armed. -/
theorem mem_armed_spared (issued : Issued s.timers) {id : Int} (spared : s.Spared id)
    (timer : Nat × TimerCall) (retransmit : IsRetransmit timer) :
    timer ∈ (timerRem id s.timers).armed ↔ timer ∈ s.timers.armed := by
  rw [mem_armed_remove issued, mem_armed]
  apply or_congr_right
  exact and_iff_left_of_imp fun waiting => spared timer waiting retransmit

theorem Tidy.remove (tidy : Tidy s) {id : Int} (spared : s.Spared id) :
    Tidy { s with timers := timerRem id s.timers } :=
  tidy.same (tidy.issued.remove id) rfl rfl rfl (mem_armed_spared tidy.issued spared)

theorem Tidy.add (tidy : Tidy s) (sec usec : Int) {hndlr : Option TimerCall}
    (other : ∀ call ∈ hndlr, call.timer_hdl ≠ .cwWTPRetransmitTimerExpiredHandler) :
    Tidy { s with timers := (timerAdd sec usec hndlr s.timers).2 } :=
  tidy.same (tidy.issued.add sec usec hndlr) rfl rfl rfl (mem_armed_add other)

theorem Tidy.sameArmed (tidy : Tidy s) {timers : TimerState TimerCall}
    (same : SameArmed s.timers timers) : Tidy { s with timers := timers } := by
  apply tidy.same
  case issued => exact same.issued tidy.issued
  case armed =>
    intro timer _
    show timer ∈ timers.armed ↔ _
    rw [same.armed]
  all_goals rfl

theorem echo_ne_retransmit (allocated : Bool) :
    ∀ hndlr ∈ call (some .cwWTPEchoRequestTimerExpiredHandler) none allocated,
      hndlr.timer_hdl ≠ .cwWTPRetransmitTimerExpiredHandler := by
  cases allocated <;> simp [call]

theorem Tidy.startEcho (tidy : Tidy s) (gEchoInterval : Int) (allocated : Bool) :
    Tidy (s.cwStartEchoRequestTimer gEchoInterval allocated).2 := by
  apply tidy.same
  case issued => exact tidy.issued.add _ _ _
  case armed => exact mem_armed_add (echo_ne_retransmit allocated)
  all_goals rfl

theorem Tidy.start (tidy : Tidy s) {timer : Timer TimerCall}
    (ticker : s.timers.ticker = .chosen timer) (unexpected : s.expiring = none) :
    Tidy { s with timers := { s.timers with
      ticker := .running timer, started := s.timers.started ++ [(timer, s.timers.now)] } } := by
  have other : ¬ IsRetransmit timer.call := by
    simp only [expiring, ticker] at unexpected
    intro retransmit
    have called : timer.handler.timer_hdl = .cwWTPRetransmitTimerExpiredHandler := retransmit
    rw [if_pos called] at unexpected
    cases unexpected
  apply tidy.same
  case issued => exact tidy.issued.start ticker
  case armed =>
    intro timer' retransmit
    rw [armed_start tidy.issued ticker]
    apply and_iff_left
    intro same
    exact other (same ▸ retransmit)
  all_goals rfl

/-- The steps of the timers and what other subsystems do with them. -/
theorem Tidy.library (tidy : Tidy s) {gCWMaxRetransmit : Int} {event : Timers.Event TimerCall}
    (allowed : s.Allowed (.library event)) {s' : PendingState}
    (step : PendingStep gCWMaxRetransmit s (.library event) s') : Tidy s' := by
  cases event with
  | add sec usec hndlr =>
    simp only [PendingStep, PendingEvent.exec] at step
    split at step
    case isTrue other =>
      cases step
      exact tidy.add sec usec fun call member => (other call member).1
    case isFalse => cases step
  | remove id =>
    cases step
    exact tidy.remove allowed
  | start =>
    simp only [PendingStep, PendingEvent.exec] at step
    split at step
    case isTrue => cases step
    case isFalse unexpected =>
      obtain ⟨timers, started, rfl⟩ := Option.map_eq_some_iff.mp step
      simp only [Timers.exec] at started
      split at started
      case h_1 timer ticker =>
        cases started
        exact tidy.start ticker (by simpa using unexpected)
      case h_2 => cases started
  | advance time =>
    cases step
    exact tidy.sameArmed (sameArmed_advance s.timers time)
  | ring =>
    obtain ⟨timers, next, rfl⟩ := Option.map_eq_some_iff.mp step
    exact tidy.sameArmed (sameArmed_ring next)
  | arm =>
    obtain ⟨timers, next, rfl⟩ := Option.map_eq_some_iff.mp step
    exact tidy.sameArmed (sameArmed_arm next)
  | wake =>
    obtain ⟨timers, next, rfl⟩ := Option.map_eq_some_iff.mp step
    exact tidy.sameArmed (sameArmed_wake next)
  | take =>
    obtain ⟨timers, next, rfl⟩ := Option.map_eq_some_iff.mp step
    exact tidy.sameArmed (sameArmed_take next)
  | finish =>
    obtain ⟨timers, next, rfl⟩ := Option.map_eq_some_iff.mp step
    exact tidy.sameArmed (sameArmed_finish next)

/-- The timer of a box is not removed from outside. -/
theorem Tidy.spared_of_kept (tidy : Tidy s) {id : Int} (s' : PendingState)
    (boxes : s'.gPendingRequestMsgs = s.gPendingRequestMsgs)
    (armed : ∀ timer ∈ s'.timers.armed, IsRetransmit timer → timer ∈ (timerRem id s.timers).armed)
    (kept : s'.BoxesKept) : s.Spared id := by
  intro timer waiting retransmit same
  obtain ⟨_, k, occupied, _⟩ :=
    tidy.owned timer (mem_armed.mpr (.inr waiting)) retransmit
  have occupied' : s'.Occupied k := by
    rw [Occupied, boxes]
    exact occupied
  obtain ⟨timer', both, _⟩ := kept.occupied k occupied'
  have left := armed timer' both.1 both.2.1
  have here : timer' ∈ s.timers.armed := by
    rw [mem_armed_remove tidy.issued] at left
    exact mem_armed.mpr (left.imp_right And.left)
  -- it is the only timer of a box
  have same_timer := tidy.eq_of_retransmit here both.2.1 (mem_armed.mpr (.inr waiting)) retransmit
  exact not_armed_remove tidy.issued waiting same (same_timer ▸ left)

theorem Tidy.allowed_library (tidy : Tidy s) {gCWMaxRetransmit : Int}
    {event : Timers.Event TimerCall} (kept : s.StaysKept gCWMaxRetransmit (.library event)) :
    s.Allowed (.library event) := by
  cases event with
  | remove id =>
    let s' := { s with timers := timerRem id s.timers }
    exact tidy.spared_of_kept s' rfl (fun _ armed _ => armed) (kept s' rfl).1
  | _ => trivial

/-! ## Resetting a box -/

theorem occupied_setBox {k k' : PendingIndex} {box : CWPendingRequestMessage} :
    (s.setBox k box).Occupied k' ↔
      if k' = k then box.msgType ≠ unusedMsgType else s.Occupied k' := by
  by_cases same : k' = k
  · subst same
    simp [Occupied, setBox]
  · simp [Occupied, setBox, same]

theorem reset_free {k : PendingIndex} (zero : s.gPendingRequestMsgs k = .zero) :
    s.cwResetPendingMsgBox k = some { s with timers := timerRem 0 s.timers } := by
  have unchanged : Function.update s.gPendingRequestMsgs k .zero = s.gPendingRequestMsgs := by
    rw [← zero]
    exact Function.update_eq_self k s.gPendingRequestMsgs
  simp only [cwResetPendingMsgBox, zero]
  show some { s.setBox k .zero with timers := timerRem 0 s.timers } = _
  rw [setBox, unchanged]

/-- The argument of the timer is freed and the timer removed, if it can be. -/
theorem reset_occupied {k : PendingIndex} {address : Nat} (live : (s.ints address).isSome)
    (arg : (s.gPendingRequestMsgs k).timer_arg = some address)
    (zero : (s.gPendingRequestMsgs k).timer = 0)
    (elems : (s.gPendingRequestMsgs k).msgElems.isSome) :
    s.cwResetPendingMsgBox k = some
      { s.setBox k .zero with
        ints := Function.update s.ints address none, timers := timerRem 0 s.timers } := by
  have present : (s.gPendingRequestMsgs k).msgElems ≠ none := Option.isSome_iff_ne_none.mp elems
  simp [cwResetPendingMsgBox, present, arg, zero, free, live, setBox]
  rfl

/-- After the reset of the only occupied box no box has a timer. -/
theorem Tidy.released (tidy : Tidy s) {k : PendingIndex} {address : Nat} (occupied : s.Occupied k)
    (live : s.ints address = some (some k))
    (arg : (s.gPendingRequestMsgs k).timer_arg = some address) {timers : TimerState TimerCall}
    (issued : Issued timers) (echo : Int)
    (none_left : ∀ timer ∈ timers.armed, ¬ IsRetransmit timer) :
    Tidy { s.setBox k .zero with
      ints := Function.update s.ints address none, timers := timers
      gCWEchoRequestTimerID := echo } := by
  have unoccupied : ∀ k', ¬ (s.setBox k .zero).Occupied k' := by
    intro k' occupied'
    rw [occupied_setBox] at occupied'
    split at occupied'
    case isTrue => exact occupied' rfl
    case isFalse different => exact different (tidy.eq_of_occupied occupied' occupied)
  constructor
  case issued => exact issued
  case free =>
    intro k' _
    by_cases same : k' = k
    · subst same
      exact Function.update_self _ _ _
    · have free' : ¬ s.Occupied k' := fun occupied' => same (tidy.eq_of_occupied occupied' occupied)
      exact (Function.update_of_ne same _ _).trans (tidy.free k' free')
  case occupied => exact fun k' occupied' => absurd occupied' (unoccupied k')
  case owned => exact fun timer armed retransmit => absurd retransmit (none_left timer armed)
  case callers =>
    intro caller member
    obtain ⟨⟨k', named⟩, apart⟩ := tidy.callers caller member
    constructor
    · have different : caller.pendingReqIndex ≠ address := by
        intro same
        exact apart k (same ▸ arg)
      exact ⟨k', (Function.update_of_ne different _ _).trans named⟩
    · intro k'
      by_cases same : k' = k
      · subst same
        simp [setBox, CWPendingRequestMessage.zero]
      · simpa [setBox, same] using apart k'
  case apart => exact tidy.apart

/-- The handler of a box's timer is about to be called. -/
theorem expiring_some {timer : Timer TimerCall}
    (expects : s.expiring = some timer) : s.timers.ticker = .chosen timer ∧
      IsRetransmit timer.call ∧ timer.call ∈ s.timers.taken := by
  simp only [expiring] at expects
  split at expects
  case h_1 timer' ticker =>
    split at expects
    case isTrue retransmit =>
      cases expects
      refine ⟨ticker, retransmit, ?_⟩
      simp [TimerState.taken, ticker, Ticker.taken]
    case isFalse => cases expects
  case h_2 => cases expects

theorem expiring_none (unexpected : s.expiring = none) {timer : Nat × TimerCall}
    (taken : timer ∈ s.timers.taken) : ¬ IsRetransmit timer := by
  intro retransmit
  simp only [expiring] at unexpected
  cases ticker : s.timers.ticker <;>
    simp only [TimerState.taken, ticker, Ticker.taken, List.map_nil, List.map_cons,
      List.not_mem_nil, List.mem_singleton] at taken
  case chosen timer' =>
    have called : timer'.handler.timer_hdl = .cwWTPRetransmitTimerExpiredHandler := by
      rw [taken] at retransmit
      exact retransmit
    simp [ticker, called] at unexpected

/-- Unless its handler is about to be called, the timer of a box is removed by its identifier. -/
theorem Tidy.none_left (tidy : Tidy s) (unexpected : s.expiring = none)
    (timer : Nat × TimerCall) (armed : timer ∈ (timerRem 0 s.timers).armed) :
    ¬ IsRetransmit timer := by
  intro retransmit
  rw [mem_armed_remove tidy.issued] at armed
  cases armed with
  | inl taken => exact expiring_none unexpected taken retransmit
  | inr waits =>
    have zero := (tidy.owned timer (mem_armed.mpr (.inr waits.1)) retransmit).1
    exact waits.2 (congrArg Int.ofNat zero)

/-- A timer that is not a box's is told from it by its identifier. -/
theorem Tidy.ne_zero (tidy : Tidy s) {k : PendingIndex} (occupied : s.Occupied k)
    {timer : Nat × TimerCall} (armed : timer ∈ s.timers.armed) (unnamed : ¬ s.Names k timer) :
    (timer.1 : Int) ≠ 0 := by
  obtain ⟨address, live, _, _, _, boxed⟩ := tidy.occupied k occupied
  intro zero
  have same := tidy.issued.eq_of_id armed boxed (Int.ofNat.inj zero)
  exact unnamed (same ▸ names_boxTimer live)

/-- What nobody claims is not disarmed. -/
theorem Unclaimed.armed {id : Int} (unclaimed : s.Unclaimed id) (issued : Issued s.timers)
    {timer : Nat × TimerCall} (armed : timer ∈ s.timers.armed) :
    timer ∈ (timerRem id s.timers).armed := by
  rw [mem_armed_remove issued]
  exact (mem_armed.mp armed).imp_right fun waiting => ⟨waiting, unclaimed timer waiting⟩

theorem unclaimed_of_armed {id : Int} (issued : Issued s.timers)
    (armed : ∀ timer ∈ s.timers.armed, timer ∈ (timerRem id s.timers).armed) : s.Unclaimed id := by
  intro timer waiting same
  exact not_armed_remove issued waiting same (armed timer (mem_armed.mpr (.inr waiting)))

theorem Unclaimed.spared {id : Int} (unclaimed : s.Unclaimed id) : s.Spared id :=
  fun timer waiting _ => unclaimed timer waiting

theorem Tidy.reset (tidy : Tidy s) {k : PendingIndex} (allowed : s.Allowed (.reset k))
    {gCWMaxRetransmit : Int} {s' : PendingState}
    (step : PendingStep gCWMaxRetransmit s (.reset k) s') :
    Tidy s' ∧ s.Does gCWMaxRetransmit s' (.reset k) := by
  by_cases occupied : s.Occupied k
  · rw [allowed_reset_iff, if_pos occupied] at allowed
    obtain ⟨address, live, arg, zero, elems, _⟩ := tidy.occupied k occupied
    have reset := reset_occupied (by rw [live]; rfl) arg zero elems
    cases reset.symm.trans step
    constructor
    · exact tidy.released occupied live arg (tidy.issued.remove 0) s.gCWEchoRequestTimerID
        (tidy.none_left allowed)
    · intro timer armed unnamed
      exact armed_remove tidy.issued armed (tidy.ne_zero occupied armed unnamed)
  · rw [allowed_reset_iff, if_neg occupied] at allowed
    have zero := tidy.free k occupied
    cases (reset_free zero).symm.trans step
    rw [zero] at allowed
    exact ⟨tidy.remove allowed.spared, fun timer armed _ => allowed.armed tidy.issued armed⟩

/-- The argument of the timer whose handler is about to be called would be freed. -/
theorem Tidy.unexpected_of_kept (tidy : Tidy s) {k : PendingIndex} (occupied : s.Occupied k)
    {address : Nat} (arg : (s.gPendingRequestMsgs k).timer_arg = some address)
    {s' : PendingState} (freed : s'.ints address = none)
    (taken : ∀ timer ∈ s.timers.taken, timer ∈ s'.timers.armed) (kept : s'.BoxesKept) :
    s.expiring = none := by
  cases expects : s.expiring with
  | none => rfl
  | some timer =>
    obtain ⟨_, retransmit, member⟩ := expiring_some expects
    obtain ⟨k', names⟩ := kept.live _ (taken _ member) retransmit
    obtain ⟨address', _, arg', _, _, boxed⟩ := tidy.occupied k occupied
    cases arg.symm.trans arg'
    have same := tidy.eq_of_retransmit (mem_armed.mpr (.inl member)) retransmit boxed rfl
    have named := names.2
    rw [same] at named
    simp [boxTimer, freed] at named

theorem Tidy.allowed_reset (tidy : Tidy s) {k : PendingIndex} {gCWMaxRetransmit : Int}
    (kept : s.StaysKept gCWMaxRetransmit (.reset k)) : s.Allowed (.reset k) := by
  by_cases occupied : s.Occupied k
  · rw [allowed_reset_iff, if_pos occupied]
    obtain ⟨address, live, arg, zero, elems, _⟩ := tidy.occupied k occupied
    obtain ⟨boxes, _⟩ := kept _ (reset_occupied (by rw [live]; rfl) arg zero elems)
    apply tidy.unexpected_of_kept occupied arg (Function.update_self _ _ _) ?_ boxes
    intro timer taken
    rw [mem_armed, taken_timerRem]
    exact .inl taken
  · rw [allowed_reset_iff, if_neg occupied]
    have zero := tidy.free k occupied
    obtain ⟨boxes, others⟩ := kept _ (reset_free zero)
    rw [zero]
    apply unclaimed_of_armed tidy.issued
    intro timer armed
    exact others timer armed (tidy.kept.free k occupied timer armed)

end PendingState

end WlanController.WTP
