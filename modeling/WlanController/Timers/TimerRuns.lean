import WlanController.Timers.ArmedTimers

/-!
# Runs of the timer queue

The state of the library is a schedule: what has been started or is about to be is past, and
what `timer_add` and `timer_rem` do to the queue is an insertion and a cancellation there.  So
the schedule is kept well by every step that starts no timer before it expires, and `Undisturbed`
says which steps those are.

A step is not one of them if `TV_MINUS` has to borrow for the interval timer that the ticker
waits for, if a signal of an earlier timer is still pending when the ticker starts to wait or when
a timer goes to the front of the queue, if a timer goes there while the ticker is on its way to the
mutex, or if a timer is removed that has been taken off the queue but not started.
-/

namespace WlanController.Timers

open Scheduling Run

variable {η : Type}

/-! ## The schedule -/

def Timer.entry (t : Timer η) : Entry := ⟨t.id, t.timeout.micros, t.cancelled⟩

@[simp] theorem entry_id (t : Timer η) : t.entry.id = t.id := rfl
@[simp] theorem entry_due (t : Timer η) : t.entry.due = t.timeout.micros := rfl
@[simp] theorem entry_cancelled (t : Timer η) : t.entry.cancelled = t.cancelled := rfl

/-- The timers that were taken off the queue for their handlers. -/
def TimerState.begun (s : TimerState η) : List (Timer η) := s.started.map Prod.fst ++ s.ticker.taken

def TimerState.schedule (s : TimerState η) : Schedule where
  now := s.now
  nextId := s.cur_id
  past := s.begun.map Timer.entry
  queue := s.timerq.map Timer.entry
  accepted := s.accepted
  cancelled := s.removed

/-- What the ticker can rely on where it is. -/
def TimerState.Armed (s : TimerState η) : Prop :=
  match s.ticker with
  | .waiting => ∃ first rest, s.timerq = first :: rest ∧ first.in_use = true ∧
      (s.pending = true → first.timeout.micros ≤ s.now) ∧
      (s.pending = false → ∃ time, s.alarm = some time ∧ first.timeout.micros ≤ time ∧
        (time ≤ first.timeout.micros ∨ time ≤ s.now + almostNow))
  | .woken => ∃ first rest, s.timerq = first :: rest ∧ first.in_use = true ∧
      first.timeout.micros ≤ s.now
  | _ => True

/-- What holds before and after every step that is not disturbed. -/
structure Sound (s : TimerState η) : Prop where
  wellKept : s.schedule.WellKept
  uncancelled : ∀ t ∈ s.begun, t.cancelled = false
  onTime : ∀ run ∈ s.started, run.1.timeout.micros ≤ run.2
  armed : s.Armed

theorem sound_timerInit (now : Nat) : Sound (timerInit now : TimerState η) where
  wellKept := Schedule.wellKept_empty now
  uncancelled := by simp [TimerState.begun, timerInit, Ticker.taken]
  onTime := by simp [timerInit]
  armed := trivial

/-! ## Disturbances -/

/-- The timer would go to the front of the queue. -/
def TimerState.InFront (s : TimerState η) (timeout : Timeval) : Prop :=
  ∃ first ∈ s.timerq.head?, timeout.Less first.timeout

instance (s : TimerState η) (timeout : Timeval) : Decidable (s.InFront timeout) :=
  inferInstanceAs (Decidable (∃ first ∈ s.timerq.head?, timeout.Less first.timeout))

/-- A timer that goes to the front is the one the ticker waits for. -/
def Ticker.Admits (ticker : Ticker η) (now : Nat) (pending : Bool) (timeout : Timeval) : Prop :=
  match ticker with
  | .waiting => pending = false ∧ StartsExactly now timeout
  | .woken => False
  | _ => True

instance (ticker : Ticker η) (now : Nat) (pending : Bool) (timeout : Timeval) :
    Decidable (ticker.Admits now pending timeout) :=
  match ticker with
  | .waiting => inferInstanceAs (Decidable (_ ∧ _))
  | .woken => inferInstanceAs (Decidable False)
  | .idle | .chosen _ | .running _ => inferInstanceAs (Decidable True)

/-- The step starts no handler early and cancels nothing that is to start. -/
def Undisturbed (s : TimerState η) : Event η → Prop
  | .add sec usec hndlr => Accepts sec usec hndlr → s.Fits sec usec ∧
      (s.InFront (s.timeoutOf sec usec) →
        s.ticker.Admits s.now s.pending (s.timeoutOf sec usec))
  | .remove id => ∀ t ∈ s.ticker.taken, (t.id : Int) ≠ id
  | .arm => ∀ first ∈ s.timerq.head?,
      StartsExactly s.now first.timeout ∧ (s.pending = true → first.timeout.micros ≤ s.now)
  | _ => True

instance (s : TimerState η) (event : Event η) : Decidable (Undisturbed s event) :=
  match event with
  | .add _ _ _ => inferInstanceAs (Decidable (_ → _))
  | .remove id => inferInstanceAs (Decidable (∀ t ∈ s.ticker.taken, (t.id : Int) ≠ id))
  | .arm => inferInstanceAs (Decidable (∀ first ∈ s.timerq.head?, _ ∧ _))
  | .advance _ | .ring | .wake | .take | .start | .finish => inferInstanceAs (Decidable True)

/-! ## Adding -/

theorem entry_insertTimer (app : Timer η) (timerq : List (Timer η)) :
    (insertTimer app timerq).map Timer.entry =
      Schedule.insert app.entry (timerq.map Timer.entry) := by
  apply List.map_orderedInsert <;>
  · intro t _
    simp only [Timeval.less_iff, entry_due]

theorem micros_timeoutOf (s : TimerState η) (sec usec : Int) :
    (s.timeoutOf sec usec).micros = s.dueOf sec usec := by
  rw [TimerState.timeoutOf, Timeval.micros_after, micros_gettimeofday, TimerState.dueOf]

theorem lt_dueOf {s : TimerState η} {sec usec : Int} {hndlr : Option η}
    (accepts : Accepts sec usec hndlr) : s.now < s.dueOf sec usec := by
  obtain ⟨_, positive⟩ := accepts
  simp only [TimerState.dueOf, microPerSec]
  omega

/-- Where the new timer goes to. -/
theorem entries_timerAdd {s : TimerState η} {sec usec : Int} {handler : η}
    (accepts : Accepts sec usec (some handler)) :
    (timerAdd sec usec (some handler) s).2.timerq.map Timer.entry =
      Schedule.insert (s.app sec usec handler).entry (s.timerq.map Timer.entry) := by
  cases queue : s.timerq with
  | nil => simp [timerAdd_nil accepts queue, TimerState.issue, Schedule.insert]
  | cons first rest =>
    have compare : (s.timeoutOf sec usec).Less first.timeout ↔
        (s.app sec usec handler).entry.due < first.entry.due := Timeval.less_iff _ _
    by_cases sooner : (s.timeoutOf sec usec).Less first.timeout
    · have ahead := compare.mp sooner
      rw [timerAdd_front accepts queue sooner]
      simp only [TimerState.issue, List.map_cons, Schedule.insert, List.orderedInsert_cons, ahead,
        if_true]
      rfl
    · have behind := mt compare.mpr sooner
      rw [timerAdd_behind accepts queue sooner]
      simp only [TimerState.issue, List.map_cons, entry_insertTimer, Schedule.insert,
        List.orderedInsert_cons, behind, if_false]

/-- A timer that is added is inserted, and nothing else changes but the flags `in_use` and the
    interval timer. -/
theorem schedule_timerAdd {s : TimerState η} {sec usec : Int} {handler : η}
    (accepts : Accepts sec usec (some handler)) :
    (timerAdd sec usec (some handler) s).2.schedule = s.schedule.add (s.dueOf sec usec) := by
  have entries := entries_timerAdd (s := s) accepts
  obtain ⟨timerq, alarm, added⟩ := timerAdd_fields s accepts
  have entry : (s.app sec usec handler).entry = ⟨s.cur_id, s.dueOf sec usec, false⟩ := by
    rw [← micros_timeoutOf]
    rfl
  rw [added] at entries ⊢
  rw [entry] at entries
  simp only [TimerState.schedule, Schedule.add, entries]
  rfl

/-! ## Removing -/

theorem cancels_removeTimer {timerq : List (Timer η)} (id : Nat)
    (distinct : (timerq.map Timer.id).Nodup) :
    Schedule.Cancels id (timerq.map Timer.entry) ((removeTimer id timerq).map Timer.entry) := by
  induction timerq with
  | nil => exact ⟨List.Sublist.refl _, by simp⟩
  | cons t timerq inductionHypothesis =>
    rw [List.map_cons, List.nodup_cons] at distinct
    obtain ⟨once, distinct⟩ := distinct
    by_cases found : t.id = id
    · -- no timer behind it has the identifier
      have unmarked : ∀ e ∈ timerq.map Timer.entry, Schedule.mark id e = e := by
        intro e member
        obtain ⟨t', here, rfl⟩ := List.mem_map.mp member
        apply if_neg
        intro same
        exact once (List.mem_map.mpr ⟨t', here, same.trans found.symm⟩)
      have rest_same : (timerq.map Timer.entry).map (Schedule.mark id) = timerq.map Timer.entry := by
        rw [List.map_congr_left unmarked, List.map_id']
      by_cases active : t.in_use = true
      · have marked : Schedule.mark id t.entry = { t with cancelled := true }.entry := by
          simp [Schedule.mark, Timer.entry, found]
        constructor
        case marked =>
          simp only [removeTimer, found, active, if_true, List.map_cons, rest_same, marked]
          exact List.Sublist.refl _
        case others =>
          intro e member different
          cases List.mem_cons.mp member with
          | inl same => exact absurd (by rw [same, entry_id, found]) different
          | inr member =>
            simp only [removeTimer, found, active, if_true, List.map_cons]
            exact List.mem_cons_of_mem _ member
      · constructor
        case marked =>
          simp only [removeTimer, found, active, List.map_cons, rest_same]
          exact List.sublist_cons_self _ _
        case others =>
          intro e member different
          cases List.mem_cons.mp member with
          | inl same => exact absurd (by rw [same, entry_id, found]) different
          | inr member => simpa [removeTimer, found, active] using member
    · have unmarked : Schedule.mark id t.entry = t.entry := if_neg found
      obtain ⟨marked, others⟩ := inductionHypothesis distinct
      constructor
      case marked =>
        simp only [removeTimer, found, if_false, List.map_cons, unmarked]
        exact marked.cons_cons _
      case others =>
        intro e member different
        simp only [removeTimer, found, if_false, List.map_cons, List.mem_cons]
        exact (List.mem_cons.mp member).imp_right fun member => others e member different

theorem mem_begun_ids {s : TimerState η} {id : Nat} :
    id ∈ (s.begun.map Timer.entry).map Entry.id ↔
      id ∈ s.started.map (fun run => run.1.id) ∨ ∃ t ∈ s.ticker.taken, t.id = id := by
  simp [TimerState.begun]

theorem schedule_timerRem {s : TimerState η} {id : Nat}
    (untaken : ∀ t ∈ s.ticker.taken, t.id ≠ id) :
    (timerRem id s).schedule =
      s.schedule.cancel id ((removeTimer id s.timerq).map Timer.entry) := by
  have same : s.Unstarted id ↔ s.schedule.Open id := by
    rw [TimerState.Unstarted, Schedule.Open]
    apply and_congr_right
    intro _
    apply not_congr
    refine Iff.trans ?_ mem_begun_ids.symm
    constructor
    · exact Or.inl
    · intro begun
      cases begun with
      | inl started => exact started
      | inr taken =>
        obtain ⟨t, member, same⟩ := taken
        exact absurd same (untaken t member)
  simp only [timerRem, TimerState.schedule, Schedule.cancel, same]
  rfl

/-- The first timer stays in front if it is in use. -/
theorem removeTimer_first {first : Timer η} (active : first.in_use = true) (rest : List (Timer η))
    (id : Nat) : ∃ first' rest', removeTimer id (first :: rest) = first' :: rest' ∧
      first'.in_use = true ∧ first'.timeout = first.timeout := by
  by_cases found : first.id = id
  · exact ⟨{ first with cancelled := true }, rest, by simp [removeTimer, found, active], active, rfl⟩
  · exact ⟨first, removeTimer id rest, by simp [removeTimer, found], active, rfl⟩

/-! ## One step -/

/-- The interval timer, started exactly, is due when the timer expires or in a moment. -/
theorem exists_timerStart {now : Nat} {timeout : Timeval} (exact : StartsExactly now timeout) :
    ∃ time, timerStart now timeout = some time ∧ timeout.micros ≤ time ∧
      (time ≤ timeout.micros ∨ time ≤ now + almostNow) := by
  refine ⟨_, timerStart_exact exact, ?_⟩
  split <;> omega

theorem Sound.advance {s : TimerState η} (sound : Sound s) (time : Nat) :
    Sound { s with now := s.now + time } where
  wellKept := sound.wellKept.advance time
  uncancelled := sound.uncancelled
  onTime := sound.onTime
  armed := by
    have armed := sound.armed
    unfold TimerState.Armed at *
    cases ticker : s.ticker <;> simp only [ticker] at *
    case waiting =>
      obtain ⟨first, rest, queue, active, rung, unrung⟩ := armed
      refine ⟨first, rest, queue, active, fun pending => ?_, fun quiet => ?_⟩
      · exact Nat.le_trans (rung pending) (Nat.le_add_right _ _)
      · obtain ⟨alarm, on, late, soon⟩ := unrung quiet
        exact ⟨alarm, on, late, by omega⟩
    case woken =>
      obtain ⟨first, rest, queue, active, due⟩ := armed
      exact ⟨first, rest, queue, active, Nat.le_trans due (Nat.le_add_right _ _)⟩

/-- Only a timer that goes to the front matters to the ticker. -/
theorem armed_timerAdd {s : TimerState η} (armed : s.Armed) {sec usec : Int} {handler : η}
    (accepts : Accepts sec usec (some handler))
    (admits : s.InFront (s.timeoutOf sec usec) →
      s.ticker.Admits s.now s.pending (s.timeoutOf sec usec)) :
    (timerAdd sec usec (some handler) s).2.Armed := by
  cases queue : s.timerq with
  | nil =>
    rw [timerAdd_nil accepts queue]
    unfold TimerState.Armed at *
    -- the ticker waits for no timer of an empty queue
    cases ticker : s.ticker <;> simp_all [TimerState.issue]
  | cons first rest =>
    by_cases sooner : (s.timeoutOf sec usec).Less first.timeout
    · have admits := admits ⟨first, by simp [queue], sooner⟩
      rw [timerAdd_front accepts queue sooner]
      unfold TimerState.Armed Ticker.Admits at *
      cases ticker : s.ticker <;> simp only [ticker, TimerState.issue] at *
      case waiting =>
        obtain ⟨quiet, exact⟩ := admits
        refine ⟨_, _, rfl, rfl, fun pending => ?_, fun _ => exists_timerStart exact⟩
        exact absurd pending (by simp [quiet])
    · rw [timerAdd_behind accepts queue sooner]
      unfold TimerState.Armed at *
      cases ticker : s.ticker <;> simp only [ticker, TimerState.issue] at *
      case waiting =>
        obtain ⟨first', rest', queue', active, signal⟩ := armed
        obtain ⟨rfl, rfl⟩ := List.cons.inj (queue.symm.trans queue')
        exact ⟨first, _, rfl, active, signal⟩
      case woken =>
        obtain ⟨first', rest', queue', active, due⟩ := armed
        obtain ⟨rfl, rfl⟩ := List.cons.inj (queue.symm.trans queue')
        exact ⟨first, _, rfl, active, due⟩

theorem Sound.add {s : TimerState η} (sound : Sound s) {sec usec : Int} {hndlr : Option η}
    (undisturbed : Undisturbed s (.add sec usec hndlr)) :
    Sound (timerAdd sec usec hndlr s).2 := by
  by_cases accepts : Accepts sec usec hndlr
  · cases hndlr with
    | none => simp [Accepts] at accepts
    | some handler =>
      obtain ⟨timerq, alarm, added⟩ := timerAdd_fields s accepts
      constructor
      case wellKept =>
        rw [schedule_timerAdd accepts]
        exact sound.wellKept.add (lt_dueOf accepts)
      case uncancelled =>
        rw [added]
        exact sound.uncancelled
      case onTime =>
        rw [added]
        exact sound.onTime
      case armed => exact armed_timerAdd sound.armed accepts (undisturbed accepts).2
  · rw [timerAdd_rejected accepts]
    exact sound

theorem armed_timerRem {s : TimerState η} (armed : s.Armed) (id : Nat) :
    (timerRem id s).Armed := by
  have ticker_same : (timerRem id s).ticker = s.ticker := rfl
  unfold TimerState.Armed at *
  rw [ticker_same]
  cases ticker : s.ticker <;> simp only [ticker] at *
  case waiting =>
    obtain ⟨first, rest, queue, active, rung, unrung⟩ := armed
    obtain ⟨first', rest', queue', active', same⟩ := removeTimer_first active rest id
    refine ⟨first', rest', ?_, active', ?_, ?_⟩
    · exact (congrArg (removeTimer id) queue).trans queue'
    · rw [same]
      exact rung
    · rw [same]
      exact unrung
  case woken =>
    obtain ⟨first, rest, queue, active, due⟩ := armed
    obtain ⟨first', rest', queue', active', same⟩ := removeTimer_first active rest id
    exact ⟨first', rest', (congrArg (removeTimer id) queue).trans queue', active', same ▸ due⟩

theorem queue_distinct {s : TimerState η} (sound : Sound s) : (s.timerq.map Timer.id).Nodup := by
  have distinct := sound.wellKept.distinct
  rw [Schedule.timeline, List.map_append, List.nodup_append] at distinct
  have queue := distinct.2.1
  rw [TimerState.schedule, List.map_map] at queue
  exact queue

/-- A timer whose handler has started is in the queue no more. -/
theorem timerRem_started {s : TimerState η} (sound : Sound s) {id : Nat}
    (started : id ∈ s.started.map fun run => run.1.id) : timerRem id s = s := by
  have begun : id ∈ s.schedule.past.map Entry.id := mem_begun_ids.mpr (.inl started)
  have distinct := sound.wellKept.distinct
  rw [Schedule.timeline, List.map_append, List.nodup_append] at distinct
  have absent : id ∉ s.timerq.map Timer.id := by
    intro member
    apply distinct.2.2 id begun id _ rfl
    rw [TimerState.schedule, List.map_map]
    exact member
  have settled : ¬ s.Unstarted id := fun unstarted => unstarted.2 started
  show { s with timerq := removeTimer id s.timerq, removed := _ } = s
  rw [removeTimer_absent absent, if_neg settled]

theorem Sound.remove {s : TimerState η} (sound : Sound s) {id : Int}
    (undisturbed : Undisturbed s (.remove id)) : Sound (timerRem id s) := by
  cases id with
  | negSucc id => exact sound
  | ofNat id =>
    have untaken : ∀ t ∈ s.ticker.taken, t.id ≠ id := fun t member same =>
      undisturbed t member (congrArg Int.ofNat same)
    by_cases started : id ∈ s.started.map fun run => run.1.id
    · show Sound (timerRem (id : Int) s)
      rw [timerRem_started sound started]
      exact sound
    · constructor
      case wellKept =>
        show (timerRem (id : Int) s).schedule.WellKept
        rw [schedule_timerRem untaken]
        apply sound.wellKept.cancel (cancels_removeTimer id (queue_distinct sound))
        intro begun
        cases mem_begun_ids.mp begun with
        | inl member => exact started member
        | inr taken =>
          obtain ⟨t, member, same⟩ := taken
          exact untaken t member same
      case uncancelled => exact sound.uncancelled
      case onTime => exact sound.onTime
      case armed => exact armed_timerRem sound.armed id

/-- The steps that take nothing off the queue and start nothing. -/
theorem Sound.same {s s' : TimerState η} (sound : Sound s) (schedule : s'.schedule = s.schedule)
    (begun : s'.begun = s.begun) (started : s'.started = s.started) (armed : s'.Armed) :
    Sound s' where
  wellKept := schedule ▸ sound.wellKept
  uncancelled := begun ▸ sound.uncancelled
  onTime := started ▸ sound.onTime
  armed := armed

theorem Sound.ring {s s' : TimerState η} (sound : Sound s) (rung : step s .ring s') : Sound s' := by
  simp only [step, exec] at rung
  split at rung
  case h_1 time on =>
    split at rung
    case isTrue due =>
      cases rung
      refine sound.same rfl rfl rfl ?_
      have armed := sound.armed
      unfold TimerState.Armed at *
      cases ticker : s.ticker <;> simp only [ticker] at *
      case waiting =>
        obtain ⟨first, rest, queue, active, rung, unrung⟩ := armed
        refine ⟨first, rest, queue, active, fun _ => ?_, fun quiet => by simp at quiet⟩
        cases pending : s.pending with
        | true => exact rung pending
        | false =>
          -- the interval timer was set for the first timer
          obtain ⟨time', on', late, _⟩ := unrung pending
          cases on.symm.trans on'
          exact Nat.le_trans late due
      case woken => exact armed
    case isFalse => cases rung
  case h_2 => cases rung

theorem Sound.arm {s s' : TimerState η} (sound : Sound s) (undisturbed : Undisturbed s .arm)
    (armed : step s .arm s') : Sound s' := by
  simp only [step, exec] at armed
  split at armed
  case h_1 first rest ticker queue =>
    obtain ⟨exact, stale⟩ := undisturbed first (by simp [queue])
    cases armed
    apply sound.same
    case schedule =>
      simp [TimerState.schedule, TimerState.begun, ticker, queue, Ticker.taken, Timer.entry]
    case begun => simp [TimerState.begun, ticker, Ticker.taken]
    case started => rfl
    case armed => exact ⟨_, rest, rfl, rfl, stale, fun _ => exists_timerStart exact⟩
  case h_2 => cases armed

theorem Sound.wake {s s' : TimerState η} (sound : Sound s) (woken : step s .wake s') :
    Sound s' := by
  simp only [step, exec] at woken
  split at woken
  case h_1 ticker pending =>
    have armed := sound.armed
    simp only [TimerState.Armed, ticker] at armed
    obtain ⟨first, rest, queue, active, rung, _⟩ := armed
    cases woken
    apply sound.same
    case schedule => simp [TimerState.schedule, TimerState.begun, ticker, Ticker.taken]
    case begun => simp [TimerState.begun, ticker, Ticker.taken]
    case started => rfl
    case armed => exact ⟨first, rest, queue, active, rung pending⟩
  case h_2 => cases woken

/-- The first timer has expired, and is dropped if it was removed. -/
theorem Sound.take {s s' : TimerState η} (sound : Sound s) (taken : step s .take s') :
    Sound s' := by
  simp only [step, exec] at taken
  split at taken
  case h_1 first rest ticker queue =>
    have entries : s.schedule.queue = first.entry :: rest.map Timer.entry := by
      rw [TimerState.schedule, queue, List.map_cons]
    have quiet : s.begun = s.started.map Prod.fst := by
      simp [TimerState.begun, ticker, Ticker.taken]
    cases cancelled : first.cancelled with
    | true =>
      simp only [cancelled, if_true, Option.some.injEq] at taken
      subst taken
      constructor
      case wellKept =>
        have kept := sound.wellKept.drop entries cancelled
        simpa [Schedule.drop, TimerState.schedule, TimerState.begun, ticker, Ticker.taken]
          using kept
      case uncancelled =>
        have uncancelled := sound.uncancelled
        simpa [TimerState.begun, ticker, Ticker.taken] using uncancelled
      case onTime => exact sound.onTime
      case armed => trivial
    | false =>
      simp only [cancelled, Bool.false_eq_true, if_false, Option.some.injEq] at taken
      subst taken
      constructor
      case wellKept =>
        have armed := sound.armed
        simp only [TimerState.Armed, ticker] at armed
        obtain ⟨first', rest', queue', _, due⟩ := armed
        obtain ⟨rfl, rfl⟩ := List.cons.inj (queue.symm.trans queue')
        have kept := sound.wellKept.pass entries due
        simpa [Schedule.pass, TimerState.schedule, TimerState.begun, ticker, Ticker.taken]
          using kept
      case uncancelled =>
        intro t member
        simp only [TimerState.begun, Ticker.taken, List.mem_append, List.mem_singleton] at member
        cases member with
        | inl member => exact sound.uncancelled t (quiet ▸ member)
        | inr same => exact same ▸ cancelled
      case onTime => exact sound.onTime
      case armed => trivial
  case h_2 => cases taken

theorem Sound.start {s s' : TimerState η} (sound : Sound s) (started : step s .start s') :
    Sound s' := by
  simp only [step, exec] at started
  split at started
  case h_1 timer ticker =>
    have due : timer.timeout.micros ≤ s.now := by
      apply sound.wellKept.past_due timer.entry
      simp [TimerState.schedule, TimerState.begun, ticker, Ticker.taken]
    cases started
    have begun : ({ s with ticker := .running timer, started := s.started ++ [(timer, s.now)] } :
        TimerState η).begun = s.begun := by
      simp [TimerState.begun, ticker, Ticker.taken]
    constructor
    case wellKept =>
      simp only [TimerState.schedule, begun]
      exact sound.wellKept
    case uncancelled =>
      rw [begun]
      exact sound.uncancelled
    case onTime =>
      intro run member
      cases List.mem_append.mp member with
      | inl member => exact sound.onTime run member
      | inr same => exact List.mem_singleton.mp same ▸ due
    case armed => trivial
  case h_2 => cases started

theorem Sound.finish {s s' : TimerState η} (sound : Sound s) (finished : step s .finish s') :
    Sound s' := by
  simp only [step, exec] at finished
  split at finished
  case h_1 timer ticker =>
    cases finished
    apply sound.same
    case schedule => simp [TimerState.schedule, TimerState.begun, ticker, Ticker.taken]
    case begun => simp [TimerState.begun, ticker, Ticker.taken]
    case started => rfl
    case armed => trivial
  case h_2 => cases finished

theorem Sound.step {s s' : TimerState η} {event : Event η} (sound : Sound s)
    (undisturbed : Undisturbed s event) (next : step s event s') : Sound s' := by
  cases event with
  | advance time => exact Option.some.inj next ▸ sound.advance time
  | add sec usec hndlr => exact Option.some.inj next ▸ sound.add undisturbed
  | remove id => exact Option.some.inj next ▸ sound.remove undisturbed
  | ring => exact sound.ring next
  | arm => exact sound.arm undisturbed next
  | wake => exact sound.wake next
  | take => exact sound.take next
  | start => exact sound.start next
  | finish => exact sound.finish next

/-! ## What a sound state says -/

theorem Sound.due_eq {s : TimerState η} (sound : Sound s) {t : Timer η}
    (member : t.entry ∈ s.schedule.timeline) {due : Nat} (accepted : (t.id, due) ∈ s.accepted) :
    t.timeout.micros = due := by
  have requested := sound.wellKept.requested t.entry member
  have same := List.inj_on_of_nodup_map sound.wellKept.unique requested accepted rfl
  exact congrArg Prod.snd same

theorem pairwise_entry {timers : List (Timer η)} :
    (timers.map Timer.entry).Pairwise Entry.Before ↔ timers.Pairwise Timer.Before := by
  rw [List.pairwise_map]
  rfl

theorem Sound.begun_inOrder {s : TimerState η} (sound : Sound s) :
    (s.started.map Prod.fst).Pairwise Timer.Before := by
  have inOrder := sound.wellKept.inOrder
  rw [Schedule.timeline, List.pairwise_append] at inOrder
  have past := inOrder.1
  rw [TimerState.schedule, TimerState.begun, List.map_append, List.pairwise_append] at past
  exact pairwise_entry.mp past.1

theorem Sound.begun_distinct {s : TimerState η} (sound : Sound s) :
    (s.started.map fun run => run.1.id).Nodup := by
  have distinct := sound.wellKept.distinct
  rw [Schedule.timeline, List.map_append, List.nodup_append] at distinct
  have past := distinct.1
  rw [TimerState.schedule, TimerState.begun, List.map_append, List.map_append,
    List.nodup_append] at past
  simpa [Function.comp_def] using past.1

/-- A timer that was not removed is somewhere. -/
theorem Sound.kept {s : TimerState η} (sound : Sound s) {request : Request}
    (accepted : request ∈ s.accepted) (unremoved : request.1 ∉ s.removed) :
    (∃ t ∈ s.timerq, t.id = request.1 ∧ t.timeout.micros = request.2 ∧ t.cancelled = false) ∨
      (∃ t, s.ticker = .chosen t ∧ t.id = request.1) ∨
        request.1 ∈ s.started.map fun run => run.1.id := by
  obtain ⟨e, member, same⟩ := List.mem_map.mp (sound.wellKept.kept request accepted unremoved)
  rw [Schedule.timeline, List.mem_append] at member
  cases member with
  | inl begun =>
    apply Or.inr
    cases mem_begun_ids.mp (List.mem_map.mpr ⟨e, begun, same⟩) with
    | inl started => exact .inr started
    | inr taken =>
      obtain ⟨t, member, same⟩ := taken
      cases ticker : s.ticker <;> simp only [ticker, Ticker.taken] at member
      case chosen timer =>
        rw [List.mem_singleton] at member
        exact .inl ⟨timer, rfl, member ▸ same⟩
      all_goals cases member
  | inr queued =>
    obtain ⟨t, here, rfl⟩ := List.mem_map.mp queued
    have member : t.entry ∈ s.schedule.timeline := List.mem_append_right _ queued
    have marked := sound.wellKept.marked t.entry member
    refine .inl ⟨t, here, same, sound.due_eq member ?_, ?_⟩
    · rw [← entry_id, same]
      exact accepted
    · rw [← Bool.not_eq_true, ← entry_cancelled, marked, same]
      exact unremoved

theorem Sound.correct {s : TimerState η} (sound : Sound s) : Correct s := by
  constructor
  case sorted =>
    have inOrder := sound.wellKept.inOrder
    rw [Schedule.timeline, List.pairwise_append] at inOrder
    exact pairwise_entry.mp inOrder.2.1
  case elapsed =>
    intro run member due accepted
    have begun : run.1.entry ∈ s.schedule.timeline := by
      apply List.mem_append_left
      apply List.mem_map_of_mem
      exact List.mem_append_left _ (List.mem_map_of_mem member)
    rw [← sound.due_eq begun accepted]
    exact sound.onTime run member
  case ordered =>
    have inOrder := List.pairwise_map.mp sound.begun_inOrder
    apply inOrder.imp
    intro run run' before
    cases before with
    | inl sooner => exact Nat.le_of_lt sooner
    | inr same => exact Nat.le_of_eq same.1
  case once => exact sound.begun_distinct
  case removed =>
    intro id removed started
    obtain ⟨run, member, rfl⟩ := List.mem_map.mp started
    have begun : run.1 ∈ s.begun := List.mem_append_left _ (List.mem_map_of_mem member)
    have marked := sound.wellKept.marked run.1.entry
      (List.mem_append_left _ (List.mem_map_of_mem begun))
    have cancelled := marked.mpr removed
    rw [entry_cancelled, sound.uncancelled run.1 begun] at cancelled
    cases cancelled
  case kept => exact fun request accepted unremoved => sound.kept accepted unremoved
  case awaited =>
    intro ticker
    have armed := sound.armed
    simp only [TimerState.Armed, ticker] at armed
    obtain ⟨first, rest, queue, _, _, unrung⟩ := armed
    refine ⟨first, rest, queue, ?_⟩
    cases pending : s.pending with
    | true => exact .inl rfl
    | false =>
      obtain ⟨time, on, _, soon⟩ := unrung pending
      exact .inr ⟨time, on, soon⟩

/-! ## Runs -/

theorem step_arm {s : TimerState η} {first : Timer η} {rest : List (Timer η)} {time : Nat}
    (ticker : s.ticker = .idle) (queue : s.timerq = first :: rest)
    (on : timerStart s.now first.timeout = some time) :
    step s .arm { s with
      timerq := { first with in_use := true } :: rest, alarm := some time, ticker := .waiting } := by
  simp [step, exec, ticker, queue, on]

theorem step_ring {s : TimerState η} {time : Nat} (on : s.alarm = some time) (due : time ≤ s.now) :
    step s .ring { s with alarm := none, pending := true } := by
  simp [step, exec, on, due]

/-- A timer of one second, from the start of its second. -/
def oneTimer : List (Event Unit) :=
  [.add 1 0 (some ()), .arm, .advance microPerSec, .ring, .wake, .take, .start]

end WlanController.Timers
