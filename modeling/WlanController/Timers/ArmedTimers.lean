import WlanController.Timers.TimerQueue

/-!
# Armed timers

A timer is armed from `timer_add` until it is removed or its handler is called.  While it waits in
the queue it can still be removed; once the ticker has taken it off it cannot.  What each function
of the library does to the armed timers is all that its callers need to know.
-/

namespace WlanController.Timers

open Scheduling

variable {η : Type}

/-! ## What the functions do to the queue -/

theorem timerAdd_rejected {s : TimerState η} {sec usec : Int} {hndlr : Option η}
    (rejected : ¬ Accepts sec usec hndlr) : (timerAdd sec usec hndlr s).2 = s := by
  cases hndlr with
  | none => rfl
  | some handler =>
    have nothing : sec < 0 ∨ usec < 0 ∨ sec = 0 ∧ usec = 0 := by
      by_contra positive
      exact rejected ⟨rfl, positive⟩
    simp [timerAdd, nothing]

/-- The first timer of all. -/
theorem timerAdd_nil {s : TimerState η} {sec usec : Int} {handler : η}
    (accepts : Accepts sec usec (some handler)) (queue : s.timerq = []) :
    (timerAdd sec usec (some handler) s).2 = s.issue sec usec [s.app sec usec handler] := by
  simp [timerAdd, accepts.2, queue]

/-- A timer that becomes the first is marked to be in use, and the interval timer started for
    it. -/
theorem timerAdd_front {s : TimerState η} {sec usec : Int} {handler : η} {first : Timer η}
    {rest : List (Timer η)} (accepts : Accepts sec usec (some handler))
    (queue : s.timerq = first :: rest) (sooner : (s.timeoutOf sec usec).Less first.timeout) :
    (timerAdd sec usec (some handler) s).2 =
      { s.issue sec usec ({ s.app sec usec handler with in_use := true } ::
          { first with in_use := false } :: rest) with
        alarm := timerStart s.now (s.timeoutOf sec usec) } := by
  have sooner : (s.app sec usec handler).timeout.Less first.timeout := sooner
  simp only [timerAdd, accepts.2, queue, sooner, if_true, if_false]
  rfl

theorem timerAdd_behind {s : TimerState η} {sec usec : Int} {handler : η} {first : Timer η}
    {rest : List (Timer η)} (accepts : Accepts sec usec (some handler))
    (queue : s.timerq = first :: rest) (later : ¬ (s.timeoutOf sec usec).Less first.timeout) :
    (timerAdd sec usec (some handler) s).2 =
      s.issue sec usec (first :: insertTimer (s.app sec usec handler) rest) := by
  have later : ¬ (s.app sec usec handler).timeout.Less first.timeout := later
  simp only [timerAdd, accepts.2, queue, later, if_false]

/-- Whatever the queue is, nothing but it and the interval timer changes. -/
theorem timerAdd_fields (s : TimerState η) {sec usec : Int} {handler : η}
    (accepts : Accepts sec usec (some handler)) :
    ∃ timerq alarm, (timerAdd sec usec (some handler) s).2 =
      { s.issue sec usec timerq with alarm := alarm } := by
  cases queue : s.timerq with
  | nil => exact ⟨_, s.alarm, timerAdd_nil accepts queue⟩
  | cons first rest =>
    by_cases sooner : (s.timeoutOf sec usec).Less first.timeout
    · exact ⟨_, _, timerAdd_front accepts queue sooner⟩
    · exact ⟨_, s.alarm, timerAdd_behind accepts queue sooner⟩

theorem removeTimer_absent {id : Nat} {timerq : List (Timer η)} (absent : id ∉ timerq.map Timer.id) :
    removeTimer id timerq = timerq := by
  induction timerq with
  | nil => rfl
  | cons t timerq inductionHypothesis =>
    rw [List.map_cons, List.mem_cons, not_or] at absent
    rw [removeTimer, if_neg (Ne.symm absent.1), inductionHypothesis absent.2]

/-! ## Calls -/

/-- A timer by its identifier, with the handler it is to call. -/
def Timer.call (t : Timer η) : Nat × η := (t.id, t.handler)

@[simp] theorem call_fst (t : Timer η) : t.call.1 = t.id := rfl

def waitingIn (timerq : List (Timer η)) : List (Nat × η) :=
  (timerq.filter fun t => !t.cancelled).map Timer.call

/-- What waits in the queue. -/
def TimerState.waiting (s : TimerState η) : List (Nat × η) := waitingIn s.timerq

/-- What has been taken off and is about to be called. -/
def TimerState.taken (s : TimerState η) : List (Nat × η) := s.ticker.taken.map Timer.call

def TimerState.armed (s : TimerState η) : List (Nat × η) := s.taken ++ s.waiting

theorem mem_armed {s : TimerState η} {call : Nat × η} :
    call ∈ s.armed ↔ call ∈ s.taken ∨ call ∈ s.waiting :=
  List.mem_append

/-- Identifiers are given away once. -/
structure Issued (s : TimerState η) : Prop where
  distinct : ((s.ticker.taken ++ s.timerq).map Timer.id).Nodup
  lt : ∀ id ∈ (s.ticker.taken ++ s.timerq).map Timer.id, id < s.cur_id

theorem issued_timerInit (now : Nat) : Issued (timerInit now : TimerState η) := by
  constructor <;> simp [timerInit, Ticker.taken]

theorem Issued.queue_distinct {s : TimerState η} (issued : Issued s) :
    (s.timerq.map Timer.id).Nodup := by
  have distinct := issued.distinct
  rw [List.map_append, List.nodup_append] at distinct
  exact distinct.2.1

theorem waiting_sublist (timerq : List (Timer η)) :
    ((waitingIn timerq).map Prod.fst).Sublist (timerq.map Timer.id) := by
  rw [waitingIn, List.map_map]
  exact List.filter_sublist.map Timer.id

theorem armed_sublist (s : TimerState η) :
    (s.armed.map Prod.fst).Sublist ((s.ticker.taken ++ s.timerq).map Timer.id) := by
  rw [TimerState.armed, List.map_append, List.map_append, TimerState.taken, List.map_map]
  exact (List.Sublist.refl _).append (waiting_sublist s.timerq)

theorem Issued.armed_lt {s : TimerState η} (issued : Issued s) {call : Nat × η}
    (armed : call ∈ s.armed) : call.1 < s.cur_id :=
  issued.lt _ ((armed_sublist s).subset (List.mem_map_of_mem armed))

/-- An armed timer is told by its identifier. -/
theorem Issued.eq_of_id {s : TimerState η} (issued : Issued s) {call call' : Nat × η}
    (armed : call ∈ s.armed) (armed' : call' ∈ s.armed) (same : call.1 = call'.1) :
    call = call' :=
  List.inj_on_of_nodup_map (issued.distinct.sublist (armed_sublist s)) armed armed' same

theorem Issued.taken_ne_waiting {s : TimerState η} (issued : Issued s) {call call' : Nat × η}
    (taken : call ∈ s.taken) (waiting : call' ∈ s.waiting) : call.1 ≠ call'.1 := by
  have distinct := issued.distinct.sublist (armed_sublist s)
  rw [TimerState.armed, List.map_append, List.nodup_append] at distinct
  exact distinct.2.2 _ (List.mem_map_of_mem taken) _ (List.mem_map_of_mem waiting)

/-! ## Adding arms a timer -/

theorem waitingIn_cons (t : Timer η) (timerq : List (Timer η)) :
    waitingIn (t :: timerq) = (if t.cancelled then [] else [t.call]) ++ waitingIn timerq := by
  cases cancelled : t.cancelled <;> simp [waitingIn, cancelled]

theorem mem_waitingIn_insertTimer {app : Timer η} (fresh : app.cancelled = false)
    (timerq : List (Timer η)) (call : Nat × η) :
    call ∈ waitingIn (insertTimer app timerq) ↔ call = app.call ∨ call ∈ waitingIn timerq := by
  have perm := (List.perm_orderedInsert (fun app tmp : Timer η => app.timeout.Less tmp.timeout)
    app timerq).filter (fun t => !t.cancelled) |>.map Timer.call
  rw [waitingIn, insertTimer, perm.mem_iff]
  simp [waitingIn, fresh]

/-- The new timer waits, and everything else waits as before. -/
theorem mem_waiting_timerAdd {s : TimerState η} {sec usec : Int} {handler : η}
    (accepts : Accepts sec usec (some handler)) (call : Nat × η) :
    call ∈ (timerAdd sec usec (some handler) s).2.waiting ↔
      call = (s.cur_id, handler) ∨ call ∈ s.waiting := by
  cases queue : s.timerq with
  | nil =>
    rw [timerAdd_nil accepts queue]
    simp [TimerState.waiting, TimerState.issue, waitingIn, TimerState.app, Timer.call, queue]
  | cons first rest =>
    by_cases sooner : (s.timeoutOf sec usec).Less first.timeout
    · rw [timerAdd_front accepts queue sooner]
      simp [TimerState.waiting, TimerState.issue, waitingIn_cons, TimerState.app, Timer.call, queue]
    · rw [timerAdd_behind accepts queue sooner]
      have fresh : (s.app sec usec handler).cancelled = false := rfl
      have inserted := mem_waitingIn_insertTimer fresh rest call
      simp only [TimerState.waiting, TimerState.issue, waitingIn_cons, queue, List.mem_append,
        inserted]
      exact or_left_comm

theorem taken_timerAdd (s : TimerState η) (sec usec : Int) (hndlr : Option η) :
    (timerAdd sec usec hndlr s).2.taken = s.taken := by
  by_cases accepts : Accepts sec usec hndlr
  · cases hndlr with
    | none => simp [Accepts] at accepts
    | some handler =>
      obtain ⟨timerq, alarm, added⟩ := timerAdd_fields s accepts
      rw [added]
      rfl
  · rw [timerAdd_rejected accepts]

theorem perm_ids_timerAdd {s : TimerState η} {sec usec : Int} {handler : η}
    (accepts : Accepts sec usec (some handler)) :
    ((timerAdd sec usec (some handler) s).2.timerq.map Timer.id).Perm
      (s.cur_id :: s.timerq.map Timer.id) := by
  cases queue : s.timerq with
  | nil => simp [timerAdd_nil accepts queue, TimerState.issue, TimerState.app]
  | cons first rest =>
    by_cases sooner : (s.timeoutOf sec usec).Less first.timeout
    · simp [timerAdd_front accepts queue sooner, TimerState.issue, TimerState.app]
    · rw [timerAdd_behind accepts queue sooner]
      have inserted := (List.perm_orderedInsert
        (fun app tmp : Timer η => app.timeout.Less tmp.timeout) (s.app sec usec handler) rest).map
        Timer.id
      exact (inserted.cons first.id).trans (List.Perm.swap s.cur_id first.id _)

theorem Issued.add {s : TimerState η} (issued : Issued s) (sec usec : Int) (hndlr : Option η) :
    Issued (timerAdd sec usec hndlr s).2 := by
  by_cases accepts : Accepts sec usec hndlr
  · cases hndlr with
    | none => simp [Accepts] at accepts
    | some handler =>
      have ids := perm_ids_timerAdd (s := s) accepts
      obtain ⟨timerq, alarm, added⟩ := timerAdd_fields s accepts
      rw [added] at ids ⊢
      have perm : ((s.ticker.taken ++ timerq).map Timer.id).Perm
          (s.cur_id :: (s.ticker.taken ++ s.timerq).map Timer.id) := by
        rw [List.map_append, List.map_append]
        exact (ids.append_left _).trans List.perm_middle
      constructor
      case distinct =>
        apply perm.nodup_iff.mpr
        apply List.nodup_cons.mpr
        exact ⟨fun member => Nat.lt_irrefl _ (issued.lt _ member), issued.distinct⟩
      case lt =>
        intro id member
        cases List.mem_cons.mp (perm.mem_iff.mp member) with
        | inl same => exact same ▸ Nat.lt_succ_self s.cur_id
        | inr member => exact Nat.lt_succ_of_lt (issued.lt id member)
  · rw [timerAdd_rejected accepts]
    exact issued

/-- The identifier is that of the next timer, or `-1`. -/
theorem timerAdd_fst {s : TimerState η} (sec usec : Int) (handler : η) :
    (timerAdd sec usec (some handler) s).1 =
      if Accepts sec usec (some handler) then (s.cur_id : Int) else -1 := by
  by_cases accepts : Accepts sec usec (some handler)
  · rw [if_pos accepts]
    cases queue : s.timerq with
    | nil => simp [timerAdd, accepts.2, queue, TimerState.app]
    | cons first rest =>
      simp only [timerAdd, accepts.2, if_false, queue]
      split <;> rfl
  · have nothing : sec < 0 ∨ usec < 0 ∨ sec = 0 ∧ usec = 0 := by
      by_contra positive
      exact accepts ⟨rfl, positive⟩
    rw [if_neg accepts]
    simp [timerAdd, nothing]

/-- Adding a timer disarms none. -/
theorem armed_add {s : TimerState η} {timer : Nat × η} (armed : timer ∈ s.armed)
    (sec usec : Int) (hndlr : Option η) :
    timer ∈ (timerAdd sec usec hndlr s).2.armed := by
  by_cases accepts : Accepts sec usec hndlr
  · cases hndlr with
    | none => simp [Accepts] at accepts
    | some call =>
      rw [mem_armed, taken_timerAdd, mem_waiting_timerAdd accepts]
      exact (mem_armed.mp armed).imp_right Or.inr
  · rw [timerAdd_rejected accepts]
    exact armed

/-- What is armed after `timer_add` was armed before or has just been added. -/
theorem armed_add_cases {s : TimerState η} {sec usec : Int} {hndlr : Option η}
    {timer : Nat × η} (armed : timer ∈ (timerAdd sec usec hndlr s).2.armed) :
    timer ∈ s.armed ∨ Accepts sec usec hndlr ∧ ∃ call ∈ hndlr, timer = (s.cur_id, call) := by
  by_cases accepts : Accepts sec usec hndlr
  · cases hndlr with
    | none => simp [Accepts] at accepts
    | some call =>
      rw [mem_armed, taken_timerAdd, mem_waiting_timerAdd accepts] at armed
      rw [mem_armed]
      cases armed with
      | inl taken => exact .inl (.inl taken)
      | inr waits =>
        cases waits with
        | inl same => exact .inr ⟨accepts, call, rfl, same⟩
        | inr waiting => exact .inl (.inr waiting)
  · rw [timerAdd_rejected accepts] at armed
    exact .inl armed

/-! ## Removing disarms one -/

theorem waitingIn_removeTimer (id : Nat) {timerq : List (Timer η)}
    (distinct : (timerq.map Timer.id).Nodup) :
    waitingIn (removeTimer id timerq) = (waitingIn timerq).filter fun call => call.1 ≠ id := by
  induction timerq with
  | nil => rfl
  | cons t timerq inductionHypothesis =>
    rw [List.map_cons, List.nodup_cons] at distinct
    by_cases found : t.id = id
    · -- nothing behind it has the identifier
      have rest : (waitingIn timerq).filter (fun call => call.1 ≠ id) = waitingIn timerq := by
        apply List.filter_eq_self.mpr
        intro call member
        have listed := (waiting_sublist timerq).subset (List.mem_map_of_mem member)
        simp only [ne_eq, decide_not, Bool.not_eq_eq_eq_not, Bool.not_true, decide_eq_false_iff_not]
        exact fun same => distinct.1 (found ▸ same ▸ listed)
      rw [waitingIn_cons, List.filter_append, rest]
      by_cases active : t.in_use = true
      · cases cancelled : t.cancelled <;>
          simp [removeTimer, found, active, waitingIn_cons, Timer.call]
      · cases cancelled : t.cancelled <;>
          simp [removeTimer, found, active, Timer.call]
    · rw [removeTimer, if_neg found, waitingIn_cons, waitingIn_cons, List.filter_append,
        inductionHypothesis distinct.2]
      cases cancelled : t.cancelled <;> simp [Timer.call, found]

theorem mem_waiting_timerRem {s : TimerState η} (issued : Issued s) (id : Int) (call : Nat × η) :
    call ∈ (timerRem id s).waiting ↔ call ∈ s.waiting ∧ (call.1 : Int) ≠ id := by
  cases id with
  | negSucc id => simp [timerRem]
  | ofNat id =>
    show call ∈ waitingIn (removeTimer id s.timerq) ↔ _
    rw [waitingIn_removeTimer id issued.queue_distinct]
    rw [List.mem_filter, decide_eq_true_iff]
    exact and_congr_right fun _ => not_congr Int.ofNat_inj.symm

theorem cur_id_timerRem (s : TimerState η) (id : Int) : (timerRem id s).cur_id = s.cur_id := by
  cases id <;> rfl

theorem taken_timerRem (s : TimerState η) (id : Int) : (timerRem id s).taken = s.taken := by
  cases id <;> rfl

theorem mem_armed_remove {s : TimerState η} (issued : Issued s) (id : Int) (timer : Nat × η) :
    timer ∈ (timerRem id s).armed ↔ timer ∈ s.taken ∨
      timer ∈ s.waiting ∧ (timer.1 : Int) ≠ id := by
  rw [mem_armed, taken_timerRem, mem_waiting_timerRem issued]

/-- What is removed is armed no more. -/
theorem not_armed_remove {s : TimerState η} (issued : Issued s) {id : Int} {timer : Nat × η}
    (waiting : timer ∈ s.waiting) (same : (timer.1 : Int) = id) :
    timer ∉ (timerRem id s).armed := by
  rw [mem_armed_remove issued]
  intro armed
  cases armed with
  | inl taken => exact issued.taken_ne_waiting taken waiting rfl
  | inr waits => exact waits.2 same

theorem armed_remove {s : TimerState η} {id : Int} (issued : Issued s) {timer : Nat × η}
    (armed : timer ∈ s.armed) (different : (timer.1 : Int) ≠ id) :
    timer ∈ (timerRem id s).armed := by
  rw [mem_armed_remove issued]
  exact (mem_armed.mp armed).imp_right fun waiting => ⟨waiting, different⟩

theorem armed_of_remove {s : TimerState η} (issued : Issued s) {id : Int} {timer : Nat × η}
    (armed : timer ∈ (timerRem id s).armed) : timer ∈ s.armed := by
  rw [mem_armed_remove issued] at armed
  exact mem_armed.mpr (armed.imp_right And.left)

theorem ids_removeTimer (id : Nat) (timerq : List (Timer η)) :
    ((removeTimer id timerq).map Timer.id).Sublist (timerq.map Timer.id) := by
  induction timerq with
  | nil => exact List.Sublist.refl _
  | cons t timerq inductionHypothesis =>
    by_cases found : t.id = id
    · by_cases active : t.in_use = true
      · simp [removeTimer, found, active]
      · simp [removeTimer, found, active]
    · simp [removeTimer, found, inductionHypothesis]

theorem Issued.sublist {s s' : TimerState η} (issued : Issued s) (counter : s'.cur_id = s.cur_id)
    (sublist : ((s'.ticker.taken ++ s'.timerq).map Timer.id).Sublist
      ((s.ticker.taken ++ s.timerq).map Timer.id)) : Issued s' where
  distinct := issued.distinct.sublist sublist
  lt := fun id member => counter ▸ issued.lt id (sublist.subset member)

theorem Issued.remove {s : TimerState η} (issued : Issued s) (id : Int) :
    Issued (timerRem id s) := by
  cases id with
  | negSucc id => exact issued
  | ofNat id =>
    have counter : (timerRem (id : Int) s).cur_id = s.cur_id := rfl
    apply issued.sublist counter
    rw [List.map_append, List.map_append]
    exact (List.Sublist.refl _).append (ids_removeTimer id s.timerq)

/-! ## The steps of the ticker -/

/-- What is armed in one state is armed in the other. -/
structure SameArmed (s s' : TimerState η) : Prop where
  armed : s'.armed = s.armed
  issued : Issued s → Issued s'
  counter : s'.cur_id = s.cur_id

theorem sameArmed_advance (s : TimerState η) (time : Nat) :
    SameArmed s { s with now := s.now + time } :=
  ⟨rfl, fun issued => ⟨issued.distinct, issued.lt⟩, rfl⟩

theorem sameArmed_ring {s s' : TimerState η} (rung : step s .ring s') : SameArmed s s' := by
  simp only [step, exec] at rung
  split at rung
  case h_1 =>
    split at rung
    case isTrue =>
      cases rung
      exact ⟨rfl, fun issued => ⟨issued.distinct, issued.lt⟩, rfl⟩
    case isFalse => cases rung
  case h_2 => cases rung

theorem sameArmed_arm {s s' : TimerState η} (armed : step s .arm s') : SameArmed s s' := by
  simp only [step, exec] at armed
  split at armed
  case h_1 first rest ticker queue =>
    cases armed
    constructor
    case armed =>
      simp [TimerState.armed, TimerState.taken, TimerState.waiting, ticker, queue, Ticker.taken,
        waitingIn_cons, Timer.call]
    case issued =>
      intro issued
      apply issued.sublist
      · rfl
      · simp [ticker, queue, Ticker.taken]
    case counter => rfl
  case h_2 => cases armed

theorem sameArmed_wake {s s' : TimerState η} (woken : step s .wake s') : SameArmed s s' := by
  simp only [step, exec] at woken
  split at woken
  case h_1 ticker pending =>
    cases woken
    constructor
    case armed =>
      simp [TimerState.armed, TimerState.taken, TimerState.waiting, ticker, Ticker.taken]
    case issued =>
      intro issued
      apply issued.sublist
      · rfl
      · simp [ticker, Ticker.taken]
    case counter => rfl
  case h_2 => cases woken

/-- What is taken off the queue is armed yet, unless it was removed before. -/
theorem sameArmed_take {s s' : TimerState η} (taken : step s .take s') : SameArmed s s' := by
  simp only [step, exec] at taken
  split at taken
  case h_1 first rest ticker queue =>
    cases cancelled : first.cancelled <;> simp only [cancelled, if_true, Bool.false_eq_true,
      if_false, Option.some.injEq] at taken <;> subst taken
    all_goals
      constructor
      case armed =>
        simp [TimerState.armed, TimerState.taken, TimerState.waiting, ticker, queue, Ticker.taken,
          waitingIn_cons, cancelled]
      case issued =>
        intro issued
        apply issued.sublist
        · rfl
        · simp [ticker, queue, Ticker.taken]
      case counter => rfl
  case h_2 => cases taken

theorem sameArmed_finish {s s' : TimerState η} (finished : step s .finish s') :
    SameArmed s s' := by
  simp only [step, exec] at finished
  split at finished
  case h_1 timer ticker =>
    cases finished
    constructor
    case armed =>
      simp [TimerState.armed, TimerState.taken, TimerState.waiting, ticker, Ticker.taken]
    case issued =>
      intro issued
      apply issued.sublist
      · rfl
      · simp [ticker, Ticker.taken]
    case counter => rfl
  case h_2 => cases finished

/-- The timer that is started is armed no more. -/
theorem armed_start {s : TimerState η} (issued : Issued s) {timer : Timer η}
    (ticker : s.ticker = .chosen timer) (call : Nat × η) :
    call ∈ ({ s with ticker := .running timer, started := s.started ++ [(timer, s.now)] } :
      TimerState η).armed ↔ call ∈ s.armed ∧ call ≠ timer.call := by
  have taken : s.taken = [timer.call] := by simp [TimerState.taken, ticker, Ticker.taken]
  have others : ∀ call ∈ s.waiting, call ≠ timer.call := by
    intro call waiting same
    have member : timer.call ∈ s.taken := by simp [taken]
    exact issued.taken_ne_waiting member waiting (same ▸ rfl)
  show call ∈ s.waiting ↔ _
  rw [mem_armed, taken, List.mem_singleton]
  constructor
  · intro waiting
    exact ⟨.inr waiting, others call waiting⟩
  · intro both
    exact both.1.resolve_left both.2

theorem Issued.start {s : TimerState η} (issued : Issued s) {timer : Timer η}
    (ticker : s.ticker = .chosen timer) :
    Issued ({ s with ticker := .running timer, started := s.started ++ [(timer, s.now)] } :
      TimerState η) := by
  refine issued.sublist rfl ?_
  simp [ticker, Ticker.taken]

/-- A step that neither adds nor removes a timer leaves what waits, or the first of it is about to
    be called. -/
theorem waiting_step {s s' : TimerState η} {event : Event η} (stepped : step s event s')
    (adds : ∀ sec usec hndlr, event ≠ .add sec usec hndlr) (removes : ∀ id, event ≠ .remove id) :
    s'.waiting = s.waiting ∨
      ∃ timer, s'.ticker = .chosen timer ∧ s.waiting = timer.call :: s'.waiting := by
  cases event with
  | add sec usec hndlr => exact absurd rfl (adds sec usec hndlr)
  | remove id => exact absurd rfl (removes id)
  | advance time =>
    cases stepped
    exact .inl rfl
  | arm =>
    simp only [step, exec] at stepped
    split at stepped
    case h_1 first rest ticker queue =>
      cases stepped
      exact .inl (by simp [TimerState.waiting, queue, waitingIn_cons, Timer.call])
    case h_2 => cases stepped
  | take =>
    simp only [step, exec] at stepped
    split at stepped
    case h_1 first rest ticker queue =>
      cases cancelled : first.cancelled with
      | true =>
        rw [if_pos cancelled] at stepped
        cases stepped
        exact .inl (by simp [TimerState.waiting, queue, waitingIn_cons, cancelled])
      | false =>
        rw [if_neg (by simp [cancelled])] at stepped
        cases stepped
        exact .inr ⟨first, rfl, by simp [TimerState.waiting, queue, waitingIn_cons, cancelled]⟩
    case h_2 => cases stepped
  | ring =>
    simp only [step, exec] at stepped
    split at stepped
    case h_1 =>
      split at stepped
      case isTrue =>
        cases stepped
        exact .inl rfl
      case isFalse => cases stepped
    case h_2 => cases stepped
  | wake =>
    simp only [step, exec] at stepped
    split at stepped
    case h_1 =>
      cases stepped
      exact .inl rfl
    case h_2 => cases stepped
  | start =>
    simp only [step, exec] at stepped
    split at stepped
    case h_1 =>
      cases stepped
      exact .inl rfl
    case h_2 => cases stepped
  | finish =>
    simp only [step, exec] at stepped
    split at stepped
    case h_1 =>
      cases stepped
      exact .inl rfl
    case h_2 => cases stepped

theorem Issued.step {s s' : TimerState η} {event : Event η} (issued : Issued s)
    (stepped : step s event s') : Issued s' := by
  cases event with
  | advance time =>
    cases stepped
    exact (sameArmed_advance s time).issued issued
  | add sec usec hndlr =>
    cases stepped
    exact issued.add sec usec hndlr
  | remove id =>
    cases stepped
    exact issued.remove id
  | ring => exact (sameArmed_ring stepped).issued issued
  | arm => exact (sameArmed_arm stepped).issued issued
  | wake => exact (sameArmed_wake stepped).issued issued
  | take => exact (sameArmed_take stepped).issued issued
  | start =>
    simp only [Timers.step, exec] at stepped
    split at stepped
    case h_1 timer ticker =>
      cases stepped
      exact issued.start ticker
    case h_2 => cases stepped
  | finish => exact (sameArmed_finish stepped).issued issued

/-- Only `timer_add` puts a timer into the queue. -/
theorem waiting_of_step {s s' : TimerState η} {event : Event η} (issued : Issued s)
    (stepped : step s event s') (adds : ∀ sec usec hndlr, event ≠ .add sec usec hndlr)
    {timer : Nat × η} (waiting : timer ∈ s'.waiting) : timer ∈ s.waiting := by
  have ticks : (∀ id, event ≠ .remove id) → timer ∈ s.waiting := by
    intro removes
    cases waiting_step stepped adds removes with
    | inl same => exact same ▸ waiting
    | inr taken =>
      obtain ⟨first, _, before⟩ := taken
      rw [before]
      exact List.mem_cons_of_mem _ waiting
  cases event with
  | remove id =>
    cases stepped
    exact ((mem_waiting_timerRem issued id timer).mp waiting).1
  | _ => exact ticks (by simp)

/-- Only `timer_add` arms a timer. -/
theorem armed_of_step {s s' : TimerState η} {event : Event η} (issued : Issued s)
    (stepped : step s event s') (adds : ∀ sec usec hndlr, event ≠ .add sec usec hndlr)
    {timer : Nat × η} (armed : timer ∈ s'.armed) : timer ∈ s.armed := by
  cases event with
  | advance time =>
    cases stepped
    exact armed
  | add sec usec hndlr => exact absurd rfl (adds sec usec hndlr)
  | remove id =>
    cases stepped
    exact armed_of_remove issued armed
  | ring => exact (sameArmed_ring stepped).armed ▸ armed
  | arm => exact (sameArmed_arm stepped).armed ▸ armed
  | wake => exact (sameArmed_wake stepped).armed ▸ armed
  | take => exact (sameArmed_take stepped).armed ▸ armed
  | start =>
    simp only [Timers.step, exec] at stepped
    split at stepped
    case h_1 chosen ticker =>
      cases stepped
      exact ((armed_start issued ticker timer).mp armed).1
    case h_2 => cases stepped
  | finish => exact (sameArmed_finish stepped).armed ▸ armed

end WlanController.Timers
