import WlanController.Foundation.Run
import WlanController.Foundation.Schedule
import WlanController.Timers.Timeval

/-!
# The timer queue

The timer library keeps its timers in a queue that is ordered by the time they expire.  A
thread, the ticker, starts the interval timer for the first of them and waits for `SIGALRM`;
when it comes, whatever is then first in the queue is taken off and its handler is run.

The mutex makes `timer_add`, `timer_rem` and the two critical sections of the ticker atomic.
Between them the steps of all threads interleave, the signal becomes pending when the interval
timer expires, and it stays pending until the ticker waits for it.
-/

namespace WlanController.Timers

open Scheduling

/-- A timer with its handler and the argument of that as one value. -/
structure Timer (η : Type) where
  id : Nat
  timeout : Timeval
  handler : η
  in_use : Bool
  cancelled : Bool

/-- Where the ticker is in its loop. -/
inductive Ticker (η : Type) where
  /-- Behind the start of the loop, waiting for a timer if there is none. -/
  | idle
  /-- In `sigwait`. -/
  | waiting
  /-- Behind `sigwait`, but without the mutex. -/
  | woken
  /-- Behind its second critical section, with the handler of this timer still to be called. -/
  | chosen (timer : Timer η)
  /-- In the handler of this timer. -/
  | running (timer : Timer η)

variable {η : Type}

/-- The timer that has been taken off the queue and whose handler is still to be called. -/
def Ticker.taken : Ticker η → List (Timer η)
  | .chosen timer => [timer]
  | _ => []

/-- The library with its clock and its interval timer. -/
structure TimerState (η : Type) where
  /-- In microseconds. -/
  now : Nat
  timerq : List (Timer η)
  cur_id : Nat
  /-- When `SIGALRM` is due, while the interval timer is on. -/
  alarm : Option Nat
  pending : Bool
  ticker : Ticker η
  /-- The timers that were added, with the times they were to expire. -/
  accepted : List Request
  /-- The timers that were removed before their handlers started. -/
  removed : List Nat
  /-- The timers whose handlers have started, and when. -/
  started : List (Timer η × Nat)

/-- Before the first timer. -/
def timerInit (now : Nat) : TimerState η where
  now := now
  timerq := []
  cur_id := 0
  alarm := none
  pending := false
  ticker := .idle
  accepted := []
  removed := []
  started := []

/-! ## Adding and removing -/

/-- The queue with a timer put in front of the first one that expires later. -/
def insertTimer (app : Timer η) (timerq : List (Timer η)) : List (Timer η) :=
  timerq.orderedInsert (fun app tmp => app.timeout.Less tmp.timeout) app

/-- Whether `timer_add` accepts its arguments. -/
def Accepts (sec usec : Int) (hndlr : Option η) : Prop :=
  hndlr.isSome ∧ ¬ (sec < 0 ∨ usec < 0 ∨ sec = 0 ∧ usec = 0)

instance (sec usec : Int) (hndlr : Option η) : Decidable (Accepts sec usec hndlr) :=
  inferInstanceAs (Decidable (_ ∧ _))

/-- The time a timer expires that is added now. -/
def TimerState.timeoutOf (s : TimerState η) (sec usec : Int) : Timeval :=
  (gettimeofday s.now).after sec.toNat usec.toNat

/-- The time it was asked to expire, in microseconds. -/
def TimerState.dueOf (s : TimerState η) (sec usec : Int) : Nat :=
  s.now + (sec.toNat * microPerSec + usec.toNat)

def intMax : Nat := 2147483647
def longMax : Nat := 9223372036854775807

/-- No sum that `timer_add` computes overflows.  Where one does, C leaves open what happens. -/
def TimerState.Fits (s : TimerState η) (sec usec : Int) : Prop :=
  s.cur_id < intMax ∧ (gettimeofday s.now).tv_usec + usec.toNat ≤ longMax ∧
    (s.timeoutOf sec usec).tv_sec ≤ longMax

instance (s : TimerState η) (sec usec : Int) : Decidable (s.Fits sec usec) :=
  inferInstanceAs (Decidable (_ ∧ _))

/-- What `timer_add` puts into the queue. -/
def TimerState.app (s : TimerState η) (sec usec : Int) (handler : η) : Timer η where
  id := s.cur_id
  timeout := s.timeoutOf sec usec
  handler := handler
  in_use := false
  cancelled := false

/-- The state with the next identifier given away and this queue. -/
def TimerState.issue (s : TimerState η) (sec usec : Int) (timerq : List (Timer η)) : TimerState η :=
  { s with
    timerq := timerq
    cur_id := s.cur_id + 1
    accepted := (s.cur_id, s.dueOf sec usec) :: s.accepted }

/-- The identifier of the timer, or `-1`.  Where there is no memory for the timer, that is as if
    there were no handler. -/
def timerAdd (sec usec : Int) (hndlr : Option η) (s : TimerState η) : Int × TimerState η :=
  match hndlr with
  | none => (-1, s)
  | some handler =>
      if sec < 0 ∨ usec < 0 ∨ sec = 0 ∧ usec = 0 then (-1, s)
      else
        let app := s.app sec usec handler
        match s.timerq with
        | [] => (app.id, s.issue sec usec [app])
        | first :: rest =>
            if app.timeout.Less first.timeout then
              let timerq := { app with in_use := true } :: { first with in_use := false } :: rest
              (app.id, { s.issue sec usec timerq with alarm := timerStart s.now app.timeout })
            else (app.id, s.issue sec usec (first :: insertTimer app rest))

/-- The search for the identifier.  A timer that is in use is only marked. -/
def removeTimer (id : Nat) : List (Timer η) → List (Timer η)
  | [] => []
  | t :: timerq =>
      if t.id = id then
        if t.in_use then { t with cancelled := true } :: timerq else timerq
      else t :: removeTimer id timerq

/-- The timer has been added and its handler has not started. -/
def TimerState.Unstarted (s : TimerState η) (id : Nat) : Prop :=
  id < s.cur_id ∧ id ∉ s.started.map fun run => run.1.id

instance (s : TimerState η) (id : Nat) : Decidable (s.Unstarted id) :=
  inferInstanceAs (Decidable (_ ∧ _))

/-- No timer in the queue has a negative identifier. -/
def timerRem (id : Int) (s : TimerState η) : TimerState η :=
  match id with
  | .ofNat id =>
      { s with
        timerq := removeTimer id s.timerq
        removed := if s.Unstarted id then id :: s.removed else s.removed }
  | .negSucc _ => s

/-! ## Steps -/

inductive Event (η : Type) where
  | advance (time : Nat)
  | add (sec usec : Int) (hndlr : Option η)
  | remove (id : Int)
  /-- The interval timer expires. -/
  | ring
  /-- The first critical section of the ticker. -/
  | arm
  /-- `sigwait` returns. -/
  | wake
  /-- The second critical section. -/
  | take
  /-- The call of the handler. -/
  | start
  /-- Its return. -/
  | finish

/-- `none` where the step is not possible. -/
def exec : Event η → TimerState η → Option (TimerState η)
  | .advance time, s => some { s with now := s.now + time }
  | .add sec usec hndlr, s => some (timerAdd sec usec hndlr s).2
  | .remove id, s => some (timerRem id s)
  | .ring, s =>
      match s.alarm with
      | some time => if time ≤ s.now then some { s with alarm := none, pending := true } else none
      | none => none
  | .arm, s =>
      match s.ticker, s.timerq with
      | .idle, first :: rest =>
          some { s with
            timerq := { first with in_use := true } :: rest
            alarm := timerStart s.now first.timeout
            ticker := .waiting }
      | _, _ => none
  | .wake, s =>
      match s.ticker, s.pending with
      | .waiting, true => some { s with pending := false, ticker := .woken }
      | _, _ => none
  | .take, s =>
      match s.ticker, s.timerq with
      | .woken, first :: rest =>
          if first.cancelled then some { s with timerq := rest, ticker := .idle }
          else some { s with timerq := rest, ticker := .chosen first }
      | _, _ => none
  | .start, s =>
      match s.ticker with
      | .chosen timer =>
          some { s with ticker := .running timer, started := s.started ++ [(timer, s.now)] }
      | _ => none
  | .finish, s =>
      match s.ticker with
      | .running _ => some { s with ticker := .idle }
      | _ => none

def step (s : TimerState η) (event : Event η) (s' : TimerState η) : Prop := exec event s = some s'

/-! ## What is asked of the library -/

/-- Expires before the other, or at the same time but was added before. -/
def Timer.Before (t t' : Timer η) : Prop :=
  t.timeout.micros < t'.timeout.micros ∨ t.timeout.micros = t'.timeout.micros ∧ t.id < t'.id

/-- The queue is in order; a handler starts when its delay has passed, in order, once, and not
    after its timer was removed; a timer that was not removed is in the queue, or about to start,
    or has started; and while the ticker waits a signal is on its way, for when the first timer
    expires or in a moment. -/
structure Correct (s : TimerState η) : Prop where
  sorted : s.timerq.Pairwise Timer.Before
  elapsed : ∀ run ∈ s.started, ∀ due, (run.1.id, due) ∈ s.accepted → due ≤ run.2
  ordered : s.started.Pairwise fun run run' => run.1.timeout.micros ≤ run'.1.timeout.micros
  once : (s.started.map fun run => run.1.id).Nodup
  removed : ∀ id ∈ s.removed, id ∉ s.started.map fun run => run.1.id
  kept : ∀ request ∈ s.accepted, request.1 ∉ s.removed →
    (∃ t ∈ s.timerq, t.id = request.1 ∧ t.timeout.micros = request.2 ∧ t.cancelled = false) ∨
      (∃ t, s.ticker = .chosen t ∧ t.id = request.1) ∨
        request.1 ∈ s.started.map fun run => run.1.id
  awaited : s.ticker = .waiting → ∃ first rest, s.timerq = first :: rest ∧
    (s.pending = true ∨ ∃ time, s.alarm = some time ∧
      (time ≤ first.timeout.micros ∨ time ≤ s.now + almostNow))

end WlanController.Timers
