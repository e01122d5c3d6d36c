import WlanController.WTP.PendingRequests

/-!
# Supervision by echo requests

In RUN the WTP sends an echo request whenever the echo timer expires, and any message of the AC
restarts that timer and its count of requests that were not answered.  The handler of the timer
runs in the thread of the ticker, the messages are received by the main loop, and no lock is held
by either, so that a message can come between any two steps of the handler.

There is memory for the timers and the messages.
-/

namespace WlanController.WTP

open Timers

/-- Where the ticker is in `CWWTPEchoRequestTimerExpiredHandler`. -/
inductive EchoHandler where
  /-- Not in it. -/
  | returned
  | entered
  /-- Before it sends the echo request. -/
  | checked
  /-- Before it counts the echo request. -/
  | sent
  /-- Before it starts the timer again. -/
  | counted
  deriving DecidableEq

/-- RUN is only entered if the echo timer could be started. -/
structure EchoSettings where
  gEchoInterval : Int
  interval_pos : 0 < gEchoInterval
  gWTPMaxRetransmitEcho : Nat

structure EchoState where
  timers : TimerState TimerCall
  gCWEchoRequestTimerID : Int
  gEchoTimerSet : Bool
  gWTPEchoRetransmissionCount : Nat
  gWTPExitRunEcho : Bool
  gWTPDataChannelDeadFlag : Bool
  /-- The main loop is running. -/
  inRun : Bool
  handler : EchoHandler
  /-- The echo requests that were sent since a message was received, or since RUN was entered. -/
  unanswered : Nat
  /-- A message was received, or RUN was entered, since an echo request was sent. -/
  answered : Bool
  /-- An echo timer expired in this RUN with as many requests unanswered as are allowed. -/
  exhausted : Bool

/-- The call that the echo timer is set to make. -/
def echoCall : TimerCall := ⟨.cwWTPEchoRequestTimerExpiredHandler, none⟩

/-- The timers that are set to send an echo request. -/
def IsEcho (timer : Nat × TimerCall) : Prop :=
  timer.2.timer_hdl = .cwWTPEchoRequestTimerExpiredHandler

instance (timer : Nat × TimerCall) : Decidable (IsEcho timer) := inferInstanceAs (Decidable (_ = _))

namespace EchoState

/-- Before the first timer. -/
def initial (now : Nat) : EchoState where
  timers := timerInit now
  gCWEchoRequestTimerID := 0
  gEchoTimerSet := false
  gWTPEchoRetransmissionCount := 0
  gWTPExitRunEcho := false
  gWTPDataChannelDeadFlag := false
  inRun := false
  handler := .returned
  unanswered := 0
  answered := true
  exhausted := false

/-! ## The echo timer -/

def cwStartEchoRequestTimer (settings : EchoSettings) (s : EchoState) : Bool × EchoState :=
  let timer := timerAdd settings.gEchoInterval 0 (some echoCall) s.timers
  let s := { s with timers := timer.2, gCWEchoRequestTimerID := timer.1 }
  if timer.1 = -1 then (false, s) else (true, { s with gEchoTimerSet := true })

def cwStopEchoRequestsTimer (s : EchoState) : EchoState :=
  { s with timers := timerRem s.gCWEchoRequestTimerID s.timers, gEchoTimerSet := false }

def cwResetEchoRequestRetransmit (settings : EchoSettings) (s : EchoState) : Bool × EchoState :=
  cwStartEchoRequestTimer settings { s.cwStopEchoRequestsTimer with
    gWTPEchoRetransmissionCount := 0 }

/-! ## The main loop -/

/-- What is done when RUN is left. -/
def clearRunState (s : EchoState) : EchoState :=
  { s.cwStopEchoRequestsTimer with
    inRun := false
    gWTPDataChannelDeadFlag := false
    gWTPExitRunEcho := false }

/-- As far as the main loop. -/
def cwWTPEnterRun (settings : EchoSettings) (s : EchoState) : EchoState :=
  let s := { s with
    gWTPEchoRetransmissionCount := 0, unanswered := 0, answered := true, exhausted := false }
  match s.cwStartEchoRequestTimer settings with
  | (true, s) => { s with inRun := true }
  | (false, s) => s.clearRunState

/-- What the main loop does with the two flags before it looks for a packet. -/
def pass (s : EchoState) : EchoState :=
  if s.gWTPDataChannelDeadFlag then s.clearRunState
  else if s.gWTPExitRunEcho then s.clearRunState
  else s

/-- What a message does to the timer.  RUN is left if it cannot be restarted. -/
def receive (settings : EchoSettings) (s : EchoState) : EchoState :=
  match { s with unanswered := 0, answered := true }.cwResetEchoRequestRetransmit settings with
  | (true, s) => s
  | (false, s) => s.clearRunState

/-! ## The handler -/

/-- The ticker is about to call the handler or is in it. -/
def expiring (s : EchoState) : Bool :=
  match s.timers.ticker with
  | .chosen timer | .running timer => IsEcho timer.call
  | _ => false

/-- The handler returns, and with it the ticker. -/
def handlerReturns (s : EchoState) : EchoState :=
  { s with timers := { s.timers with ticker := .idle }, handler := .returned }

/-- An echo timer has expired in RUN. -/
def note (settings : EchoSettings) (s : EchoState) : EchoState :=
  { s with
    exhausted := s.exhausted || (s.inRun && settings.gWTPMaxRetransmitEcho ≤ s.unanswered) }

def check (settings : EchoSettings) (s : EchoState) : EchoState :=
  if s.gEchoTimerSet = false then s.handlerReturns
  else if settings.gWTPMaxRetransmitEcho ≤ s.gWTPEchoRetransmissionCount then
    { s with gWTPExitRunEcho := true }.handlerReturns
  else if s.gWTPDataChannelDeadFlag then s.handlerReturns
  else { s with handler := .checked }

/-- Whether or not the network takes the echo request. -/
def send (s : EchoState) : EchoState :=
  { s with handler := .sent, unanswered := s.unanswered + 1, answered := false }

def increment (s : EchoState) : EchoState :=
  { s with
    handler := .counted, gWTPEchoRetransmissionCount := s.gWTPEchoRetransmissionCount + 1 }

def rearm (settings : EchoSettings) (s : EchoState) : EchoState :=
  (s.cwStartEchoRequestTimer settings).2.handlerReturns

end EchoState

/-! ## Steps -/

inductive EchoEvent where
  /-- A step of the timers, or another subsystem that adds or removes one. -/
  | library (event : Timers.Event TimerCall)
  | enter
  | pass
  /-- The main loop gives up for another reason. -/
  | fails
  | receive
  | dataChannelDies
  /-- The call of the handler. -/
  | expire
  | check
  | send
  | increment
  | rearm

/-- The state after a step of the library. -/
def EchoState.library (s : EchoState) (event : Timers.Event TimerCall) : Option EchoState :=
  (Timers.exec event s.timers).map fun timers => { s with timers := timers }

/-- `none` where the step is not possible. -/
def EchoEvent.exec (settings : EchoSettings) (s : EchoState) : EchoEvent → Option EchoState
  | .library (.add sec usec hndlr) =>
      if ∀ call ∈ hndlr, call.timer_hdl ≠ .cwWTPEchoRequestTimerExpiredHandler then
        s.library (.add sec usec hndlr)
      else none
  | .library .start => if s.expiring then none else s.library .start
  | .library .finish => if s.expiring then none else s.library .finish
  | .library event => s.library event
  | .enter => if s.inRun then none else some (s.cwWTPEnterRun settings)
  | .pass => if s.inRun then some s.pass else none
  | .fails => if s.inRun then some s.clearRunState else none
  | .receive => if s.inRun then some (s.receive settings) else none
  | .dataChannelDies => if s.inRun then some { s with gWTPDataChannelDeadFlag := true } else none
  | .expire =>
      if s.expiring ∧ s.handler = .returned then
        (s.library .start).map fun s => { s with handler := .entered }
      else none
  | .check => if s.handler = .entered then some ((s.note settings).check settings) else none
  | .send => if s.handler = .checked then some s.send else none
  | .increment => if s.handler = .sent then some s.increment else none
  | .rearm => if s.handler = .counted then some (s.rearm settings) else none

def EchoStep (settings : EchoSettings) (s : EchoState) (event : EchoEvent) (s' : EchoState) :
    Prop :=
  event.exec settings s = some s'

/-! ## What is asked of the supervision -/

namespace EchoState

/-- The WTP is in RUN, the AC is not declared dead, and no echo timer is being handled. -/
def Supervising (s : EchoState) : Prop :=
  s.inRun = true ∧ s.gWTPDataChannelDeadFlag = false ∧ s.gWTPExitRunEcho = false ∧
    s.expiring = false

/-- At most one echo timer is armed, and one is where it has to be; what is counted are the echo
    requests that were sent one after another without an answer; and the AC is declared dead
    exactly if too many of them were. -/
structure Supervised (s : EchoState) : Prop where
  one : ∀ timer ∈ s.timers.waiting, IsEcho timer → ∀ timer' ∈ s.timers.waiting, IsEcho timer' →
    timer = timer'
  armed : s.Supervising → ∃ timer ∈ s.timers.waiting, IsEcho timer
  counts : s.handler ≠ .sent → s.gWTPEchoRetransmissionCount = s.unanswered
  declared : s.inRun = true → s.gWTPExitRunEcho = s.exhausted

/-- As long as the data channel is not dead, a pass of the main loop leaves RUN exactly if too
    many echo requests were not answered. -/
def Leaves (s s' : EchoState) : EchoEvent → Prop
  | .pass => s.gWTPDataChannelDeadFlag = false → (s'.inRun = false ↔ s.exhausted = true)
  | _ => True

/-- Whatever state a step leads to. -/
def StaysSupervised (settings : EchoSettings) (s : EchoState) (event : EchoEvent) : Prop :=
  ∀ s', EchoStep settings s event s' → s'.Supervised ∧ s.Leaves s' event

/-- No echo timer is armed. -/
def Unarmed (s : EchoState) : Prop := ∀ timer ∈ s.timers.waiting, ¬ IsEcho timer

/-- The steps that keep up the supervision.  No message has come since the echo request was sent
    when it is counted, and none since the handler's timer expired, which would have armed another,
    when the handler starts its timer; and nothing is left of the last RUN when RUN is entered. -/
def Uncrossed (s : EchoState) : EchoEvent → Prop
  | .increment => s.handler = .sent → s.answered = false
  | .rearm => s.handler = .counted → s.Unarmed
  | .enter => s.inRun = false → s.gWTPExitRunEcho = false ∧ s.Unarmed
  | .library (.remove id) => s.Supervising → ∀ timer ∈ s.timers.waiting, IsEcho timer →
      (timer.1 : Int) ≠ id
  | _ => True

end EchoState

end WlanController.WTP
