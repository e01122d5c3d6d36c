import WlanController.Foundation.Run
import WlanController.Timers.ArmedTimers

/-!
# Attempts to join

The main loop of the WTP enters JOIN as often as Discovery finds an AC.  Every attempt starts a
wait-join timer, whose handler tells the attempt by a flag that it took too long, and every way
out of the attempt is to stop the timer.

What the calls of an attempt do is of no concern, only whether they succeed.
-/

namespace WlanController.WTP

open Timers

inductive CWStateTransition where
  | enterSulking
  | enterDiscovery
  | enterJoin
  | enterConfigure
  | enterDataCheck
  | enterRun
  | enterReset
  | quit
  deriving DecidableEq

/-- What the functions of the states other than JOIN return. -/
def CWStateTransition.returned : CWStateTransition → List CWStateTransition
  | .enterSulking => [.quit, .enterDiscovery]
  | .enterDiscovery => [.quit, .enterSulking, .enterDiscovery, .enterJoin]
  | .enterConfigure => [.quit, .enterDataCheck]
  | .enterDataCheck => [.enterReset, .enterRun]
  | .enterRun => [.enterReset]
  | .enterReset => [.enterDiscovery]
  | .enterJoin | .quit => []

/-- The handlers of the timers of the WTP. -/
inductive JoinTimer where
  | cwWTPWaitJoinExpired
  /-- Of another subsystem. -/
  | other (number : Nat)
  deriving DecidableEq

def gCWWaitJoin : Int := 60

/-- The calls of `CWWTPEnterJoin` that can fail, and the places behind them. -/
inductive JoinPoint where
  | outside
  | timer
  | controlSocket
  | dataSocket
  | securityContext
  | receiveFrame
  | receiveDataFrame
  | securitySession
  /-- `CWWTPSendAcknowledgedPacket`. -/
  | request
  /-- The response has been saved. -/
  | saved
  /-- The timer has been removed, and the flag is to be looked at. -/
  | removed
  deriving DecidableEq

/-- How the WTP was built, and whether the address of an AC was given to it. -/
structure JoinSettings where
  CW_NO_DTLS : Bool
  CW_DTLS_DATA_CHANNEL : Bool
  gWTPForceACAddress : Bool

/-- What comes after a call that succeeded. -/
def JoinPoint.next (settings : JoinSettings) : JoinPoint → JoinPoint
  | .outside => .timer
  | .timer => .controlSocket
  | .controlSocket => .dataSocket
  | .dataSocket =>
      if !settings.CW_NO_DTLS || settings.CW_DTLS_DATA_CHANNEL then .securityContext
      else .receiveFrame
  | .securityContext => .receiveFrame
  | .receiveFrame => .receiveDataFrame
  | .receiveDataFrame => if !settings.CW_NO_DTLS then .securitySession else .request
  | .securitySession => .request
  | .request => .saved
  | .saved => .removed
  | .removed => .outside

/-- Whether the way out after a call that failed stops the timer. -/
def JoinPoint.stopsTimer : JoinPoint → Bool
  | .dataSocket | .receiveDataFrame => false
  | _ => true

structure JoinState where
  timers : TimerState JoinTimer
  gSuccessfulHandshake : Bool
  nextState : CWStateTransition
  point : JoinPoint
  waitJoinTimer : Int
  /-- The timer of this attempt has expired. -/
  expired : Bool
  /-- The response of this attempt was saved before its timer expired. -/
  inTime : Bool
  /-- The handler of some wait-join timer has run, in this attempt or in an earlier one. -/
  lapsed : Bool

/-- The timers that are set to end an attempt. -/
def IsWaitJoin (timer : Nat × JoinTimer) : Prop := timer.2 = .cwWTPWaitJoinExpired

instance (timer : Nat × JoinTimer) : Decidable (IsWaitJoin timer) :=
  inferInstanceAs (Decidable (_ = _))

namespace JoinState

/-- The main loop before it enters its first state. -/
def initial (settings : JoinSettings) (now : Nat) : JoinState where
  timers := timerInit now
  gSuccessfulHandshake := true
  nextState := if settings.gWTPForceACAddress then .enterJoin else .enterDiscovery
  point := .outside
  waitJoinTimer := -1
  expired := false
  inTime := false
  lapsed := false

/-! ## An attempt -/

def leave (s : JoinState) (nextState : CWStateTransition) : JoinState :=
  { s with point := .outside, nextState := nextState }

def stopTimer (s : JoinState) : JoinState :=
  { s with timers := timerRem s.waitJoinTimer s.timers }

/-- As far as the timer.  Where there is no memory for the values of the AC, `CW_FALSE` is returned
    as a state. -/
def enter (settings : JoinSettings) (memory : Bool) (s : JoinState) : JoinState :=
  if settings.gWTPForceACAddress ∧ memory = false then s.leave .enterSulking
  else { s with point := .timer, expired := false, inTime := false }

def addTimer (memory : Bool) (s : JoinState) : JoinState :=
  let hndlr := if memory then some .cwWTPWaitJoinExpired else none
  let timer := timerAdd gCWWaitJoin 0 hndlr s.timers
  let s := { s with timers := timer.2, waitJoinTimer := timer.1 }
  if timer.1 = -1 then s.leave .enterDiscovery else { s with point := .controlSocket }

def fail (s : JoinState) : JoinState :=
  (if s.point.stopsTimer then s.stopTimer else s).leave .enterDiscovery

def call (settings : JoinSettings) (succeeds : Bool) (s : JoinState) : JoinState :=
  if succeeds then { s with point := s.point.next settings } else s.fail

/-- The request was sent and its response received and saved, or it was not. -/
def request (succeeds : Bool) (s : JoinState) : JoinState :=
  if succeeds then { s with point := .saved, inTime := !s.expired } else s.fail

/-- What is left of the attempt once the timer has been removed. -/
def complete (s : JoinState) : JoinState :=
  if s.gSuccessfulHandshake = false then s.fail else s.leave .enterConfigure

/-! ## The handler -/

/-- The ticker is about to call the handler or is in it. -/
def expiring (s : JoinState) : Bool :=
  match s.timers.ticker with
  | .chosen timer | .running timer => IsWaitJoin timer.call
  | _ => false

/-- The call of the handler. -/
def expire (s : JoinState) : JoinState :=
  match s.timers.ticker with
  | .chosen timer => { s with expired := s.expired || (timer.id : Int) == s.waitJoinTimer }
  | _ => s

def cwWTPWaitJoinExpired (s : JoinState) : JoinState :=
  { s with gSuccessfulHandshake := false, lapsed := true }

/-- The state after a step of the library. -/
def library (s : JoinState) (event : Timers.Event JoinTimer) : Option JoinState :=
  (Timers.exec event s.timers).map fun timers => { s with timers := timers }

end JoinState

/-! ## Steps -/

inductive JoinEvent where
  /-- A step of the timers, or another subsystem that adds or removes one. -/
  | library (event : Timers.Event JoinTimer)
  /-- The call of the handler of a wait-join timer. -/
  | expire
  /-- What it does until it returns. -/
  | handle
  /-- The main loop comes out of a state other than JOIN. -/
  | transition (nextState : CWStateTransition)
  | enter (memory : Bool)
  /-- The next call of the attempt. -/
  | call (succeeds : Bool)
  /-- The timer is removed after the response has been saved. -/
  | remove
  | complete

/-- `none` where the step is not possible. -/
def JoinEvent.exec (settings : JoinSettings) (s : JoinState) : JoinEvent → Option JoinState
  | .library (.add sec usec hndlr) =>
      if some .cwWTPWaitJoinExpired ≠ hndlr then s.library (.add sec usec hndlr) else none
  | .library .start => if s.expiring then none else s.library .start
  | .library .finish => if s.expiring then none else s.library .finish
  | .library event => s.library event
  | .expire => if s.expiring then s.expire.library .start else none
  | .handle => if s.expiring then s.cwWTPWaitJoinExpired.library .finish else none
  | .transition nextState =>
      if s.point = .outside ∧ nextState ∈ s.nextState.returned then
        some { s with nextState := nextState }
      else none
  | .enter memory =>
      if s.point = .outside ∧ s.nextState = .enterJoin then some (s.enter settings memory) else none
  | .call succeeds =>
      match s.point with
      | .outside | .saved | .removed => none
      | .timer => some (s.addTimer succeeds)
      | .request => some (s.request succeeds)
      | _ => some (s.call settings succeeds)
  | .remove => if s.point = .saved then some { s.stopTimer with point := .removed } else none
  | .complete => if s.point = .removed then some s.complete else none

def JoinStep (settings : JoinSettings) (s : JoinState) (event : JoinEvent) (s' : JoinState) : Prop :=
  event.exec settings s = some s'

/-! ## What is asked of the attempts -/

namespace JoinState

/-- A wait-join timer is only armed during the attempt that started it. -/
def Unleaked (s : JoinState) : Prop :=
  ∀ timer ∈ s.timers.armed, IsWaitJoin timer →
    s.point ≠ .outside ∧ s.point ≠ .timer ∧ (timer.1 : Int) = s.waitJoinTimer

/-- An attempt whose response was saved in time enters CONFIGURE. -/
def Enters (s s' : JoinState) : JoinEvent → Prop
  | .complete => s.inTime = true → s'.nextState = .enterConfigure
  | _ => True

/-- Whatever state a step leads to. -/
def StaysIndependent (settings : JoinSettings) (s : JoinState) (event : JoinEvent) : Prop :=
  ∀ s', JoinStep settings s event s' → s'.Unleaked ∧ s.Enters s' event

/-- A wait-join timer has been taken off the queue and its handler is about to be called. -/
def Expires (s : JoinState) : Prop := ∃ timer ∈ s.timers.taken, IsWaitJoin timer

/-- A wait-join timer is armed. -/
def Armed (s : JoinState) : Prop := ∃ timer ∈ s.timers.armed, IsWaitJoin timer

/-- The steps that keep the attempts apart.  No way out that does not stop the timer is taken while
    it is armed, none is taken in the moment before its handler is called, and no wait-join timer
    has expired before an attempt whose response was saved in time is completed. -/
def Apart (s : JoinState) : JoinEvent → Prop
  | .call false =>
      match s.point with
      | .outside | .timer | .saved | .removed => True
      | .dataSocket | .receiveDataFrame => ¬ s.Armed
      | _ => ¬ s.Expires
  | .complete => s.point = .removed → ¬ s.Expires ∧ (s.inTime = true → s.lapsed = false)
  | _ => True

end JoinState

end WlanController.WTP
