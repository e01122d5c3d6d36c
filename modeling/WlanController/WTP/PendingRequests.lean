import WlanController.Foundation.Run
import WlanController.Timers.ArmedTimers
import Mathlib.Logic.Function.Basic

/-!
# Pending requests of the WTP

A request of the WTP that waits for its response is kept in a box, with its fragments and with a
timer that is to send them again.  The handler of the timer is told the box by an integer on the
heap, to which the box and the timer both point.

The boxes share the timers with the rest of the WTP: the timer of the echo request is restarted
with every message that is received, and other subsystems add and remove timers of their own.
-/

namespace WlanController.WTP

open Timers

abbrev maxPendingRequestMsgs : Nat := 15

def unusedMsgType : UInt8 := 0

abbrev PendingIndex := Fin maxPendingRequestMsgs

abbrev Fragment := List UInt8

/-- The functions that timers are set to call. -/
inductive TimerHandler where
  | cwWTPRetransmitTimerExpiredHandler
  | cwWTPEchoRequestTimerExpiredHandler
  /-- Any other, of another subsystem. -/
  | other (number : Nat)
  deriving DecidableEq

/-- A handler with its argument, which is `NULL` or an address. -/
structure TimerCall where
  timer_hdl : TimerHandler
  timer_arg : Option Nat
  deriving DecidableEq

structure CWPendingRequestMessage where
  msgType : UInt8
  seqNum : UInt8
  timer_sec : Int
  timer_hdl : Option TimerHandler
  timer_arg : Option Nat
  timer : Int
  retransmission : Int
  /-- `none` for `NULL`. -/
  msgElems : Option (List Fragment)
  fragmentsNum : Nat

/-- A box of the array as it is before the program begins. -/
def CWPendingRequestMessage.zero : CWPendingRequestMessage where
  msgType := unusedMsgType
  seqNum := 0
  timer_sec := 0
  timer_hdl := none
  timer_arg := none
  timer := 0
  retransmission := 0
  msgElems := none
  fragmentsNum := 0

/-- A call of `CWWTPCheckForWTPEventRequest` that has sent its request and is about to update the
    box that it has found. -/
structure PendingCaller where
  pendingReqIndex : Nat
  seqNum : Nat
  messages : List Fragment

structure PendingState where
  timers : TimerState TimerCall
  gPendingRequestMsgs : PendingIndex → CWPendingRequestMessage
  /-- The integers that have been allocated, by address; `none` is `-1`. -/
  ints : Nat → Option (Option PendingIndex)
  /-- The fragments of requests that were sent. -/
  sent : List Fragment
  callers : List PendingCaller
  gCWEchoRequestTimerID : Int

/-- Before the first timer and the first request. -/
def PendingState.initial (now : Nat) : PendingState where
  timers := timerInit now
  gPendingRequestMsgs := fun _ => .zero
  ints := fun _ => none
  sent := []
  callers := []
  gCWEchoRequestTimerID := 0

namespace PendingState

def Occupied (s : PendingState) (k : PendingIndex) : Prop :=
  (s.gPendingRequestMsgs k).msgType ≠ unusedMsgType

instance (s : PendingState) (k : PendingIndex) : Decidable (s.Occupied k) :=
  inferInstanceAs (Decidable (_ ≠ _))

def setBox (s : PendingState) (k : PendingIndex) (box : CWPendingRequestMessage) : PendingState :=
  { s with gPendingRequestMsgs := Function.update s.gPendingRequestMsgs k box }

/-- `CW_FREE_OBJECT` of an integer: `none` where it has been freed before. -/
def free (s : PendingState) (timer_arg : Option Nat) : Option PendingState :=
  match timer_arg with
  | none => some s
  | some address =>
      if (s.ints address).isSome then
        some { s with ints := Function.update s.ints address none }
      else none

/-- The handler and its argument, unless there is no memory for a timer. -/
def call (timer_hdl : Option TimerHandler) (timer_arg : Option Nat) (allocated : Bool) :
    Option TimerCall :=
  if allocated then timer_hdl.map fun timer_hdl => { timer_hdl, timer_arg } else none

/-! ## The timer of the echo request -/

def cwStopEchoRequestsTimer (s : PendingState) : PendingState :=
  { s with timers := timerRem s.gCWEchoRequestTimerID s.timers }

def cwStartEchoRequestTimer (gEchoInterval : Int) (allocated : Bool) (s : PendingState) :
    Bool × PendingState :=
  let timer := timerAdd gEchoInterval 0
    (call (some .cwWTPEchoRequestTimerExpiredHandler) none allocated) s.timers
  (timer.1 != -1, { s with timers := timer.2, gCWEchoRequestTimerID := timer.1 })

def cwResetEchoRequestRetransmit (gEchoInterval : Int) (allocated : Bool) (s : PendingState) :
    Bool × PendingState :=
  cwStartEchoRequestTimer gEchoInterval allocated s.cwStopEchoRequestsTimer

/-! ## The boxes -/

/-- All but the identifier of the timer is cleared.  The loop over the fragments reads through
    `msgElems`. -/
def cwResetPendingMsgBox (k : PendingIndex) (s : PendingState) : Option PendingState :=
  let box := s.gPendingRequestMsgs k
  if box.msgElems.isNone ∧ 0 < box.fragmentsNum then none
  else
    (s.free box.timer_arg).map fun s =>
      { s.setBox k { CWPendingRequestMessage.zero with timer := box.timer } with
        timers := timerRem box.timer s.timers }

/-- The box that `CWFindFreePendingMsgBox` resets and returns. -/
def firstFree (s : PendingState) : Option PendingIndex :=
  Fin.find? fun k => (s.gPendingRequestMsgs k).msgType == unusedMsgType

/-- The network takes so many fragments, one after another, before one fails. -/
def cwSendPendingRequestMessage (messages : List Fragment) (delivered : Nat) (s : PendingState) :
    Option (Option PendingIndex × PendingState) :=
  match s.firstFree with
  | none => some (none, s)
  | some k =>
      (cwResetPendingMsgBox k s).map fun s =>
        let s := { s with sent := s.sent ++ messages.take delivered }
        if delivered < messages.length then (none, s) else (some k, s)

def cwUpdatePendingMsgBox (k : PendingIndex) (msgType : UInt8) (seqNum : Nat) (timer_sec : Int)
    (timer_arg : Option Nat) (timer_hdl : TimerHandler) (retransmission : Int)
    (msgElems : List Fragment) (allocated : Bool) (s : PendingState) : Bool × PendingState :=
  if s.Occupied k then (true, s)
  else
    let timer := timerAdd timer_sec 0 (call (some timer_hdl) timer_arg allocated) s.timers
    let box : CWPendingRequestMessage :=
      { msgType, seqNum := .ofNat seqNum, timer_sec, timer_hdl := some timer_hdl, timer_arg,
        timer := timer.1, retransmission, msgElems := some msgElems,
        fragmentsNum := msgElems.length }
    -- any identifier but zero is taken for a failure
    (timer.1 == 0, { s.setBox k box with timers := timer.2 })

/-- The first box of this type and sequence number. -/
def pendingBox (msgType seqNum : Nat) (s : PendingState) : Option PendingIndex :=
  Fin.find? fun k => (s.gPendingRequestMsgs k).seqNum.toNat == seqNum &&
    (s.gPendingRequestMsgs k).msgType.toNat == msgType

def cwFindPendingRequestMsgsBox (msgType seqNum : Nat) (s : PendingState) :
    Option PendingIndex × PendingState :=
  match s.pendingBox msgType seqNum with
  | none => (none, s)
  | some k => (some k, { s with timers := timerRem (s.gPendingRequestMsgs k).timer s.timers })

def cwMsgTypeValueWTPEventResponse : Nat := 10
def cwMsgTypeValueChangeStateEventResponse : Nat := 12
def cwMsgTypeValueDataTransferResponse : Nat := 22

/-- The responses that the run state knows. -/
def IsResponse (msgType : Nat) : Prop :=
  msgType = cwMsgTypeValueChangeStateEventResponse ∨ msgType = cwMsgTypeValueWTPEventResponse ∨
    msgType = cwMsgTypeValueDataTransferResponse

instance (msgType : Nat) : Decidable (IsResponse msgType) := inferInstanceAs (Decidable (_ ∨ _))

/-- What a message does to the boxes and the timer of the echo request.  Whatever its type is, it
    restarts that timer. -/
def cwWTPManageGenericRunMessage (messageTypeValue seqNum : Nat) (gEchoInterval : Int)
    (allocated : Bool) (s : PendingState) : Option PendingState :=
  match cwFindPendingRequestMsgsBox messageTypeValue seqNum s with
  | (none, s) => some (cwResetEchoRequestRetransmit gEchoInterval allocated s).2
  | (some pendingMsgIndex, s) =>
      let restarted := cwResetEchoRequestRetransmit gEchoInterval allocated s
      if restarted.1 ∧ IsResponse messageTypeValue then
        cwResetPendingMsgBox pendingMsgIndex restarted.2
      else some restarted.2

def cwWTPRetransmitTimerExpiredHandler (gCWMaxRetransmit : Int) (delivered : Nat)
    (allocated : Bool) (hdl_arg : Option Nat) (s : PendingState) : Option PendingState :=
  match hdl_arg.bind s.ints with
  | some (some index) =>
      let box := s.gPendingRequestMsgs index
      if box.retransmission = gCWMaxRetransmit then some s
      else
        match box.msgElems with
        | none => if box.fragmentsNum = 0 then some s else none
        | some msgElems =>
            let s := { s with sent := s.sent ++ msgElems.take delivered }
            if delivered < msgElems.length then
              (s.setBox index { box with msgElems := none }).free hdl_arg
            else
              let timer := timerAdd box.timer_sec 0 (call box.timer_hdl box.timer_arg allocated)
                s.timers
              let box := { box with retransmission := box.retransmission + 1, timer := timer.1 }
              PendingState.free { s.setBox index box with timers := timer.2 } hdl_arg
  -- `NULL`, freed, or `-1`
  | _ => none

/-! ## The calls of `CWWTPCheckForWTPEventRequest` -/

/-- From the allocation of the integer at an address that is not in use until the request is sent.
    If that fails the integer stays allocated. -/
def beginRequest (address seqNum : Nat) (messages : List Fragment) (delivered : Nat)
    (s : PendingState) : Option PendingState :=
  if (s.ints address).isSome then none
  else
    (cwSendPendingRequestMessage messages delivered s).map fun sent =>
      let s := { sent.2 with ints := Function.update sent.2.ints address (some sent.1) }
      if sent.1.isNone then s
      else { s with callers := ⟨address, seqNum, messages⟩ :: s.callers }

/-- The update of the box, with what is returned. -/
def updateRequest (caller : PendingCaller) (msgType : UInt8) (timer_sec retransmission : Int)
    (allocated : Bool) (s : PendingState) : Option (Bool × PendingState) :=
  match s.ints caller.pendingReqIndex with
  | some (some k) =>
      some (cwUpdatePendingMsgBox k msgType caller.seqNum timer_sec caller.pendingReqIndex
        .cwWTPRetransmitTimerExpiredHandler retransmission caller.messages allocated s)
  | _ => none

end PendingState

/-! ## Steps -/

inductive PendingEvent where
  /-- A step of the timers, or another subsystem that adds or removes one. -/
  | library (event : Timers.Event TimerCall)
  | startEcho (gEchoInterval : Int) (allocated : Bool)
  | send (address seqNum : Nat) (messages : List Fragment) (delivered : Nat)
  /-- By the number of the caller. -/
  | update (i : Nat) (msgType : UInt8) (timer_sec retransmission : Int) (allocated : Bool)
  | receive (messageTypeValue seqNum : Nat) (gEchoInterval : Int) (allocated : Bool)
  | reset (k : PendingIndex)
  /-- The call of the handler of a box's timer. -/
  | expire (delivered : Nat) (allocated : Bool)

/-- A handler that the boxes and the echo request do not set. -/
def TimerCall.IsOther (call : TimerCall) : Prop :=
  call.timer_hdl ≠ .cwWTPRetransmitTimerExpiredHandler ∧
    call.timer_hdl ≠ .cwWTPEchoRequestTimerExpiredHandler

instance (call : TimerCall) : Decidable call.IsOther := inferInstanceAs (Decidable (_ ∧ _))

/-- The ticker is about to call the handler of a box's timer. -/
def PendingState.expiring (s : PendingState) : Option (Timer TimerCall) :=
  match s.timers.ticker with
  | .chosen timer =>
      if timer.handler.timer_hdl = .cwWTPRetransmitTimerExpiredHandler then some timer else none
  | _ => none

/-- `gCWMaxRetransmit` is a setting of the WTP. -/
def PendingEvent.exec (gCWMaxRetransmit : Int) (s : PendingState) :
    PendingEvent → Option PendingState
  | .library (.add sec usec hndlr) =>
      if ∀ call ∈ hndlr, call.IsOther then
        some { s with timers := (timerAdd sec usec hndlr s.timers).2 }
      else none
  | .library .start =>
      if s.expiring.isSome then none
      else (Timers.exec .start s.timers).map fun timers => { s with timers := timers }
  | .library event => (Timers.exec event s.timers).map fun timers => { s with timers := timers }
  | .startEcho gEchoInterval allocated =>
      some (s.cwStartEchoRequestTimer gEchoInterval allocated).2
  | .send address seqNum messages delivered => s.beginRequest address seqNum messages delivered
  | .update i msgType timer_sec retransmission allocated =>
      match s.callers[i]? with
      | none => none
      | some caller =>
          -- no caller passes the type of a free box
          if msgType = unusedMsgType then none
          else
            (s.updateRequest caller msgType timer_sec retransmission allocated).map fun updated =>
              { updated.2 with callers := s.callers.eraseIdx i }
  | .receive messageTypeValue seqNum gEchoInterval allocated =>
      s.cwWTPManageGenericRunMessage messageTypeValue seqNum gEchoInterval allocated
  | .reset k => s.cwResetPendingMsgBox k
  | .expire delivered allocated =>
      match s.expiring with
      | none => none
      | some timer =>
          let s := { s with timers := { s.timers with
            ticker := .running timer, started := s.timers.started ++ [(timer, s.timers.now)] } }
          s.cwWTPRetransmitTimerExpiredHandler gCWMaxRetransmit delivered allocated
            timer.handler.timer_arg

def PendingStep (gCWMaxRetransmit : Int) (s : PendingState) (event : PendingEvent)
    (s' : PendingState) : Prop :=
  event.exec gCWMaxRetransmit s = some s'

/-! ## What is asked of the boxes -/

namespace PendingState

/-- A timer is to send the fragments of this box again. -/
def Names (s : PendingState) (k : PendingIndex) (timer : Nat × TimerCall) : Prop :=
  timer.2.timer_hdl = .cwWTPRetransmitTimerExpiredHandler ∧
    timer.2.timer_arg.bind s.ints = some (some k)

/-- An occupied box has one armed timer and a free box none, and no armed timer of a box has an
    argument that was freed. -/
structure BoxesKept (s : PendingState) : Prop where
  occupied : ∀ k, s.Occupied k → ∃! timer, timer ∈ s.timers.armed ∧ s.Names k timer
  free : ∀ k, ¬ s.Occupied k → ∀ timer ∈ s.timers.armed, ¬ s.Names k timer
  live : ∀ timer ∈ s.timers.armed,
    timer.2.timer_hdl = .cwWTPRetransmitTimerExpiredHandler → ∃ k, s.Names k timer

/-- A box waits for this response. -/
def Awaits (s : PendingState) (k : PendingIndex) (msgType seqNum : Nat) : Prop :=
  s.Occupied k ∧ (s.gPendingRequestMsgs k).seqNum.toNat = seqNum ∧
    (s.gPendingRequestMsgs k).msgType.toNat = msgType

/-- What a step is for, beside keeping the boxes. -/
def Does (gCWMaxRetransmit : Int) (s : PendingState) (s' : PendingState) : PendingEvent → Prop
  | .send .. => ∀ timer ∈ s.timers.armed, timer ∈ s'.timers.armed
  | .update i msgType timer_sec retransmission allocated => ∀ caller ∈ s.callers[i]?, ∀ updated ∈
      s.updateRequest caller msgType timer_sec retransmission allocated,
      updated.1 = true ↔ ∃ timer ∈ s'.timers.armed, timer ∉ s.timers.armed
  | .receive messageTypeValue seqNum _ _ =>
      (∀ k, s.Awaits k messageTypeValue seqNum → ¬ s'.Occupied k) ∧
      (∀ k, ¬ s.Awaits k messageTypeValue seqNum →
        s'.gPendingRequestMsgs k = s.gPendingRequestMsgs k) ∧
      ∀ timer ∈ s.timers.armed, (timer.1 : Int) ≠ s.gCWEchoRequestTimerID →
        (∀ k, s.Awaits k messageTypeValue seqNum → ¬ s.Names k timer) → timer ∈ s'.timers.armed
  | .reset k => ∀ timer ∈ s.timers.armed, ¬ s.Names k timer → timer ∈ s'.timers.armed
  | .expire delivered _ => ∀ timer ∈ s.expiring, ∀ k, s.Names k timer.call →
      let box := s.gPendingRequestMsgs k
      if box.retransmission = gCWMaxRetransmit then ¬ s'.Occupied k
      else s'.sent = s.sent ++ (box.msgElems.getD []).take delivered
  | _ => True

/-- Whatever state a step leads to. -/
def StaysKept (gCWMaxRetransmit : Int) (s : PendingState) (event : PendingEvent) : Prop :=
  ∀ s', PendingStep gCWMaxRetransmit s event s' → s'.BoxesKept ∧ s.Does gCWMaxRetransmit s' event

end PendingState

end WlanController.WTP
