import WlanController.Common.EthAddr

/-!
# A session of the access controller

One entry of `gWTPs` together with the thread that serves it, as the Makefile builds it:
without DTLS.  A step of the thread may end it, so the functions of the source are
programs over the session that return or end.
-/

namespace WlanController.Sessions

inductive CWErrorCode
  | success
  | outOfMemory
  | wrongArg
  | interrupted
  | needResource
  | comunicating
  | creating
  | general
  | operationAborted
  | sending
  | receiving
  | invalidFormat
  | timeExpired
  | none
  deriving DecidableEq

/-- The states that a session goes through. -/
inductive CWStateTransition
  | join
  | configure
  | dataCheck
  | run
  deriving DecidableEq

/-- A message of `messages`, as it is handed to the socket. -/
abbrev Packet := List UInt8

/-- The quality of service of a profile. -/
structure WTPQosValues where
  cwMin : Int
  cwMax : Int
  AIFS : Int
  deriving DecidableEq

/-- What the WTP has confirmed about its configuration. -/
structure Configuration where
  /-- the BSSID of each radio and WLAN that is in access point mode -/
  BSSID : Int → Int → Option EthAddr
  /-- the values of the binding, and those of the command in progress -/
  bindingValues : List WTPQosValues
  qosValues : Option (List WTPQosValues)

structure WTPManager where
  currentState : CWStateTransition
  isRequestClose : Bool
  /-- the error of the thread, if it has raised one -/
  lastError : Option CWErrorCode
  /-- whether `currentTimer` runs, and whether the thread blocks its signal -/
  currentTimer : Bool
  criticalBlocked : Bool
  messages : Option (List Packet)
  messagesCount : Nat
  retransmissionCount : Nat
  currentPacketTimer : Bool
  isRetransmitting : Bool
  responseType : Int
  responseSeqNum : Int
  interfaceCommandProgress : Bool
  interfaceResult : Int
  configuration : Configuration
  /-- what has been handed to the socket so far -/
  sent : List Packet

/-- Why the thread no longer runs. -/
inductive Ending
  | closed
  /-- `CWExitThread` alone, which leaves the slot taken -/
  | exited
  /-- `exit` of the whole process -/
  | processExited
  /-- an access through `NULL` or past the end of an array -/
  | crashed
  deriving DecidableEq

abbrev Thread := EStateM Ending WTPManager

/-! ## Errors -/

/-- What a function that is not modelled here returns, with the error it raises. -/
inductive Call
  | succeeds
  | fails (raised : Option CWErrorCode)
  deriving DecidableEq

def raiseError (code : CWErrorCode) : Thread Bool := do
  modify fun s => { s with lastError := some code }
  return false

def call : Call → Thread Bool
  | .succeeds => return true
  | .fails none => return false
  | .fails (some code) => raiseError code

def cwErrorGetLastErrorCode : Thread CWErrorCode := do
  return (← get).lastError.getD .general

def cwErrorHandleLast : Thread Bool := do
  match (← get).lastError with
  | none => throw .processExited
  | some .success => return true
  | some .none => return true
  | some .outOfMemory => throw .exited
  | some _ => return false

def cwErr (arg : Bool) : Thread Bool := if arg then return true else cwErrorHandleLast

/-! ## Timers -/

/-- Cancelling always succeeds. -/
def cancelCurrentTimer : Thread Unit := modify fun s => { s with currentTimer := false }

/-- `added` is whether the timer could be added to the queue. -/
def requestCurrentTimer (added : Bool) : Thread Bool := do
  modify fun s => { s with currentTimer := added }
  return added

/-! ## Sending and retransmitting -/

/-- The messages that a loop up to `messagesCount` reads. -/
def WTPManager.fragments (s : WTPManager) : Option (List Packet) :=
  match s.messages with
  | none => if s.messagesCount = 0 then some [] else none
  | some messages =>
    if s.messagesCount ≤ messages.length then some (messages.take s.messagesCount) else none

def readFragments : Thread (List Packet) := do
  match (← get).fragments with
  | none => throw .crashed
  | some fragments => return fragments

/-- Hand messages to the socket, up to the first that it does not take. -/
def sendEach : List Packet → List Bool → Thread Bool
  | [], _ => return true
  | message :: messages, taken => do
    modify fun s => { s with sent := s.sent ++ [message] }
    if taken.headD true then sendEach messages taken.tail else raiseError .sending

def freeWTPMsgArray : Thread Unit := do
  let _ ← readFragments
  modify fun s => { s with messages := none, messagesCount := 0 }

/-- `taken` says which of the messages the socket takes. -/
def cwACSendFragments (taken : List Bool) : Thread Bool := do
  if (← get).messages.isNone then raiseError .wrongArg
  else
    let messages ← readFragments
    if ← sendEach messages taken then
      freeWTPMsgArray
      return true
    else return false

def cwACResendAcknowledgedPacket (taken : List Bool) (timerAdded : Bool) : Thread Bool := do
  if ← cwACSendFragments taken then
    modify fun s => { s with currentPacketTimer := timerAdded }
    return timerAdded
  else return false

def cwACSendAcknowledgedPacket (msgType seqNum : Int) (taken : List Bool) (timerAdded : Bool) :
    Thread Bool := do
  modify fun s => { s with
    retransmissionCount := 0, isRetransmitting := true, responseType := msgType,
    responseSeqNum := seqNum }
  cwACResendAcknowledgedPacket taken timerAdded

/-- `UNUSED_MSG_TYPE`. -/
def unusedMsgType : Int := 0

def cwACStopRetransmission : Thread Unit := do
  if (← get).isRetransmitting then
    modify fun s => { s with
      isRetransmitting := false, currentPacketTimer := false, responseType := unusedMsgType,
      responseSeqNum := 0 }
    let _ ← readFragments
    -- the count stays as it is
    modify fun s => { s with messages := none }

/-- The end of a session, up to the release of its slot. -/
def cwCloseThread : Thread Unit := do
  cancelCurrentTimer
  cwACStopRetransmission
  if (← get).interfaceCommandProgress then
    modify fun s => { s with interfaceResult := 1, interfaceCommandProgress := false }
  throw .closed

/-- What the thread of a new session makes of the slot it has been given.  The thread
    inherits blocked signals and has raised no error yet. -/
def WTPManager.start (slot : WTPManager) : WTPManager :=
  { slot with
    currentState := .join, isRequestClose := false, lastError := none, currentTimer := true,
    criticalBlocked := true, messages := none, messagesCount := 0, isRetransmitting := false,
    retransmissionCount := 0, interfaceCommandProgress := false
    configuration := { slot.configuration with qosValues := none }, sent := [] }

/-! ## Running programs -/

section Running

variable {α β : Type} (s : WTPManager)

@[simp] theorem pure_run (a : α) : (pure a : Thread α) s = .ok a s := rfl

@[simp] theorem bind_run (x : Thread α) (f : α → Thread β) :
    (x >>= f) s = match x s with
      | .ok a s' => f a s'
      | .error ending s' => .error ending s' := by
  simp only [bind, EStateM.bind]
  cases x s <;> rfl

@[simp] theorem map_run (f : α → β) (x : Thread α) :
    (f <$> x) s = match x s with
      | .ok a s' => .ok (f a) s'
      | .error ending s' => .error ending s' := by
  simp only [Functor.map, EStateM.map]
  cases x s <;> rfl

@[simp] theorem get_run : (get : Thread WTPManager) s = .ok s s := rfl

@[simp] theorem modify_run (f : WTPManager → WTPManager) :
    (modify f : Thread Unit) s = .ok () (f s) := rfl

@[simp] theorem throw_run (ending : Ending) : (throw ending : Thread α) s = .error ending s := rfl

@[simp] theorem ite_run (condition : Prop) [Decidable condition] (x y : Thread α) :
    (if condition then x else y) s = if condition then x s else y s := by
  split <;> rfl

theorem readFragments_run {fragments : List Packet} (readable : s.fragments = some fragments) :
    readFragments s = .ok fragments s := by
  simp [readFragments, readable]

/-- What is handed to a socket that takes messages like this. -/
def attempted : List Packet → List Bool → List Packet
  | [], _ => []
  | message :: messages, taken =>
    message :: if taken.headD true then attempted messages taken.tail else []

def allTaken : List Packet → List Bool → Bool
  | [], _ => true
  | _ :: messages, taken => taken.headD true && allTaken messages taken.tail

theorem attempted_of_allTaken {messages : List Packet} {taken : List Bool}
    (all : allTaken messages taken = true) : attempted messages taken = messages := by
  induction messages generalizing taken with
  | nil => rfl
  | cons message messages inductionHypothesis =>
    rw [allTaken, Bool.and_eq_true] at all
    rw [attempted, if_pos all.1, inductionHypothesis all.2]

/-- The error a send may raise. -/
def sendError (lastError : Option CWErrorCode) (all : Bool) : Option CWErrorCode :=
  if all then lastError else some .sending

theorem sendEach_run (messages : List Packet) (taken : List Bool) :
    sendEach messages taken s = .ok (allTaken messages taken)
      { s with
        sent := s.sent ++ attempted messages taken
        lastError := sendError s.lastError (allTaken messages taken) } := by
  induction messages generalizing s taken with
  | nil => simp [sendEach, allTaken, attempted, sendError]
  | cons message messages inductionHypothesis =>
    simp only [sendEach, allTaken, attempted]
    cases taken.headD true with
    | false => simp [raiseError, sendError]
    | true => simp [inductionHypothesis]

/-- A send that is taken frees the messages, and one that is not leaves them. -/
theorem cwACSendFragments_run {fragments : List Packet} (taken : List Bool)
    (stored : s.messages = some fragments) (counted : s.messagesCount = fragments.length) :
    cwACSendFragments taken s = .ok (allTaken fragments taken)
      { s with
        messages := if allTaken fragments taken then none else some fragments
        messagesCount := if allTaken fragments taken then 0 else fragments.length
        sent := s.sent ++ attempted fragments taken
        lastError := sendError s.lastError (allTaken fragments taken) } := by
  have readable : s.fragments = some fragments := by
    simp [WTPManager.fragments, stored, counted]
  simp only [cwACSendFragments, bind_run, get_run, ite_run, stored, Option.isNone_some,
    readFragments_run s readable, sendEach_run]
  cases all : allTaken fragments taken with
  | false => simp [counted, sendError]
  | true =>
    simp [freeWTPMsgArray, readFragments, WTPManager.fragments, counted, sendError]

theorem cwACStopRetransmission_idle (idle : s.isRetransmitting = false) :
    cwACStopRetransmission s = .ok () s := by
  simp [cwACStopRetransmission, idle]

theorem cwACStopRetransmission_run {fragments : List Packet} (readable : s.fragments = some fragments)
    (retransmitting : s.isRetransmitting = true) :
    cwACStopRetransmission s = .ok ()
      { s with
        isRetransmitting := false, currentPacketTimer := false, responseType := unusedMsgType
        responseSeqNum := 0, messages := none } := by
  simp only [WTPManager.fragments] at readable
  simp [cwACStopRetransmission, readFragments, WTPManager.fragments, readable, retransmitting]

/-- The count is larger than the array that the loop reads. -/
theorem cwACStopRetransmission_crashes (unreadable : s.fragments = none)
    (retransmitting : s.isRetransmitting = true) :
    cwACStopRetransmission s = .error .crashed
      { s with
        isRetransmitting := false, currentPacketTimer := false, responseType := unusedMsgType
        responseSeqNum := 0 } := by
  simp only [WTPManager.fragments] at unreadable
  simp [cwACStopRetransmission, readFragments, WTPManager.fragments, unreadable, retransmitting]

end Running

end WlanController.Sessions
