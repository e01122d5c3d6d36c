import Mathlib.Data.List.Nodup
import WlanController.Foundation.Run

/-!
# The session table of the access controller

The receiving thread looks up the session of every packet in `gWTPs`.  For a packet of an
unknown sender it reserves a slot, creates a thread for it and goes on receiving.  The thread
counts itself in `gActiveWTPs` when it gets to run; at its end it first leaves the count and
later releases the slot.  Each of these is one step here, as no lock is held in between.
-/

namespace WlanController.Admission

/-- Of the address families, the comparisons know one in this build. -/
inductive CWNetworkLev4Address where
  | unspec
  | inet (sinAddr : UInt32) (sinPort : UInt16)
  | other
  deriving DecidableEq, Repr

open CWNetworkLev4Address in
/-- The result is zero or not. -/
def sockCmpAddr : CWNetworkLev4Address → CWNetworkLev4Address → Int
  | inet sinAddr _, inet sinAddr' _ => if sinAddr = sinAddr' then 0 else 1
  | _, _ => -1

open CWNetworkLev4Address in
def sockCmpPort : CWNetworkLev4Address → CWNetworkLev4Address → Int
  | inet _ sinPort, inet _ sinPort' => if sinPort = sinPort' then 0 else 1
  | _, _ => -1

def wtpSessionIDLength : Nat := 16

structure SessionID where
  bytes : List UInt8
  length_bytes : bytes.length = wtpSessionIDLength
  deriving DecidableEq

/-- What the lookup reads of an entry of `gWTPs`. -/
structure SessionSlot where
  isNotFree : Bool
  address : CWNetworkLev4Address
  dataaddress : CWNetworkLev4Address
  sessionID : Option SessionID

/-- Where a packet has come in, and what a keep-alive carries. -/
inductive Channel where
  | control
  | data
  | keepAlive (sessionID : SessionID)

structure IncomingPacket where
  sender : CWNetworkLev4Address
  channel : Channel
  /-- it parses as a Discovery Request -/
  discoveryRequest : Bool

/-! ## The lookup -/

/-- Both comparisons find no difference. -/
def sameAddress (address1 address2 : CWNetworkLev4Address) : Bool :=
  sockCmpAddr address1 address2 = 0 && sockCmpPort address1 address2 = 0

/-- The condition on an occupied slot: `none` where `memcmp` gets `NULL`. -/
def slotMatches (slot : SessionSlot) (packet : IncomingPacket) : Option Bool :=
  match packet.channel with
  | .control => some (sameAddress packet.sender slot.address)
  | .data => some (sameAddress packet.sender slot.dataaddress)
  | .keepAlive sessionID =>
      slot.sessionID.map fun stored =>
        stored == sessionID || sameAddress packet.sender slot.dataaddress

inductive Lookup where
  | found (i : Nat)
  | notFound
  | crashed
  deriving DecidableEq, Repr

def lookupIn (gWTPs : Nat → SessionSlot) (packet : IncomingPacket) : List Nat → Lookup
  | [] => .notFound
  | i :: rest =>
      if (gWTPs i).isNotFree then
        match slotMatches (gWTPs i) packet with
        | none => .crashed
        | some true => .found i
        | some false => lookupIn gWTPs packet rest
      else lookupIn gWTPs packet rest

def cwWTPByAddress (gMaxWTPs : Nat) (gWTPs : Nat → SessionSlot) (packet : IncomingPacket) : Lookup :=
  lookupIn gWTPs packet (List.range gMaxWTPs)

/-! ## Slots and threads -/

/-- How far the thread of a session has come. -/
inductive Phase where
  /-- created, not yet counted -/
  | starting
  | running
  /-- no longer counted, the slot not yet released -/
  | closing
  deriving DecidableEq, Repr

structure SessionThread where
  index : Nat
  phase : Phase
  deriving DecidableEq, Repr

structure Controller where
  gMaxWTPs : Nat
  gWTPs : Nat → SessionSlot
  gActiveWTPs : Int
  /-- the slot that the receiving thread is creating a session for -/
  reserved : Option Nat
  threads : List SessionThread

/-- `for(i = 0; i < gMaxWTPs && gWTPs[i].isNotFree; i++);`, with `remaining` turns left. -/
def firstFree (gWTPs : Nat → SessionSlot) : (remaining i : Nat) → Nat
  | 0, i => i
  | remaining + 1, i => if (gWTPs i).isNotFree then firstFree gWTPs remaining (i + 1) else i

/-- An occupied slot of a session of which nothing else is known. -/
def takeSlot (sender : CWNetworkLev4Address) (slot : SessionSlot) : SessionSlot :=
  { slot with isNotFree := true, address := sender, dataaddress := .unspec }

def bindDataAddress (sender : CWNetworkLev4Address) (slot : SessionSlot) : SessionSlot :=
  if slot.dataaddress = .unspec then { slot with dataaddress := sender } else slot

def Controller.modifySlot (c : Controller) (i : Nat) (change : SessionSlot → SessionSlot) :
    Controller :=
  { c with gWTPs := Function.update c.gWTPs i (change (c.gWTPs i)) }

/-- The packet of an unknown sender gets a slot. -/
def Controller.reserve (c : Controller) (packet : IncomingPacket) : Controller :=
  let i := firstFree c.gWTPs c.gMaxWTPs 0
  { c.modifySlot i (takeSlot packet.sender) with reserved := some i }

/-- `CWACManageIncomingPacket` up to the reservation of a slot. -/
def cwACManageIncomingPacket (c : Controller) (packet : IncomingPacket) : Option Controller :=
  match cwWTPByAddress c.gMaxWTPs c.gWTPs packet with
  | .crashed => none
  | .found i =>
      match packet.channel with
      | .control => some c
      | .data | .keepAlive _ => some (c.modifySlot i (bindDataAddress packet.sender))
  | .notFound =>
      if c.gActiveWTPs ≥ c.gMaxWTPs then some c
      else if packet.discoveryRequest then some c
      else some (c.reserve packet)

/-- How the rest of the function ends for a reserved slot. -/
inductive Creation where
  | succeeded
  /-- no list or no thread could be created, and the slot is released -/
  | failed
  /-- no memory for the argument of the thread: the function returns at once -/
  | outOfMemory
  deriving DecidableEq, Repr

inductive Event where
  | incoming (packet : IncomingPacket)
  | create (creation : Creation)
  /-- thread `k` begins; `specific` is whether it can store its index -/
  | start (k : Nat) (specific : Bool)
  /-- thread `k` saves the session ID of a Join Request -/
  | saveSessionID (k : Nat) (sessionID : SessionID)
  /-- the first and the second half of `_CWCloseThread` -/
  | leave (k : Nat)
  | release (k : Nat)

/-- Thread `k`, if it is in this phase. -/
def Controller.threadIn (c : Controller) (k : Nat) (phase : Phase) : Option Nat :=
  match c.threads[k]? with
  | none => none
  | some thread => if thread.phase = phase then some thread.index else none

def Controller.setPhase (c : Controller) (k i : Nat) (phase : Phase) : Controller :=
  { c with threads := c.threads.set k ⟨i, phase⟩ }

/-- A step of the receiving thread or of a session thread.  There is none where the process
    crashes or the thread is not there to take it. -/
def Event.exec (c : Controller) : Event → Option Controller
  | .incoming packet => if c.reserved.isSome then none else cwACManageIncomingPacket c packet
  | .create creation =>
      c.reserved.map fun i =>
        let done := { c with reserved := none }
        match creation with
        | .succeeded => { done with threads := done.threads ++ [⟨i, .starting⟩] }
        | .failed => done.modifySlot i fun slot => { slot with isNotFree := false }
        | .outOfMemory => done
  | .start k specific =>
      (c.threadIn k .starting).map fun i =>
        if specific then
          { (c.setPhase k i .running).modifySlot i fun slot => { slot with sessionID := none } with
            gActiveWTPs := c.gActiveWTPs + 1 }
        else { c.setPhase k i .closing with gActiveWTPs := c.gActiveWTPs - 1 }
  | .saveSessionID k sessionID =>
      (c.threadIn k .running).map fun i =>
        c.modifySlot i fun slot => { slot with sessionID := some sessionID }
  | .leave k =>
      (c.threadIn k .running).map fun i =>
        { c.setPhase k i .closing with gActiveWTPs := c.gActiveWTPs - 1 }
  | .release k =>
      (c.threadIn k .closing).map fun i =>
        { c.modifySlot i fun slot => { slot with isNotFree := false } with
          threads := c.threads.eraseIdx k }

def Step (c : Controller) (event : Event) (c' : Controller) : Prop := event.exec c = some c'

/-- A controller that has received nothing yet; its global array holds zeros. -/
def Controller.initial (gMaxWTPs : Nat) : Controller where
  gMaxWTPs := gMaxWTPs
  gWTPs := fun _ =>
    { isNotFree := false, address := .unspec, dataaddress := .unspec, sessionID := none }
  gActiveWTPs := 0
  reserved := none
  threads := []

/-- The slots that are assigned, one for each reservation and each thread. -/
def Controller.assigned (c : Controller) : List Nat := c.reserved.toList ++ c.threads.map (·.index)

/-! ## Frame lemmas -/

section Frame

variable (c : Controller) (i j : Nat) (change : SessionSlot → SessionSlot)

@[simp] theorem modifySlot_gMaxWTPs : (c.modifySlot i change).gMaxWTPs = c.gMaxWTPs := rfl

@[simp] theorem modifySlot_gActiveWTPs : (c.modifySlot i change).gActiveWTPs = c.gActiveWTPs := rfl

@[simp] theorem modifySlot_reserved : (c.modifySlot i change).reserved = c.reserved := rfl

@[simp] theorem modifySlot_threads : (c.modifySlot i change).threads = c.threads := rfl

@[simp] theorem modifySlot_self : (c.modifySlot i change).gWTPs i = change (c.gWTPs i) := by
  simp [Controller.modifySlot]

theorem modifySlot_of_ne {i j : Nat} (different : j ≠ i) :
    (c.modifySlot i change).gWTPs j = c.gWTPs j := by
  simp [Controller.modifySlot, Function.update_of_ne different]

theorem modifySlot_apply :
    (c.modifySlot i change).gWTPs j = if j = i then change (c.gWTPs j) else c.gWTPs j := by
  by_cases same : j = i
  · rw [if_pos same, same, modifySlot_self]
  · rw [if_neg same, modifySlot_of_ne c change same]

variable (packet : IncomingPacket)

@[simp] theorem reserve_gMaxWTPs : (c.reserve packet).gMaxWTPs = c.gMaxWTPs := rfl

@[simp] theorem reserve_threads : (c.reserve packet).threads = c.threads := rfl

theorem reserve_apply : (c.reserve packet).gWTPs j =
    if j = firstFree c.gWTPs c.gMaxWTPs 0 then takeSlot packet.sender (c.gWTPs j) else c.gWTPs j :=
  modifySlot_apply c _ j (takeSlot packet.sender)

end Frame

variable {c c' : Controller} {gWTPs : Nat → SessionSlot} {packet : IncomingPacket}

theorem threadIn_eq_some_iff {k i : Nat} {phase : Phase} :
    c.threadIn k phase = some i ↔ c.threads[k]? = some ⟨i, phase⟩ := by
  rw [Controller.threadIn]
  cases c.threads[k]? with
  | none => simp
  | some thread =>
    obtain ⟨index, phase'⟩ := thread
    simp only [Option.some.injEq, SessionThread.mk.injEq]
    split
    next same => simp [same]
    next different => simp [different]

/-! ## What the steps do -/

theorem Event.exec_incoming (step : Event.exec c (.incoming packet) = some c') :
    c.reserved = none ∧ cwACManageIncomingPacket c packet = some c' := by
  rw [Event.exec] at step
  split at step
  next => cases step
  next unreserved =>
    rw [Bool.not_eq_true, Option.isSome_eq_false_iff, Option.isNone_iff_eq_none] at unreserved
    exact ⟨unreserved, step⟩

/-- The packet gets as far as the search of a free slot. -/
def Reserves (c : Controller) (packet : IncomingPacket) : Prop :=
  cwWTPByAddress c.gMaxWTPs c.gWTPs packet = .notFound ∧ c.gActiveWTPs < c.gMaxWTPs ∧
    packet.discoveryRequest = false

/-- A packet changes nothing, gives its session a data address or starts a session. -/
theorem cwACManageIncomingPacket_cases (managed : cwACManageIncomingPacket c packet = some c') :
    c' = c ∨
    (∃ i, cwWTPByAddress c.gMaxWTPs c.gWTPs packet = .found i ∧ packet.channel ≠ .control ∧
      c' = c.modifySlot i (bindDataAddress packet.sender)) ∨
    (Reserves c packet ∧ c' = c.reserve packet) := by
  rw [cwACManageIncomingPacket] at managed
  cases found : cwWTPByAddress c.gMaxWTPs c.gWTPs packet with
  | crashed => simp [found] at managed
  | found i =>
    rw [found] at managed
    cases channel : packet.channel with
    | control =>
      simp only [channel, Option.some.injEq] at managed
      exact .inl managed.symm
    | data =>
      simp only [channel, Option.some.injEq] at managed
      exact .inr (.inl ⟨i, rfl, Channel.noConfusion, managed.symm⟩)
    | keepAlive sessionID =>
      simp only [channel, Option.some.injEq] at managed
      exact .inr (.inl ⟨i, rfl, Channel.noConfusion, managed.symm⟩)
  | notFound =>
    simp only [found] at managed
    split at managed
    next => cases managed; exact .inl rfl
    next room =>
      split at managed
      next => cases managed; exact .inl rfl
      next request =>
        cases managed
        exact .inr (.inr ⟨⟨found, by omega, by simpa using request⟩, rfl⟩)

@[simp] theorem bindDataAddress_isNotFree (sender : CWNetworkLev4Address) (slot : SessionSlot) :
    (bindDataAddress sender slot).isNotFree = slot.isNotFree := by
  rw [bindDataAddress]
  split <;> rfl

theorem threads_split {threads : List SessionThread} {k : Nat} {thread : SessionThread}
    (here : threads[k]? = some thread) :
    ∃ before after, threads = before ++ thread :: after ∧
      (∀ thread', threads.set k thread' = before ++ thread' :: after) ∧
      threads.eraseIdx k = before ++ after := by
  obtain ⟨inside, same⟩ := List.getElem?_eq_some_iff.mp here
  refine ⟨threads.take k, threads.drop (k + 1), ?_, ?_, ?_⟩
  · rw [← same, List.getElem_cons_drop, List.take_append_drop]
  · intro thread'
    exact List.set_eq_take_append_cons_drop ▸ if_pos inside
  · exact List.eraseIdx_eq_take_drop_succ threads k

theorem assigned_reserve (unreserved : c.reserved = none) (packet : IncomingPacket) :
    (c.reserve packet).assigned = firstFree c.gWTPs c.gMaxWTPs 0 :: c.assigned := by
  simp [Controller.reserve, Controller.assigned, unreserved]

/-- A change of phase leaves the assignment as it is. -/
theorem assigned_setPhase {k i : Nat} {phase : Phase} (here : c.threadIn k phase = some i)
    (phase' : Phase) : (c.setPhase k i phase').assigned = c.assigned := by
  obtain ⟨before, after, threads, set, -⟩ := threads_split (threadIn_eq_some_iff.mp here)
  simp only [Controller.assigned, Controller.setPhase, set]
  simp only [threads, List.map_append, List.map_cons]

/-- The thread that goes takes its slot out of the assignment. -/
theorem assigned_eraseIdx {k i : Nat} {phase : Phase} (here : c.threadIn k phase = some i) :
    c.assigned.Perm
      (i :: { c with threads := c.threads.eraseIdx k : Controller }.assigned) := by
  obtain ⟨before, after, threads, -, erased⟩ := threads_split (threadIn_eq_some_iff.mp here)
  simp only [Controller.assigned, erased]
  simp only [threads, List.map_append, List.map_cons, ← List.append_assoc]
  exact List.perm_middle

/-- A reservation that a thread is created for. -/
theorem assigned_append {i : Nat} (reserved : c.reserved = some i) :
    ({ c with reserved := none, threads := c.threads ++ [⟨i, .starting⟩] } : Controller).assigned.Perm
      c.assigned := by
  simp only [Controller.assigned, reserved, Option.toList_none, Option.toList_some, List.nil_append,
    List.map_append, List.map_cons, List.map_nil, List.singleton_append]
  exact List.perm_append_singleton _ _

/-- Where the loop ends: at the first free slot, or at the end of its range. -/
theorem firstFree_spec (remaining i : Nat) :
    (∀ j, i ≤ j → j < firstFree gWTPs remaining i → (gWTPs j).isNotFree = true) ∧
      (firstFree gWTPs remaining i = i + remaining ∨
        firstFree gWTPs remaining i < i + remaining ∧
          (gWTPs (firstFree gWTPs remaining i)).isNotFree = false) := by
  induction remaining generalizing i with
  | zero =>
    refine ⟨fun j low high => ?_, .inl rfl⟩
    rw [firstFree] at high
    omega
  | succ remaining inductionHypothesis =>
    rw [firstFree]
    cases taken : (gWTPs i).isNotFree with
    | false => exact ⟨fun j low high => by simp at high; omega, .inr ⟨by simp, by simp [taken]⟩⟩
    | true =>
      obtain ⟨before, stop⟩ := inductionHypothesis (i + 1)
      simp only [if_true]
      constructor
      · intro j low high
        obtain same | later := Nat.eq_or_lt_of_le low
        · rw [← same, taken]
        · exact before j later high
      · rw [Nat.add_assoc, Nat.add_comm 1] at stop
        exact stop

end WlanController.Admission
