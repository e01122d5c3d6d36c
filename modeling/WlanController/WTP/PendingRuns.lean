import WlanController.WTP.PendingBoxes
import Mathlib.Data.List.Perm.Basic

/-!
# Runs of the pending requests

A request can be sent and its box updated, a response frees its box, and whatever the handler of a
box's timer does, the box is not kept.  So the boxes are kept along a run exactly if each of its
steps is allowed.
-/

namespace WlanController.WTP

open Timers Run

namespace PendingState

variable {s : PendingState}

/-! ## Sending a request -/

/-- Names do not change where an integer is allocated. -/
theorem names_allocate {address : Nat} (fresh : s.ints address = none)
    {index : Option (Option PendingIndex)} {k : PendingIndex} {timer : Nat × TimerCall}
    (names : s.Names k timer) :
    Names { s with ints := Function.update s.ints address index } k timer := by
  obtain ⟨retransmit, named⟩ := names
  refine ⟨retransmit, ?_⟩
  cases arg : timer.2.timer_arg with
  | none => simp [arg] at named
  | some address' =>
    rw [arg, Option.bind_some] at named
    have different : address' ≠ address := by
      intro same
      rw [same, fresh] at named
      cases named
    rw [Option.bind_some]
    exact (Function.update_of_ne different _ _).trans named

theorem Tidy.allocate (tidy : Tidy s) {address : Nat} (fresh : s.ints address = none)
    (index : Option PendingIndex) :
    Tidy { s with ints := Function.update s.ints address (some index) } := by
  have kept : ∀ address' k, s.ints address' = some (some k) →
      Function.update s.ints address (some index) address' = some (some k) := by
    intro address' k named
    have different : address' ≠ address := by
      intro same
      rw [same, fresh] at named
      cases named
    exact (Function.update_of_ne different _ _).trans named
  constructor
  case issued => exact tidy.issued
  case free => exact tidy.free
  case occupied =>
    intro k occupied
    obtain ⟨address', live, rest⟩ := tidy.occupied k occupied
    exact ⟨address', kept address' k live, rest⟩
  case owned =>
    intro timer armed retransmit
    obtain ⟨zero, k, occupied, names⟩ := tidy.owned timer armed retransmit
    exact ⟨zero, k, occupied, names_allocate fresh names⟩
  case callers =>
    intro caller member
    obtain ⟨⟨k, live⟩, apart⟩ := tidy.callers caller member
    exact ⟨⟨k, kept _ k live⟩, apart⟩
  case apart => exact tidy.apart

theorem Tidy.enter (tidy : Tidy s) (caller : PendingCaller) {k : PendingIndex}
    (live : s.ints caller.pendingReqIndex = some (some k))
    (unboxed : ∀ k, (s.gPendingRequestMsgs k).timer_arg ≠ some caller.pendingReqIndex)
    (new : caller.pendingReqIndex ∉ s.callers.map PendingCaller.pendingReqIndex) :
    Tidy { s with callers := caller :: s.callers } := by
  constructor
  case issued => exact tidy.issued
  case free => exact tidy.free
  case occupied => exact tidy.occupied
  case owned => exact tidy.owned
  case callers =>
    intro caller' member
    cases List.mem_cons.mp member with
    | inl same =>
      subst same
      exact ⟨⟨k, live⟩, unboxed⟩
    | inr member => exact tidy.callers caller' member
  case apart => exact List.nodup_cons.mpr ⟨new, tidy.apart⟩

/-- An address that is not in use belongs to no box and no caller. -/
theorem Tidy.fresh_box (tidy : Tidy s) {address : Nat} (fresh : s.ints address = none)
    (k : PendingIndex) : (s.gPendingRequestMsgs k).timer_arg ≠ some address := by
  intro arg
  by_cases occupied : s.Occupied k
  · obtain ⟨address', live, arg', _⟩ := tidy.occupied k occupied
    cases arg.symm.trans arg'
    rw [fresh] at live
    cases live
  · rw [tidy.free k occupied] at arg
    cases arg

theorem Tidy.fresh_caller (tidy : Tidy s) {address : Nat} (fresh : s.ints address = none) :
    address ∉ s.callers.map PendingCaller.pendingReqIndex := by
  intro member
  obtain ⟨caller, entered, rfl⟩ := List.mem_map.mp member
  obtain ⟨⟨k, live⟩, _⟩ := tidy.callers caller entered
  rw [fresh] at live
  cases live

theorem firstFree_unoccupied {k : PendingIndex} (found : s.firstFree = some k) :
    ¬ s.Occupied k := by
  have first := (Fin.find?_eq_some_iff.mp found).1
  simpa [Occupied] using first

theorem send_none (found : s.firstFree = none) (messages : List Fragment) (delivered : Nat) :
    s.cwSendPendingRequestMessage messages delivered = some (none, s) := by
  unfold cwSendPendingRequestMessage
  rw [found]

theorem send_some {k : PendingIndex} (found : s.firstFree = some k) (messages : List Fragment)
    (delivered : Nat) : s.cwSendPendingRequestMessage messages delivered =
      (s.cwResetPendingMsgBox k).map fun s =>
        let s := { s with sent := s.sent ++ messages.take delivered }
        if delivered < messages.length then (none, s) else (some k, s) := by
  unfold cwSendPendingRequestMessage
  rw [found]

/-- What is sent, if a box is free, and what is returned. -/
theorem send_eq {address : Nat} (fresh : s.ints address = none) {k : PendingIndex}
    (found : s.firstFree = some k) (zero : s.gPendingRequestMsgs k = .zero) (seqNum : Nat)
    (messages : List Fragment) (delivered : Nat) : s.beginRequest address seqNum messages delivered =
      let index := if delivered < messages.length then none else some k
      some { s with
        timers := timerRem 0 s.timers, sent := s.sent ++ messages.take delivered
        ints := Function.update s.ints address (some index)
        callers := if delivered < messages.length then s.callers
          else ⟨address, seqNum, messages⟩ :: s.callers } := by
  have unused : ¬ (s.ints address).isSome := by simp [fresh]
  rw [beginRequest, if_neg unused, send_some found, reset_free zero]
  by_cases failed : delivered < messages.length
  · simp only [Option.map_some, failed, if_true]
    rfl
  · simp only [Option.map_some, failed, if_false]
    rfl

theorem allowed_send_iff {address seqNum delivered : Nat} {messages : List Fragment} :
    s.Allowed (.send address seqNum messages delivered) ↔ (s.ints address = none →
      ∀ k ∈ s.firstFree, s.Unclaimed (s.gPendingRequestMsgs k).timer) :=
  Iff.rfl

theorem Tidy.send (tidy : Tidy s) {address seqNum delivered : Nat} {messages : List Fragment}
    (allowed : s.Allowed (.send address seqNum messages delivered)) {gCWMaxRetransmit : Int}
    {s' : PendingState}
    (step : PendingStep gCWMaxRetransmit s (.send address seqNum messages delivered) s') :
    Tidy s' ∧ s.Does gCWMaxRetransmit s' (.send address seqNum messages delivered) := by
  cases used : s.ints address with
  | some index => simp [PendingStep, PendingEvent.exec, beginRequest, used] at step
  | none =>
    cases found : s.firstFree with
    | none =>
      have unused : ¬ (s.ints address).isSome := by simp [used]
      rw [PendingStep, PendingEvent.exec, beginRequest, if_neg unused, send_none found] at step
      cases step
      exact ⟨tidy.allocate used none, fun timer armed => armed⟩
    | some k =>
      have zero := tidy.free k (firstFree_unoccupied found)
      have unclaimed := allowed_send_iff.mp allowed used k found
      rw [zero] at unclaimed
      cases (send_eq used found zero seqNum messages delivered).symm.trans step
      refine ⟨?_, fun timer armed => unclaimed.armed tidy.issued armed⟩
      have removed := tidy.remove unclaimed.spared
      by_cases failed : delivered < messages.length
      · simp only [failed, if_true]
        have allocated := removed.allocate used none
        exact allocated.same allocated.issued rfl rfl rfl fun _ _ => Iff.rfl
      · simp only [failed, if_false]
        have allocated := removed.allocate used (some k)
        have live : Function.update s.ints address (some (some k)) address = some (some k) :=
          Function.update_self _ _ _
        have entered := allocated.enter ⟨address, seqNum, messages⟩ live (tidy.fresh_box used)
          (tidy.fresh_caller used)
        exact entered.same entered.issued rfl rfl rfl fun _ _ => Iff.rfl

theorem Tidy.allowed_send (tidy : Tidy s) {address seqNum delivered : Nat}
    {messages : List Fragment} {gCWMaxRetransmit : Int}
    (kept : s.StaysKept gCWMaxRetransmit (.send address seqNum messages delivered)) :
    s.Allowed (.send address seqNum messages delivered) := by
  rw [allowed_send_iff]
  intro fresh k found
  have zero := tidy.free k (firstFree_unoccupied found)
  have sent := send_eq fresh found zero seqNum messages delivered
  rw [zero]
  exact unclaimed_of_armed tidy.issued (kept _ sent).2

/-! ## Updating the box -/

theorem accepts_iff {timer_sec : Int} {timer_hdl : TimerHandler} {timer_arg : Option Nat}
    {allocated : Bool} :
    Accepts timer_sec 0 (call (some timer_hdl) timer_arg allocated) ↔
      0 < timer_sec ∧ allocated = true := by
  cases allocated with
  | false => simp [Accepts, call]
  | true =>
    simp only [Accepts, call, if_true, Option.map_some, Option.isSome_some, true_and, and_true]
    omega

/-- The state after the box was updated that the caller had found. -/
def updated (s : PendingState) (caller : PendingCaller) (k : PendingIndex) (msgType : UInt8)
    (timer_sec retransmission : Int) (allocated : Bool) : Bool × PendingState :=
  s.cwUpdatePendingMsgBox k msgType caller.seqNum timer_sec caller.pendingReqIndex
    .cwWTPRetransmitTimerExpiredHandler retransmission caller.messages allocated

theorem updateRequest_eq {caller : PendingCaller} {k : PendingIndex}
    (live : s.ints caller.pendingReqIndex = some (some k)) (msgType : UInt8)
    (timer_sec retransmission : Int) (allocated : Bool) :
    s.updateRequest caller msgType timer_sec retransmission allocated =
      some (s.updated caller k msgType timer_sec retransmission allocated) := by
  unfold updateRequest
  rw [live]
  rfl

/-- A step of a caller finds its integer as it left it. -/
theorem Tidy.update_eq (tidy : Tidy s) {i : Nat} {msgType : UInt8}
    {timer_sec retransmission : Int} {allocated : Bool} {gCWMaxRetransmit : Int} {s' : PendingState}
    (step : PendingStep gCWMaxRetransmit s
      (.update i msgType timer_sec retransmission allocated) s') :
    ∃ caller k, s.callers[i]? = some caller ∧ s.ints caller.pendingReqIndex = some (some k) ∧
      msgType ≠ unusedMsgType ∧
      s' = { (s.updated caller k msgType timer_sec retransmission allocated).2 with
        callers := s.callers.eraseIdx i } := by
  simp only [PendingStep, PendingEvent.exec] at step
  cases found : s.callers[i]? with
  | none => simp [found] at step
  | some caller =>
    obtain ⟨⟨k, live⟩, _⟩ := tidy.callers caller (List.mem_of_getElem? found)
    by_cases unused : msgType = unusedMsgType
    · simp [found, unused] at step
    · simp only [found, unused, if_false, updateRequest_eq live, Option.map_some,
        Option.some.injEq] at step
      exact ⟨caller, k, rfl, live, unused, step.symm⟩

theorem updated_occupied {caller : PendingCaller} {k : PendingIndex} {msgType : UInt8}
    {timer_sec retransmission : Int} {allocated : Bool} (occupied : s.Occupied k) :
    s.updated caller k msgType timer_sec retransmission allocated = (true, s) := by
  unfold updated cwUpdatePendingMsgBox
  rw [if_pos occupied]

/-- The box as it is set up with its timer. -/
def boxed (caller : PendingCaller) (msgType : UInt8) (timer_sec retransmission timer : Int) :
    CWPendingRequestMessage where
  msgType := msgType
  seqNum := .ofNat caller.seqNum
  timer_sec := timer_sec
  timer_hdl := some .cwWTPRetransmitTimerExpiredHandler
  timer_arg := some caller.pendingReqIndex
  timer := timer
  retransmission := retransmission
  msgElems := some caller.messages
  fragmentsNum := caller.messages.length

def addFor (s : PendingState) (caller : PendingCaller) (timer_sec : Int) (allocated : Bool) :
    Int × TimerState TimerCall :=
  timerAdd timer_sec 0
    (call (some .cwWTPRetransmitTimerExpiredHandler) (some caller.pendingReqIndex) allocated)
    s.timers

theorem updated_free {caller : PendingCaller} {k : PendingIndex} {msgType : UInt8}
    {timer_sec retransmission : Int} {allocated : Bool} (unoccupied : ¬ s.Occupied k) :
    s.updated caller k msgType timer_sec retransmission allocated =
      let timer := s.addFor caller timer_sec allocated
      (timer.1 == 0,
        { s.setBox k (boxed caller msgType timer_sec retransmission timer.1) with
          timers := timer.2 }) := by
  unfold updated cwUpdatePendingMsgBox
  rw [if_neg unoccupied]
  rfl

/-- A timer that is accepted is armed, with the next identifier. -/
theorem addFor_accepted (s : PendingState) (caller : PendingCaller) {timer_sec : Int} {allocated : Bool}
    (positive : 0 < timer_sec) (present : allocated = true) :
    (s.addFor caller timer_sec allocated).1 = s.timers.cur_id ∧
      ∀ timer, timer ∈ (s.addFor caller timer_sec allocated).2.armed ↔
        timer = (s.timers.cur_id,
          ⟨.cwWTPRetransmitTimerExpiredHandler, some caller.pendingReqIndex⟩) ∨
        timer ∈ s.timers.armed := by
  subst present
  have accepts : Accepts timer_sec 0 (some (⟨.cwWTPRetransmitTimerExpiredHandler,
      some caller.pendingReqIndex⟩ : TimerCall)) :=
    accepts_iff.mpr ⟨positive, rfl⟩
  constructor
  · exact (timerAdd_fst timer_sec 0 _).trans (if_pos accepts)
  · intro timer
    show timer ∈ (timerAdd timer_sec 0 (some _) s.timers).2.armed ↔ _
    rw [mem_armed, mem_armed, taken_timerAdd, mem_waiting_timerAdd accepts]
    exact or_left_comm

theorem addFor_rejected {caller : PendingCaller} {timer_sec : Int} {allocated : Bool}
    (rejected : ¬ (0 < timer_sec ∧ allocated = true)) :
    (s.addFor caller timer_sec allocated).2 = s.timers :=
  timerAdd_rejected (mt accepts_iff.mp rejected)

theorem allowed_update_iff {i : Nat} {msgType : UInt8} {timer_sec retransmission : Int}
    {allocated : Bool} : s.Allowed (.update i msgType timer_sec retransmission allocated) ↔
      ∀ caller ∈ s.callers[i]?, ∀ k, s.ints caller.pendingReqIndex = some (some k) →
        msgType ≠ unusedMsgType →
          ¬ s.Occupied k ∧ 0 < timer_sec ∧ allocated = true ∧ s.timers.cur_id = 0 :=
  Iff.rfl

/-- Nothing is armed before the first timer. -/
theorem Tidy.unarmed (tidy : Tidy s) (first : s.timers.cur_id = 0) (timer : Nat × TimerCall) :
    timer ∉ s.timers.armed := by
  intro armed
  have lt := tidy.issued.armed_lt armed
  rw [first] at lt
  exact Nat.not_lt_zero _ lt

theorem Tidy.unoccupied (tidy : Tidy s) (first : s.timers.cur_id = 0) (k : PendingIndex) :
    ¬ s.Occupied k := by
  intro occupied
  obtain ⟨address, _, _, _, _, armed⟩ := tidy.occupied k occupied
  exact tidy.unarmed first _ armed

/-- The other callers keep their integers. -/
theorem Tidy.others_apart (tidy : Tidy s) {i : Nat} {caller caller' : PendingCaller}
    (found : s.callers[i]? = some caller) (other : caller' ∈ s.callers.eraseIdx i) :
    caller'.pendingReqIndex ≠ caller.pendingReqIndex := by
  obtain ⟨bound, here⟩ := List.getElem?_eq_some_iff.mp found
  have perm := (List.getElem_cons_eraseIdx_perm bound).map PendingCaller.pendingReqIndex
  have apart := perm.nodup_iff.mpr tidy.apart
  rw [here, List.map_cons, List.nodup_cons] at apart
  intro same
  exact apart.1 (same ▸ List.mem_map_of_mem other)

/-- The first timer of all is that of the only occupied box. -/
theorem Tidy.fill (tidy : Tidy s) {i : Nat} {caller : PendingCaller} {k : PendingIndex}
    {msgType : UInt8} {timer_sec retransmission timer : Int} {timers : TimerState TimerCall}
    (live : s.ints caller.pendingReqIndex = some (some k)) (unoccupied : ¬ s.Occupied k)
    (used : msgType ≠ unusedMsgType) (found : s.callers[i]? = some caller) (zero : timer = 0)
    (first : s.timers.cur_id = 0)
    (armed : ∀ timer, timer ∈ timers.armed ↔
      timer = boxTimer caller.pendingReqIndex ∨ timer ∈ s.timers.armed)
    (issued : Issued timers) :
    Tidy { s.setBox k (PendingState.boxed caller msgType timer_sec retransmission timer) with
      timers := timers, callers := s.callers.eraseIdx i } := by
  have only : ∀ timer ∈ timers.armed, timer = boxTimer caller.pendingReqIndex :=
    fun timer member => ((armed timer).mp member).resolve_right (tidy.unarmed first timer)
  have occupied_iff : ∀ k', (s.setBox k
      (PendingState.boxed caller msgType timer_sec retransmission timer)).Occupied k' ↔ k' = k := by
    intro k'
    rw [occupied_setBox]
    by_cases same : k' = k
    · simp [same, PendingState.boxed, used]
    · simp [same, tidy.unoccupied first k']
  constructor
  case issued => exact issued
  case free =>
    intro k' unoccupied'
    have different : k' ≠ k := fun same => unoccupied' ((occupied_iff k').mpr same)
    exact (Function.update_of_ne different _ _).trans (tidy.free k' (tidy.unoccupied first k'))
  case occupied =>
    intro k' occupied
    cases (occupied_iff k').mp occupied
    refine ⟨caller.pendingReqIndex, live, ?_, ?_, ?_, (armed _).mpr (.inl rfl)⟩
    all_goals simp [setBox, PendingState.boxed, zero]
  case owned =>
    intro timer member _
    rw [only timer member]
    exact ⟨rfl, k, (occupied_iff k).mpr rfl, names_boxTimer live⟩
  case callers =>
    intro caller' other
    obtain ⟨live', apart⟩ := tidy.callers caller' (List.mem_of_mem_eraseIdx other)
    refine ⟨live', fun k' => ?_⟩
    by_cases same : k' = k
    · subst same
      have different := tidy.others_apart found other
      simp [setBox, PendingState.boxed, Ne.symm different]
    · simpa [setBox, same] using apart k'
  case apart => exact tidy.apart.sublist ((List.eraseIdx_sublist _ _).map _)

theorem Tidy.update (tidy : Tidy s) {i : Nat} {msgType : UInt8} {timer_sec retransmission : Int}
    {allocated : Bool}
    (allowed : s.Allowed (.update i msgType timer_sec retransmission allocated))
    {gCWMaxRetransmit : Int} {s' : PendingState}
    (step : PendingStep gCWMaxRetransmit s
      (.update i msgType timer_sec retransmission allocated) s') :
    Tidy s' ∧
      s.Does gCWMaxRetransmit s' (.update i msgType timer_sec retransmission allocated) := by
  obtain ⟨caller, k, found, live, used, rfl⟩ := tidy.update_eq step
  obtain ⟨unoccupied, positive, present, first⟩ :=
    allowed_update_iff.mp allowed caller found k live used
  obtain ⟨id, armed⟩ := addFor_accepted s caller positive present
  rw [first] at id armed
  rw [updated_free unoccupied]
  constructor
  · exact tidy.fill live unoccupied used found id first armed (tidy.issued.add _ _ _)
  · intro caller' found' outcome updated
    cases found.symm.trans found'
    rw [updateRequest_eq live, updated_free unoccupied] at updated
    cases updated
    show (_ == 0) = true ↔ _
    rw [id]
    constructor
    · intro _
      exact ⟨_, (armed _).mpr (.inl rfl), tidy.unarmed first _⟩
    · intro _
      rfl

theorem Tidy.allowed_update (tidy : Tidy s) {i : Nat} {msgType : UInt8}
    {timer_sec retransmission : Int} {allocated : Bool} {gCWMaxRetransmit : Int}
    (kept : s.StaysKept gCWMaxRetransmit (.update i msgType timer_sec retransmission allocated)) :
    s.Allowed (.update i msgType timer_sec retransmission allocated) := by
  rw [allowed_update_iff]
  intro caller found k live used
  have request := updateRequest_eq live msgType timer_sec retransmission allocated
  have step : PendingStep gCWMaxRetransmit s
      (.update i msgType timer_sec retransmission allocated)
      { (s.updated caller k msgType timer_sec retransmission allocated).2 with
        callers := s.callers.eraseIdx i } := by
    have found : s.callers[i]? = some caller := found
    simp only [PendingStep, PendingEvent.exec, found, used, if_false, request, Option.map_some]
  obtain ⟨boxes, does⟩ := kept _ step
  have reported := does caller found _ request
  by_cases occupied : s.Occupied k
  · -- reported without a timer
    rw [updated_occupied occupied] at reported
    obtain ⟨timer, armed, unarmed⟩ := reported.mp rfl
    exact absurd armed unarmed
  · rw [updated_free occupied] at boxes reported
    by_cases accepted : 0 < timer_sec ∧ allocated = true
    · obtain ⟨id, armed⟩ := addFor_accepted s caller accepted.1 accepted.2
      have new : ∃ timer ∈ (s.addFor caller timer_sec allocated).2.armed,
          timer ∉ s.timers.armed := by
        refine ⟨_, (armed _).mpr (.inl rfl), fun old => ?_⟩
        exact Nat.lt_irrefl _ (tidy.issued.armed_lt old)
      have success := reported.mpr new
      simp only [id, beq_iff_eq] at success
      exact ⟨occupied, accepted.1, accepted.2, Int.ofNat.inj success⟩
    · -- the box is occupied, but no timer was armed for it
      obtain ⟨timer, both, _⟩ := boxes.occupied k (occupied_setBox.mpr (by simpa [PendingState.boxed] using used))
      have armed : timer ∈ s.timers.armed := addFor_rejected accepted ▸ both.1
      exact absurd both.2 (tidy.kept.free k occupied timer armed)

/-! ## The handler of a box's timer -/

/-- Its timer has been started, so no timer is left that is the box's. -/
theorem Tidy.expire_unarmed (tidy : Tidy s) {timer : Timer TimerCall}
    (expects : s.expiring = some timer) {timer' : Nat × TimerCall} (retransmit : IsRetransmit timer')
    (armed : timer' ∈ ({ s.timers with
      ticker := .running timer, started := s.timers.started ++ [(timer, s.timers.now)] } :
        TimerState TimerCall).armed) : False := by
  obtain ⟨ticker, retransmit', taken⟩ := expiring_some expects
  obtain ⟨before, different⟩ := (armed_start tidy.issued ticker timer').mp armed
  exact different (tidy.eq_of_retransmit before retransmit (mem_armed.mpr (.inl taken)) retransmit')

/-- What the handler leaves where the box has not been sent too often. -/
theorem resend_eq (s : PendingState) {gCWMaxRetransmit : Int} (delivered : Nat)
    (allocated : Bool) {address : Nat} {k : PendingIndex} {msgElems : List Fragment} (live : s.ints address = some (some k))
    (arg : (s.gPendingRequestMsgs k).timer_arg = some address)
    (elems : (s.gPendingRequestMsgs k).msgElems = some msgElems)
    (more : (s.gPendingRequestMsgs k).retransmission ≠ gCWMaxRetransmit) :
    ∃ s', s.cwWTPRetransmitTimerExpiredHandler gCWMaxRetransmit delivered allocated (some address) =
      some s' ∧ s'.ints address = none ∧
      (s'.gPendingRequestMsgs k).msgType = (s.gPendingRequestMsgs k).msgType ∧
      ∀ timer ∈ s'.timers.armed, timer ∈ s.timers.armed ∨ timer.2.timer_arg = some address := by
  have argument : (some address).bind s.ints = some (some k) := live
  have present : (s.ints address).isSome := by simp [live]
  unfold cwWTPRetransmitTimerExpiredHandler
  rw [argument]
  simp only [more, if_false, elems]
  by_cases failed : delivered < msgElems.length
  · simp only [failed, if_true, free, setBox, present]
    refine ⟨_, rfl, Function.update_self _ _ _, ?_, fun timer armed => .inl armed⟩
    simp
  · simp only [failed, if_false, free, setBox, present, if_true]
    refine ⟨_, rfl, Function.update_self _ _ _, ?_, fun timer armed => ?_⟩
    · simp
    · refine (armed_add_cases armed).imp_right fun new => ?_
      obtain ⟨_, hndlr, called, rfl⟩ := new
      cases allocated with
      | false => simp [call] at called
      | true =>
        obtain ⟨timer_hdl, _, rfl⟩ := Option.map_eq_some_iff.mp called
        exact arg

/-- Whatever the handler does, the box is not kept. -/
theorem Tidy.allowed_expire (tidy : Tidy s) {delivered : Nat} {allocated : Bool}
    {gCWMaxRetransmit : Int} (kept : s.StaysKept gCWMaxRetransmit (.expire delivered allocated)) :
    s.Allowed (.expire delivered allocated) := by
  show s.expiring = none
  cases expects : s.expiring with
  | none => rfl
  | some timer =>
    exfalso
    obtain ⟨ticker, retransmit, taken⟩ := expiring_some expects
    have armed : timer.call ∈ s.timers.armed := mem_armed.mpr (.inl taken)
    obtain ⟨_, k, occupied, names⟩ := tidy.owned timer.call armed retransmit
    obtain ⟨address, live, arg, _, elems, boxed⟩ := tidy.occupied k occupied
    have argument : timer.handler.timer_arg = some address :=
      congrArg (fun call => call.2.timer_arg) (tidy.eq_of_retransmit armed retransmit boxed rfl)
    obtain ⟨msgElems, fragments⟩ := Option.isSome_iff_exists.mp elems
    let s₁ : PendingState := { s with timers := { s.timers with
      ticker := .running timer, started := s.timers.started ++ [(timer, s.timers.now)] } }
    have handled : PendingEvent.exec gCWMaxRetransmit s (.expire delivered allocated) =
        s₁.cwWTPRetransmitTimerExpiredHandler gCWMaxRetransmit delivered allocated
          (some address) := by
      simp only [PendingEvent.exec, expects, argument]
      rfl
    by_cases limit : (s.gPendingRequestMsgs k).retransmission = gCWMaxRetransmit
    · -- the box is given up, but stays occupied
      have ended : s₁.cwWTPRetransmitTimerExpiredHandler gCWMaxRetransmit delivered allocated
          (some address) = some s₁ := by
        have found : (some address).bind s₁.ints = some (some k) := live
        unfold cwWTPRetransmitTimerExpiredHandler
        rw [found]
        exact if_pos limit
      have does := (kept s₁ (handled.trans ended)).2 timer expects k names
      rw [if_pos limit] at does
      exact does occupied
    · obtain ⟨s', ran, freed, msgType, left⟩ := resend_eq s₁ delivered allocated live arg
        fragments limit
      have boxes := (kept s' (handled.trans ran)).1
      have occupied' : s'.Occupied k := by
        rw [Occupied, msgType]
        exact occupied
      obtain ⟨timer', both, _⟩ := boxes.occupied k occupied'
      cases left timer' both.1 with
      | inl before => exact tidy.expire_unarmed expects both.2.1 before
      | inr same =>
        -- the new timer has the argument that was freed
        have named := both.2.2
        rw [same, Option.bind_some, freed] at named
        cases named

/-! ## Messages that are received -/

theorem manage_none {messageTypeValue seqNum : Nat}
    (found : s.pendingBox messageTypeValue seqNum = none) (gEchoInterval : Int) (allocated : Bool) :
    s.cwWTPManageGenericRunMessage messageTypeValue seqNum gEchoInterval allocated =
      some (s.cwResetEchoRequestRetransmit gEchoInterval allocated).2 := by
  unfold cwWTPManageGenericRunMessage cwFindPendingRequestMsgsBox
  rw [found]

/-- The state when the timer of the echo request has been restarted after a box was found. -/
def restarted (s : PendingState) (k : PendingIndex) (gEchoInterval : Int) (allocated : Bool) :
    Bool × PendingState :=
  cwResetEchoRequestRetransmit gEchoInterval allocated
    { s with timers := timerRem (s.gPendingRequestMsgs k).timer s.timers }

theorem manage_some {messageTypeValue seqNum : Nat} {k : PendingIndex}
    (found : s.pendingBox messageTypeValue seqNum = some k) (gEchoInterval : Int)
    (allocated : Bool) :
    s.cwWTPManageGenericRunMessage messageTypeValue seqNum gEchoInterval allocated =
      if (s.restarted k gEchoInterval allocated).1 ∧ IsResponse messageTypeValue then
        cwResetPendingMsgBox k (s.restarted k gEchoInterval allocated).2
      else some (s.restarted k gEchoInterval allocated).2 := by
  unfold cwWTPManageGenericRunMessage cwFindPendingRequestMsgsBox
  rw [found]
  rfl

theorem restarted_fst {k : PendingIndex} {gEchoInterval : Int} {allocated : Bool} :
    (s.restarted k gEchoInterval allocated).1 = true ↔ 0 < gEchoInterval ∧ allocated = true := by
  cases allocated with
  | false => simp [restarted, cwResetEchoRequestRetransmit, cwStartEchoRequestTimer, call, timerAdd]
  | true =>
    have accepts : Accepts gEchoInterval 0
        (call (some .cwWTPEchoRequestTimerExpiredHandler) none true) ↔
          0 < gEchoInterval ∧ true = true := accepts_iff
    simp only [restarted, cwResetEchoRequestRetransmit, cwStartEchoRequestTimer, call, if_true,
      Option.map_some, timerAdd_fst] at accepts ⊢
    rw [← accepts]
    split <;> simp_all

/-- Restarting the timer of the echo request arms no timer of a box. -/
theorem armed_of_restart {gEchoInterval : Int} {allocated : Bool} {timer : Nat × TimerCall}
    (retransmit : IsRetransmit timer)
    (armed : timer ∈ (s.cwResetEchoRequestRetransmit gEchoInterval allocated).2.timers.armed) :
    timer ∈ (timerRem s.gCWEchoRequestTimerID s.timers).armed :=
  (mem_armed_add (echo_ne_retransmit allocated) timer retransmit).mp armed

/-- It disarms no timer but that. -/
theorem armed_restart (issued : Issued s.timers) {gEchoInterval : Int} {allocated : Bool}
    {timer : Nat × TimerCall} (armed : timer ∈ s.timers.armed)
    (different : (timer.1 : Int) ≠ s.gCWEchoRequestTimerID) :
    timer ∈ (s.cwResetEchoRequestRetransmit gEchoInterval allocated).2.timers.armed :=
  armed_add (armed_remove issued armed different) _ _ _

theorem Tidy.restart (tidy : Tidy s) (spared : s.Spared s.gCWEchoRequestTimerID)
    (gEchoInterval : Int) (allocated : Bool) :
    Tidy (s.cwResetEchoRequestRetransmit gEchoInterval allocated).2 :=
  (tidy.remove spared).startEcho gEchoInterval allocated

theorem awaits_of_pendingBox {messageTypeValue seqNum : Nat} {k : PendingIndex}
    (found : s.pendingBox messageTypeValue seqNum = some k) (occupied : s.Occupied k) :
    s.Awaits k messageTypeValue seqNum := by
  have first := (Fin.find?_eq_some_iff.mp found).1
  rw [Bool.and_eq_true, beq_iff_eq, beq_iff_eq] at first
  exact ⟨occupied, first⟩

theorem not_awaits_of_none {messageTypeValue seqNum : Nat}
    (found : s.pendingBox messageTypeValue seqNum = none) (k : PendingIndex) :
    ¬ s.Awaits k messageTypeValue seqNum := by
  intro awaits
  have fails := Fin.find?_eq_none_iff.mp found k
  simp [awaits.2.1, awaits.2.2] at fails

/-- A message that looks like the response of a free box is not a response of any. -/
theorem not_awaits_of_free {messageTypeValue seqNum : Nat} {k : PendingIndex}
    (found : s.pendingBox messageTypeValue seqNum = some k) (unoccupied : ¬ s.Occupied k) :
    messageTypeValue = 0 ∧ ∀ k', ¬ s.Awaits k' messageTypeValue seqNum := by
  have first := (Fin.find?_eq_some_iff.mp found).1
  rw [Bool.and_eq_true, beq_iff_eq, beq_iff_eq] at first
  have unused : (s.gPendingRequestMsgs k).msgType = unusedMsgType := by
    simpa [Occupied] using unoccupied
  have zero : messageTypeValue = 0 := by
    rw [← first.2, unused]
    rfl
  refine ⟨zero, fun k' awaits => awaits.1 ?_⟩
  exact UInt8.toNat_inj.mp (awaits.2.2.trans zero)

theorem allowed_receive_iff {messageTypeValue seqNum : Nat} {gEchoInterval : Int}
    {allocated : Bool} : s.Allowed (.receive messageTypeValue seqNum gEchoInterval allocated) ↔
      s.MayReceive messageTypeValue seqNum gEchoInterval allocated :=
  Iff.rfl

theorem mayReceive_none {messageTypeValue seqNum : Nat} {gEchoInterval : Int} {allocated : Bool}
    (found : s.pendingBox messageTypeValue seqNum = none) :
    s.MayReceive messageTypeValue seqNum gEchoInterval allocated ↔
      s.Spared s.gCWEchoRequestTimerID := by
  unfold MayReceive
  rw [found]

theorem mayReceive_some {messageTypeValue seqNum : Nat} {gEchoInterval : Int} {allocated : Bool}
    {k : PendingIndex} (found : s.pendingBox messageTypeValue seqNum = some k) :
    s.MayReceive messageTypeValue seqNum gEchoInterval allocated ↔
      if s.Occupied k then
        s.expiring = none ∧ 0 < gEchoInterval ∧ allocated = true ∧ IsResponse messageTypeValue
      else
        s.Spared s.gCWEchoRequestTimerID ∧ ∀ timer ∈ s.timers.waiting,
          (timer.1 : Int) ≠ s.gCWEchoRequestTimerID →
            (timer.1 : Int) ≠ (s.gPendingRequestMsgs k).timer := by
  unfold MayReceive
  rw [found]

theorem issued_restarted (issued : Issued s.timers) (k : PendingIndex) (gEchoInterval : Int)
    (allocated : Bool) : Issued (s.restarted k gEchoInterval allocated).2.timers :=
  ((issued.remove _).remove _).add _ _ _

theorem armed_of_restarted {k : PendingIndex} {gEchoInterval : Int} {allocated : Bool}
    {timer : Nat × TimerCall} (retransmit : IsRetransmit timer)
    (armed : timer ∈ (s.restarted k gEchoInterval allocated).2.timers.armed) :
    timer ∈ (timerRem s.gCWEchoRequestTimerID
      (timerRem (s.gPendingRequestMsgs k).timer s.timers)).armed :=
  armed_of_restart retransmit armed

theorem armed_restarted (issued : Issued s.timers) {k : PendingIndex} (gEchoInterval : Int)
    (allocated : Bool) {timer : Nat × TimerCall} (armed : timer ∈ s.timers.armed)
    (other : (timer.1 : Int) ≠ (s.gPendingRequestMsgs k).timer)
    (different : (timer.1 : Int) ≠ s.gCWEchoRequestTimerID) :
    timer ∈ (s.restarted k gEchoInterval allocated).2.timers.armed :=
  armed_add (armed_remove (issued.remove _) (armed_remove issued armed other) different) _ _ _

/-- The state when the response of the occupied box has been dealt with. -/
theorem Tidy.responded (tidy : Tidy s) {k : PendingIndex} (occupied : s.Occupied k)
    (gEchoInterval : Int) (allocated : Bool) :
    ∃ address, (s.gPendingRequestMsgs k).timer_arg = some address ∧
      s.ints address = some (some k) ∧ (s.gPendingRequestMsgs k).timer = 0 ∧
      cwResetPendingMsgBox k (s.restarted k gEchoInterval allocated).2 = some
        { (s.restarted k gEchoInterval allocated).2.setBox k .zero with
          ints := Function.update s.ints address none
          timers := timerRem 0 (s.restarted k gEchoInterval allocated).2.timers } := by
  obtain ⟨address, live, arg, zero, elems, _⟩ := tidy.occupied k occupied
  refine ⟨address, arg, live, zero, ?_⟩
  have here : ((s.restarted k gEchoInterval allocated).2.ints address).isSome := by
    show (s.ints address).isSome
    simp [live]
  exact reset_occupied here arg zero elems

theorem Tidy.receive_response (tidy : Tidy s) {messageTypeValue seqNum : Nat}
    {gEchoInterval : Int} {allocated : Bool} {k : PendingIndex}
    (found : s.pendingBox messageTypeValue seqNum = some k) (occupied : s.Occupied k)
    (unexpected : s.expiring = none) {gCWMaxRetransmit : Int} {s' : PendingState}
    (reset : cwResetPendingMsgBox k (s.restarted k gEchoInterval allocated).2 = some s') :
    Tidy s' ∧ s.Does gCWMaxRetransmit s'
      (.receive messageTypeValue seqNum gEchoInterval allocated) := by
  obtain ⟨address, arg, live, zero, responded⟩ := tidy.responded occupied gEchoInterval allocated
  have awaits := awaits_of_pendingBox found occupied
  have issued := issued_restarted tidy.issued k gEchoInterval allocated
  cases responded.symm.trans reset
  constructor
  · apply tidy.released occupied live arg (issued.remove 0)
    intro timer armed retransmit
    have before := armed_of_restarted retransmit (armed_of_remove issued armed)
    rw [zero] at before
    have earlier := armed_of_remove (tidy.issued.remove 0) before
    exact tidy.none_left unexpected timer earlier retransmit
  · refine ⟨fun k' awaits' => ?_, fun k' unawaited => ?_, fun timer armed different unnamed => ?_⟩
    · cases tidy.eq_of_occupied awaits'.1 occupied
      simp [Occupied, setBox, CWPendingRequestMessage.zero]
    · have other : k' ≠ k := fun same => unawaited (same ▸ awaits)
      exact Function.update_of_ne other _ _
    · have other := tidy.ne_zero occupied armed (unnamed k awaits)
      apply armed_remove issued ?_ other
      apply armed_restarted tidy.issued _ _ armed ?_ different
      rw [zero]
      exact other

theorem Tidy.receive (tidy : Tidy s) {messageTypeValue seqNum : Nat} {gEchoInterval : Int}
    {allocated : Bool}
    (allowed : s.Allowed (.receive messageTypeValue seqNum gEchoInterval allocated))
    {gCWMaxRetransmit : Int} {s' : PendingState}
    (step : PendingStep gCWMaxRetransmit s
      (.receive messageTypeValue seqNum gEchoInterval allocated) s') :
    Tidy s' ∧ s.Does gCWMaxRetransmit s'
      (.receive messageTypeValue seqNum gEchoInterval allocated) := by
  rw [allowed_receive_iff] at allowed
  simp only [PendingStep, PendingEvent.exec] at step
  cases found : s.pendingBox messageTypeValue seqNum with
  | none =>
    rw [mayReceive_none found] at allowed
    rw [manage_none found] at step
    cases step
    refine ⟨tidy.restart allowed _ _, ?_, fun _ _ => rfl, ?_⟩
    · exact fun k awaits => absurd awaits (not_awaits_of_none found k)
    · exact fun timer armed different _ => armed_restart tidy.issued armed different
  | some k =>
    rw [mayReceive_some found] at allowed
    rw [manage_some found] at step
    by_cases occupied : s.Occupied k
    · rw [if_pos occupied] at allowed
      obtain ⟨unexpected, positive, present, response⟩ := allowed
      rw [if_pos ⟨restarted_fst.mpr ⟨positive, present⟩, response⟩] at step
      exact tidy.receive_response found occupied unexpected step
    · rw [if_neg occupied] at allowed
      obtain ⟨spared, others⟩ := allowed
      obtain ⟨zero, unawaited⟩ := not_awaits_of_free found occupied
      have unknown : ¬ IsResponse messageTypeValue := by
        subst zero
        decide
      rw [if_neg fun both => unknown both.2] at step
      cases step
      have removed : s.Spared (s.gPendingRequestMsgs k).timer := fun timer waiting retransmit =>
        others timer waiting (spared timer waiting retransmit)
      refine ⟨?_, fun k' awaits => absurd awaits (unawaited k'), fun _ _ => rfl, ?_⟩
      · apply (tidy.remove removed).restart
        intro timer waiting retransmit
        exact spared timer ((mem_waiting_timerRem tidy.issued _ _).mp waiting).1 retransmit
      · intro timer armed different _
        show timer ∈ (s.restarted k gEchoInterval allocated).2.timers.armed
        apply armed_add
        apply armed_remove (tidy.issued.remove _) ?_ different
        rw [mem_armed_remove tidy.issued]
        exact (mem_armed.mp armed).imp_right fun waiting => ⟨waiting, others timer waiting different⟩

theorem Tidy.allowed_receive (tidy : Tidy s) {messageTypeValue seqNum : Nat} {gEchoInterval : Int}
    {allocated : Bool} {gCWMaxRetransmit : Int}
    (kept : s.StaysKept gCWMaxRetransmit
      (.receive messageTypeValue seqNum gEchoInterval allocated)) :
    s.Allowed (.receive messageTypeValue seqNum gEchoInterval allocated) := by
  rw [allowed_receive_iff]
  have step : ∀ s', s.cwWTPManageGenericRunMessage messageTypeValue seqNum gEchoInterval allocated =
      some s' → s'.BoxesKept ∧ s.Does gCWMaxRetransmit s'
        (.receive messageTypeValue seqNum gEchoInterval allocated) := kept
  cases found : s.pendingBox messageTypeValue seqNum with
  | none =>
    rw [mayReceive_none found]
    have boxes := (step _ (manage_none found gEchoInterval allocated)).1
    apply tidy.spared_of_kept (s.cwResetEchoRequestRetransmit gEchoInterval allocated).2 rfl ?_ boxes
    exact fun timer armed retransmit => armed_of_restart retransmit armed
  | some k =>
    rw [mayReceive_some found]
    rw [manage_some found] at step
    by_cases occupied : s.Occupied k
    · rw [if_pos occupied]
      by_cases response : (s.restarted k gEchoInterval allocated).1 ∧ IsResponse messageTypeValue
      · rw [if_pos response] at step
        obtain ⟨address, arg, live, zero, responded⟩ :=
          tidy.responded occupied gEchoInterval allocated
        have boxes := (step _ responded).1
        obtain ⟨positive, present⟩ := restarted_fst.mp response.1
        refine ⟨?_, positive, present, response.2⟩
        apply tidy.unexpected_of_kept occupied arg (Function.update_self _ _ _) ?_ boxes
        intro timer taken
        rw [mem_armed]
        apply Or.inl
        show timer ∈ (timerRem 0 (s.restarted k gEchoInterval allocated).2.timers).taken
        rw [taken_timerRem]
        show timer ∈ (timerAdd _ _ _ (timerRem _ (timerRem _ s.timers))).2.taken
        rw [taken_timerAdd, taken_timerRem, taken_timerRem]
        exact taken
      · -- the box would have to be freed
        rw [if_neg response] at step
        have freed := (step _ rfl).2.1 k (awaits_of_pendingBox found occupied)
        exact absurd occupied freed
    · rw [if_neg occupied]
      obtain ⟨zero, unawaited⟩ := not_awaits_of_free found occupied
      have unknown : ¬ IsResponse messageTypeValue := by
        subst zero
        decide
      rw [if_neg fun both => unknown both.2] at step
      obtain ⟨boxes, does⟩ := step _ rfl
      have removed := tidy.issued.remove (s.gPendingRequestMsgs k).timer
      constructor
      · apply tidy.spared_of_kept (s.restarted k gEchoInterval allocated).2 rfl ?_ boxes
        intro timer armed retransmit
        have before := armed_of_restarted retransmit armed
        rw [mem_armed_remove removed, taken_timerRem, mem_waiting_timerRem tidy.issued] at before
        rw [mem_armed_remove tidy.issued]
        exact before.imp_right fun waits => ⟨waits.1.1, waits.2⟩
      · intro timer waiting different same
        have armed := mem_armed.mpr (.inr waiting)
        have stays := does.2.2 timer armed different fun k' awaits => absurd awaits (unawaited k')
        cases armed_add_cases stays with
        | inl before =>
          exact not_armed_remove tidy.issued waiting same (armed_of_remove removed before)
        | inr new =>
          obtain ⟨_, hndlr, _, added⟩ := new
          -- it has an identifier that had not been given away
          have lt := tidy.issued.armed_lt armed
          have lt : (timerRem s.gCWEchoRequestTimerID
              (timerRem (s.gPendingRequestMsgs k).timer s.timers)).cur_id < s.timers.cur_id := by
            rw [added] at lt
            exact lt
          rw [cur_id_timerRem, cur_id_timerRem] at lt
          exact Nat.lt_irrefl _ lt

/-! ## Runs -/

/-- The steps that are allowed keep the state tidy and do what they are for. -/
theorem Tidy.step (tidy : Tidy s) {gCWMaxRetransmit : Int} {event : PendingEvent}
    (allowed : s.Allowed event) {s' : PendingState}
    (step : PendingStep gCWMaxRetransmit s event s') :
    Tidy s' ∧ s.Does gCWMaxRetransmit s' event := by
  cases event with
  | library event => exact ⟨tidy.library allowed step, trivial⟩
  | startEcho gEchoInterval allocated =>
    cases step
    exact ⟨tidy.startEcho gEchoInterval allocated, trivial⟩
  | send address seqNum messages delivered => exact tidy.send allowed step
  | update i msgType timer_sec retransmission allocated => exact tidy.update allowed step
  | receive messageTypeValue seqNum gEchoInterval allocated => exact tidy.receive allowed step
  | reset k => exact tidy.reset allowed step
  | expire delivered allocated =>
    -- the handler is not about to be called
    have unexpected : s.expiring = none := allowed
    simp [PendingStep, PendingEvent.exec, unexpected] at step

theorem Tidy.allowed_of_kept (tidy : Tidy s) {gCWMaxRetransmit : Int} {event : PendingEvent}
    (kept : s.StaysKept gCWMaxRetransmit event) : s.Allowed event := by
  cases event with
  | library event => exact tidy.allowed_library kept
  | startEcho gEchoInterval allocated => trivial
  | send address seqNum messages delivered => exact tidy.allowed_send kept
  | update i msgType timer_sec retransmission allocated => exact tidy.allowed_update kept
  | receive messageTypeValue seqNum gEchoInterval allocated => exact tidy.allowed_receive kept
  | reset k => exact tidy.allowed_reset kept
  | expire delivered allocated => exact tidy.allowed_expire kept

theorem Tidy.staysKept_iff (tidy : Tidy s) (gCWMaxRetransmit : Int) (event : PendingEvent) :
    s.StaysKept gCWMaxRetransmit event ↔ s.Allowed event := by
  constructor
  · exact tidy.allowed_of_kept
  · intro allowed s' step
    obtain ⟨tidy', does⟩ := tidy.step allowed step
    exact ⟨tidy'.kept, does⟩

theorem allSteps_staysKept_iff (gCWMaxRetransmit : Int) (now : Nat) (events : List PendingEvent) :
    AllSteps (PendingStep gCWMaxRetransmit) (StaysKept gCWMaxRetransmit) (initial now) events ↔
      AllSteps (PendingStep gCWMaxRetransmit) Allowed (initial now) events := by
  have agree : ∀ s event, Tidy s → (s.StaysKept gCWMaxRetransmit event ↔ s.Allowed event) :=
    fun s event tidy => tidy.staysKept_iff gCWMaxRetransmit event
  apply AllSteps.congr_of_kept agree ?_ (tidy_initial now) events
  intro s event s' tidy kept step
  exact (tidy.step (tidy.allowed_of_kept kept) step).1

/-- The boxes are kept all along a run exactly if each of its steps is allowed. -/
theorem run_keepsBoxes_iff (gCWMaxRetransmit : Int) (now : Nat) (events : List PendingEvent) :
    (initial now).BoxesKept ∧
        AllSteps (PendingStep gCWMaxRetransmit) (StaysKept gCWMaxRetransmit) (initial now) events ↔
      AllSteps (PendingStep gCWMaxRetransmit) Allowed (initial now) events := by
  rw [allSteps_staysKept_iff]
  exact and_iff_right (tidy_initial now).kept

theorem firstFree_zero (zero : ∀ k, s.gPendingRequestMsgs k = .zero) : s.firstFree = some 0 := by
  apply Fin.find?_eq_some_iff.mpr
  refine ⟨?_, fun j lt => absurd lt (Fin.not_lt_zero j)⟩
  rw [zero]
  rfl

/-- The timer of another subsystem that was the first of all has been removed, and that of the echo
    request is running, when a request is sent. -/
def eventRequest : List PendingEvent :=
  [.library (.add 60 0 (some ⟨.other 0, none⟩)), .library (.remove 0), .startEcho 30 true,
    .send 0 7 [[9]] 1]

/-- The update of the box reports a failure, although the timer is armed. -/
theorem run_not_keepsBoxes : ¬ ∀ (gCWMaxRetransmit : Int) (now : Nat)
    (events : List PendingEvent), (initial now).BoxesKept ∧ AllSteps
      (PendingStep gCWMaxRetransmit) (StaysKept gCWMaxRetransmit) (initial now) events := by
  intro holds
  have all := (allSteps_staysKept_iff 5 0 _).mp (holds 5 0 (eventRequest ++
    [.update 0 (.ofNat cwMsgTypeValueWTPEventResponse) 3 0 true])).2
  have trace : Trace (PendingStep 5) (initial 0) eventRequest _ :=
    .cons rfl (.cons rfl (.cons rfl (.cons
      (send_eq rfl (firstFree_zero fun _ => rfl) rfl 7 [[9]] 1) (.nil _))))
  have allowed := allowed_update_iff.mp (all.at_end trace)
  have conditions := allowed ⟨0, 7, [[9]]⟩ rfl 0 rfl (by decide)
  exact absurd conditions.2.2.2 (by decide)

end PendingState

end WlanController.WTP
