import Mathlib.Data.List.Perm.Subperm
import WlanController.Admission.SessionTable

/-!
# Safety of the slots

The test for room compares a count that does not include the slots whose threads have not
begun, and no longer includes those whose threads are about to release them.  As long as
there is a free slot whenever one is reserved, the assignment of slots is safe.
-/

namespace WlanController.Admission

/-- Neither a start nor a close is in progress. -/
def Controller.Quiet (c : Controller) : Prop :=
  c.reserved = none ∧ ∀ thread ∈ c.threads, thread.phase = .running

def Controller.occupied (c : Controller) : Nat :=
  ((List.range c.gMaxWTPs).filter fun i => (c.gWTPs i).isNotFree).length

structure SlotSafe (c : Controller) : Prop where
  inside : ∀ i ∈ c.assigned, i < c.gMaxWTPs
  distinct : c.assigned.Nodup
  bounded : c.gActiveWTPs ≤ c.gMaxWTPs
  counted : c.Quiet → c.gActiveWTPs = c.occupied

/-- A slot is free when one is searched, and the functions that a session is created with do
    not fail halfway. -/
def Admits (c : Controller) : Event → Prop
  | .incoming packet => Reserves c packet → ∃ i < c.gMaxWTPs, (c.gWTPs i).isNotFree = false
  | .create creation => creation ≠ .outOfMemory
  | .start _ specific => specific = true
  | .saveSessionID _ _ | .leave _ | .release _ => True

/-- The threads that are counted. -/
def Controller.running (c : Controller) : Nat :=
  c.threads.countP fun thread => thread.phase = .running

/-- What holds between steps as long as they admit. -/
structure Consistent (c : Controller) : Prop where
  inside : ∀ i ∈ c.assigned, i < c.gMaxWTPs
  distinct : c.assigned.Nodup
  occupied : ∀ i, (c.gWTPs i).isNotFree = true ↔ i ∈ c.assigned
  counted : c.gActiveWTPs = c.running

variable {c c' : Controller} {event : Event}

theorem consistent_initial (gMaxWTPs : Nat) : Consistent (.initial gMaxWTPs) where
  inside := fun i member => by simp [Controller.initial, Controller.assigned] at member
  distinct := by simp [Controller.initial, Controller.assigned]
  occupied := fun i => by simp [Controller.initial, Controller.assigned]
  counted := by simp [Controller.initial, Controller.running]

theorem running_le_assigned (c : Controller) : c.running ≤ c.assigned.length := by
  calc c.running ≤ c.threads.length := List.countP_le_length
    _ ≤ c.assigned.length := by simp [Controller.assigned]

/-- Different slots below a bound are at most as many. -/
theorem length_le_of_nodup {indices : List Nat} {bound : Nat} (nodup : indices.Nodup)
    (inside : ∀ i ∈ indices, i < bound) : indices.length ≤ bound := by
  have subset : indices ⊆ List.range bound := fun i member => List.mem_range.mpr (inside i member)
  have fewer := (List.Nodup.subperm nodup subset).length_le
  rwa [List.length_range] at fewer

theorem Consistent.slotSafe (consistent : Consistent c) : SlotSafe c := by
  have room := length_le_of_nodup consistent.distinct consistent.inside
  refine ⟨consistent.inside, consistent.distinct, ?_, ?_⟩
  · have fewer := running_le_assigned c
    rw [consistent.counted]
    omega
  · intro ⟨unreserved, allRunning⟩
    have assigned : c.assigned = c.threads.map (·.index) := by
      simp [Controller.assigned, unreserved]
    have running : c.running = c.assigned.length := by
      rw [assigned, List.length_map, Controller.running, List.countP_eq_length]
      intro thread member
      simp [allRunning thread member]
    have same : ((List.range c.gMaxWTPs).filter fun i => (c.gWTPs i).isNotFree).Perm c.assigned := by
      refine (List.perm_ext_iff_of_nodup (List.nodup_range.filter _) consistent.distinct).mpr ?_
      intro i
      rw [List.mem_filter, List.mem_range, consistent.occupied i]
      exact and_iff_right_of_imp (consistent.inside i)
    rw [consistent.counted, running, Controller.occupied, same.length_eq]

/-! ## What the steps keep -/

/-- A step that leaves the assignment of the slots and the count as they are. -/
theorem Consistent.of_same (consistent : Consistent c) (gMaxWTPs : c'.gMaxWTPs = c.gMaxWTPs)
    (reserved : c'.reserved = c.reserved) (threads : c'.threads = c.threads)
    (gActiveWTPs : c'.gActiveWTPs = c.gActiveWTPs)
    (isNotFree : ∀ i, (c'.gWTPs i).isNotFree = (c.gWTPs i).isNotFree) : Consistent c' := by
  have assigned : c'.assigned = c.assigned := by
    rw [Controller.assigned, Controller.assigned, reserved, threads]
  refine ⟨?_, ?_, ?_, ?_⟩
  · rw [assigned, gMaxWTPs]
    exact consistent.inside
  · rw [assigned]
    exact consistent.distinct
  · intro i
    rw [assigned, isNotFree i]
    exact consistent.occupied i
  · rw [gActiveWTPs, consistent.counted, Controller.running, Controller.running, threads]

theorem Consistent.modifySlot (consistent : Consistent c) (i : Nat)
    {change : SessionSlot → SessionSlot}
    (kept : ∀ slot, (change slot).isNotFree = slot.isNotFree) :
    Consistent (c.modifySlot i change) := by
  refine consistent.of_same rfl rfl rfl rfl fun j => ?_
  rw [modifySlot_apply]
  split
  next => rw [kept]
  next => rfl

/-- The loop that searches a slot ends inside the table or at its bound. -/
theorem firstFree_lt_iff (c : Controller) : firstFree c.gWTPs c.gMaxWTPs 0 < c.gMaxWTPs ↔
    ∃ i < c.gMaxWTPs, (c.gWTPs i).isNotFree = false := by
  obtain ⟨before, stop⟩ := @firstFree_spec c.gWTPs c.gMaxWTPs 0
  rw [Nat.zero_add] at stop
  constructor
  · intro inside
    cases stop with
    | inl ended => omega
    | inr found => exact ⟨_, found⟩
  · intro ⟨i, below, free⟩
    cases stop with
    | inl ended =>
      -- the loop does not run past a free slot
      have taken := before i (Nat.zero_le i) (by omega)
      rw [free] at taken
      cases taken
    | inr found => exact found.1

theorem firstFree_free (inside : firstFree c.gWTPs c.gMaxWTPs 0 < c.gMaxWTPs) :
    (c.gWTPs (firstFree c.gWTPs c.gMaxWTPs 0)).isNotFree = false := by
  cases (@firstFree_spec c.gWTPs c.gMaxWTPs 0).2 with
  | inl ended => omega
  | inr found => exact found.2

/-- A free slot that is taken. -/
theorem Consistent.reserve (consistent : Consistent c) (unreserved : c.reserved = none)
    {packet : IncomingPacket} (free : ∃ i < c.gMaxWTPs, (c.gWTPs i).isNotFree = false) :
    Consistent (c.reserve packet) := by
  have found := (firstFree_lt_iff c).mpr free
  have vacant := firstFree_free found
  have assigned := assigned_reserve unreserved packet
  have unassigned : firstFree c.gWTPs c.gMaxWTPs 0 ∉ c.assigned := by
    rw [← consistent.occupied, vacant]
    exact Bool.false_ne_true
  refine ⟨?_, ?_, ?_, consistent.counted⟩
  · rw [assigned, List.forall_mem_cons]
    exact ⟨found, consistent.inside⟩
  · rw [assigned, List.nodup_cons]
    exact ⟨unassigned, consistent.distinct⟩
  · intro i
    rw [assigned, List.mem_cons, ← consistent.occupied i, reserve_apply]
    split
    next same => exact iff_of_true rfl (.inl same)
    next different => exact (or_iff_right different).symm

/-- The thread of a slot goes on to another phase. -/
theorem Consistent.setPhase (consistent : Consistent c) {k i : Nat} {phase phase' : Phase}
    (here : c.threadIn k phase = some i) {gActiveWTPs : Int}
    (counted : gActiveWTPs + (if phase = .running then 1 else 0) =
      c.gActiveWTPs + (if phase' = .running then 1 else 0)) :
    Consistent { c.setPhase k i phase' with gActiveWTPs := gActiveWTPs } := by
  obtain ⟨before, after, threads, set, -⟩ := threads_split (threadIn_eq_some_iff.mp here)
  have assigned : ({ c.setPhase k i phase' with gActiveWTPs := gActiveWTPs } : Controller).assigned =
      c.assigned := assigned_setPhase here phase'
  refine ⟨?_, ?_, ?_, ?_⟩
  · rw [assigned]
    exact consistent.inside
  · rw [assigned]
    exact consistent.distinct
  · rw [assigned]
    exact consistent.occupied
  · have old := consistent.counted
    simp only [Controller.running, Controller.setPhase, set] at old ⊢
    rw [threads] at old
    simp only [List.countP_append, List.countP_cons, decide_eq_true_eq] at old ⊢
    by_cases before : phase = .running
    · by_cases now : phase' = .running
      · simp only [before, now, if_true] at counted old ⊢
        omega
      · simp only [before, now, if_true, if_false] at counted old ⊢
        omega
    · by_cases now : phase' = .running
      · simp only [before, now, if_true, if_false] at counted old ⊢
        omega
      · simp only [before, now, if_false] at counted old ⊢
        omega

/-- A slot that no thread and no reservation is left for. -/
theorem Consistent.freeSlot (consistent : Consistent c) {i : Nat} (gMaxWTPs : c'.gMaxWTPs = c.gMaxWTPs)
    (assigned : c.assigned.Perm (i :: c'.assigned))
    (gWTPs : c'.gWTPs = Function.update c.gWTPs i { c.gWTPs i with isNotFree := false })
    (counted : c'.gActiveWTPs = c'.running) : Consistent c' := by
  have distinct := assigned.nodup_iff.mp consistent.distinct
  rw [List.nodup_cons] at distinct
  refine ⟨?_, distinct.2, ?_, counted⟩
  · intro j member
    rw [gMaxWTPs]
    exact consistent.inside j (assigned.mem_iff.mpr (List.mem_cons_of_mem i member))
  · intro j
    rw [gWTPs]
    by_cases same : j = i
    · rw [same, Function.update_self]
      exact iff_of_false Bool.false_ne_true distinct.1
    · rw [Function.update_of_ne same, consistent.occupied j, assigned.mem_iff, List.mem_cons]
      exact or_iff_right same

theorem Consistent.step (consistent : Consistent c) (admits : Admits c event)
    (step : Step c event c') : Consistent c' := by
  cases event with
  | incoming packet =>
    obtain ⟨unreserved, managed⟩ := Event.exec_incoming step
    obtain rfl | ⟨i, _, _, rfl⟩ | ⟨reserves, rfl⟩ := cwACManageIncomingPacket_cases managed
    · exact consistent
    · exact consistent.modifySlot i (bindDataAddress_isNotFree packet.sender)
    · exact consistent.reserve unreserved (admits reserves)
  | create creation =>
    obtain ⟨i, reserved, rfl⟩ := Option.map_eq_some_iff.mp step
    have assigned : c.assigned = i :: c.threads.map (·.index) := by
      simp [Controller.assigned, reserved]
    cases creation with
    | succeeded =>
      have moved := assigned_append reserved
      refine ⟨?_, ?_, ?_, ?_⟩
      · intro j member
        exact consistent.inside j (moved.mem_iff.mp member)
      · exact moved.nodup_iff.mpr consistent.distinct
      · intro j
        rw [moved.mem_iff]
        exact consistent.occupied j
      · simp [consistent.counted, Controller.running]
    | failed =>
      refine consistent.freeSlot (i := i) rfl ?_ rfl ?_
      · rw [assigned]
        simp [Controller.assigned]
      · simp [consistent.counted, Controller.running]
    | outOfMemory => exact absurd rfl admits
  | start k specific =>
    obtain ⟨i, here, same⟩ := Option.map_eq_some_iff.mp step
    rw [if_pos (show specific = true from admits)] at same
    rw [← same]
    have started : Consistent { c.setPhase k i .running with gActiveWTPs := c.gActiveWTPs + 1 } :=
      consistent.setPhase here (by simp)
    have reset : Consistent (({ c.setPhase k i .running with
        gActiveWTPs := c.gActiveWTPs + 1 } : Controller).modifySlot i fun slot =>
          { slot with sessionID := none }) := started.modifySlot i fun slot => rfl
    exact reset
  | saveSessionID k sessionID =>
    obtain ⟨i, here, rfl⟩ := Option.map_eq_some_iff.mp step
    exact consistent.modifySlot i fun slot => rfl
  | leave k =>
    obtain ⟨i, here, rfl⟩ := Option.map_eq_some_iff.mp step
    exact consistent.setPhase here (by simp)
  | release k =>
    obtain ⟨i, here, rfl⟩ := Option.map_eq_some_iff.mp step
    obtain ⟨before, after, threads, -, erased⟩ := threads_split (threadIn_eq_some_iff.mp here)
    refine consistent.freeSlot (i := i) rfl ?_ rfl ?_
    · exact assigned_eraseIdx here
    · have old := consistent.counted
      simp only [Controller.running, modifySlot_gActiveWTPs, erased] at old ⊢
      rw [threads] at old
      simpa using old

/-! ## Without the condition -/

/-- What holds in every run: a slot of the table is never assigned twice, and never free while
    it is assigned. -/
structure Placed (c : Controller) : Prop where
  once : ∀ i < c.gMaxWTPs, c.assigned.count i ≤ 1
  taken : ∀ i < c.gMaxWTPs, i ∈ c.assigned → (c.gWTPs i).isNotFree = true

theorem placed_initial (gMaxWTPs : Nat) : Placed (.initial gMaxWTPs) where
  once := fun i _ => by simp [Controller.initial, Controller.assigned]
  taken := fun i _ member => by simp [Controller.initial, Controller.assigned] at member

/-- A step that takes no slot and frees none that stays assigned. -/
theorem Placed.of_fewer (placed : Placed c) (gMaxWTPs : c'.gMaxWTPs = c.gMaxWTPs)
    (fewer : ∀ i, c'.assigned.count i ≤ c.assigned.count i)
    (kept : ∀ i < c.gMaxWTPs, i ∈ c'.assigned → (c.gWTPs i).isNotFree = true →
      (c'.gWTPs i).isNotFree = true) : Placed c' := by
  refine ⟨?_, ?_⟩
  · intro i inside
    exact Nat.le_trans (fewer i) (placed.once i (gMaxWTPs ▸ inside))
  · intro i inside member
    rw [gMaxWTPs] at inside
    have before : i ∈ c.assigned :=
      List.count_pos_iff.mp (Nat.lt_of_lt_of_le (List.count_pos_iff.mpr member) (fewer i))
    exact kept i inside member (placed.taken i inside before)

theorem Placed.of_perm (placed : Placed c) (gMaxWTPs : c'.gMaxWTPs = c.gMaxWTPs)
    (assigned : c'.assigned.Perm c.assigned)
    (isNotFree : ∀ i, (c'.gWTPs i).isNotFree = (c.gWTPs i).isNotFree) : Placed c' :=
  placed.of_fewer gMaxWTPs (fun i => Nat.le_of_eq (assigned.count_eq i))
    fun i _ _ taken => (isNotFree i).trans taken

/-- A slot that leaves the assignment, and may be freed then. -/
theorem Placed.drop (placed : Placed c) {i : Nat} (gMaxWTPs : c'.gMaxWTPs = c.gMaxWTPs)
    (assigned : c.assigned.Perm (i :: c'.assigned))
    (others : ∀ j, j ≠ i → (c'.gWTPs j).isNotFree = (c.gWTPs j).isNotFree) : Placed c' := by
  refine placed.of_fewer gMaxWTPs ?_ ?_
  · intro j
    rw [assigned.count_eq j]
    exact List.count_le_count_cons
  · intro j inside member taken
    by_cases same : j = i
    · -- it would have been assigned twice
      have once := placed.once j inside
      rw [assigned.count_eq j, same, List.count_cons_self] at once
      have still := List.count_pos_iff.mpr (same ▸ member)
      omega
    · exact (others j same).trans taken

theorem Placed.reserve (placed : Placed c) (unreserved : c.reserved = none)
    (packet : IncomingPacket) : Placed (c.reserve packet) := by
  have assigned := assigned_reserve unreserved packet
  refine ⟨?_, ?_⟩
  · intro i inside
    rw [assigned]
    by_cases same : firstFree c.gWTPs c.gMaxWTPs 0 = i
    · have absent : i ∉ c.assigned := fun member => by
        have taken := placed.taken i inside member
        have vacant := firstFree_free (same ▸ inside)
        rw [same, taken] at vacant
        cases vacant
      have uncounted := List.count_eq_zero.mpr absent
      rw [same, List.count_cons_self]
      omega
    · rw [List.count_cons_of_ne same]
      exact placed.once i inside
  · intro i inside member
    rw [assigned, List.mem_cons] at member
    rw [reserve_apply]
    split
    next => rfl
    next different => exact placed.taken i inside (member.resolve_left different)

theorem Placed.step (placed : Placed c) (step : Step c event c') : Placed c' := by
  cases event with
  | incoming packet =>
    obtain ⟨unreserved, managed⟩ := Event.exec_incoming step
    obtain rfl | ⟨i, _, _, rfl⟩ | ⟨_, rfl⟩ := cwACManageIncomingPacket_cases managed
    · exact placed
    · refine placed.of_perm rfl (.refl _) fun j => ?_
      rw [modifySlot_apply]
      split
      next => rw [bindDataAddress_isNotFree]
      next => rfl
    · exact placed.reserve unreserved packet
  | create creation =>
    obtain ⟨i, reserved, rfl⟩ := Option.map_eq_some_iff.mp step
    have assigned : c.assigned = i :: c.threads.map (·.index) := by
      simp [Controller.assigned, reserved]
    cases creation with
    | succeeded => exact placed.of_perm rfl (assigned_append reserved) fun j => rfl
    | failed =>
      refine placed.drop (i := i) rfl (by rw [assigned]; simp [Controller.assigned]) ?_
      intro j different
      rw [modifySlot_of_ne _ _ different]
    | outOfMemory =>
      exact placed.drop (i := i) rfl (by rw [assigned]; simp [Controller.assigned]) fun j _ => rfl
  | start k specific =>
    obtain ⟨i, here, rfl⟩ := Option.map_eq_some_iff.mp step
    split
    next =>
      refine placed.of_perm rfl (.of_eq (assigned_setPhase here .running)) fun j => ?_
      simp only [modifySlot_apply]
      split <;> rfl
    next => exact placed.of_perm rfl (.of_eq (assigned_setPhase here .closing)) fun j => rfl
  | saveSessionID k sessionID =>
    obtain ⟨i, here, rfl⟩ := Option.map_eq_some_iff.mp step
    refine placed.of_perm rfl (.refl _) fun j => ?_
    rw [modifySlot_apply]
    split <;> rfl
  | leave k =>
    obtain ⟨i, here, rfl⟩ := Option.map_eq_some_iff.mp step
    exact placed.of_perm rfl (.of_eq (assigned_setPhase here .closing)) fun j => rfl
  | release k =>
    obtain ⟨i, here, rfl⟩ := Option.map_eq_some_iff.mp step
    refine placed.drop rfl (assigned_eraseIdx here) fun j different => ?_
    simp only [modifySlot_of_ne _ _ different]

theorem placed_of_trace {gMaxWTPs : Nat} {events : List Event}
    (trace : Run.Trace Step (.initial gMaxWTPs) events c) : Placed c :=
  trace.invariant (fun _ _ _ placed step => placed.step step) (placed_initial gMaxWTPs)

/-! ## Runs -/

/-- In every run whose steps admit, the slots are safe in the state that is reached. -/
theorem run_slotSafe (gMaxWTPs : Nat) {events : List Event} {c : Controller}
    (trace : Run.Trace Step (.initial gMaxWTPs) events c)
    (admits : Run.AllSteps Step Admits (.initial gMaxWTPs) events) : SlotSafe c :=
  (trace.kept (fun _ _ _ consistent admits step => consistent.step admits step)
    (consistent_initial gMaxWTPs) admits).slotSafe

/-- A packet of a sender at one address, told by its port. -/
def packetFrom (sinPort : UInt16) : IncomingPacket :=
  { sender := .inet 0x0A000001 sinPort, channel := .control, discoveryRequest := false }

theorem run_slotSafe_oneSession : ∃ c,
    Run.Trace Step (.initial 1)
      [.incoming (packetFrom 5246), .create .succeeded, .start 0 true] c ∧
      c.gActiveWTPs = 1 ∧ SlotSafe c := by
  have trace : Run.Trace Step (.initial 1)
      [.incoming (packetFrom 5246), .create .succeeded, .start 0 true] _ :=
    .cons rfl (.cons rfl (.cons rfl (.nil _)))
  refine ⟨_, trace, rfl, run_slotSafe 1 trace ⟨?_, ?_⟩⟩
  · intro reserves
    exact ⟨0, Nat.one_pos, rfl⟩
  · intro c reserved
    cases reserved
    refine ⟨Creation.noConfusion, ?_⟩
    intro c created
    cases created
    exact ⟨rfl, fun c started => trivial⟩

/-- The thread of the only slot has not begun when the packet of the next sender comes in. -/
theorem run_not_slotSafe : ¬ ∀ (gMaxWTPs : Nat) (events : List Event) (c : Controller),
    Run.Trace Step (.initial gMaxWTPs) events c → SlotSafe c := by
  intro holds
  have safe := holds 1
    [.incoming (packetFrom 5246), .create .succeeded, .incoming (packetFrom 5247)] _
    (.cons rfl (.cons rfl (.cons rfl (.nil _))))
  exact absurd (safe.inside 1 (by decide)) (by decide)

end WlanController.Admission
