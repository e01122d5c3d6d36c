import Mathlib.Data.List.Sort

/-!
# Schedules

A schedule accepts requests that are due at some time, gives each the next number, and keeps
them in a queue that is ordered by the time they are due and, where that is the same, by
number.  What is due is taken off the front and becomes past; what is cancelled is marked, or
taken out of the queue.

`WellKept` says what holds of such a schedule, whatever is done to it: past and queue together
are in order, so nothing is taken out of turn; every request that has not been cancelled is
still there, once; and nothing that has been cancelled is past.
-/

namespace Scheduling

structure Entry where
  id : Nat
  due : Nat
  cancelled : Bool
  deriving DecidableEq

def Entry.Before (e e' : Entry) : Prop := e.due < e'.due ∨ e.due = e'.due ∧ e.id < e'.id

/-- A request with its number and the time it is due. -/
abbrev Request := Nat × Nat

structure Schedule where
  now : Nat
  nextId : Nat
  past : List Entry
  queue : List Entry
  accepted : List Request
  cancelled : List Nat

namespace Schedule

/-- Everything that has not been dropped, in order. -/
def timeline (s : Schedule) : List Entry := s.past ++ s.queue

/-- An entry is put in front of the first one that is due later. -/
def insert (e : Entry) (queue : List Entry) : List Entry :=
  queue.orderedInsert (fun e e' => e.due < e'.due) e

def add (s : Schedule) (due : Nat) : Schedule :=
  { s with
    nextId := s.nextId + 1
    queue := insert ⟨s.nextId, due, false⟩ s.queue
    accepted := (s.nextId, due) :: s.accepted }

def advance (s : Schedule) (time : Nat) : Schedule := { s with now := s.now + time }

/-- The request has been accepted and is not past. -/
def Open (s : Schedule) (id : Nat) : Prop := id < s.nextId ∧ id ∉ s.past.map Entry.id

instance (s : Schedule) (id : Nat) : Decidable (s.Open id) := inferInstanceAs (Decidable (_ ∧ _))

/-- What remains of the queue when a request is cancelled is given. -/
def cancel (s : Schedule) (id : Nat) (queue : List Entry) : Schedule :=
  { s with
    queue := queue
    cancelled := if s.Open id then id :: s.cancelled else s.cancelled }

structure WellKept (s : Schedule) : Prop where
  inOrder : s.timeline.Pairwise Entry.Before
  distinct : (s.timeline.map Entry.id).Nodup
  requested : ∀ e ∈ s.timeline, (e.id, e.due) ∈ s.accepted
  issued : ∀ request ∈ s.accepted, request.1 < s.nextId
  unique : (s.accepted.map Prod.fst).Nodup
  cancelled_lt : ∀ id ∈ s.cancelled, id < s.nextId
  marked : ∀ e ∈ s.timeline, e.cancelled = true ↔ e.id ∈ s.cancelled
  kept : ∀ request ∈ s.accepted, request.1 ∉ s.cancelled → request.1 ∈ s.timeline.map Entry.id
  past_due : ∀ e ∈ s.past, e.due ≤ s.now

/-- A schedule that nothing has been requested of. -/
def empty (now : Nat) : Schedule := ⟨now, 0, [], [], [], []⟩

theorem wellKept_empty (now : Nat) : (empty now).WellKept := by
  constructor <;> simp [empty, timeline]

/-! ## Time passes -/

theorem WellKept.advance {s : Schedule} (kept : s.WellKept) (time : Nat) :
    (s.advance time).WellKept :=
  { kept with
    past_due := fun e member => Nat.le_trans (kept.past_due e member) (Nat.le_add_right _ _) }

/-! ## A request is accepted -/

theorem mem_insert {e e' : Entry} {queue : List Entry} :
    e' ∈ insert e queue ↔ e' = e ∨ e' ∈ queue :=
  List.mem_orderedInsert _

theorem perm_insert (e : Entry) (queue : List Entry) : (insert e queue).Perm (e :: queue) :=
  List.perm_orderedInsert _ e queue

/-- The latest of those that are due at one time goes behind the others. -/
theorem pairwise_insert {e : Entry} {queue : List Entry} (inOrder : queue.Pairwise Entry.Before)
    (newest : ∀ e' ∈ queue, e'.id < e.id) : (insert e queue).Pairwise Entry.Before := by
  induction queue with
  | nil => simp [insert]
  | cons first queue inductionHypothesis =>
    rw [List.pairwise_cons] at inOrder
    obtain ⟨ahead, rest⟩ := inOrder
    by_cases sooner : e.due < first.due
    · -- whatever is behind the first is due no sooner than it
      have front : insert e (first :: queue) = e :: first :: queue := by simp [insert, sooner]
      rw [front, List.pairwise_cons, List.pairwise_cons]
      refine ⟨fun e' member => ?_, ahead, rest⟩
      rw [List.mem_cons] at member
      cases member with
      | inl same => exact .inl (same ▸ sooner)
      | inr member =>
        cases ahead e' member with
        | inl later => exact .inl (Nat.lt_trans sooner later)
        | inr same => exact .inl (same.1 ▸ sooner)
    · have behind : insert e (first :: queue) = first :: insert e queue := by simp [insert, sooner]
      rw [behind, List.pairwise_cons]
      refine ⟨fun e' member => ?_,
        inductionHypothesis rest fun e' member => newest e' (List.mem_cons_of_mem _ member)⟩
      rw [mem_insert] at member
      cases member with
      | inl same =>
        subst same
        have older := newest first List.mem_cons_self
        cases Nat.lt_or_eq_of_le (Nat.le_of_not_lt sooner) with
        | inl later => exact .inl later
        | inr same => exact .inr ⟨same, older⟩
      | inr member => exact ahead e' member

theorem WellKept.id_lt {s : Schedule} (kept : s.WellKept) {e : Entry} (member : e ∈ s.timeline) :
    e.id < s.nextId :=
  kept.issued _ (kept.requested e member)

/-- Everything past is due before anything that is requested for later than now. -/
theorem WellKept.add {s : Schedule} (kept : s.WellKept) {due : Nat} (later : s.now < due) :
    (s.add due).WellKept := by
  have same : (s.add due).timeline.Perm (⟨s.nextId, due, false⟩ :: s.timeline) :=
    ((perm_insert _ s.queue).append_left s.past).trans List.perm_middle
  have members : ∀ e, e ∈ (s.add due).timeline ↔ e = ⟨s.nextId, due, false⟩ ∨ e ∈ s.timeline := by
    intro e
    rw [same.mem_iff, List.mem_cons]
  have unissued : s.nextId ∉ s.timeline.map Entry.id := by
    intro member
    obtain ⟨e, member, same⟩ := List.mem_map.mp member
    exact Nat.lt_irrefl _ (same ▸ kept.id_lt member)
  have unaccepted : s.nextId ∉ s.accepted.map Prod.fst := by
    intro member
    obtain ⟨request, member, same⟩ := List.mem_map.mp member
    exact Nat.lt_irrefl _ (same ▸ kept.issued request member)
  constructor
  case inOrder =>
    have inOrder := kept.inOrder
    rw [timeline, List.pairwise_append] at inOrder
    obtain ⟨past, queue, apart⟩ := inOrder
    rw [timeline, List.pairwise_append]
    refine ⟨past, pairwise_insert queue fun e member => kept.id_lt (List.mem_append_right _ member),
      fun e member e' member' => ?_⟩
    rw [Schedule.add, mem_insert] at member'
    cases member' with
    | inl same =>
      subst same
      exact .inl (Nat.lt_of_le_of_lt (kept.past_due e member) later)
    | inr member' => exact apart e member e' member'
  case distinct =>
    rw [(same.map Entry.id).nodup_iff, List.map_cons, List.nodup_cons]
    exact ⟨unissued, kept.distinct⟩
  case requested =>
    intro e member
    cases (members e).mp member with
    | inl same =>
      subst same
      exact List.mem_cons_self
    | inr member => exact List.mem_cons_of_mem _ (kept.requested e member)
  case issued =>
    intro request member
    cases List.mem_cons.mp member with
    | inl same =>
      subst same
      exact Nat.lt_succ_self _
    | inr member => exact Nat.lt_succ_of_lt (kept.issued request member)
  case unique =>
    rw [Schedule.add, List.map_cons, List.nodup_cons]
    exact ⟨unaccepted, kept.unique⟩
  case cancelled_lt =>
    exact fun id member => Nat.lt_succ_of_lt (kept.cancelled_lt id member)
  case marked =>
    intro e member
    cases (members e).mp member with
    | inl same =>
      subst same
      have open_yet : s.nextId ∉ s.cancelled := fun member =>
        Nat.lt_irrefl _ (kept.cancelled_lt _ member)
      simp [Schedule.add, open_yet]
    | inr member => exact kept.marked e member
  case kept =>
    intro request member uncancelled
    rw [(same.map Entry.id).mem_iff, List.map_cons, List.mem_cons]
    cases List.mem_cons.mp member with
    | inl same => exact .inl (same ▸ rfl)
    | inr member => exact .inr (kept.kept request member uncancelled)
  case past_due => exact kept.past_due

/-! ## A request is cancelled -/

def mark (id : Nat) (e : Entry) : Entry :=
  if e.id = id then { e with cancelled := true } else e

@[simp] theorem mark_id (id : Nat) (e : Entry) : (mark id e).id = e.id := by
  unfold mark
  split <;> rfl

@[simp] theorem mark_due (id : Nat) (e : Entry) : (mark id e).due = e.due := by
  unfold mark
  split <;> rfl

/-- Nothing but the request is touched: it is marked or taken out. -/
structure Cancels (id : Nat) (queue queue' : List Entry) : Prop where
  marked : queue'.Sublist (queue.map (mark id))
  others : ∀ e ∈ queue, e.id ≠ id → e ∈ queue'

theorem WellKept.cancel {s : Schedule} (kept : s.WellKept) {id : Nat} {queue : List Entry}
    (cancels : Cancels id s.queue queue) (here : id ∉ s.past.map Entry.id) :
    (s.cancel id queue).WellKept := by
  -- the past is not marked, for the request is not in it
  have unmarked : s.past = s.past.map (mark id) := by
    have same : ∀ e ∈ s.past, mark id e = e := fun e member =>
      if_neg fun same => here (List.mem_map.mpr ⟨e, member, same⟩)
    rw [List.map_congr_left same, List.map_id']
  have sublist : (s.cancel id queue).timeline.Sublist (s.timeline.map (mark id)) := by
    rw [timeline, timeline, List.map_append, ← unmarked]
    exact cancels.marked.append_left s.past
  have origin : ∀ e ∈ (s.cancel id queue).timeline, ∃ e' ∈ s.timeline, mark id e' = e :=
    fun e member => List.mem_map.mp (sublist.subset member)
  have others : ∀ e ∈ s.timeline, e.id ≠ id → e ∈ (s.cancel id queue).timeline := by
    intro e member different
    rw [timeline, List.mem_append] at member ⊢
    exact member.imp_right fun member => cancels.others e member different
  have ids : (s.timeline.map (mark id)).map Entry.id = s.timeline.map Entry.id := by
    rw [List.map_map]
    exact List.map_congr_left fun e _ => mark_id id e
  have cancelled : ∀ id', id' ∈ (s.cancel id queue).cancelled ↔
      id' ∈ s.cancelled ∨ id' = id ∧ id < s.nextId := by
    intro id'
    simp only [Schedule.cancel, Open]
    by_cases issued : id < s.nextId
    · simp only [issued, here, not_false_eq_true, and_self, if_true, List.mem_cons, and_true]
      exact or_comm
    · simp [issued]
  constructor
  case inOrder =>
    refine List.Pairwise.sublist sublist ?_
    rw [List.pairwise_map]
    exact kept.inOrder.imp fun before => by simpa [Entry.Before] using before
  case distinct =>
    refine List.Nodup.sublist (sublist.map Entry.id) ?_
    rw [ids]
    exact kept.distinct
  case requested =>
    intro e member
    obtain ⟨e', member', rfl⟩ := origin e member
    rw [mark_id, mark_due]
    exact kept.requested e' member'
  case issued => exact kept.issued
  case unique => exact kept.unique
  case cancelled_lt =>
    intro id' member
    cases (cancelled id').mp member with
    | inl member => exact kept.cancelled_lt id' member
    | inr same => exact same.1 ▸ same.2
  case marked =>
    intro e member
    obtain ⟨e', member', rfl⟩ := origin e member
    have marked := kept.marked e' member'
    have issued := kept.id_lt member'
    rw [cancelled, mark_id]
    by_cases same : e'.id = id
    · rw [same] at issued
      simp [mark, same, issued]
    · simp [mark, same, marked]
  case kept =>
    intro request member uncancelled
    rw [cancelled, not_or] at uncancelled
    obtain ⟨e, member', same⟩ := List.mem_map.mp (kept.kept request member uncancelled.1)
    have issued := kept.issued request member
    have different : e.id ≠ id := by
      intro same'
      rw [same] at same'
      exact uncancelled.2 ⟨same', same' ▸ issued⟩
    exact List.mem_map.mpr ⟨e, others e member' different, same⟩
  case past_due => exact kept.past_due

/-! ## The front of the queue is taken off -/

/-- The first entry becomes past. -/
def pass (s : Schedule) (e : Entry) (queue : List Entry) : Schedule :=
  { s with past := s.past ++ [e], queue := queue }

/-- The first entry is dropped. -/
def drop (s : Schedule) (queue : List Entry) : Schedule := { s with queue := queue }

theorem WellKept.pass {s : Schedule} (kept : s.WellKept) {e : Entry} {queue : List Entry}
    (first : s.queue = e :: queue) (due : e.due ≤ s.now) : (s.pass e queue).WellKept := by
  have same : (s.pass e queue).timeline = s.timeline := by
    simp [timeline, Schedule.pass, first]
  exact
    { inOrder := same ▸ kept.inOrder
      distinct := same ▸ kept.distinct
      requested := same ▸ kept.requested
      issued := kept.issued
      unique := kept.unique
      cancelled_lt := kept.cancelled_lt
      marked := same ▸ kept.marked
      kept := same ▸ kept.kept
      past_due := by
        intro e' member
        cases List.mem_append.mp member with
        | inl member => exact kept.past_due e' member
        | inr member => exact List.mem_singleton.mp member ▸ due }

/-- What has been cancelled may be dropped. -/
theorem WellKept.drop {s : Schedule} (kept : s.WellKept) {e : Entry} {queue : List Entry}
    (first : s.queue = e :: queue) (cancelled : e.cancelled = true) : (s.drop queue).WellKept := by
  have sublist : (s.drop queue).timeline.Sublist s.timeline := by
    rw [timeline, timeline, first]
    exact (List.sublist_cons_self e queue).append_left s.past
  have here : e ∈ s.timeline := by
    rw [timeline, first]
    exact List.mem_append_right _ List.mem_cons_self
  exact
    { inOrder := kept.inOrder.sublist sublist
      distinct := kept.distinct.sublist (sublist.map Entry.id)
      requested := fun e' member => kept.requested e' (sublist.subset member)
      issued := kept.issued
      unique := kept.unique
      cancelled_lt := kept.cancelled_lt
      marked := fun e' member => kept.marked e' (sublist.subset member)
      kept := by
        intro request member uncancelled
        obtain ⟨e', member', same⟩ := List.mem_map.mp (kept.kept request member uncancelled)
        refine List.mem_map.mpr ⟨e', ?_, same⟩
        rw [timeline, first, List.mem_append, List.mem_cons] at member'
        rw [timeline, List.mem_append]
        refine member'.imp_right fun member' => ?_
        cases member' with
        | inl same' =>
          -- it would have been cancelled
          rw [← same, same'] at uncancelled
          exact absurd ((kept.marked e here).mp cancelled) uncancelled
        | inr member' => exact member'
      past_due := kept.past_due }

end Schedule

end Scheduling
