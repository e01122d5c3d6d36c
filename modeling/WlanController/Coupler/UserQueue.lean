import Mathlib.Algebra.Order.Ring.Int
import Mathlib.Data.List.Basic
import Mathlib.Tactic.IntervalCases
import WlanController.Foundation.CircularCells
import WlanController.Foundation.Run

/-!
# The queue of the user simulator

Users that ask for access wait in a circular array of strings.  A thread reads what the access point
has written into a pipe and puts it into the array, and tries again while the array is full; another
one takes the strings out and hands them to the middleware.  The operations on the array are under a
lock, but their results are in a variable that both threads look at after they have left it.
-/

namespace WlanController.Coupler

open CircularCells

variable {α : Type}

/-! ## `insq` and `delq` -/

/-- `#define max 5` -/
def maxQueue : Nat := 5

/-- The array with the positions of its first and its last string, which are `-1` in an empty
queue. -/
structure UserQueue (α : Type) where
  queue : Fin maxQueue → α
  front : Int
  rear : Int
  qCounter : Int

/-- `none` where the position is outside. -/
def cell (position : Int) : Option (Fin maxQueue) :=
  if inside : 0 ≤ position ∧ position.toNat < maxQueue then some ⟨position.toNat, inside.2⟩
  else none

namespace UserQueue

/-- `strcpy(queue[*rear],data); ++qCounter;` -/
def store (users : UserQueue α) (front rear : Int) (data : α) : Option (Bool × UserQueue α) := do
  let here ← cell rear
  return (true, ⟨Function.update users.queue here data, front, rear, users.qCounter + 1⟩)

/-- Answers `false` for `-1`, and is `none` where there is an access outside the array. -/
def insq (users : UserQueue α) (data : α) : Option (Bool × UserQueue α) :=
  if (users.front = 0 ∧ users.rear = maxQueue - 1) ∨
      users.rear = (users.front - 1).tmod (maxQueue - 1) then
    some (false, users)
  else if users.front = -1 then users.store 0 0 data
  else if users.rear = maxQueue - 1 ∧ users.front ≠ 0 then users.store users.front 0 data
  else users.store users.front (users.rear + 1) data

/-- The string that is copied to `data`, and `none` for the answer `-1`. -/
def delq (users : UserQueue α) : Option (Option α × UserQueue α) :=
  if users.front = -1 then some (none, users)
  else do
    let here ← cell users.front
    let taken := some (users.queue here)
    let qCounter := users.qCounter - 1
    if users.front = users.rear then return (taken, ⟨users.queue, -1, -1, qCounter⟩)
    else if users.front = maxQueue - 1 then return (taken, ⟨users.queue, 0, users.rear, qCounter⟩)
    else return (taken, ⟨users.queue, users.front + 1, users.rear, qCounter⟩)

end UserQueue

/-! ## A queue of at most five -/

/-- The array has these strings, from `front` on. -/
structure Represents (users : UserQueue α) (waiting : List α) : Prop where
  counted : users.qCounter = waiting.length
  empty : waiting = [] → users.front = -1 ∧ users.rear = -1
  inhabited : waiting ≠ [] → ∃ front : Nat, front < maxQueue ∧ users.front = front ∧
    users.rear = index maxQueue front (waiting.length - 1) ∧ Holds users.queue front waiting

namespace Represents

variable {users : UserQueue α} {waiting : List α}

theorem length_le (represents : Represents users waiting) : waiting.length ≤ maxQueue := by
  cases waiting with
  | nil => exact Nat.zero_le _
  | cons first waiting =>
    obtain ⟨front, _, _, _, holds⟩ := represents.inhabited (List.cons_ne_nil _ _)
    exact holds.1

theorem initial (queue : Fin maxQueue → α) : Represents ⟨queue, -1, -1, 0⟩ [] :=
  ⟨rfl, fun _ => ⟨rfl, rfl⟩, fun inhabited => absurd rfl inhabited⟩

/-- What is left of the position of a place in front of the first string. -/
theorem tmod_front {front : Nat} (inside : front < maxQueue) :
    ((front : Int) - 1).tmod (maxQueue - 1) = front - 1 := by
  unfold maxQueue at inside ⊢
  interval_cases front <;> rfl

/-- The test for a full queue. -/
theorem full_iff (represents : Represents users waiting) :
    ((users.front = 0 ∧ users.rear = maxQueue - 1) ∨
      users.rear = (users.front - 1).tmod (maxQueue - 1)) ↔ waiting.length = maxQueue := by
  cases waiting with
  | nil =>
    obtain ⟨front, rear⟩ := represents.empty rfl
    rw [front, rear]
    simp [maxQueue]
  | cons first waiting =>
    obtain ⟨front, inside, here, behind, holds⟩ := represents.inhabited (List.cons_ne_nil _ _)
    have few := holds.1
    rw [here, behind, tmod_front inside]
    unfold maxQueue index at *
    rw [List.length_cons] at few ⊢
    omega

/-- A string that is stored behind the others. -/
theorem store (represents : Represents users waiting) (room : waiting.length < maxQueue)
    {front : Nat} (inside : front < maxQueue) (holds : Holds users.queue front waiting) {rear : Int}
    (behind : rear = index maxQueue front waiting.length) (data : α) :
    ∃ users', users.store front rear data = some (true, users') ∧
      Represents users' (waiting ++ [data]) := by
  have within := index_lt (show 0 < maxQueue by decide) front waiting.length
  have here : cell rear = some ⟨index maxQueue front waiting.length, within⟩ := by
    rw [behind, cell, dif_pos ⟨Int.natCast_nonneg _, within⟩]
    rfl
  refine ⟨⟨Function.update users.queue ⟨_, within⟩ data, front, rear, users.qCounter + 1⟩, ?_,
    ?counted, ?empty, ?inhabited⟩
  · rw [UserQueue.store, here]
    rfl
  case counted =>
    have counted := represents.counted
    simp only [List.length_append, List.length_singleton]
    omega
  case empty => exact fun empty => absurd empty (by simp)
  case inhabited =>
    intro _
    refine ⟨front, inside, rfl, ?_, holds.push room _ rfl data⟩
    rw [behind]
    simp

/-- A string more waits, if there is room for it. -/
theorem insq (represents : Represents users waiting) (data : α) :
    if waiting.length = maxQueue then users.insq data = some (false, users)
    else ∃ users', users.insq data = some (true, users') ∧
      Represents users' (waiting ++ [data]) := by
  split
  next full => rw [UserQueue.insq, if_pos (represents.full_iff.mpr full)]
  next room =>
    have notFull := fun full => room (represents.full_iff.mp full)
    rw [UserQueue.insq, if_neg notFull]
    cases waiting with
    | nil =>
      obtain ⟨front, _⟩ := represents.empty rfl
      rw [if_pos front]
      have room : ([] : List α).length < maxQueue := Nat.succ_pos 4
      exact represents.store room (Nat.succ_pos 4) (holds_nil users.queue 0) rfl data
    | cons first waiting =>
      obtain ⟨front, inside, here, behind, holds⟩ := represents.inhabited (List.cons_ne_nil _ _)
      have few := holds.1
      have some : ¬ users.front = -1 := by omega
      have less : (first :: waiting).length < maxQueue := Nat.lt_of_le_of_ne few room
      rw [if_neg some, here]
      have last : users.rear = index maxQueue front waiting.length := by simpa using behind
      split
      next around =>
        apply represents.store less inside holds
        unfold maxQueue index at *
        rw [List.length_cons]
        omega
      next straight =>
        apply represents.store less inside holds
        unfold maxQueue index at *
        rw [List.length_cons] at *
        omega

/-- The first string comes out, if there is one. -/
theorem delq_nil (represents : Represents users ([] : List α)) : users.delq = some (none, users) := by
  rw [UserQueue.delq, if_pos (represents.empty rfl).1]

theorem delq_cons {first : α} (represents : Represents users (first :: waiting)) :
    ∃ users', users.delq = some (some first, users') ∧ Represents users' waiting := by
  obtain ⟨front, inside, here, behind, holds⟩ := represents.inhabited (List.cons_ne_nil _ _)
  have few := holds.1
  have counted := represents.counted
  obtain ⟨taken, rest⟩ := holds.pop
  have some : ¬ users.front = -1 := by omega
  have found : cell users.front = Option.some ⟨front, inside⟩ := by
    rw [here, cell, dif_pos ⟨Int.natCast_nonneg _, inside⟩]
    rfl
  have string : users.queue ⟨front, inside⟩ = first :=
    taken _ (Nat.mod_eq_of_lt inside).symm
  have last : users.rear = index maxQueue front waiting.length := by simpa using behind
  rw [List.length_cons] at few counted
  have less : users.qCounter - 1 = waiting.length := by omega
  -- where the next string is, if there is one
  have next : waiting ≠ [] → users.rear = index maxQueue ((front + 1) % maxQueue)
      (waiting.length - 1) ∧ Holds users.queue ((front + 1) % maxQueue) waiting := by
    intro inhabited
    have some := List.length_pos_iff.mpr inhabited
    refine ⟨?_, holds_mod rest⟩
    rw [last, index_mod, index_succ, Nat.sub_add_cancel some]
  rw [UserQueue.delq, if_neg some, found]
  simp only [Option.bind_eq_bind, Option.bind_some, string]
  by_cases only : users.front = users.rear
  · have none : waiting = [] := by
      apply List.eq_nil_of_length_eq_zero
      unfold maxQueue index at *
      omega
    rw [if_pos only]
    exact ⟨_, rfl, less, fun _ => ⟨rfl, rfl⟩, fun inhabited => absurd none inhabited⟩
  · have inhabited : waiting ≠ [] := by
      intro none
      subst none
      unfold maxQueue index at *
      simp only [List.length_nil] at last
      omega
    obtain ⟨behind', holds'⟩ := next inhabited
    rw [if_neg only]
    by_cases around : users.front = maxQueue - 1
    · have zero : (front + 1) % maxQueue = 0 := by
        unfold maxQueue at *
        omega
      rw [zero] at behind' holds'
      rw [if_pos around]
      exact ⟨_, rfl, less, fun none => absurd none inhabited,
        fun _ => ⟨0, Nat.succ_pos 4, rfl, behind', holds'⟩⟩
    · have small : front + 1 < maxQueue := by
        unfold maxQueue at *
        omega
      rw [Nat.mod_eq_of_lt small] at behind' holds'
      rw [if_neg around]
      exact ⟨_, rfl, less, fun none => absurd none inhabited,
        fun _ => ⟨front + 1, small, by rw [here]; rfl, behind', holds'⟩⟩

end Represents

end WlanController.Coupler
