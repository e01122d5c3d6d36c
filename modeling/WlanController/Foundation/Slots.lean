import Mathlib.Data.Fin.Tuple.Basic

/-!
# Searching a table of slots

A table has a fixed number of slots, and a slot may hold a key.  Loops over a table stop at
the first slot whose key passes a test, which need not be equality.
-/

namespace Slots

variable {α : Type*} {n : Nat}

/-- The first slot that holds a key which passes the test. -/
def first (key : Fin n → Option α) (test : α → Bool) : Option (Fin n) :=
  Fin.find? fun i => (key i).any test

variable {key : Fin n → Option α} {test : α → Bool} {i : Fin n}

theorem first_eq_some_iff : first key test = some i ↔
    (∃ a, key i = some a ∧ test a = true) ∧ ∀ j < i, ∀ a, key j = some a → test a = false := by
  simp only [first, Fin.find?_eq_some_iff, Option.any_eq_true, Option.any_eq_false]

theorem first_eq_none_iff :
    first key test = none ↔ ∀ i a, key i = some a → test a = false := by
  simp only [first, Fin.find?_eq_none_iff, Option.any_eq_false]

/-- A search succeeds if there is something to be found. -/
theorem exists_first {a : α} (holds : key i = some a) (passes : test a = true) :
    ∃ j, first key test = some j ∧ j ≤ i := by
  cases found : first key test with
  | none =>
    have fails := first_eq_none_iff.mp found i a holds
    rw [passes] at fails
    cases fails
  | some j =>
    refine ⟨j, rfl, le_of_not_gt fun before => ?_⟩
    have fails := (first_eq_some_iff.mp found).2 i before a holds
    rw [passes] at fails
    cases fails

section Matching

variable (matching : α → α → Bool)

/-- No two slots hold keys that match. -/
def Apart (key : Fin n → Option α) : Prop :=
  ∀ i j a b, key i = some a → key j = some b → matching a b = true → i = j

variable {matching} {a : α}

/-- The search for a key finds its slot, and nothing else, exactly when no other key
    matches it. -/
theorem first_exact_iff (refl : ∀ a, matching a a = true) (apart : Apart matching key) :
    (∀ i, first key (matching · a) = some i ↔ key i = some a) ↔
      ∀ i b, key i = some b → matching b a = true → b = a := by
  constructor
  · intro exact i b holds passes
    obtain ⟨j, found, -⟩ : ∃ j, first key (matching · a) = some j ∧ j ≤ i :=
      exists_first holds passes
    have here := (exact j).mp found
    obtain rfl := apart i j b a holds here passes
    exact Option.some.inj (holds.symm.trans here)
  · intro only i
    constructor
    · intro found
      obtain ⟨⟨b, holds, passes⟩, -⟩ := first_eq_some_iff.mp found
      rw [← only i b holds passes]
      exact holds
    · intro holds
      refine first_eq_some_iff.mpr ⟨⟨a, holds, refl a⟩, fun j before b holds' => ?_⟩
      cases passes : matching b a with
      | false => rfl
      | true => exact absurd (apart j i b a holds' holds passes) before.ne

/-- Storing a key that matches none keeps the keys apart. -/
theorem Apart.store (symm : ∀ a b, matching a b = true → matching b a = true)
    (apart : Apart matching key) (absent : ∀ i b, key i = some b → matching b a = false)
    (i : Fin n) : Apart matching (Function.update key i (some a)) := by
  intro j k b c holds holds' passes
  rw [Function.update_apply] at holds holds'
  by_cases here : j = i
  · by_cases there : k = i
    · rw [here, there]
    · rw [if_pos here] at holds
      rw [if_neg there] at holds'
      cases holds
      have reversed := symm _ _ passes
      rw [absent k c holds'] at reversed
      cases reversed
  · rw [if_neg here] at holds
    by_cases there : k = i
    · rw [if_pos there] at holds'
      cases holds'
      rw [absent j b holds] at passes
      cases passes
    · rw [if_neg there] at holds'
      exact apart j k b c holds holds' passes

/-- Clearing slots keeps the keys apart. -/
theorem Apart.of_cleared {key' : Fin n → Option α} (apart : Apart matching key)
    (cleared : ∀ i, key' i = none ∨ key' i = key i) : Apart matching key' := by
  intro i j a b holds holds' passes
  have before : ∀ k c, key' k = some c → key k = some c := by
    intro k c holds
    obtain none | same := cleared k
    · rw [none] at holds
      cases holds
    · rw [← same]
      exact holds
  exact apart i j a b (before i a holds) (before j b holds') passes

end Matching

end Slots
