import Mathlib.Data.List.Basic

/-!
# Loops whose bound is not the length of the array

A loop counts up to a bound of its own, looks at one element in each turn and stops at the
first that yields a result.  If the bound is larger than the array, it can run outside.
-/

namespace BoundedScan

variable {α β : Type*}

inductive Outcome (β : Type*) where
  | found (index : Nat) (result : β)
  /-- The loop has looked at all elements up to its bound. -/
  | exhausted
  /-- The loop has looked for an element that the array does not have. -/
  | outside
  deriving DecidableEq, Repr

def Outcome.shift : Outcome β → Outcome β
  | .found index result => .found (index + 1) result
  | .exhausted => .exhausted
  | .outside => .outside

/-- `for (i = 0; i < bound; i++)`, with `probe` on the element of each turn. -/
def scan (probe : α → Option β) : (bound : Nat) → List α → Outcome β
  | 0, _ => .exhausted
  | _ + 1, [] => .outside
  | bound + 1, element :: rest =>
      match probe element with
      | some result => .found 0 result
      | none => (scan probe bound rest).shift

/-- The first element with a result stands at `index`. -/
def First (probe : α → Option β) (elements : List α) (index : Nat) (result : β) : Prop :=
  (∃ element, elements[index]? = some element ∧ probe element = some result) ∧
    ∀ j < index, ∀ element, elements[j]? = some element → probe element = none

variable {probe : α → Option β} {elements : List α} {element : α} {bound index : Nat} {result : β}

theorem first_zero_iff : First probe (element :: elements) 0 result ↔ probe element = some result := by
  simp [First]

theorem first_succ_iff : First probe (element :: elements) (index + 1) result ↔
    probe element = none ∧ First probe elements index result := by
  simp only [First, List.getElem?_cons_succ]
  constructor
  · intro ⟨here, before⟩
    exact ⟨before 0 (Nat.succ_pos index) element rfl, here,
      fun j below => before (j + 1) (Nat.succ_lt_succ below)⟩
  · intro ⟨fails, here, before⟩
    refine ⟨here, fun j below => ?_⟩
    cases j with
    | zero =>
      intro element' same
      cases same
      exact fails
    | succ j => exact before j (Nat.lt_of_succ_lt_succ below)

theorem scan_cons_of_some (probed : probe element = some result) :
    scan probe (bound + 1) (element :: elements) = .found 0 result := by
  simp [scan, probed]

theorem scan_cons_of_none (probed : probe element = none) :
    scan probe (bound + 1) (element :: elements) = (scan probe bound elements).shift := by
  simp [scan, probed]

theorem shift_eq_found {outcome : Outcome β} : outcome.shift = .found index result ↔
    ∃ before, index = before + 1 ∧ outcome = .found before result := by
  cases outcome with
  | found before result' =>
    simp only [Outcome.shift, Outcome.found.injEq]
    constructor
    · intro ⟨same, same'⟩
      exact ⟨before, same.symm, rfl, same'⟩
    · intro ⟨before', same, same', same''⟩
      exact ⟨by omega, same''⟩
  | exhausted => simp [Outcome.shift]
  | outside => simp [Outcome.shift]

theorem scan_eq_found : scan probe bound elements = .found index result ↔
    index < bound ∧ First probe elements index result := by
  induction bound generalizing elements index with
  | zero => simp [scan]
  | succ bound inductionHypothesis =>
    cases elements with
    | nil => simp [scan, First]
    | cons element elements =>
      cases probed : probe element with
      | some result' =>
        rw [scan_cons_of_some probed]
        cases index with
        | zero => simp [first_zero_iff, probed]
        | succ index => simp [first_succ_iff, probed]
      | none =>
        rw [scan_cons_of_none probed, shift_eq_found]
        cases index with
        | zero => simp [first_zero_iff, probed]
        | succ index => simp [first_succ_iff, probed, inductionHypothesis]

theorem scan_eq_exhausted : scan probe bound elements = .exhausted ↔
    bound ≤ elements.length ∧ ∀ element ∈ elements.take bound, probe element = none := by
  induction bound generalizing elements with
  | zero => simp [scan]
  | succ bound inductionHypothesis =>
    cases elements with
    | nil => simp [scan]
    | cons element elements =>
      cases probed : probe element with
      | some result' => simp [scan_cons_of_some probed, probed]
      | none =>
        have shifted : (scan probe bound elements).shift = .exhausted ↔
            scan probe bound elements = .exhausted := by
          cases scan probe bound elements <;> simp [Outcome.shift]
        rw [scan_cons_of_none probed, shifted, inductionHypothesis]
        simp [probed]

end BoundedScan
