import Mathlib.Logic.Basic

/-!
# Programs over a state that may end early

A program of `EStateM` returns or ends, and leaves a state in either case.  `Keeps Inv` says
that whatever the program does, the state that it leaves satisfies `Inv` if the first did.
`Ensures P program Q E` says what holds behind the program where `P` holds in front of it: `Q` of
what it returns and `E` of what it ends with.
-/

namespace Programs

universe u

variable {ε σ α β : Type u}

/-- The state that is left, whether the program returns or ends. -/
def left (program : EStateM ε σ α) (s : σ) : σ :=
  match program s with
  | .ok _ s' => s'
  | .error _ s' => s'

def Keeps (Inv : σ → Prop) (program : EStateM ε σ α) : Prop :=
  ∀ s, Inv s → Inv (left program s)

variable {Inv : σ → Prop} {s s' : σ}

theorem left_of_ok {program : EStateM ε σ α} {a : α} (returned : program s = .ok a s') :
    left program s = s' := by
  rw [left, returned]

theorem left_of_error {program : EStateM ε σ α} {e : ε} (ended : program s = .error e s') :
    left program s = s' := by
  rw [left, ended]

theorem left_congr {program other : EStateM ε σ α} (same : program s = other s') :
    left program s = left other s' := by
  rw [left, left, same]

theorem keeps_pure (a : α) : Keeps Inv (pure a : EStateM ε σ α) := fun _ holds => holds

theorem keeps_throw (e : ε) : Keeps Inv (throw e : EStateM ε σ α) := fun _ holds => holds

theorem keeps_get : Keeps Inv (get : EStateM ε σ σ) := fun _ holds => holds

theorem keeps_modify {f : σ → σ} (kept : ∀ s, Inv s → Inv (f s)) :
    Keeps Inv (modify f : EStateM ε σ PUnit) := kept

theorem Keeps.bind {program : EStateM ε σ α} {next : α → EStateM ε σ β} (first : Keeps Inv program)
    (second : ∀ a, Keeps Inv (next a)) : Keeps Inv (program >>= next) := by
  intro s holds
  have middle := first s holds
  simp only [left, Bind.bind, EStateM.bind] at middle ⊢
  cases result : program s with
  | ok a s' =>
    rw [result] at middle
    exact second a s' middle
  | error e s' =>
    rw [result] at middle
    exact middle

theorem Keeps.ite {condition : Prop} [Decidable condition] {program other : EStateM ε σ α}
    (first : Keeps Inv program) (second : Keeps Inv other) :
    Keeps Inv (if condition then program else other) := by
  split
  · exact first
  · exact second

/-! ## What holds behind a program -/

def Ensures (P : σ → Prop) (program : EStateM ε σ α) (Q : α → σ → Prop) (E : ε → σ → Prop) : Prop :=
  ∀ s, P s → match program s with
    | .ok a s' => Q a s'
    | .error e s' => E e s'

section Ensures

variable {P P' : σ → Prop} {Q Q' : α → σ → Prop} {R : β → σ → Prop} {E E' : ε → σ → Prop}

theorem ensures_pure {a : α} (holds : ∀ s, P s → Q a s) :
    Ensures P (pure a : EStateM ε σ α) Q E := holds

theorem ensures_throw {e : ε} (holds : ∀ s, P s → E e s) :
    Ensures P (throw e : EStateM ε σ α) Q E := holds

theorem ensures_get : Ensures P (get : EStateM ε σ σ) (fun a s => a = s ∧ P s) E :=
  fun _ holds => ⟨rfl, holds⟩

theorem ensures_set {s₀ : σ} {Q : PUnit → σ → Prop} (holds : ∀ s, P s → Q ⟨⟩ s₀) :
    Ensures P (set s₀ : EStateM ε σ PUnit) Q E := holds

theorem ensures_modify {f : σ → σ} {Q : PUnit → σ → Prop} (holds : ∀ s, P s → Q ⟨⟩ (f s)) :
    Ensures P (modify f : EStateM ε σ PUnit) Q E := holds

theorem Ensures.bind {program : EStateM ε σ α} {next : α → EStateM ε σ β}
    (first : Ensures P program Q E) (second : ∀ a, Ensures (Q a) (next a) R E) :
    Ensures P (program >>= next) R E := by
  intro s holds
  have middle := first s holds
  simp only [Bind.bind, EStateM.bind]
  cases result : program s with
  | ok a s' =>
    rw [result] at middle
    exact second a s' middle
  | error e s' =>
    rw [result] at middle
    exact middle

theorem Ensures.ite {condition : Prop} [Decidable condition] {program other : EStateM ε σ α}
    (first : condition → Ensures P program Q E) (second : ¬ condition → Ensures P other Q E) :
    Ensures P (if condition then program else other) Q E := by
  split
  · exact first ‹_›
  · exact second ‹_›

theorem Ensures.mono {program : EStateM ε σ α} (ensures : Ensures P program Q E)
    (before : ∀ s, P' s → P s) (after : ∀ a s, Q a s → Q' a s) (ended : ∀ e s, E e s → E' e s) :
    Ensures P' program Q' E' := by
  intro s holds
  have behind := ensures s (before s holds)
  cases result : program s with
  | ok a s' =>
    rw [result] at behind
    exact after a s' behind
  | error e s' =>
    rw [result] at behind
    exact ended e s' behind

end Ensures

end Programs
