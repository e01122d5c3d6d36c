import Mathlib.Logic.Basic

/-!
# Runs of a transition system

A step relation `step s e s'` takes a state and an event to a next state.  It may
be partial (an event that crashes or never returns has no next state) and need
not be deterministic.  `Trace` is a finished run over a list of events and
`AllSteps P` says that every step a run over the events can take satisfies `P`,
where a run that gets stuck owes nothing after that point.
-/

namespace Run

universe u v

variable {σ : Type u} {ε : Type v} {step : σ → ε → σ → Prop}

/-- A run over a list of events, from its first to its last state. -/
inductive Trace (step : σ → ε → σ → Prop) : σ → List ε → σ → Prop
  | nil (s : σ) : Trace step s [] s
  | cons {s s₁ s₂ : σ} {e : ε} {es : List ε} :
      step s e s₁ → Trace step s₁ es s₂ → Trace step s (e :: es) s₂

/-- Every step of every run over the events satisfies `P`. -/
def AllSteps (step : σ → ε → σ → Prop) (P : σ → ε → Prop) : σ → List ε → Prop
  | _, [] => True
  | s, e :: es => P s e ∧ ∀ s', step s e s' → AllSteps step P s' es

theorem Trace.append {s s' s'' : σ} {es es' : List ε} (trace : Trace step s es s')
    (trace' : Trace step s' es' s'') : Trace step s (es ++ es') s'' := by
  induction trace with
  | nil s => exact trace'
  | cons first _ inductionHypothesis => exact .cons first (inductionHypothesis trace')

/-- Where a step has one next state a run has one last state. -/
theorem Trace.unique (functional : ∀ s e s' s'', step s e s' → step s e s'' → s' = s'')
    {s s' s'' : σ} {es : List ε} (trace : Trace step s es s') (trace' : Trace step s es s'') :
    s' = s'' := by
  induction trace with
  | nil s =>
    cases trace'
    rfl
  | cons first _ inductionHypothesis =>
    cases trace' with
    | cons first' rest' =>
      cases functional _ _ _ _ first first'
      exact inductionHypothesis rest'

/-- What every step preserves holds at the end of every run. -/
theorem Trace.invariant {Inv : σ → Prop} (preserved : ∀ s e s', Inv s → step s e s' → Inv s')
    {s s' : σ} {es : List ε} (trace : Trace step s es s') (start : Inv s) : Inv s' := by
  induction trace with
  | nil s => exact start
  | cons first _ inductionHypothesis =>
    exact inductionHypothesis (preserved _ _ _ start first)

/-- What the steps with a property preserve holds at the end of every run of such steps. -/
theorem Trace.kept {Inv : σ → Prop} {P : σ → ε → Prop}
    (kept : ∀ s e s', Inv s → P s e → step s e s' → Inv s') {s s' : σ} {es : List ε}
    (trace : Trace step s es s') (start : Inv s) (all : AllSteps step P s es) : Inv s' := by
  induction trace with
  | nil s => exact start
  | cons first _ inductionHypothesis =>
    exact inductionHypothesis (kept _ _ _ start all.1 first) (all.2 _ first)

/-- What follows from an invariant of all steps holds along every run. -/
theorem AllSteps.of_invariant {Inv : σ → Prop} {P : σ → ε → Prop}
    (preserved : ∀ s e s', Inv s → step s e s' → Inv s') (holds : ∀ s e, Inv s → P s e) {s : σ}
    (start : Inv s) (es : List ε) : AllSteps step P s es := by
  induction es generalizing s with
  | nil => trivial
  | cons e es inductionHypothesis =>
    exact ⟨holds s e start, fun s' next => inductionHypothesis (preserved s e s' start next)⟩

/-- What holds of an event in every state holds along every run of such events. -/
theorem AllSteps.of_events {P : σ → ε → Prop} {es : List ε} (holds : ∀ e ∈ es, ∀ s, P s e) (s : σ) :
    AllSteps step P s es := by
  induction es generalizing s with
  | nil => trivial
  | cons e es inductionHypothesis =>
    refine ⟨holds e (by simp) s, fun s' _ => inductionHypothesis ?_ s'⟩
    intro e' member
    exact holds e' (by simp [member])

/-- Two step predicates that agree under an invariant agree along every run, where the
    invariant need only be kept by the steps that satisfy the first one. -/
theorem AllSteps.congr_of_kept {Inv : σ → Prop} {P Q : σ → ε → Prop}
    (agree : ∀ s e, Inv s → (P s e ↔ Q s e)) (kept : ∀ s e s', Inv s → P s e → step s e s' → Inv s')
    {s : σ} (start : Inv s) (es : List ε) : AllSteps step P s es ↔ AllSteps step Q s es := by
  induction es generalizing s with
  | nil => exact Iff.rfl
  | cons e es inductionHypothesis =>
    have here := agree s e start
    constructor
    · rintro ⟨holds, rest⟩
      exact ⟨here.mp holds, fun s' next =>
        (inductionHypothesis (kept s e s' start holds next)).mp (rest s' next)⟩
    · rintro ⟨holds, rest⟩
      exact ⟨here.mpr holds, fun s' next =>
        (inductionHypothesis (kept s e s' start (here.mpr holds) next)).mpr (rest s' next)⟩

/-- Two step predicates that agree under an invariant agree along every run. -/
theorem AllSteps.congr_of_invariant {Inv : σ → Prop} {P Q : σ → ε → Prop}
    (preserved : ∀ s e s', Inv s → step s e s' → Inv s') (agree : ∀ s e, Inv s → (P s e ↔ Q s e))
    {s : σ} (start : Inv s) (es : List ε) : AllSteps step P s es ↔ AllSteps step Q s es :=
  congr_of_kept agree (fun s e s' inv _ => preserved s e s' inv) start es

/-- Two step predicates that agree everywhere agree along every run. -/
theorem AllSteps.congr {P Q : σ → ε → Prop} (agree : ∀ s e, P s e ↔ Q s e) (s : σ) (es : List ε) :
    AllSteps step P s es ↔ AllSteps step Q s es := by
  have preserved : ∀ s e s', True → step s e s' → True := fun _ _ _ _ _ => trivial
  exact congr_of_invariant preserved (fun s e _ => agree s e) trivial es

/-- What holds of every step holds of the step after any run. -/
theorem AllSteps.at_end {P : σ → ε → Prop} {s s' : σ} {es : List ε} {e : ε}
    (all : AllSteps step P s (es ++ [e])) (trace : Trace step s es s') : P s' e := by
  induction trace with
  | nil s => exact all.1
  | cons first _ inductionHypothesis => exact inductionHypothesis (all.2 _ first)

/-- The run of a step function that may fail. -/
theorem trace_of_foldlM {run : ε → σ → Option σ} {es : List ε} {s s' : σ}
    (returned : es.foldlM (fun s e => run e s) s = some s') :
    Trace (fun s e s' => run e s = some s') s es s' := by
  induction es generalizing s with
  | nil =>
    cases returned
    exact .nil _
  | cons e es inductionHypothesis =>
    rw [List.foldlM_cons] at returned
    obtain ⟨middle, first, rest⟩ := Option.bind_eq_some_iff.mp returned
    exact .cons first (inductionHypothesis rest)

end Run
