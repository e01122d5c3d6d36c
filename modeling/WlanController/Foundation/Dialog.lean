import Mathlib.Logic.Function.Basic
import WlanController.Foundation.Run

/-!
# Programs that ask

A dialog asks questions, goes on with their answers and returns a result.  Several of them may ask
the same service in turns, and there is no next state where the service does not answer.
-/

universe u v w

inductive Dialog (Q : Type u) (R : Type v) (α : Type w) where
  | done (result : α)
  | ask (question : Q) (next : R → Dialog Q R α)

namespace Dialog

variable {Q : Type u} {R : Type v} {α β : Type w}

def bind : Dialog Q R α → (α → Dialog Q R β) → Dialog Q R β
  | .done result, then_ => then_ result
  | .ask question next, then_ => .ask question fun answer => (next answer).bind then_

instance : Monad (Dialog Q R) where
  pure := .done
  bind := bind

@[simp] theorem pure_eq (result : α) : (pure result : Dialog Q R α) = .done result := rfl

@[simp] theorem done_bind (result : α) (then_ : α → Dialog Q R β) :
    (.done result : Dialog Q R α) >>= then_ = then_ result := rfl

@[simp] theorem ask_bind (question : Q) (next : R → Dialog Q R α) (then_ : α → Dialog Q R β) :
    (.ask question next : Dialog Q R α) >>= then_ =
      .ask question fun answer => next answer >>= then_ := rfl

/-! ## Alone -/

section Run

variable {σ : Type*} (service : Q → σ → Option (R × σ))

/-- What a dialog comes to that nobody interrupts. -/
def run : Dialog Q R α → σ → Option (α × σ)
  | .done result, s => some (result, s)
  | .ask question next, s =>
    (service question s).bind fun answered => (next answered.1).run answered.2

@[simp] theorem run_done (result : α) (s : σ) :
    (.done result : Dialog Q R α).run service s = some (result, s) := rfl

theorem run_ask {question : Q} {s s' : σ} {answer : R} (answers : service question s = some (answer, s'))
    (next : R → Dialog Q R α) :
    (.ask question next : Dialog Q R α).run service s = (next answer).run service s' := by
  simp [run, answers]

end Run

/-! ## In turns -/

section Turns

variable {σ ι : Type*} [DecidableEq ι] (service : Q → σ → Option (R × σ))

/-- The dialogs as far as they have come, and the state of the service. -/
structure Talking (Q : Type u) (R : Type v) (α : Type w) (ι σ : Type*) where
  dialogs : ι → Dialog Q R α
  state : σ

/-- The next question of one of the dialogs. -/
def Talking.turn (talking : Talking Q R α ι σ) (i : ι) : Option (Talking Q R α ι σ) :=
  match talking.dialogs i with
  | .done _ => none
  | .ask question next =>
    (service question talking.state).map fun answered =>
      ⟨Function.update talking.dialogs i (next answered.1), answered.2⟩

/-- A turn changes the dialog that has asked and the service. -/
theorem Talking.turn_eq_some {talking talking' : Talking Q R α ι σ} {i : ι}
    (turned : talking.turn service i = some talking') :
    ∃ question next answer, talking.dialogs i = .ask question next ∧
      service question talking.state = some (answer, talking'.state) ∧
      talking'.dialogs = Function.update talking.dialogs i (next answer) := by
  rw [turn] at turned
  cases asked : talking.dialogs i with
  | done result =>
    rw [asked] at turned
    cases turned
  | ask question next =>
    rw [asked] at turned
    obtain ⟨answered, answers, same⟩ := Option.map_eq_some_iff.mp turned
    cases same
    exact ⟨question, next, answered.1, rfl, answers, rfl⟩

/-- A dialog that comes to an end alone does so in turns that nobody interrupts. -/
theorem Talking.of_run {ε : Type*} {step : Talking Q R α ι σ → ε → Talking Q R α ι σ → Prop} {e : ε}
    {i : ι} (turns : ∀ {talking talking'}, Talking.turn service talking i = some talking' →
      step talking e talking')
    {dialog : Dialog Q R α} {result : α} {s' : σ} {talking : Talking Q R α ι σ}
    (here : talking.dialogs i = dialog)
    (runs : dialog.run service talking.state = some (result, s')) :
    ∃ count, Run.Trace step talking (List.replicate count e)
      ⟨Function.update talking.dialogs i (.done result), s'⟩ := by
  induction dialog generalizing talking with
  | done result' =>
    cases runs
    have same : Function.update talking.dialogs i (.done result) = talking.dialogs := by
      rw [← here, Function.update_eq_self]
    rw [same]
    exact ⟨0, .nil _⟩
  | ask question next inductionHypothesis =>
    obtain ⟨answered, answers, rest⟩ := Option.bind_eq_some_iff.mp runs
    have turned : talking.turn service i =
        some ⟨Function.update talking.dialogs i (next answered.1), answered.2⟩ := by
      simp [turn, here, answers]
    obtain ⟨count, trace⟩ := @inductionHypothesis answered.1
      ⟨Function.update talking.dialogs i (next answered.1), answered.2⟩ (Function.update_self ..) rest
    rw [Function.update_idem] at trace
    exact ⟨count + 1, .cons (turns turned) trace⟩

end Turns

end Dialog
