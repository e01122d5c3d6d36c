import Mathlib.Logic.Basic

/-!
# Arrays whose size is counted beforehand

A program counts how many elements it is going to make, allocates an array of that size and
then makes them one by one, each into the next slot.  Making an element may fail, and the
program may give up in between; in both cases it returns without the array.  Otherwise it
hands the array on, with the size for the number of elements.

The count is right if nothing is written behind the array and the array that is handed on is
full.
-/

namespace CountedArray

variable {α ε : Type}

/-- What the program does next. -/
inductive Step (α ε : Type) where
  /-- Makes an element in the next slot. -/
  | element (made : Except ε α)
  /-- Returns without making one. -/
  | giveUp (reason : ε)

inductive Outcome (α ε : Type) where
  /-- An element was to be made behind the last slot. -/
  | overrun
  | refused (reason : ε)
  | handedOn (elements : List α)

/-- Fills an array with `room` slots left. -/
def fill (room : Nat) (written : List α) : List (Step α ε) → Outcome α ε
  | [] => .handedOn written
  | .giveUp reason :: _ => .refused reason
  | .element made :: steps =>
      match room, made with
      | 0, _ => .overrun
      | _ + 1, .error reason => .refused reason
      | room + 1, .ok value => fill room (written ++ [value]) steps

/-- An array that is handed on has the announced number of elements in it. -/
def Outcome.Counted (size : Nat) : Outcome α ε → Prop
  | .overrun => False
  | .refused _ => True
  | .handedOn elements => elements.length = size

/-- The program returns before it runs out of steps or of room. -/
def EndsEarly (room : Nat) : List (Step α ε) → Prop
  | [] => False
  | .giveUp _ :: _ => True
  | .element made :: steps =>
      match room, made with
      | 0, _ => False
      | _ + 1, .error _ => True
      | room + 1, .ok _ => EndsEarly room steps

/-- The count is right exactly if it is the number of steps, or if the program ends early. -/
theorem counted_fill_iff (room : Nat) (written : List α) (steps : List (Step α ε)) :
    (fill room written steps).Counted (written.length + room) ↔
      EndsEarly room steps ∨ steps.length = room := by
  induction steps generalizing room written with
  | nil => simp [fill, Outcome.Counted, EndsEarly, eq_comm]
  | cons step steps inductionHypothesis =>
    cases step with
    | giveUp reason => simp [fill, Outcome.Counted, EndsEarly]
    | element made =>
      cases room with
      | zero => simp [fill, Outcome.Counted, EndsEarly]
      | succ room =>
        cases made with
        | error reason => simp [fill, Outcome.Counted, EndsEarly]
        | ok value =>
          have rest := inductionHypothesis room (written ++ [value])
          have size : (written ++ [value]).length + room = written.length + (room + 1) := by
            simp only [List.length_append, List.length_singleton]
            omega
          rw [size] at rest
          simp only [fill, EndsEarly, List.length_cons, Nat.add_right_cancel_iff, rest]

/-- Elements that can all be made are handed on if there is room for them. -/
theorem fill_elements (room : Nat) (written values : List α) :
    fill room written (values.map fun value => (.element (.ok value) : Step α ε)) =
      if values.length ≤ room then .handedOn (written ++ values) else .overrun := by
  induction values generalizing room written with
  | nil => simp [fill]
  | cons value values inductionHypothesis =>
    cases room with
    | zero => simp [fill]
    | succ room =>
      rw [List.map_cons, fill, inductionHypothesis, List.length_cons]
      simp [List.append_assoc]

end CountedArray
