import Mathlib.Algebra.Order.Ring.Nat
import Mathlib.Tactic.Ring

/-!
# Cutting a list into pieces

A list is cut into pieces of one size, the last of which may be shorter.
-/

namespace Pieces

universe u

variable {α : Type u}

/-- The number of pieces of `size` elements a list of `length` elements is cut into. -/
def count (size length : Nat) : Nat := length / size + if length % size ≠ 0 then 1 else 0

/-- The piece with index `i`. -/
def piece (size : Nat) (xs : List α) (i : Nat) : List α := (xs.drop (i * size)).take size

theorem length_le_count_mul {size : Nat} (length : Nat) (positive : 0 < size) :
    length ≤ count size length * size := by
  have division := Nat.div_add_mod' length size
  have remainder := Nat.mod_lt length positive
  unfold count
  by_cases exact : length % size = 0
  · rw [if_neg (not_not.mpr exact), Nat.add_zero]
    omega
  · rw [if_pos exact, Nat.add_mul, Nat.one_mul]
    omega

/-- All pieces but the last fit strictly inside the list. -/
theorem mul_lt_length {size length i : Nat} (positive : 0 < size) (inside : i < count size length) :
    i * size < length := by
  have division := Nat.div_add_mod' length size
  unfold count at inside
  by_cases exact : length % size = 0
  · rw [if_neg (not_not.mpr exact), Nat.add_zero] at inside
    have room : i * size + size ≤ length / size * size := by
      rw [← Nat.succ_mul]
      exact Nat.mul_le_mul_right size inside
    omega
  · rw [if_pos exact] at inside
    have room : i * size ≤ length / size * size := Nat.mul_le_mul_right size (by omega)
    omega

theorem count_pos {size length : Nat} (nonempty : 0 < length) : 0 < count size length := by
  have division := Nat.div_add_mod' length size
  unfold count
  by_cases exact : length % size = 0
  · have quotient : length / size ≠ 0 := by
      intro zero
      rw [zero] at division
      omega
    exact Nat.add_pos_left (Nat.pos_of_ne_zero quotient) _
  · rw [if_pos exact]
    exact Nat.succ_pos _

theorem count_eq_one {size length : Nat} (nonempty : 0 < length) (fits : length ≤ size) :
    count size length = 1 := by
  unfold count
  rcases Nat.lt_or_eq_of_le fits with smaller | rfl
  · rw [Nat.div_eq_of_lt smaller, Nat.mod_eq_of_lt smaller, if_pos (by omega)]
  · rw [Nat.div_self nonempty, Nat.mod_self, if_neg (by decide)]

theorem count_le_one {size length : Nat} (positive : 0 < size) (single : count size length ≤ 1) :
    length ≤ size := by
  have bound := length_le_count_mul length positive
  have small : count size length * size ≤ 1 * size := Nat.mul_le_mul_right size single
  omega

theorem length_piece (size : Nat) (xs : List α) (i : Nat) :
    (piece size xs i).length = min size (xs.length - i * size) := by
  simp [piece]

theorem length_piece_inner {size : Nat} {xs : List α} {i : Nat} (positive : 0 < size)
    (inner : i + 1 < count size xs.length) : (piece size xs i).length = size := by
  have room := mul_lt_length positive inner
  rw [Nat.succ_mul] at room
  rw [length_piece]
  omega

/-- What the last piece holds. -/
theorem length_piece_last {size : Nat} {xs : List α} {i : Nat} (positive : 0 < size)
    (last : i + 1 = count size xs.length) :
    (piece size xs i).length = xs.length - i * size := by
  have bound := length_le_count_mul xs.length positive
  rw [← last, Nat.succ_mul] at bound
  rw [length_piece]
  omega

theorem length_piece_pos {size : Nat} {xs : List α} {i : Nat} (positive : 0 < size)
    (inside : i < count size xs.length) : 0 < (piece size xs i).length := by
  have room := mul_lt_length positive inside
  rw [length_piece]
  omega

/-- The first pieces put together again are the beginning of the list. -/
theorem flatten_pieces (size : Nat) (xs : List α) (k : Nat) :
    ((List.range k).map (piece size xs)).flatten = xs.take (k * size) := by
  induction k with
  | zero => simp
  | succ k inductionHypothesis =>
    rw [List.range_succ, List.map_append, List.flatten_append, inductionHypothesis, Nat.succ_mul,
      List.take_add]
    simp [piece]

/-- All pieces put together again are the list. -/
theorem flatten_all {size : Nat} (positive : 0 < size) (xs : List α) :
    ((List.range (count size xs.length)).map (piece size xs)).flatten = xs := by
  rw [flatten_pieces, List.take_of_length_le (length_le_count_mul xs.length positive)]

theorem sum_length_pieces {size : Nat} (positive : 0 < size) (xs : List α) :
    ((List.range (count size xs.length)).map fun i => (piece size xs i).length).sum = xs.length := by
  have lengths := congrArg List.length (flatten_all positive xs)
  rw [List.length_flatten, List.map_map] at lengths
  exact lengths

end Pieces
