import Mathlib.Data.Fin.Basic
import Mathlib.Logic.Function.Basic

/-!
# Items in a circle of cells

A list is held by an array from a cell on, around its end.  An item goes into the cell behind the
last one and comes out of the first one; the other items stay where they are, as long as there are
no more of them than cells.
-/

namespace CircularCells

variable {α : Type} {size : Nat}

/-- The cell that is `count` cells behind the one at `start`. -/
def index (size start count : Nat) : Nat := (start + count) % size

theorem index_lt (inhabited : 0 < size) (start count : Nat) : index size start count < size :=
  Nat.mod_lt _ inhabited

/-- Fewer items than cells are in different cells. -/
theorem index_ne {start first second : Nat} (less : first < second) (few : second < size) :
    index size start first ≠ index size start second := by
  intro same
  have whole : (start + second - (start + first)) % size = 0 :=
    Nat.sub_mod_eq_zero_of_mod_eq same.symm
  rw [Nat.mod_eq_of_lt (by omega)] at whole
  omega

theorem index_succ (start count : Nat) :
    index size (start + 1) count = index size start (count + 1) := by
  rw [index, index, Nat.add_right_comm, Nat.add_assoc]

theorem index_mod (start count : Nat) : index size (start % size) count = index size start count :=
  Nat.mod_add_mod start size count

/-- The cells from `start` on hold the items. -/
def Holds (cells : Fin size → α) (start : Nat) (items : List α) : Prop :=
  items.length ≤ size ∧
    ∀ (count : Nat) (cell : Fin size), cell.val = index size start count →
      ∀ item, items[count]? = some item → cells cell = item

theorem holds_nil (cells : Fin size → α) (start : Nat) : Holds cells start [] :=
  ⟨Nat.zero_le _, fun _ _ _ _ found => by simp at found⟩

theorem holds_mod {cells : Fin size → α} {start : Nat} {items : List α}
    (holds : Holds cells start items) : Holds cells (start % size) items := by
  refine ⟨holds.1, fun count cell here => holds.2 count cell ?_⟩
  rw [here, index_mod]

/-- An item more, in the cell behind the last one. -/
theorem Holds.push {cells : Fin size → α} {start : Nat} {items : List α}
    (holds : Holds cells start items) (room : items.length < size) (cell : Fin size)
    (behind : cell.val = index size start items.length) (item : α) :
    Holds (Function.update cells cell item) start (items ++ [item]) := by
  refine ⟨by simpa using Nat.succ_le_of_lt room, ?_⟩
  intro count cell' here item' found
  by_cases last : count < items.length
  · have other : cell' ≠ cell := by
      intro same
      exact index_ne last room (by rw [← here, ← behind, same])
    rw [Function.update_of_ne other]
    rw [List.getElem?_append_left last] at found
    exact holds.2 count cell' here item' found
  · have inside := (List.getElem?_eq_some_iff.mp found).1
    have exact : count = items.length := by
      simp only [List.length_append, List.length_singleton] at inside
      omega
    subst exact
    have same : cell' = cell := Fin.ext (here.trans behind.symm)
    simp only [List.getElem?_concat_length, Option.some.injEq] at found
    rw [same, Function.update_self, found]

/-- The first item, and the rest from the next cell on. -/
theorem Holds.pop {cells : Fin size → α} {start : Nat} {item : α} {items : List α}
    (holds : Holds cells start (item :: items)) :
    (∀ cell : Fin size, cell.val = index size start 0 → cells cell = item) ∧
      Holds cells (start + 1) items := by
  obtain ⟨few, held⟩ := holds
  refine ⟨fun cell here => held 0 cell here item rfl, ?_, ?_⟩
  · rw [List.length_cons] at few
    omega
  · intro count cell here item' found
    rw [index_succ] at here
    exact held (count + 1) cell here item' (by simpa using found)

end CircularCells
