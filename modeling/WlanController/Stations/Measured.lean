import WlanController.Foundation.SearchTree
import WlanController.Stations.StationTree

/-!
# Trees with the right heights

Every operation measures the nodes it changes, so the heights in a tree are always those
of its shape, balanced or not.  A tree is given here by its entries alone, and the
operations are read as operations on entries.
-/

namespace WlanController.Stations

open SearchTree (inorder)

/-- The tree with the right height in every node. -/
def measured : BinaryTree Entry → StationTree
  | .nil => .nil
  | .node entry left right =>
    .node { entry with height := (max left.height right.height : Nat) } (measured left)
      (measured right)

/-- Every node holds the true height of its subtree. -/
def HeightsExact : StationTree → Prop
  | .nil => True
  | .node n left right =>
    n.height = (max left.height right.height : Nat) ∧ HeightsExact left ∧ HeightsExact right

/-- The entries of a tree. -/
def entries (tree : StationTree) : BinaryTree Entry := tree.map NodeAVL.toEntry

@[simp] theorem measured_nil : measured .nil = .nil := rfl

@[simp] theorem entries_measured (shape : BinaryTree Entry) : entries (measured shape) = shape := by
  induction shape with
  | nil => rfl
  | node entry left right leftHypothesis rightHypothesis =>
    simp only [entries, measured, BinaryTree.map] at leftHypothesis rightHypothesis ⊢
    rw [leftHypothesis, rightHypothesis]

@[simp] theorem height_measured (shape : BinaryTree Entry) :
    (measured shape).height = shape.height := by
  rw [← SearchTree.height_map NodeAVL.toEntry, ← entries, entries_measured]

theorem heightsExact_measured (shape : BinaryTree Entry) : HeightsExact (measured shape) := by
  induction shape with
  | nil => trivial
  | node entry left right leftHypothesis rightHypothesis =>
    simp only [measured, HeightsExact, height_measured, true_and]
    exact ⟨leftHypothesis, rightHypothesis⟩

theorem measured_entries {tree : StationTree} (exact : HeightsExact tree) :
    measured (entries tree) = tree := by
  induction tree with
  | nil => rfl
  | node n left right leftHypothesis rightHypothesis =>
    obtain ⟨height, exactLeft, exactRight⟩ := exact
    have same := leftHypothesis exactLeft
    have same' := rightHypothesis exactRight
    simp only [entries, BinaryTree.map, measured, SearchTree.height_map] at same same' ⊢
    rw [same, same', ← height]

theorem heightsExact_iff {tree : StationTree} :
    HeightsExact tree ↔ ∃ shape, tree = measured shape := by
  constructor
  · intro exact
    exact ⟨entries tree, (measured_entries exact).symm⟩
  · rintro ⟨shape, rfl⟩
    exact heightsExact_measured shape

/-! ## Heights -/

theorem avlMax_eq (l r : Int) : avlMax l r = max l r := by
  unfold avlMax
  split <;> omega

@[simp] theorem avlHeight_measured (shape : BinaryTree Entry) :
    avlHeight (measured shape) = (shape.height : Int) - 1 := by
  cases shape with
  | nil => rfl
  | node entry left right =>
    simp only [measured, avlHeight, BinaryTree.height]
    omega

@[simp] theorem avlGetBalance_node_measured (n : NodeAVL) (left right : BinaryTree Entry) :
    avlGetBalance (.node n (measured left) (measured right)) =
      (left.height : Int) - right.height := by
  simp only [avlGetBalance, avlHeight_measured]
  omega

@[simp] theorem updateHeight_node_measured (n : NodeAVL) (left right : BinaryTree Entry) :
    updateHeight (.node n (measured left) (measured right)) =
      measured (.node n.toEntry left right) := by
  simp only [updateHeight, avlMax_eq, avlHeight_measured, measured]
  congr 2
  omega

@[simp] theorem updateHeight_measured (shape : BinaryTree Entry) :
    updateHeight (measured shape) = measured shape := by
  cases shape with
  | nil => rfl
  | node entry left right => exact updateHeight_node_measured _ left right

/-! ## Rotations -/

section Rotations

variable (n k : NodeAVL) (entry : Entry) (left middle right : BinaryTree Entry)

theorem avlSingleRotateWithLeft_measured :
    avlSingleRotateWithLeft (.node n (measured (.node entry left middle)) (measured right)) =
      some (measured (.node entry left (.node n.toEntry middle right))) := by
  simp only [measured, avlSingleRotateWithLeft]
  rw [updateHeight_node_measured]
  congr 1
  exact updateHeight_node_measured { entry with height := 0 } left _

theorem avlSingleRotateWithRight_measured :
    avlSingleRotateWithRight (.node n (measured left) (measured (.node entry middle right))) =
      some (measured (.node entry (.node n.toEntry left middle) right)) := by
  simp only [measured, avlSingleRotateWithRight, avlMax_eq]
  rw [updateHeight_node_measured]
  congr 1
  rw [max_comm, ← avlMax_eq]
  exact updateHeight_node_measured { entry with height := 0 } _ right

end Rotations

end WlanController.Stations
