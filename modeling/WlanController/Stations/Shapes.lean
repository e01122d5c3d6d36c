import WlanController.Stations.Updates

/-!
# Shapes of trees

Which rotations a deletion makes, and whether it returns, depends on the shape of the tree
and on the place of the removed node alone.
-/

namespace WlanController.Stations

open SearchTree (inorder Ordered)

/-- A tree without what stands in it. -/
abbrev Shape := BinaryTree Unit

def shapeOf (tree : StationTree) : Shape := tree.map fun _ => ()

@[simp] theorem shapeOf_nil : shapeOf .nil = .nil := rfl

@[simp] theorem shapeOf_node (n : NodeAVL) (left right : StationTree) :
    shapeOf (.node n left right) = .node () (shapeOf left) (shapeOf right) := rfl

@[simp] theorem height_shapeOf (tree : StationTree) : (shapeOf tree).height = tree.height :=
  SearchTree.height_map _ tree

@[simp] theorem numNodes_shapeOf (tree : StationTree) : (shapeOf tree).numNodes = tree.numNodes := by
  induction tree with
  | nil => rfl
  | node n left right leftHypothesis rightHypothesis =>
    simp only [shapeOf_node, BinaryTree.numNodes, leftHypothesis, rightHypothesis]

/-! ## Rotations -/

def rotateWithLeft : Shape → Option Shape
  | .node _ (.node _ left middle) right => some (.node () left (.node () middle right))
  | _ => none

def rotateWithRight : Shape → Option Shape
  | .node _ left (.node _ middle right) => some (.node () (.node () left middle) right)
  | _ => none

def leaning : Shape → Int
  | .nil => 0
  | .node _ left right => left.height - right.height

def rebalanceShape (left right : Shape) : Option Shape :=
  let balance : Int := left.height - right.height
  if balance > 1 ∧ leaning left ≥ 0 then rotateWithRight (.node () left right)
  else if balance > 1 ∧ leaning left < 0 then
    (rotateWithLeft left).bind fun left => rotateWithRight (.node () left right)
  else if balance < -1 ∧ leaning right ≤ 0 then rotateWithLeft (.node () left right)
  else if balance < -1 ∧ leaning right > 0 then
    (rotateWithRight right).bind fun right => rotateWithLeft (.node () left right)
  else some (.node () left right)

theorem shapeOf_rotateWithLeft (tree : StationTree) :
    (avlSingleRotateWithLeft tree).map shapeOf = rotateWithLeft (shapeOf tree) := by
  cases tree with
  | nil => rfl
  | node n left right =>
    cases left with
    | nil => rfl
    | node child outer middle => rfl

theorem shapeOf_rotateWithRight (tree : StationTree) :
    (avlSingleRotateWithRight tree).map shapeOf = rotateWithRight (shapeOf tree) := by
  cases tree with
  | nil => rfl
  | node n left right =>
    cases right with
    | nil => cases left <;> rfl
    | node child middle outer => cases left <;> rfl

theorem leaning_measured (shape : BinaryTree Entry) :
    leaning (shapeOf (measured shape)) = avlGetBalance (measured shape) := by
  cases shape with
  | nil => rfl
  | node entry left right =>
    simp only [measured, shapeOf_node, leaning, height_shapeOf, height_measured,
      avlGetBalance_node_measured]

theorem shapeOf_rebalance (n : NodeAVL) (left right : BinaryTree Entry) :
    (rebalance (.node n (measured left) (measured right))).map shapeOf =
      rebalanceShape (shapeOf (measured left)) (shapeOf (measured right)) := by
  rw [rebalance, updateHeight_node_measured, measured, rotateDeleted]
  simp only [rebalanceShape, avlGetBalance_node_measured, leaning_measured, height_shapeOf,
    height_measured]
  split
  next => exact shapeOf_rotateWithRight _
  next =>
    split
    next =>
      rw [← shapeOf_rotateWithLeft]
      cases avlSingleRotateWithLeft (measured left) with
      | none => rfl
      | some left => exact shapeOf_rotateWithRight _
    next =>
      split
      next => exact shapeOf_rotateWithLeft _
      next =>
        split
        next =>
          rw [← shapeOf_rotateWithRight]
          cases avlSingleRotateWithRight (measured right) with
          | none => rfl
          | some right => exact shapeOf_rotateWithLeft _
        next => rfl

/-! ## Deleting the root -/

/-- The shape left when the first node is deleted. -/
def deleteFirst : Shape → Option Shape
  | .nil => some .nil
  | .node _ .nil .nil => some .nil
  | .node _ .nil (.node _ left right) => rebalanceShape left right
  | .node _ (.node _ left middle) right =>
    (deleteFirst (.node () left middle)).bind fun left => rebalanceShape left right

/-- The shape left when the root is deleted. -/
def deleteRoot : Shape → Option Shape
  | .nil => some .nil
  | .node _ .nil .nil => some .nil
  | .node _ (.node _ left right) .nil => rebalanceShape left right
  | .node _ .nil (.node _ left right) => rebalanceShape left right
  | .node _ left right => (deleteFirst right).bind fun right => rebalanceShape left right

/-- What is above a subtree only rotates with what comes back. -/
theorem shapeOf_throughLeft (n : NodeAVL) (right : BinaryTree Entry) {result : Option StationTree}
    {elements : List Entry} (yields : Yields result elements) :
    (result.bind fun left => rebalance (.node n left (measured right))).map shapeOf =
      (result.map shapeOf).bind (rebalanceShape · (shapeOf (measured right))) := by
  cases result with
  | none => rfl
  | some tree =>
    obtain ⟨shape, rfl, -⟩ := yields tree rfl
    exact shapeOf_rebalance n shape right

theorem shapeOf_throughRight (n : NodeAVL) (left : BinaryTree Entry) {result : Option StationTree}
    {elements : List Entry} (yields : Yields result elements) :
    (result.bind fun right => rebalance (.node n (measured left) right)).map shapeOf =
      (result.map shapeOf).bind (rebalanceShape (shapeOf (measured left))) := by
  cases result with
  | none => rfl
  | some tree =>
    obtain ⟨shape, rfl, -⟩ := yields tree rfl
    exact shapeOf_rebalance n left shape

theorem shapeOf_deleteFirst (next : NodeAVL) (left right : BinaryTree Entry)
    (ordered : Ordered Station.staAddr
      ((BinaryTree.node next.toEntry left right).map Entry.toStation)) :
    (avlDelete none (avlMinValueNode next (measured left)).staAddr
        (.node next (measured left) (measured right))).map shapeOf =
      deleteFirst (.node () (shapeOf (measured left)) (shapeOf (measured right))) := by
  induction left generalizing next right with
  | nil =>
    have here : (avlMinValueNode next (measured .nil)).staAddr = next.staAddr := rfl
    cases right with
    | nil =>
      rw [here, measured_nil, avlDelete_leaf next rfl rfl]
      rfl
    | node temp tempLeft tempRight =>
      rw [here, measured_nil, measured, avlDelete_onlyRight next rfl rfl, shapeOf_rebalance]
      rfl
  | node entry nextLeft nextRight leftHypothesis _ =>
    obtain ⟨orderedLeft, -, before, -⟩ := SearchTree.ordered_node.mp ordered
    have smaller : (avlMinValueNode next (measured (.node entry nextLeft nextRight))).staAddr <
        next.staAddr := by
      obtain ⟨rest, first⟩ := SearchTree.exists_inorder_eq_least entry.toStation
        (nextLeft.map Entry.toStation) (nextRight.map Entry.toStation)
      have member : (SearchTree.least entry.toStation (nextLeft.map Entry.toStation)) ∈
          inorder ((BinaryTree.node entry nextLeft nextRight).map Entry.toStation) := by
        rw [BinaryTree.map, first]
        exact List.mem_cons_self
      have less := before _ member
      rw [SearchTree.least_map] at less
      have same := toEntry_avlMinValueNode
        ⟨entry, (max nextLeft.height nextRight.height : Nat)⟩ nextLeft
      rw [measured, avlMinValueNode, same]
      exact less
    rw [avlDelete_of_lt next smaller]
    rw [shapeOf_throughLeft next right (yields_delete none _ (.node entry nextLeft nextRight))]
    have inner := leftHypothesis ⟨entry, (max nextLeft.height nextRight.height : Nat)⟩ nextRight
      orderedLeft
    rw [measured, avlMinValueNode, inner]
    rfl

theorem shapeOf_deleteRoot (n : NodeAVL) (left right : BinaryTree Entry)
    (ordered : Ordered Station.staAddr (right.map Entry.toStation)) :
    (avlDelete none n.staAddr (.node n (measured left) (measured right))).map shapeOf =
      deleteRoot (.node () (shapeOf (measured left)) (shapeOf (measured right))) := by
  cases left with
  | nil =>
    cases right with
    | nil =>
      rw [measured_nil, avlDelete_leaf n rfl rfl]
      rfl
    | node temp tempLeft tempRight =>
      rw [measured_nil, measured, avlDelete_onlyRight n rfl rfl, shapeOf_rebalance]
      rfl
  | node temp tempLeft tempRight =>
    cases right with
    | nil =>
      rw [measured_nil, measured, avlDelete_onlyLeft n rfl rfl, shapeOf_rebalance]
      rfl
    | node next nextLeft nextRight =>
      have first := shapeOf_deleteFirst
        ⟨next, (max nextLeft.height nextRight.height : Nat)⟩ nextLeft nextRight ordered
      rw [measured, measured, avlDelete_both n rfl rfl]
      have yields := yields_delete none
        (avlMinValueNode ⟨next, (max nextLeft.height nextRight.height : Nat)⟩
          (measured nextLeft)).staAddr (.node next nextLeft nextRight)
      refine (shapeOf_throughRight _ (.node temp tempLeft tempRight) yields).trans ?_
      rw [measured, first]
      rfl

end WlanController.Stations
