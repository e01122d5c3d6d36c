import WlanController.Stations.Operations

/-!
# When the tree stays an AVL tree

Insertions rotate towards the lighter side and keep every AVL tree one.  Deletions rotate
towards the heavier side: as soon as the removal alone leaves the tree out of balance,
no tree that is returned is balanced.
-/

namespace WlanController.Stations

open SearchTree (inorder Ordered)

/-! ## Inserting -/

/-- The tree leans by one towards the subtree in which the key is. -/
def LeansTo (staAddr : EthAddr) : BinaryTree Entry → Prop
  | .nil => False
  | .node entry left right =>
    (staAddr < entry.staAddr ∧ left.height = right.height + 1) ∨
      (entry.staAddr < staAddr ∧ right.height = left.height + 1)

/-- How an insertion changes the height. -/
def Grows (staAddr : EthAddr) (shape shape' : BinaryTree Entry) : Prop :=
  shape'.height = shape.height ∨
    (shape'.height = shape.height + 1 ∧ (shape = .nil ∨ LeansTo staAddr shape'))

section Insert

variable (n : NodeAVL) {staAddr : EthAddr} {left left' right right' : BinaryTree Entry}

theorem insertedLeft_even (even : left.height ≠ right.height + 2) :
    insertedLeft staAddr n (measured left) (measured right) =
      some (.node n (measured left) (measured right)) := by
  simp only [insertedLeft, avlHeight_measured]
  exact if_neg (by omega)

theorem insertedLeft_single {entry : Entry} {outer middle : BinaryTree Entry}
    (heavy : (BinaryTree.node entry outer middle).height = right.height + 2)
    (less : staAddr < entry.staAddr) :
    insertedLeft staAddr n (measured (.node entry outer middle)) (measured right) =
      some (measured (.node entry outer (.node n.toEntry middle right))) := by
  rw [insertedLeft.eq_def, avlHeight_measured, avlHeight_measured, if_pos (by omega)]
  simp only [measured, compareEthAddr_neg_iff, if_pos less]
  exact avlSingleRotateWithLeft_measured n entry outer middle right

theorem insertedLeft_double {entry inner : Entry} {outer innerLeft innerRight : BinaryTree Entry}
    (heavy : (BinaryTree.node entry outer (.node inner innerLeft innerRight)).height =
      right.height + 2)
    (notLess : ¬ staAddr < entry.staAddr) :
    insertedLeft staAddr n (measured (.node entry outer (.node inner innerLeft innerRight)))
        (measured right) =
      some (measured (.node inner (.node entry outer innerLeft)
        (.node n.toEntry innerRight right))) := by
  rw [insertedLeft.eq_def, avlHeight_measured, avlHeight_measured, if_pos (by omega)]
  simp only [measured, compareEthAddr_neg_iff, if_neg notLess]
  have first := avlSingleRotateWithRight_measured
    ⟨entry, (max outer.height (BinaryTree.node inner innerLeft innerRight).height : Nat)⟩
    inner outer innerLeft innerRight
  have second := avlSingleRotateWithLeft_measured n inner (.node entry outer innerLeft) innerRight
    right
  simp only [measured] at first second
  rw [avlDoubleRotateWithLeft, first]
  exact second

theorem insertedRight_even (even : right.height ≠ left.height + 2) :
    insertedRight staAddr n (measured left) (measured right) =
      some (.node n (measured left) (measured right)) := by
  simp only [insertedRight, avlHeight_measured]
  exact if_neg (by omega)

theorem insertedRight_single {entry : Entry} {middle outer : BinaryTree Entry}
    (heavy : (BinaryTree.node entry middle outer).height = left.height + 2)
    (more : entry.staAddr < staAddr) :
    insertedRight staAddr n (measured left) (measured (.node entry middle outer)) =
      some (measured (.node entry (.node n.toEntry left middle) outer)) := by
  rw [insertedRight.eq_def, avlHeight_measured, avlHeight_measured, if_pos (by omega)]
  simp only [measured, gt_iff_lt, compareEthAddr_pos_iff, if_pos more]
  exact avlSingleRotateWithRight_measured n entry left middle outer

theorem insertedRight_double {entry inner : Entry} {outer innerLeft innerRight : BinaryTree Entry}
    (heavy : (BinaryTree.node entry (.node inner innerLeft innerRight) outer).height =
      left.height + 2)
    (notMore : ¬ entry.staAddr < staAddr) :
    insertedRight staAddr n (measured left)
        (measured (.node entry (.node inner innerLeft innerRight) outer)) =
      some (measured (.node inner (.node n.toEntry left innerLeft)
        (.node entry innerRight outer))) := by
  rw [insertedRight.eq_def, avlHeight_measured, avlHeight_measured, if_pos (by omega)]
  simp only [measured, gt_iff_lt, compareEthAddr_pos_iff, if_neg notMore]
  have first := avlSingleRotateWithLeft_measured
    ⟨entry, (max (BinaryTree.node inner innerLeft innerRight).height outer.height : Nat)⟩
    inner innerLeft innerRight outer
  have second := avlSingleRotateWithRight_measured n inner left innerLeft
    (.node entry innerRight outer)
  simp only [measured] at first second
  rw [avlDoubleRotateWithRight, first]
  exact second

/-- A result that is a tree of this kind. -/
def Returns (result : Option StationTree) (kind : BinaryTree Entry → Prop) : Prop :=
  ∃ shape, result = some (measured shape) ∧ kind shape

theorem insertedLeft_balanced (less : staAddr < n.staAddr)
    (balanced : SearchTree.Balanced (.node n.toEntry left right))
    (balanced' : SearchTree.Balanced left')
    (grows : Grows staAddr left left') :
    Returns ((insertedLeft staAddr n (measured left') (measured right)).map updateHeight)
      fun shape =>
        SearchTree.Balanced shape ∧ Grows staAddr (.node n.toEntry left right) shape := by
  obtain ⟨below, above, -, balancedRight⟩ := balanced
  by_cases heavy : left'.height = right.height + 2
  · -- the left subtree has grown, and it was the higher one before
    have grown : left'.height = left.height + 1 ∧ LeansTo staAddr left' := by
      rcases grows with same | ⟨higher, rfl | leans⟩
      · omega
      · simp only [BinaryTree.height] at higher
        omega
      · exact ⟨higher, leans⟩
    obtain ⟨higher, leans⟩ := grown
    cases left' with
    | nil => cases leans
    | node entry outer middle =>
      obtain ⟨-, -, balancedOuter, balancedMiddle⟩ := balanced'
      rcases leans with ⟨lower, lean⟩ | ⟨upper, lean⟩
      · rw [insertedLeft_single n heavy lower, Option.map_some, updateHeight_measured]
        simp only [BinaryTree.height] at heavy higher
        refine ⟨_, rfl, ⟨?_, ?_, balancedOuter, ?_, ?_, balancedMiddle, balancedRight⟩, .inl ?_⟩
        all_goals first | omega | (simp only [BinaryTree.height]; omega)
      · cases middle with
        | nil => cases lean
        | node inner innerLeft innerRight =>
          obtain ⟨innerBelow, innerAbove, balancedInner, balancedInner'⟩ := balancedMiddle
          rw [insertedLeft_double n heavy (not_lt_of_gt upper), Option.map_some, updateHeight_measured]
          simp only [BinaryTree.height] at heavy higher lean
          refine ⟨_, rfl, ⟨?_, ?_, ⟨?_, ?_, balancedOuter, balancedInner⟩, ?_, ?_, balancedInner',
            balancedRight⟩, .inl ?_⟩
          all_goals first | omega | (simp only [BinaryTree.height]; omega)
  · rw [insertedLeft_even n heavy, Option.map_some, updateHeight_node_measured]
    have near : left'.height ≤ right.height + 1 ∧ right.height ≤ left'.height + 1 := by
      rcases grows with same | ⟨higher, -⟩ <;> omega
    refine ⟨_, rfl, ⟨near.1, near.2, balanced', balancedRight⟩, ?_⟩
    simp only [Grows, LeansTo, BinaryTree.height]
    by_cases taller : left'.height = right.height + 1 ∧ left.height = right.height
    · exact .inr ⟨by omega, .inr (.inl ⟨less, taller.1⟩)⟩
    · left
      rcases grows with same | ⟨higher, -⟩ <;> omega

theorem insertedRight_balanced (more : n.staAddr < staAddr)
    (balanced : SearchTree.Balanced (.node n.toEntry left right))
    (balanced' : SearchTree.Balanced right')
    (grows : Grows staAddr right right') :
    Returns ((insertedRight staAddr n (measured left) (measured right')).map updateHeight)
      fun shape =>
        SearchTree.Balanced shape ∧ Grows staAddr (.node n.toEntry left right) shape := by
  obtain ⟨below, above, balancedLeft, -⟩ := balanced
  by_cases heavy : right'.height = left.height + 2
  · have grown : right'.height = right.height + 1 ∧ LeansTo staAddr right' := by
      rcases grows with same | ⟨higher, rfl | leans⟩
      · omega
      · simp only [BinaryTree.height] at higher
        omega
      · exact ⟨higher, leans⟩
    obtain ⟨higher, leans⟩ := grown
    cases right' with
    | nil => cases leans
    | node entry middle outer =>
      obtain ⟨-, -, balancedMiddle, balancedOuter⟩ := balanced'
      rcases leans with ⟨lower, lean⟩ | ⟨upper, lean⟩
      · cases middle with
        | nil => cases lean
        | node inner innerLeft innerRight =>
          obtain ⟨innerBelow, innerAbove, balancedInner, balancedInner'⟩ := balancedMiddle
          rw [insertedRight_double n heavy (not_lt_of_gt lower), Option.map_some, updateHeight_measured]
          simp only [BinaryTree.height] at heavy higher lean
          refine ⟨_, rfl, ⟨?_, ?_, ⟨?_, ?_, balancedLeft, balancedInner⟩, ?_, ?_, balancedInner',
            balancedOuter⟩, .inl ?_⟩
          all_goals first | omega | (simp only [BinaryTree.height]; omega)
      · rw [insertedRight_single n heavy upper, Option.map_some, updateHeight_measured]
        simp only [BinaryTree.height] at heavy higher
        refine ⟨_, rfl, ⟨?_, ?_, ⟨?_, ?_, balancedLeft, balancedMiddle⟩, balancedOuter⟩, .inl ?_⟩
        all_goals first | omega | (simp only [BinaryTree.height]; omega)
  · rw [insertedRight_even n heavy, Option.map_some, updateHeight_node_measured]
    have near : left.height ≤ right'.height + 1 ∧ right'.height ≤ left.height + 1 := by
      rcases grows with same | ⟨higher, -⟩ <;> omega
    refine ⟨_, rfl, ⟨near.1, near.2, balancedLeft, balanced'⟩, ?_⟩
    simp only [Grows, LeansTo, BinaryTree.height]
    by_cases taller : right'.height = left.height + 1 ∧ right.height = left.height
    · exact .inr ⟨by omega, .inr (.inr ⟨more, taller.1⟩)⟩
    · left
      rcases grows with same | ⟨higher, -⟩ <;> omega

/-- Inserting into a balanced tree returns a balanced tree. -/
theorem avlInsert_balanced (cell : Nat) (index : Int) (staAddr BSSID : EthAddr) (radioID : Int)
    {shape : BinaryTree Entry} (balanced : SearchTree.Balanced shape) :
    Returns (avlInsert cell index staAddr BSSID radioID (measured shape))
      fun shape' => SearchTree.Balanced shape' ∧ Grows staAddr shape shape' := by
  induction shape with
  | nil =>
    refine ⟨.node (newEntry cell index staAddr BSSID radioID) .nil .nil, rfl, ?_, ?_⟩
    · simp [SearchTree.Balanced]
    · exact .inr ⟨rfl, .inl rfl⟩
  | node entry left right leftHypothesis rightHypothesis =>
    obtain ⟨-, -, balancedLeft, balancedRight⟩ := id balanced
    rw [measured]
    rcases lt_trichotomy staAddr entry.staAddr with less | same | more
    · obtain ⟨left', returned, balanced', grows⟩ := leftHypothesis balancedLeft
      rw [avlInsert_of_lt less, returned, Option.bind_some]
      exact insertedLeft_balanced _ less balanced balanced' grows
    · rw [avlInsert_of_eq same, updateHeight_node_measured]
      exact ⟨_, rfl, balanced, .inl rfl⟩
    · obtain ⟨right', returned, balanced', grows⟩ := rightHypothesis balancedRight
      rw [avlInsert_of_gt more, returned, Option.bind_some]
      exact insertedRight_balanced _ more balanced balanced' grows

end Insert

/-! ## Deleting -/

/-- No tree that is returned is balanced. -/
def Unbalances (result : Option StationTree) : Prop :=
  ∀ tree, result = some tree → ∃ shape, tree = measured shape ∧ ¬ SearchTree.Balanced shape

section Rebalance

variable (n : NodeAVL) {left right : BinaryTree Entry}

theorem unbalances_none : Unbalances none := by
  intro tree returned
  cases returned

/-- A rotation that moves the higher subtree further down. -/
theorem unbalances_rotateWithRight (heavy : right.height + 2 ≤ left.height) :
    Unbalances (avlSingleRotateWithRight (.node n (measured left) (measured right))) := by
  intro tree returned
  cases right with
  | nil =>
    cases left with
    | nil => cases returned
    | node entry outer middle => cases returned
  | node entry middle outer =>
    rw [avlSingleRotateWithRight_measured] at returned
    cases returned
    refine ⟨_, rfl, ?_⟩
    rintro ⟨-, -, ⟨near, -⟩, -⟩
    simp only [BinaryTree.height] at heavy
    omega

theorem unbalances_rotateWithLeft (heavy : left.height + 2 ≤ right.height) :
    Unbalances (avlSingleRotateWithLeft (.node n (measured left) (measured right))) := by
  intro tree returned
  cases left with
  | nil => cases returned
  | node entry outer middle =>
    rw [avlSingleRotateWithLeft_measured] at returned
    cases returned
    refine ⟨_, rfl, ?_⟩
    rintro ⟨-, -, -, -, near, -⟩
    simp only [BinaryTree.height] at heavy
    omega

theorem rebalance_of_balanced (balanced : SearchTree.Balanced (.node n.toEntry left right)) :
    rebalance (.node n (measured left) (measured right)) =
      some (measured (.node n.toEntry left right)) := by
  obtain ⟨below, above, -⟩ := balanced
  rw [rebalance, updateHeight_node_measured, measured, rotateDeleted]
  simp only [avlGetBalance_node_measured]
  rw [if_neg (by omega), if_neg (by omega), if_neg (by omega), if_neg (by omega)]

/-- The first of two rotations does not lower the higher subtree. -/
theorem higher_rotateWithLeft {shape : BinaryTree Entry}
    (leans : avlGetBalance (measured shape) < 0) :
    avlSingleRotateWithLeft (measured shape) = none ∨
      ∃ shape', avlSingleRotateWithLeft (measured shape) = some (measured shape') ∧
        shape.height ≤ shape'.height := by
  cases shape with
  | nil => exact .inl rfl
  | node entry outer middle =>
    rw [measured, avlGetBalance_node_measured] at leans
    cases outer with
    | nil => exact .inl rfl
    | node inner innerLeft innerRight =>
      refine .inr ⟨_, avlSingleRotateWithLeft_measured _ inner innerLeft innerRight middle, ?_⟩
      simp only [BinaryTree.height] at leans ⊢
      omega

theorem higher_rotateWithRight {shape : BinaryTree Entry}
    (leans : avlGetBalance (measured shape) > 0) :
    avlSingleRotateWithRight (measured shape) = none ∨
      ∃ shape', avlSingleRotateWithRight (measured shape) = some (measured shape') ∧
        shape.height ≤ shape'.height := by
  cases shape with
  | nil => exact .inl rfl
  | node entry middle outer =>
    rw [measured, avlGetBalance_node_measured] at leans
    cases outer with
    | nil =>
      cases middle with
      | nil => exact .inl rfl
      | node => exact .inl rfl
    | node inner innerLeft innerRight =>
      refine .inr ⟨_, avlSingleRotateWithRight_measured _ inner middle innerLeft innerRight, ?_⟩
      simp only [BinaryTree.height] at leans ⊢
      omega

/-- Once the removal has put a node out of balance, the rotations make it worse. -/
theorem unbalances_rebalance (unbalanced : ¬ SearchTree.Balanced (.node n.toEntry left right)) :
    Unbalances (rebalance (.node n (measured left) (measured right))) := by
  rw [rebalance, updateHeight_node_measured, measured, rotateDeleted]
  simp only [avlGetBalance_node_measured]
  split
  next heavy => exact unbalances_rotateWithRight _ (by omega)
  next =>
    split
    next heavy =>
      rcases higher_rotateWithLeft heavy.2 with absent | ⟨shape, rotated, higher⟩
      · rw [absent]
        exact unbalances_none
      · rw [rotated]
        exact unbalances_rotateWithRight _ (by omega)
    next =>
      split
      next heavy => exact unbalances_rotateWithLeft _ (by omega)
      next =>
        split
        next heavy =>
          rcases higher_rotateWithRight heavy.2 with absent | ⟨shape, rotated, higher⟩
          · rw [absent]
            exact unbalances_none
          · rw [rotated]
            exact unbalances_rotateWithLeft _ (by omega)
        next =>
          intro tree returned
          cases returned
          exact ⟨.node n.toEntry left right, rfl, unbalanced⟩

end Rebalance

/-- What a deletion makes of a removal: the tree itself while it is balanced, and no
    balanced tree otherwise. -/
def FollowsRemoval (plain : BinaryTree Entry) (result : Option StationTree) : Prop :=
  (SearchTree.Balanced plain → result = some (measured plain)) ∧
    (¬ SearchTree.Balanced plain → Unbalances result)

theorem followsRemoval_rebalance (n : NodeAVL) (left right : BinaryTree Entry) :
    FollowsRemoval (.node n.toEntry left right)
      (rebalance (.node n (measured left) (measured right))) :=
  ⟨rebalance_of_balanced n, unbalances_rebalance n⟩

theorem avlDelete_follows (radioID : Option Int) (staAddr : EthAddr) (shape : BinaryTree Entry) :
    FollowsRemoval (deleteEntry radioID staAddr shape)
      (avlDelete radioID staAddr (measured shape)) := by
  refine avlDelete_rule ⟨fun _ => rfl, fun unbalanced => absurd trivial unbalanced⟩
    followsRemoval_rebalance ?_ ?_ radioID staAddr shape
  · rintro n plain result right ⟨same, worse⟩
    by_cases balanced : SearchTree.Balanced plain
    · rw [same balanced]
      exact followsRemoval_rebalance n plain right
    · refine ⟨fun whole => absurd whole.2.2.1 balanced, fun _ tree returned => ?_⟩
      obtain ⟨middle, reached, returned⟩ := Option.bind_eq_some_iff.mp returned
      obtain ⟨shape, rfl, unbalanced⟩ := worse balanced middle reached
      exact unbalances_rebalance n (fun whole => unbalanced whole.2.2.1) tree returned
  · rintro n left plain result ⟨same, worse⟩
    by_cases balanced : SearchTree.Balanced plain
    · rw [same balanced]
      exact followsRemoval_rebalance n left plain
    · refine ⟨fun whole => absurd whole.2.2.2 balanced, fun _ tree returned => ?_⟩
      obtain ⟨middle, reached, returned⟩ := Option.bind_eq_some_iff.mp returned
      obtain ⟨shape, rfl, unbalanced⟩ := worse balanced middle reached
      exact unbalances_rebalance n (fun whole => unbalanced whole.2.2.2) tree returned

/-! ## Runs -/

/-- An AVL tree: the keys increase from left to right, every node holds its height, and
    the heights of two siblings differ by at most one. -/
structure IsAVL (tree : StationTree) : Prop extends IsSearchTree tree where
  balanced : SearchTree.Balanced tree

/-- The operation follows no absent child and leaves an AVL tree. -/
def StaysAVL (tree : StationTree) (op : StationOp) : Prop :=
  ∃ tree', Step tree op tree' ∧ IsAVL tree'

/-- The removal a deletion begins with leaves the tree in balance. -/
def KeepsBalance (tree : StationTree) : StationOp → Prop
  | .insert _ _ _ _ _ => True
  | .deleteNode staAddr radioID =>
    SearchTree.Balanced (deleteEntry (some radioID) staAddr (entries tree))
  | .deleteNodeWithoutRadioID nodeToDelete =>
    SearchTree.Balanced (deleteEntry none nodeToDelete.staAddr (entries tree))

theorem balanced_measured (shape : BinaryTree Entry) :
    SearchTree.Balanced (measured shape) ↔ SearchTree.Balanced shape := by
  rw [← SearchTree.balanced_map NodeAVL.toEntry, ← entries, entries_measured]

theorem isAVL_nil : IsAVL .nil where
  toIsSearchTree := isSearchTree_nil
  balanced := trivial

theorem staysAVL_delete {shape : BinaryTree Entry} {op : StationOp} {radioID : Option Int}
    {staAddr : EthAddr} (search : IsSearchTree (measured shape))
    (deletes : op.exec (measured shape) = avlDelete radioID staAddr (measured shape)) :
    StaysAVL (measured shape) op ↔ SearchTree.Balanced (deleteEntry radioID staAddr shape) := by
  obtain ⟨same, worse⟩ := avlDelete_follows radioID staAddr shape
  rw [← deletes] at same worse
  constructor
  · rintro ⟨tree', step, avl⟩
    by_contra unbalanced
    obtain ⟨shape', rfl, unbalanced'⟩ := worse unbalanced tree' step
    exact unbalanced' ((balanced_measured shape').mp avl.balanced)
  · intro balanced
    have step : Step (measured shape) op _ := same balanced
    exact ⟨_, step, step.isSearchTree search, (balanced_measured _).mpr balanced⟩

theorem staysAVL_iff {tree : StationTree} (avl : IsAVL tree) (op : StationOp) :
    StaysAVL tree op ↔ KeepsBalance tree op := by
  obtain ⟨shape, rfl⟩ := heightsExact_iff.mp avl.heights
  have search := avl.toIsSearchTree
  cases op with
  | insert cell index staAddr BSSID radioID =>
    obtain ⟨shape', step, balanced, -⟩ := avlInsert_balanced cell index staAddr BSSID radioID
      ((balanced_measured shape).mp avl.balanced)
    have step : Step (measured shape) (.insert cell index staAddr BSSID radioID) _ := step
    exact iff_of_true ⟨_, step, step.isSearchTree search, (balanced_measured _).mpr balanced⟩ trivial
  | deleteNode staAddr radioID =>
    rw [KeepsBalance, entries_measured]
    exact staysAVL_delete search rfl
  | deleteNodeWithoutRadioID nodeToDelete =>
    rw [KeepsBalance, entries_measured]
    exact staysAVL_delete search rfl

theorem Step.isAVL {tree tree' : StationTree} {op : StationOp} (stays : StaysAVL tree op)
    (step : Step tree op tree') : IsAVL tree' := by
  obtain ⟨tree'', step', avl⟩ := stays
  rw [Step, step] at step'
  cases step'
  exact avl

/-- A run keeps the tree an AVL tree exactly when every deletion in it removes its node
    without putting the tree out of balance. -/
theorem run_staysAVL_iff (ops : List StationOp) :
    Run.AllSteps Step StaysAVL .nil ops ↔ Run.AllSteps Step KeepsBalance .nil ops := by
  have kept : ∀ tree op tree', IsAVL tree → StaysAVL tree op → Step tree op tree' → IsAVL tree' :=
    fun _ _ _ _ stays step => step.isAVL stays
  exact Run.AllSteps.congr_of_kept (fun _ op avl => staysAVL_iff avl op) kept isAVL_nil ops

/-- An address with one byte that is not zero. -/
def shortAddr (byte : UInt8) : EthAddr := ⟨[0, 0, 0, 0, 0, byte], rfl⟩

/-- Four stations of one WTP, inserted in an order that needs no rotation. -/
def fourInserts : List StationOp :=
  [.insert 0 1 (shortAddr 3) (shortAddr 9) 1, .insert 1 1 (shortAddr 2) (shortAddr 9) 1,
    .insert 2 1 (shortAddr 4) (shortAddr 9) 1, .insert 3 1 (shortAddr 1) (shortAddr 9) 1]

def fourStations : StationTree :=
  let entry (byte : UInt8) (cell : Nat) : Entry :=
    { index := 1, radioID := 1, staAddr := shortAddr byte, BSSID := shortAddr 9, cell }
  measured (.node (entry 3 0) (.node (entry 2 1) (.node (entry 1 3) .nil .nil) .nil)
    (.node (entry 4 2) .nil .nil))

theorem run_fourInserts : Run.Trace Step .nil fourInserts fourStations :=
  Run.trace_of_foldlM (by decide)

/-- Deleting the station on the right leaves two levels on the left, which are rotated to
    the left child of nothing. -/
theorem deleteNode_not_staysAVL :
    ¬ Run.AllSteps Step StaysAVL .nil (fourInserts ++ [.deleteNode (shortAddr 4) 1]) := by
  intro all
  obtain ⟨tree', step, -⟩ := all.at_end run_fourInserts
  have crashes : StationOp.exec (.deleteNode (shortAddr 4) 1) fourStations = none := by decide
  rw [Step, crashes] at step
  cases step

end WlanController.Stations
