import WlanController.Stations.Balance
import WlanController.Stations.Shapes

/-!
# Purging the stations of a WTP

When a session is closed, the access controller looks for a node of its WTP and deletes
it, until there is none.  The search compares the root and returns no value when the
root is of another WTP.
-/

namespace WlanController.Stations

open SearchTree (inorder shapes)

/-- `none` is the value of a call that ends without a `return`. -/
def avlFindWTPNode : StationTree → Int → Option (Option NodeAVL)
  | .nil, _ => some none
  | .node t left right, index =>
    if t.index = index then some (some t)
    else
      -- both subtrees are searched, and what is found in them is dropped
      let _ := avlFindWTPNode left index
      let _ := avlFindWTPNode right index
      none

/-- The loop of `_CWCloseThread` for the session of a WTP, for a number of rounds. -/
def purgeStations (i : Int) : Nat → StationTree → Option StationTree
  | 0, _ => none
  | rounds + 1, avlTree => do
    match ← avlFindWTPNode avlTree i with
    | none => some avlTree
    | some tmp =>
      let avlTree ← avlDeleteNodeWithoutRadioID avlTree tmp
      if avlTree = .nil then some avlTree else purgeStations i rounds avlTree

/-- The search returns a node of the WTP, and none only when there is none. -/
def FindsWTPNode (tree : StationTree) (index : Int) : Prop :=
  ∃ found, avlFindWTPNode tree index = some found ∧
    match found with
    | some n => n ∈ inorder tree ∧ n.index = index
    | none => ∀ n ∈ inorder tree, n.index ≠ index

/-- The loop ends, with the stations of the other WTPs as they were. -/
def PurgesStations (tree : StationTree) (i : Int) : Prop :=
  ∃ rounds tree', purgeStations i rounds tree = some tree' ∧
    inorder (stations tree') = (inorder (stations tree)).filter (·.index ≠ i)

/-! ## Rounds of the loop -/

theorem avlFindWTPNode_node {t : NodeAVL} {left right : StationTree} {index : Int}
    {found : Option NodeAVL} (returned : avlFindWTPNode (.node t left right) index = some found) :
    t.index = index ∧ found = some t := by
  rw [avlFindWTPNode] at returned
  split at returned
  next same =>
    cases returned
    exact ⟨same, rfl⟩
  next => cases returned

theorem purgeStations_node {t : NodeAVL} {left right : StationTree} {i : Int} {rounds : Nat}
    (same : t.index = i) :
    purgeStations i (rounds + 1) (.node t left right) =
      (avlDeleteNodeWithoutRadioID (.node t left right) t).bind fun avlTree =>
        if avlTree = .nil then some avlTree else purgeStations i rounds avlTree := by
  simp [purgeStations, avlFindWTPNode, same]

/-- A round of the loop deletes the root. -/
theorem purgeStations_cases {t : NodeAVL} {left right tree' : StationTree} {i : Int} {rounds : Nat}
    (purged : purgeStations i rounds (.node t left right) = some tree') :
    t.index = i ∧ ∃ tree, Step (.node t left right) (.deleteNodeWithoutRadioID t) tree ∧
      (tree = .nil ∧ tree' = .nil ∨
        ∃ fewer, rounds = fewer + 1 ∧ purgeStations i fewer tree = some tree') := by
  cases rounds with
  | zero => cases purged
  | succ rounds =>
    have same : t.index = i := by
      cases found : avlFindWTPNode (.node t left right) i with
      | none => simp [purgeStations, found] at purged
      | some result => exact (avlFindWTPNode_node found).1
    rw [purgeStations_node same] at purged
    obtain ⟨tree, step, rest⟩ := Option.bind_eq_some_iff.mp purged
    refine ⟨same, tree, step, ?_⟩
    split at rest
    next empty =>
      cases rest
      exact .inl ⟨empty, empty⟩
    next => exact .inr ⟨rounds, rfl, rest⟩

@[simp] theorem stations_nil : stations .nil = .nil := rfl

@[simp] theorem stations_node (t : NodeAVL) (left right : StationTree) :
    stations (.node t left right) = .node t.toStation (stations left) (stations right) := rfl

section Root

variable {t : NodeAVL} {left right tree : StationTree}

/-- Deleting the root leaves the other stations. -/
theorem Step.deleteRoot_stations (search : IsSearchTree (.node t left right))
    (step : Step (.node t left right) (.deleteNodeWithoutRadioID t) tree) :
    inorder (stations tree) = inorder (stations left) ++ inorder (stations right) := by
  have ordered := search.ordered
  obtain ⟨-, -, below, above⟩ := SearchTree.ordered_node.mp ordered
  have found : SearchTree.find Station.staAddr t.staAddr (stations (.node t left right)) =
      some t.toStation := by
    simp [stations, BinaryTree.map, SearchTree.find]
  rw [step.inorder_stations search, StationOp.apply, deleteStation, found]
  simp only [radioMatches, Option.any_some, Option.all_none, if_true]
  rw [SearchTree.inorder_remove ordered]
  rw [stations_node, SearchTree.inorder_node, List.filter_append,
    List.filter_cons_of_neg (by simp)]
  congr 1
  · rw [List.filter_eq_self]
    intro station member
    simpa using (below station member).ne
  · rw [List.filter_eq_self]
    intro station member
    simpa using (above station member).ne'

theorem numNodes_stations (tree : StationTree) : (inorder (stations tree)).length = tree.numNodes := by
  rw [stations, SearchTree.inorder_map, List.length_map, SearchTree.length_inorder]

theorem Step.deleteRoot_numNodes (search : IsSearchTree (.node t left right))
    (step : Step (.node t left right) (.deleteNodeWithoutRadioID t) tree) :
    tree.numNodes = left.numNodes + right.numNodes := by
  rw [← numNodes_stations, step.deleteRoot_stations search, List.length_append, numNodes_stations,
    numNodes_stations]

theorem deleteRoot_shapeOf (search : IsSearchTree (.node t left right)) :
    ((StationOp.deleteNodeWithoutRadioID t).exec (.node t left right)).map shapeOf =
      deleteRoot (shapeOf (.node t left right)) := by
  obtain ⟨-, exactLeft, exactRight⟩ := search.heights
  obtain ⟨leftShape, rfl⟩ := heightsExact_iff.mp exactLeft
  obtain ⟨rightShape, rfl⟩ := heightsExact_iff.mp exactRight
  obtain ⟨-, orderedRight, -, -⟩ := SearchTree.ordered_node.mp search.ordered
  have whole : stations (measured rightShape) = rightShape.map Entry.toStation :=
    stations_measured rightShape
  exact shapeOf_deleteRoot t leftShape rightShape (whole ▸ orderedRight)

end Root

/-! ## Which trees are purged -/

/-- Whether deleting the root, as often as there are nodes, comes to the end. -/
def drains : Nat → Shape → Bool
  | _, .nil => true
  | 0, .node _ _ _ => false
  | nodes + 1, shape => (deleteRoot shape).any (drains nodes)

theorem drains_node (nodes : Nat) (left right : Shape) :
    drains (nodes + 1) (.node () left right) =
      (deleteRoot (.node () left right)).any (drains nodes) := rfl

/-- The stations of a tree that is purged are all of the WTP, and its shape drains. -/
theorem drains_of_purge {tree tree' : StationTree} {i : Int} {rounds : Nat}
    (search : IsSearchTree tree) (purged : purgeStations i rounds tree = some tree') :
    drains tree.numNodes (shapeOf tree) = true ∧ tree' = .nil ∧
      ∀ station ∈ inorder (stations tree), station.index = i := by
  induction rounds generalizing tree with
  | zero => cases purged
  | succ rounds inductionHypothesis =>
    cases tree with
    | nil =>
      cases purged
      simp [drains]
    | node t left right =>
      obtain ⟨same, tree, step, rest⟩ := purgeStations_cases purged
      have shape := deleteRoot_shapeOf search
      rw [show (StationOp.deleteNodeWithoutRadioID t).exec (.node t left right) = some tree from step,
        Option.map_some] at shape
      have remaining := step.deleteRoot_numNodes search
      have members := step.deleteRoot_stations search
      have rest : drains tree.numNodes (shapeOf tree) = true ∧ tree' = .nil ∧
          ∀ station ∈ inorder (stations tree), station.index = i := by
        rcases rest with ⟨rfl, rfl⟩ | ⟨fewer, counted, purged⟩
        · simp [drains]
        · cases counted
          exact inductionHypothesis (step.isSearchTree search) purged
      obtain ⟨drained, empty, all⟩ := rest
      refine ⟨?_, empty, ?_⟩
      · rw [BinaryTree.numNodes, ← remaining, shapeOf_node, drains_node, ← shapeOf_node, ← shape]
        exact drained
      · rw [members] at all
        intro station member
        rw [stations_node, SearchTree.inorder_node, List.mem_append, List.mem_cons] at member
        rcases member with before | rfl | after
        · exact all station (List.mem_append_left _ before)
        · exact same
        · exact all station (List.mem_append_right _ after)

/-- A tree of the stations of one WTP is purged when its shape drains. -/
theorem purge_of_drains {tree : StationTree} {i : Int} (search : IsSearchTree tree)
    (all : ∀ station ∈ inorder (stations tree), station.index = i)
    (drained : drains tree.numNodes (shapeOf tree) = true) :
    purgeStations i (tree.numNodes + 1) tree = some .nil := by
  induction nodes : tree.numNodes generalizing tree with
  | zero =>
    cases tree with
    | nil => rfl
    | node t left right => simp at nodes
  | succ n inductionHypothesis =>
    cases tree with
    | nil => simp at nodes
    | node t left right =>
      have same : t.index = i := all t.toStation (by simp [stations_node])
      have shape := deleteRoot_shapeOf search
      rw [nodes, shapeOf_node, drains_node, ← shapeOf_node, ← shape] at drained
      rw [purgeStations_node same]
      cases step : avlDeleteNodeWithoutRadioID (.node t left right) t with
      | none =>
        rw [StationOp.exec, step] at drained
        cases drained
      | some tree =>
        have step : Step (.node t left right) (.deleteNodeWithoutRadioID t) tree := step
        have remaining := step.deleteRoot_numNodes search
        rw [step] at drained
        rw [Option.bind_some]
        split
        next empty => rw [empty]
        next =>
          simp only [BinaryTree.numNodes] at nodes
          have counted : tree.numNodes = n := by omega
          refine inductionHypothesis (step.isSearchTree search) ?_ ?_ counted
          · intro station member
            rw [step.deleteRoot_stations search, List.mem_append] at member
            refine all station ?_
            rw [stations_node, SearchTree.inorder_node, List.mem_append, List.mem_cons]
            rcases member with before | after
            · exact .inl before
            · exact .inr (.inr after)
          · rw [counted]
            exact drained

/-- A rotation that goes the wrong way comes before the end of every tree of seven nodes. -/
theorem not_drains_seven : ∀ shape ∈ shapes 7 7, drains 7 shape = false := by
  decide +kernel

theorem drains_small : ∀ nodes < 7, ∀ shape ∈ shapes nodes nodes, SearchTree.Balanced shape →
    (drains nodes shape = true ↔ shape.left.numNodes ≤ 1) := by
  decide +kernel

/-- A larger tree would come down to seven nodes on its way. -/
theorem numNodes_of_purge {tree tree' : StationTree} {i : Int} {rounds : Nat}
    (search : IsSearchTree tree) (purged : purgeStations i rounds tree = some tree') :
    tree.numNodes < 7 := by
  induction rounds generalizing tree with
  | zero => cases purged
  | succ rounds inductionHypothesis =>
    cases tree with
    | nil => simp
    | node t left right =>
      have drained := (drains_of_purge search purged).1
      obtain ⟨-, tree, step, rest⟩ := purgeStations_cases purged
      have remaining := step.deleteRoot_numNodes search
      have fewer : tree.numNodes < 7 := by
        rcases rest with ⟨rfl, -⟩ | ⟨fewer, counted, purged⟩
        · simp
        · cases counted
          exact inductionHypothesis (step.isSearchTree search) purged
      have notSeven : (BinaryTree.node t left right).numNodes ≠ 7 := by
        intro seven
        have member := SearchTree.mem_shapes (shapeOf (.node t left right)).height_le_numNodes
        rw [numNodes_shapeOf, seven] at member
        rw [seven, not_drains_seven _ member] at drained
        cases drained
      simp only [BinaryTree.numNodes] at notSeven ⊢
      omega

theorem drains_iff {tree : StationTree} (avl : IsAVL tree) (few : tree.numNodes < 7) :
    drains tree.numNodes (shapeOf tree) = true ↔ tree.left.numNodes ≤ 1 := by
  have member := SearchTree.mem_shapes (shapeOf tree).height_le_numNodes
  have balanced : SearchTree.Balanced (shapeOf tree) :=
    (SearchTree.balanced_map _ tree).mpr avl.balanced
  rw [numNodes_shapeOf] at member
  have left : (shapeOf tree).left = shapeOf tree.left := by cases tree <;> rfl
  rw [drains_small _ few _ member balanced, left, numNodes_shapeOf]

/-- A balanced tree leans by one level at most. -/
theorem numNodes_of_left {tree : StationTree} (balanced : SearchTree.Balanced tree)
    (small : tree.left.numNodes ≤ 1) : tree.numNodes < 7 := by
  cases tree with
  | nil => simp
  | node t left right =>
    obtain ⟨-, above, -, -⟩ := balanced
    simp only [BinaryTree.left, BinaryTree.numNodes] at small ⊢
    have low := left.height_le_numNodes
    have high : right.height ≤ 2 := by omega
    have bound := SearchTree.numNodes_lt_two_pow right
    have power : 2 ^ right.height ≤ 2 ^ 2 := Nat.pow_le_pow_right (by simp) high
    omega

/-- Closing the session of a WTP purges its stations exactly when every station in the
    tree is its own and at most one of them is left of the root. -/
theorem purgesStations_iff {tree : StationTree} (avl : IsAVL tree) (i : Int) :
    FindsWTPNode tree i ∧ PurgesStations tree i ↔
      (∀ station ∈ inorder (stations tree), station.index = i) ∧ tree.left.numNodes ≤ 1 := by
  constructor
  · rintro ⟨-, rounds, tree', purged, -⟩
    obtain ⟨drained, -, all⟩ := drains_of_purge avl.toIsSearchTree purged
    have few := numNodes_of_purge avl.toIsSearchTree purged
    exact ⟨all, (drains_iff avl few).mp drained⟩
  · rintro ⟨all, small⟩
    constructor
    · cases tree with
      | nil => exact ⟨none, rfl, by simp⟩
      | node t left right =>
        have same : t.index = i := all t.toStation (by simp)
        exact ⟨some t, by simp [avlFindWTPNode, same], by simp [same]⟩
    · have drained := (drains_iff avl (numNodes_of_left avl.balanced small)).mpr small
      refine ⟨_, _, purge_of_drains avl.toIsSearchTree all drained, ?_⟩
      symm
      simp only [stations_nil, SearchTree.inorder_nil, List.filter_eq_nil_iff]
      intro station member
      simp [all station member]

/-- Stations of a WTP, or of two. -/
def threeStations (first second : Int) : StationTree :=
  let entry (index : Int) (byte : UInt8) (cell : Nat) : Entry :=
    { index, radioID := 1, staAddr := shortAddr byte, BSSID := shortAddr 9, cell }
  measured (.node (entry first 2 0) (.node (entry second 1 1) .nil .nil)
    (.node (entry second 3 2) .nil .nil))

theorem isAVL_threeStations (first second : Int) : IsAVL (threeStations first second) where
  heights := heightsExact_measured _
  ordered := by
    rw [threeStations, stations_measured]
    simp [SearchTree.Ordered, BinaryTree.map]
    decide
  balanced := (balanced_measured _).mpr (by simp [SearchTree.Balanced])

theorem purgesStations_iff_threeStations :
    FindsWTPNode (threeStations 1 1) 1 ∧ PurgesStations (threeStations 1 1) 1 :=
  (purgesStations_iff (isAVL_threeStations 1 1) 1).mpr (by decide)

/-- The search stops at the root, which is of another WTP. -/
theorem avlFindWTPNode_not_found : ¬ ∀ tree, IsAVL tree → ∀ index,
    FindsWTPNode tree index ∧ PurgesStations tree index := by
  intro all
  obtain ⟨⟨found, returned, -⟩, -⟩ := all (threeStations 1 2) (isAVL_threeStations 1 2) 2
  cases returned

end WlanController.Stations
