import Mathlib.Data.List.Perm.Subperm
import WlanController.Stations.Balance
import WlanController.Stations.StationIndex

/-!
# The cells of the nodes

The source keeps pointers to nodes while it updates the tree.  A deletion frees a cell that
need not be that of the deleted station: the node next to it may be copied over it.
-/

namespace WlanController.Stations

open SearchTree (inorder Ordered find)

/-- The cells in which the nodes of a tree stand. -/
def cells (shape : BinaryTree Entry) : List Nat := (inorder shape).map (·.cell)

@[simp] theorem cells_nil : cells .nil = [] := rfl

@[simp] theorem cells_node (entry : Entry) (left right : BinaryTree Entry) :
    cells (.node entry left right) = cells left ++ entry.cell :: cells right := by
  simp [cells]

/-- What is found in a cell. -/
def readCell (cell : Nat) (tree : StationTree) : Option Entry :=
  (inorder (entries tree)).find? (·.cell == cell)

theorem readCell_eq_some_iff {cell : Nat} {tree : StationTree} {entry : Entry}
    (distinct : (cells (entries tree)).Nodup) :
    readCell cell tree = some entry ↔ entry ∈ inorder (entries tree) ∧ entry.cell = cell := by
  constructor
  · intro found
    exact ⟨List.mem_of_find?_eq_some found, by simpa using List.find?_some found⟩
  · rintro ⟨member, rfl⟩
    cases found : readCell entry.cell tree with
    | none =>
      have absent := List.find?_eq_none.mp found entry member
      simp at absent
    | some other =>
      have same : other.cell = entry.cell := by simpa using List.find?_some found
      exact congrArg some (List.inj_on_of_nodup_map distinct
        (List.mem_of_find?_eq_some found) member same)

/-! ## Deletions -/

/-- The entry in one cell is copied over the one in another. -/
theorem subperm_copied (before after : List Nat) (cell freed : Nat) :
    (before ++ cell :: after).Subperm (cell :: (before ++ freed :: after)) := by
  have moved : (before ++ cell :: after).Perm (cell :: (before ++ after)) := List.perm_middle
  refine moved.subperm.trans ((List.subperm_cons cell).mpr ?_)
  exact ((List.sublist_cons_self freed after).append_left before).subperm

/-- A deletion moves entries into cells of the tree. -/
theorem cells_deleteEntry (radioID : Option Int) (staAddr : EthAddr) (shape : BinaryTree Entry) :
    (cells (deleteEntry radioID staAddr shape)).Subperm (cells shape) := by
  induction shape generalizing radioID staAddr with
  | nil => exact List.Subperm.refl _
  | node root left right leftHypothesis rightHypothesis =>
    rw [deleteEntry.eq_def]
    rcases lt_trichotomy staAddr root.staAddr with less | same | more
    · simp only [if_pos less, cells_node]
      exact (leftHypothesis radioID staAddr).append (List.Subperm.refl _)
    · simp only [if_neg same.not_lt, if_neg same.not_gt]
      by_cases found : radioMatches radioID root.toStation = true
      · simp only [if_pos found]
        cases left with
        | nil =>
          cases right with
          | nil => exact List.nil_subperm
          | node temp tempLeft tempRight =>
            simp only [cells_node, cells_nil, List.nil_append]
            exact subperm_copied _ _ _ _
        | node temp tempLeft tempRight =>
          cases right with
          | nil =>
            simp only [cells_node, cells_nil]
            have moved := List.perm_append_singleton root.cell
              (cells tempLeft ++ temp.cell :: cells tempRight)
            exact (subperm_copied _ _ _ _).trans moved.symm.subperm
          | node next nextLeft nextRight =>
            rw [cells_node, cells_node root]
            exact (List.Subperm.refl _).append ((List.subperm_cons _).mpr (rightHypothesis _ _))
      · simp only [if_neg found]
        exact List.Subperm.refl _
    · simp only [if_neg (not_lt_of_gt more), if_pos more, cells_node]
      exact (List.Subperm.refl _).append ((List.subperm_cons _).mpr
        (rightHypothesis radioID staAddr))

/-! ## Insertions -/

theorem cells_insert {entry : Entry} {shape : BinaryTree Entry} (fresh : entry.cell ∉ cells shape)
    (distinct : (cells shape).Nodup) :
    (cells (SearchTree.insert (fun entry => entry.staAddr) entry shape)).Nodup := by
  rcases @SearchTree.inorder_insert _ _ _ (fun entry : Entry => entry.staAddr) entry shape with
    same | added
  · rw [cells, same]
    exact distinct
  · have moved : (cells (SearchTree.insert (fun entry => entry.staAddr) entry shape)).Perm
        (entry.cell :: cells shape) := added.map Entry.cell
    exact moved.nodup_iff.mpr (List.nodup_cons.mpr ⟨fresh, distinct⟩)

/-- Where the key stands there are both subtrees or none, and beside it there is the
    subtree in which it is. -/
def Holds (staAddr : EthAddr) : BinaryTree Entry → Prop
  | .nil => False
  | .node entry left right =>
    (staAddr ≤ entry.staAddr → left = .nil → staAddr = entry.staAddr ∧ right = .nil) ∧
      (entry.staAddr ≤ staAddr → right = .nil → staAddr = entry.staAddr ∧ left = .nil)

section Insert

variable (n : NodeAVL) {staAddr : EthAddr} {left right : BinaryTree Entry}

theorem insertedLeft_holds (less : staAddr < n.staAddr) (holds : Holds staAddr left) :
    Returns ((insertedLeft staAddr n (measured left) (measured right)).map updateHeight)
      (Holds staAddr) := by
  cases left with
  | nil => cases holds
  | node entry outer middle =>
    obtain ⟨before, after⟩ := holds
    by_cases heavy : (BinaryTree.node entry outer middle).height = right.height + 2
    · by_cases lower : staAddr < entry.staAddr
      · rw [insertedLeft_single n heavy lower, Option.map_some, updateHeight_measured]
        refine ⟨_, rfl, ?_, ?_⟩
        · intro _ absent
          exact absurd (before lower.le absent).1 lower.ne
        · intro upper
          exact absurd upper (not_le_of_gt lower)
      · cases middle with
        | nil =>
          -- the key alone is not two levels higher
          obtain ⟨-, rfl⟩ := after (not_lt.mp lower) rfl
          simp only [BinaryTree.height] at heavy
          omega
        | node inner innerLeft innerRight =>
          rw [insertedLeft_double n heavy lower, Option.map_some, updateHeight_measured]
          refine ⟨_, rfl, ?_, ?_⟩
          · intro _ absent
            cases absent
          · intro _ absent
            cases absent
    · rw [insertedLeft_even n heavy, Option.map_some, updateHeight_node_measured]
      refine ⟨_, rfl, ?_, ?_⟩
      · intro _ absent
        cases absent
      · intro upper
        exact absurd upper (not_le_of_gt less)

theorem insertedRight_holds (more : n.staAddr < staAddr) (holds : Holds staAddr right) :
    Returns ((insertedRight staAddr n (measured left) (measured right)).map updateHeight)
      (Holds staAddr) := by
  cases right with
  | nil => cases holds
  | node entry middle outer =>
    obtain ⟨before, after⟩ := holds
    by_cases heavy : (BinaryTree.node entry middle outer).height = left.height + 2
    · by_cases upper : entry.staAddr < staAddr
      · rw [insertedRight_single n heavy upper, Option.map_some, updateHeight_measured]
        refine ⟨_, rfl, ?_, ?_⟩
        · intro lower
          exact absurd lower (not_le_of_gt upper)
        · intro _ absent
          exact absurd (after upper.le absent).1 upper.ne'
      · cases middle with
        | nil =>
          obtain ⟨-, rfl⟩ := before (not_lt.mp upper) rfl
          simp only [BinaryTree.height] at heavy
          omega
        | node inner innerLeft innerRight =>
          rw [insertedRight_double n heavy upper, Option.map_some, updateHeight_measured]
          refine ⟨_, rfl, ?_, ?_⟩
          · intro _ absent
            cases absent
          · intro _ absent
            cases absent
    · rw [insertedRight_even n heavy, Option.map_some, updateHeight_node_measured]
      refine ⟨_, rfl, ?_, ?_⟩
      · intro lower
        exact absurd lower (not_le_of_gt more)
      · intro _ absent
        cases absent

/-- An insertion of a new key returns, in balance or not. -/
theorem avlInsert_returns (cell : Nat) (index : Int) (BSSID : EthAddr) (radioID : Int)
    {shape : BinaryTree Entry} (absent : ∀ entry ∈ inorder shape, entry.staAddr ≠ staAddr) :
    Returns (avlInsert cell index staAddr BSSID radioID (measured shape)) (Holds staAddr) := by
  induction shape with
  | nil =>
    refine ⟨.node (newEntry cell index staAddr BSSID radioID) .nil .nil, rfl, ?_, ?_⟩
    · exact fun _ _ => ⟨rfl, rfl⟩
    · exact fun _ _ => ⟨rfl, rfl⟩
  | node entry left right leftHypothesis rightHypothesis =>
    simp only [SearchTree.inorder_node, List.forall_mem_append, List.forall_mem_cons] at absent
    obtain ⟨absentLeft, other, absentRight⟩ := absent
    rw [measured]
    rcases lt_trichotomy staAddr entry.staAddr with less | same | more
    · obtain ⟨left', returned, holds⟩ := leftHypothesis absentLeft
      rw [avlInsert_of_lt less, returned, Option.bind_some]
      exact insertedLeft_holds _ less holds
    · exact absurd same.symm other
    · obtain ⟨right', returned, holds⟩ := rightHypothesis absentRight
      rw [avlInsert_of_gt more, returned, Option.bind_some]
      exact insertedRight_holds _ more holds

end Insert

/-! ## Reachable trees -/

/-- An operation whose new node stands where `malloc` puts it. -/
def StationOp.Allocates (malloc : StationTree → Nat) (tree : StationTree) : StationOp → Prop
  | .insert cell _ _ _ _ => cell = malloc tree
  | .deleteNode _ _ => True
  | .deleteNodeWithoutRadioID _ => True

/-- `malloc` finds a cell in which no node stands. -/
def FindsFreeCell (malloc : StationTree → Nat) : Prop :=
  ∀ tree, malloc tree ∉ cells (entries tree)

/-- The trees that operations make of the empty tree. -/
inductive Reachable (malloc : StationTree → Nat) : StationTree → Prop
  | empty : Reachable malloc .nil
  | step {tree tree' : StationTree} {op : StationOp} : Reachable malloc tree →
      Step tree op tree' → op.Allocates malloc tree → Reachable malloc tree'

theorem IsSearchTree.ordered_entries {tree : StationTree} (search : IsSearchTree tree) :
    Ordered (fun entry : Entry => entry.staAddr) (entries tree) := by
  obtain ⟨shape, rfl⟩ := heightsExact_iff.mp search.heights
  have ordered := search.ordered
  rw [stations_measured] at ordered
  rw [entries_measured]
  exact (SearchTree.ordered_map Entry.toStation shape).mp ordered

theorem Step.inorder_entries {tree tree' : StationTree} {op : StationOp}
    (search : IsSearchTree tree) (step : Step tree op tree') :
    inorder (entries tree') = inorder (op.plain (entries tree)) := by
  obtain ⟨shape, rfl⟩ := heightsExact_iff.mp search.heights
  obtain ⟨shape', rfl, same⟩ := op.yields shape tree' step
  rw [entries_measured, entries_measured, same]

theorem Step.distinct_cells {malloc : StationTree → Nat} (free : FindsFreeCell malloc)
    {tree tree' : StationTree} {op : StationOp} (search : IsSearchTree tree)
    (distinct : (cells (entries tree)).Nodup) (allocates : op.Allocates malloc tree)
    (step : Step tree op tree') : (cells (entries tree')).Nodup := by
  rw [cells, step.inorder_entries search]
  cases op with
  | insert cell index staAddr BSSID radioID =>
    cases allocates
    exact cells_insert (free tree) distinct
  | deleteNode staAddr radioID =>
    obtain ⟨kept, same, sublist⟩ := cells_deleteEntry (some radioID) staAddr (entries tree)
    exact same.nodup_iff.mp (distinct.sublist sublist)
  | deleteNodeWithoutRadioID nodeToDelete =>
    obtain ⟨kept, same, sublist⟩ := cells_deleteEntry none nodeToDelete.staAddr (entries tree)
    exact same.nodup_iff.mp (distinct.sublist sublist)

/-- The keys increase, the heights are right, and no two nodes share a cell. -/
structure IsSound (tree : StationTree) : Prop extends IsSearchTree tree where
  distinct : (cells (entries tree)).Nodup

theorem IsSound.step {malloc : StationTree → Nat} (free : FindsFreeCell malloc)
    {tree tree' : StationTree} {op : StationOp} (sound : IsSound tree) (step : Step tree op tree')
    (allocates : op.Allocates malloc tree) : IsSound tree' where
  toIsSearchTree := step.isSearchTree sound.toIsSearchTree
  distinct := step.distinct_cells free sound.toIsSearchTree sound.distinct allocates

theorem Reachable.isSound {malloc : StationTree → Nat} (free : FindsFreeCell malloc)
    {tree : StationTree} (reachable : Reachable malloc tree) : IsSound tree := by
  induction reachable with
  | empty => exact ⟨isSearchTree_nil, .nil⟩
  | step _ step allocates inductionHypothesis => exact inductionHypothesis.step free step allocates

/-- A station that is not in the tree can be inserted. -/
theorem insert_of_absent {tree : StationTree} (search : IsSearchTree tree) (cell : Nat)
    (station : Station) (absent : stationIndex tree station.staAddr = none) :
    ∃ tree', Step tree (.insert cell station.index station.staAddr station.BSSID station.radioID)
      tree' ∧ stationIndex tree' station.staAddr = some station := by
  obtain ⟨shape, rfl⟩ := heightsExact_iff.mp search.heights
  have missing : ∀ entry ∈ inorder shape, entry.staAddr ≠ station.staAddr := by
    intro entry member same
    rw [stationIndex_eq, SearchTree.find_eq_none_iff search.ordered] at absent
    refine absent entry.toStation ?_ same
    rw [stations_measured, SearchTree.inorder_map]
    exact List.mem_map_of_mem member
  obtain ⟨shape', step, -⟩ := avlInsert_returns cell station.index station.BSSID station.radioID missing
  have step : Step (measured shape)
      (.insert cell station.index station.staAddr station.BSSID station.radioID) _ := step
  refine ⟨_, step, ?_⟩
  rw [step.stationIndex search, StationOp.update, absent]
  simp

end WlanController.Stations
