import WlanController.Foundation.Run
import WlanController.Stations.Updates

/-!
# Operations on the tree of stations

Each operation does to the stations in the tree what the corresponding operation of a
plain search tree does, in whatever order they come.
-/

namespace WlanController.Stations

open SearchTree (inorder Ordered find least)

inductive StationOp
  | insert (cell : Nat) (index : Int) (staAddr BSSID : EthAddr) (radioID : Int)
  | deleteNode (staAddr : EthAddr) (radioID : Int)
  | deleteNodeWithoutRadioID (nodeToDelete : NodeAVL)

def StationOp.exec : StationOp → StationTree → Option StationTree
  | .insert cell index staAddr BSSID radioID, tree =>
    avlInsert cell index staAddr BSSID radioID tree
  | .deleteNode staAddr radioID, tree => avlDeleteNode tree staAddr radioID
  | .deleteNodeWithoutRadioID nodeToDelete, tree => avlDeleteNodeWithoutRadioID tree nodeToDelete

/-- An operation that does not follow an absent child. -/
def Step (tree : StationTree) (op : StationOp) (tree' : StationTree) : Prop :=
  op.exec tree = some tree'

/-! ## The stations in a tree -/

def stations (tree : StationTree) : BinaryTree Station := tree.map fun n => n.toStation

theorem stations_measured (shape : BinaryTree Entry) :
    stations (measured shape) = shape.map Entry.toStation := by
  have same := entries_measured shape
  rw [entries] at same
  rw [stations, ← same, ← BinaryTree.comp_map]
  simp only [same]
  rfl

theorem avlFind_eq (staAddr : EthAddr) (tree : StationTree) :
    avlFind staAddr tree = find (fun n : NodeAVL => n.staAddr) staAddr tree := by
  induction tree with
  | nil => rfl
  | node n left right leftHypothesis rightHypothesis =>
    simp only [avlFind, find, compareEthAddr_neg_iff, gt_iff_lt, compareEthAddr_pos_iff,
      leftHypothesis, rightHypothesis]

theorem avlFind_station (staAddr : EthAddr) (tree : StationTree) :
    (avlFind staAddr tree).map (·.toStation) = find Station.staAddr staAddr (stations tree) := by
  rw [avlFind_eq, stations, SearchTree.find_map]

/-! ## What the operations do -/

/-- Remove the station with the key if its radio is the one asked for. -/
def deleteStation (radioID : Option Int) (staAddr : EthAddr) (tree : BinaryTree Station) :
    BinaryTree Station :=
  if (find Station.staAddr staAddr tree).any (radioMatches radioID) then
    SearchTree.remove Station.staAddr staAddr tree
  else tree

def StationOp.apply : StationOp → BinaryTree Station → BinaryTree Station
  | .insert _ index staAddr BSSID radioID, tree =>
    SearchTree.insert Station.staAddr { index, radioID, staAddr, BSSID } tree
  | .deleteNode staAddr radioID, tree => deleteStation (some radioID) staAddr tree
  | .deleteNodeWithoutRadioID nodeToDelete, tree => deleteStation none nodeToDelete.staAddr tree

section Delete

variable {radioID : Option Int} {staAddr : EthAddr} {root : Station}
  {left right : BinaryTree Station}

theorem deleteStation_of_lt (less : staAddr < root.staAddr) :
    deleteStation radioID staAddr (.node root left right) =
      .node root (deleteStation radioID staAddr left) right := by
  simp only [deleteStation, find, if_pos less, SearchTree.remove_of_lt less]
  split <;> rfl

theorem deleteStation_of_gt (more : root.staAddr < staAddr) :
    deleteStation radioID staAddr (.node root left right) =
      .node root left (deleteStation radioID staAddr right) := by
  simp only [deleteStation, find, if_neg (not_lt_of_gt more), if_pos more,
    SearchTree.remove_of_gt more]
  split <;> rfl

theorem deleteStation_root (found : radioMatches radioID root = true) :
    deleteStation radioID root.staAddr (.node root left right) =
      SearchTree.remove Station.staAddr root.staAddr (.node root left right) := by
  simp [deleteStation, find, found]

theorem deleteStation_other (other : ¬ radioMatches radioID root = true) :
    deleteStation radioID root.staAddr (.node root left right) = .node root left right := by
  simp [deleteStation, find, other]

/-- The successor is removed whatever radio it is at, since it is its own that is asked for. -/
theorem deleteStation_least {next : Station} {nextLeft nextRight : BinaryTree Station}
    (ordered : Ordered Station.staAddr (.node next nextLeft nextRight)) :
    deleteStation (radioID.map fun _ => (least next nextLeft).radioID)
        (least next nextLeft).staAddr (.node next nextLeft nextRight) =
      SearchTree.remove Station.staAddr (least next nextLeft).staAddr
        (.node next nextLeft nextRight) := by
  obtain ⟨rest, first⟩ := SearchTree.exists_inorder_eq_least next nextLeft nextRight
  have found := (SearchTree.find_eq_some_iff ordered).mpr
    ⟨first ▸ List.mem_cons_self, (rfl : (least next nextLeft).staAddr = _)⟩
  rw [deleteStation, found]
  cases radioID with
  | none => rfl
  | some radioID => simp [radioMatches]

theorem stations_deleteEntry (radioID : Option Int) (staAddr : EthAddr) {shape : BinaryTree Entry}
    (ordered : Ordered Station.staAddr (shape.map Entry.toStation)) :
    (deleteEntry radioID staAddr shape).map Entry.toStation =
      deleteStation radioID staAddr (shape.map Entry.toStation) := by
  induction shape generalizing radioID staAddr with
  | nil =>
    rw [deleteStation]
    split <;> rfl
  | node root left right leftHypothesis rightHypothesis =>
    obtain ⟨orderedLeft, orderedRight, -, -⟩ := SearchTree.ordered_node.mp ordered
    rw [deleteEntry.eq_def, BinaryTree.map]
    rcases lt_trichotomy staAddr root.staAddr with less | rfl | more
    · simp only [if_pos less]
      rw [deleteStation_of_lt less, BinaryTree.map, leftHypothesis radioID staAddr orderedLeft]
    · simp only [lt_irrefl, if_false]
      by_cases found : radioMatches radioID root.toStation = true
      · rw [deleteStation_root found, if_pos found]
        cases left with
        | nil => cases right <;> exact SearchTree.remove_root_nil.symm
        | node child childLeft childRight =>
          cases right with
          | nil => exact SearchTree.remove_root_left.symm
          | node next nextLeft nextRight =>
            have successor : least next.toStation (nextLeft.map Entry.toStation) =
                (least next nextLeft).toStation := SearchTree.least_map _ _ _
            have removed := rightHypothesis
              (radioID.map fun _ => (least next nextLeft).radioID)
              (least next nextLeft).staAddr orderedRight
            have whole := @deleteStation_least radioID _ _ _ orderedRight
            rw [successor] at whole
            simp only [BinaryTree.map] at removed
            simp only [BinaryTree.map, SearchTree.remove_root, successor, removed, whole]
      · rw [deleteStation_other found, if_neg found]
        rfl
    · simp only [if_neg (not_lt_of_gt more), if_pos more]
      rw [deleteStation_of_gt more, BinaryTree.map, rightHypothesis radioID staAddr orderedRight]

end Delete

/-! ## Steps -/

/-- The keys increase from left to right and the heights are right. -/
structure IsSearchTree (tree : StationTree) : Prop where
  heights : HeightsExact tree
  ordered : Ordered Station.staAddr (stations tree)

theorem isSearchTree_nil : IsSearchTree .nil where
  heights := trivial
  ordered := SearchTree.ordered_nil _

theorem StationOp.ordered_apply (op : StationOp) {tree : BinaryTree Station}
    (ordered : Ordered Station.staAddr tree) : Ordered Station.staAddr (op.apply tree) := by
  have deleted : ∀ radioID staAddr, Ordered Station.staAddr (deleteStation radioID staAddr tree) := by
    intro radioID staAddr
    rw [deleteStation]
    split
    next => exact ordered.remove staAddr
    next => exact ordered
  cases op with
  | insert cell index staAddr BSSID radioID => exact ordered.insert _
  | deleteNode staAddr radioID => exact deleted (some radioID) staAddr
  | deleteNodeWithoutRadioID nodeToDelete => exact deleted none nodeToDelete.staAddr

/-- The entries an operation leaves when it returns. -/
def StationOp.plain : StationOp → BinaryTree Entry → BinaryTree Entry
  | .insert cell index staAddr BSSID radioID, shape =>
    SearchTree.insert (fun entry => entry.staAddr) (newEntry cell index staAddr BSSID radioID) shape
  | .deleteNode staAddr radioID, shape => deleteEntry (some radioID) staAddr shape
  | .deleteNodeWithoutRadioID nodeToDelete, shape => deleteEntry none nodeToDelete.staAddr shape

theorem StationOp.yields (op : StationOp) (shape : BinaryTree Entry) :
    Yields (op.exec (measured shape)) (inorder (op.plain shape)) := by
  cases op with
  | insert cell index staAddr BSSID radioID => exact yields_insert shape
  | deleteNode staAddr radioID => exact yields_delete (some radioID) staAddr shape
  | deleteNodeWithoutRadioID nodeToDelete => exact yields_delete none nodeToDelete.staAddr shape

theorem StationOp.stations_plain (op : StationOp) {shape : BinaryTree Entry}
    (ordered : Ordered Station.staAddr (shape.map Entry.toStation)) :
    (op.plain shape).map Entry.toStation = op.apply (shape.map Entry.toStation) := by
  cases op with
  | insert cell index staAddr BSSID radioID => exact SearchTree.insert_map Entry.toStation _ shape
  | deleteNode staAddr radioID => exact stations_deleteEntry (some radioID) staAddr ordered
  | deleteNodeWithoutRadioID nodeToDelete =>
    exact stations_deleteEntry none nodeToDelete.staAddr ordered

/-- An operation that returns leaves the stations of the plain operation. -/
theorem Step.inorder_stations {tree tree' : StationTree} {op : StationOp}
    (search : IsSearchTree tree) (step : Step tree op tree') :
    inorder (stations tree') = inorder (op.apply (stations tree)) := by
  obtain ⟨shape, rfl⟩ := heightsExact_iff.mp search.heights
  obtain ⟨shape', rfl, same⟩ := op.yields shape tree' step
  have ordered := search.ordered
  rw [stations_measured] at ordered
  rw [stations_measured, stations_measured, ← op.stations_plain ordered, SearchTree.inorder_map,
    SearchTree.inorder_map, same]

theorem Step.isSearchTree {tree tree' : StationTree} {op : StationOp}
    (search : IsSearchTree tree) (step : Step tree op tree') : IsSearchTree tree' := by
  constructor
  case heights =>
    obtain ⟨shape, rfl⟩ := heightsExact_iff.mp search.heights
    obtain ⟨shape', rfl, -⟩ := op.yields shape tree' step
    exact heightsExact_measured shape'
  case ordered =>
    rw [Ordered, step.inorder_stations search]
    exact op.ordered_apply search.ordered

end WlanController.Stations
