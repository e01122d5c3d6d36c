import Mathlib.Logic.Function.Basic
import WlanController.Stations.Balance

/-!
# The tree as a map

To its users the tree is a map from addresses to stations, read through `AVLfind`.  Every
operation that returns updates the map in one place.
-/

namespace WlanController.Stations

open SearchTree (inorder Ordered find)

/-- What a lookup can find, for every address. -/
abbrev StationIndex := EthAddr → Option Station

def StationIndex.empty : StationIndex := fun _ => none

/-- What an operation does to the map. -/
def StationOp.update : StationOp → StationIndex → StationIndex
  | .insert _ index staAddr BSSID radioID, map =>
    if (map staAddr).isSome then map
    else Function.update map staAddr (some { index, radioID, staAddr, BSSID })
  | .deleteNode staAddr radioID, map =>
    if (map staAddr).any (·.radioID == radioID) then Function.update map staAddr none else map
  | .deleteNodeWithoutRadioID nodeToDelete, map => Function.update map nodeToDelete.staAddr none

def stationIndex (tree : StationTree) : StationIndex :=
  fun staAddr => (avlFind staAddr tree).map (·.toStation)

theorem stationIndex_eq (tree : StationTree) (staAddr : EthAddr) :
    stationIndex tree staAddr = find Station.staAddr staAddr (stations tree) :=
  avlFind_station staAddr tree

/-! ## Operations on the map -/

theorem update_deleteStation (radioID : Option Int) (removed : EthAddr) {tree : BinaryTree Station}
    (ordered : Ordered Station.staAddr tree) (staAddr : EthAddr) :
    find Station.staAddr staAddr (deleteStation radioID removed tree) =
      if (find Station.staAddr removed tree).any (radioMatches radioID) ∧ staAddr = removed then none
      else find Station.staAddr staAddr tree := by
  rw [deleteStation]
  by_cases matching : (find Station.staAddr removed tree).any (radioMatches radioID) = true
  · simp [matching, SearchTree.find_remove ordered]
  · simp [matching]

/-- The map changes as the operation says. -/
theorem find_apply (op : StationOp) {tree : BinaryTree Station}
    (ordered : Ordered Station.staAddr tree) :
    (fun staAddr => find Station.staAddr staAddr (op.apply tree)) =
      op.update fun staAddr => find Station.staAddr staAddr tree := by
  funext staAddr
  cases op with
  | insert cell index added BSSID radioID =>
    simp only [StationOp.apply, StationOp.update, SearchTree.find_insert ordered]
    by_cases here : staAddr = added
    · subst here
      rcases Option.eq_none_or_eq_some (find Station.staAddr staAddr tree) with absent | ⟨station, found⟩
      · simp [absent]
      · simp [found]
    · by_cases present : (find Station.staAddr added tree).isSome = true
      · simp [here, present]
      · simp [here, present]
  | deleteNode removed radioID =>
    simp only [StationOp.apply, StationOp.update, update_deleteStation _ removed ordered]
    have asked : radioMatches (some radioID) = fun station => station.radioID == radioID := by
      funext station
      simp [radioMatches]
    rw [asked]
    by_cases matching : ((find Station.staAddr removed tree).any (·.radioID == radioID)) = true
    · simp only [matching, true_and, if_true, Function.update_apply]
    · simp [matching]
  | deleteNodeWithoutRadioID nodeToDelete =>
    simp only [StationOp.apply, StationOp.update, update_deleteStation none _ ordered,
      Function.update_apply]
    by_cases here : staAddr = nodeToDelete.staAddr
    · rcases Option.eq_none_or_eq_some (find Station.staAddr nodeToDelete.staAddr tree) with
        absent | ⟨station, found⟩
      · simp [here, absent]
      · simp [here, found, radioMatches]
    · simp [here]

/-! ## Steps and runs -/

theorem Step.stationIndex {tree tree' : StationTree} {op : StationOp} (search : IsSearchTree tree)
    (step : Step tree op tree') : stationIndex tree' = op.update (stationIndex tree) := by
  have before : Stations.stationIndex tree =
      fun staAddr => find Station.staAddr staAddr (stations tree) := funext (stationIndex_eq tree)
  rw [before, ← find_apply op search.ordered]
  funext staAddr
  rw [stationIndex_eq]
  exact SearchTree.find_congr (op.ordered_apply search.ordered) (step.inorder_stations search) staAddr

/-- The operation follows no absent child and updates the map. -/
def Refines (tree : StationTree) (op : StationOp) : Prop :=
  ∃ tree', Step tree op tree' ∧ stationIndex tree' = op.update (stationIndex tree)

/-- A run that comes to its end has updated the map operation by operation. -/
theorem stationIndex_of_trace {ops : List StationOp} {tree tree' : StationTree}
    (search : IsSearchTree tree) (trace : Run.Trace Step tree ops tree') :
    stationIndex tree' = ops.foldl (fun map op => op.update map) (stationIndex tree) := by
  induction trace with
  | nil tree => rfl
  | cons step _ inductionHypothesis =>
    rw [List.foldl_cons, ← step.stationIndex search]
    exact inductionHypothesis (step.isSearchTree search)

theorem StaysAVL.refines {tree : StationTree} {op : StationOp} (avl : IsAVL tree)
    (stays : StaysAVL tree op) : Refines tree op := by
  obtain ⟨tree', step, -⟩ := stays
  exact ⟨tree', step, step.stationIndex avl.toIsSearchTree⟩

/-- While deletions keep the tree in balance no step fails. -/
theorem allSteps_refines {tree : StationTree} (avl : IsAVL tree) {ops : List StationOp}
    (balanced : Run.AllSteps Step KeepsBalance tree ops) : Run.AllSteps Step Refines tree ops := by
  induction ops generalizing tree with
  | nil => trivial
  | cons op ops inductionHypothesis =>
    obtain ⟨keeps, rest⟩ := balanced
    have stays := (staysAVL_iff avl op).mpr keeps
    exact ⟨stays.refines avl, fun tree' step =>
      inductionHypothesis (step.isAVL stays) (rest tree' step)⟩

/-- Every run that comes to its end has updated the map operation by operation, and no
    step fails while deletions keep the tree in balance. -/
theorem run_refines (ops : List StationOp) :
    (∀ tree, Run.Trace Step .nil ops tree →
      stationIndex tree = ops.foldl (fun map op => op.update map) StationIndex.empty) ∧
    (Run.AllSteps Step KeepsBalance .nil ops → Run.AllSteps Step Refines .nil ops) :=
  ⟨fun _ trace => stationIndex_of_trace isSearchTree_nil trace,
    fun balanced => allSteps_refines isAVL_nil balanced⟩

/-- The deletion of a station that is in the tree never returns. -/
theorem deleteNode_not_refines :
    ¬ Run.AllSteps Step Refines .nil (fourInserts ++ [.deleteNode (shortAddr 4) 1]) := by
  intro all
  obtain ⟨tree', step, -⟩ := all.at_end run_fourInserts
  have crashes : StationOp.exec (.deleteNode (shortAddr 4) 1) fourStations = none := by decide
  rw [Step, crashes] at step
  cases step

end WlanController.Stations
