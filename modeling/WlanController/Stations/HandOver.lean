import Mathlib.Algebra.Order.BigOperators.Group.List
import Mathlib.Algebra.Order.Group.Nat
import WlanController.Stations.Cells

/-!
# Hand-over of a station

An accepted association is recorded in the tree, and the WTP that had the station before
is asked to delete it.  The handlers of both MAC modes run the statements modelled here,
with a pointer to the old node that they follow again after the update.
-/

namespace WlanController.Stations

open SearchTree (inorder Ordered find)

/-- A Station Configuration Request that deletes a station. -/
structure DeleteRequest where
  index : Int
  radioID : Int
  BSSID : EthAddr
  staAddr : EthAddr
  deriving DecidableEq

section HandOver

-- where `malloc` puts a node, and the radio at which a WTP has a BSS
variable (malloc : StationTree → Nat) (radioOf : Int → EthAddr → Int)

/-- The request takes its radio from the BSSID it is given. -/
def assembleDeleteRequest (assocResponse : Station) (index : Int) : DeleteRequest where
  index := index
  radioID := radioOf index assocResponse.BSSID
  BSSID := assocResponse.BSSID
  staAddr := assocResponse.staAddr

/-- `association` has the WTP and the radio through which the response goes.  `none` is a
    run that follows a pointer to an absent child or to a freed cell. -/
def acHandOver (association : Station) (avlTree : StationTree) :
    Option (StationTree × Option DeleteRequest) :=
  let { index, radioID, staAddr, BSSID } := association
  match avlFind staAddr avlTree with
  | some tmpNodeSta =>
    if tmpNodeSta.radioID ≠ radioID ∨ tmpNodeSta.index ≠ index then do
      let avlTree ← avlDeleteNode avlTree staAddr radioID
      let avlTree ← avlInsert (malloc avlTree) index staAddr BSSID radioID avlTree
      -- the pointer is still the one from before the deletion
      let tmpNodeSta ← readCell tmpNodeSta.cell avlTree
      return (avlTree, some (assembleDeleteRequest radioOf association tmpNodeSta.index))
    else some (avlTree, none)
  | none => do
    let avlTree ← avlInsert (malloc avlTree) index staAddr BSSID radioID avlTree
    return (avlTree, none)

/-- The station is found where it has associated, and the WTP that had it elsewhere is
    asked to delete it at the radio and BSS recorded there. -/
def HandsOver (association : Station) (tree : StationTree) : Prop :=
  ∃ tree' request, acHandOver malloc radioOf association tree = some (tree', request) ∧
    stationIndex tree' association.staAddr = some association ∧
    ∀ old, stationIndex tree association.staAddr = some old → old ≠ association →
      request = some { index := old.index, radioID := old.radioID, BSSID := old.BSSID, staAddr := association.staAddr }

/-- The radio and BSS are the old ones, at another WTP, and the deletion moves a station of
    that WTP into the cell of the old node. -/
structure CellTakenOver (association : Station) (tree : StationTree) (old : NodeAVL) : Prop where
  radioID : old.radioID = association.radioID
  BSSID : old.BSSID = association.BSSID
  index : old.index ≠ association.index
  radio : radioOf old.index old.BSSID = old.radioID
  deleted : ∃ tree', Step tree (.deleteNode association.staAddr association.radioID) tree'
  moved : ∃ entry ∈ inorder
    (deleteEntry (some association.radioID) association.staAddr (entries tree)),
    entry.cell = old.cell ∧ entry.index = old.index

variable {malloc radioOf} {association : Station} {tree : StationTree}

/-! ## A station that was not known -/

theorem handsOver_of_unknown (search : IsSearchTree tree)
    (unknown : avlFind association.staAddr tree = none) :
    HandsOver malloc radioOf association tree := by
  have absent : stationIndex tree association.staAddr = none := by simp [stationIndex, unknown]
  obtain ⟨tree', step, recorded⟩ := insert_of_absent search (malloc tree) association absent
  have inserted : avlInsert (malloc tree) association.index association.staAddr association.BSSID
      association.radioID tree = some tree' := step
  refine ⟨tree', none, ?_, recorded, ?_⟩
  · simp [acHandOver, unknown, inserted]
  · simp [absent]

/-! ## A station that was known -/

section Known

variable {n : NodeAVL} (known : avlFind association.staAddr tree = some n)

include known

theorem stationIndex_of_known : stationIndex tree association.staAddr = some n.toStation := by
  simp [stationIndex, known]

theorem staAddr_of_known (search : IsSearchTree tree) : n.staAddr = association.staAddr := by
  have found := stationIndex_of_known known
  rw [stationIndex_eq, SearchTree.find_eq_some_iff search.ordered] at found
  exact found.2

/-- With the same WTP and radio nothing is done. -/
theorem handsOver_of_near (near : ¬ (n.radioID ≠ association.radioID ∨ n.index ≠ association.index)) :
    HandsOver malloc radioOf association tree ↔ n.toStation = association := by
  have result : acHandOver malloc radioOf association tree = some (tree, none) := by
    simp [acHandOver, known, near]
  have before := stationIndex_of_known known
  constructor
  · rintro ⟨tree', request, returned, recorded, -⟩
    rw [result] at returned
    cases returned
    rw [before] at recorded
    exact Option.some.inj recorded
  · intro same
    refine ⟨tree, none, result, by rw [before, same], ?_⟩
    intro old found other
    rw [before, same] at found
    cases found
    exact absurd rfl other

/-- What the two updates and the last look through the pointer give. -/
theorem acHandOver_far (far : n.radioID ≠ association.radioID ∨ n.index ≠ association.index)
    {tree' : StationTree} {request : Option DeleteRequest}
    (returned : acHandOver malloc radioOf association tree = some (tree', request)) :
    ∃ middle entry,
      Step tree (.deleteNode association.staAddr association.radioID) middle ∧
      Step middle (.insert (malloc middle) association.index association.staAddr
        association.BSSID association.radioID) tree' ∧
      readCell n.cell tree' = some entry ∧
      request = some (assembleDeleteRequest radioOf association entry.index) := by
  simp only [acHandOver, known, if_pos far] at returned
  obtain ⟨middle, deleted, returned⟩ := Option.bind_eq_some_iff.mp returned
  obtain ⟨last, inserted, returned⟩ := Option.bind_eq_some_iff.mp returned
  obtain ⟨entry, read, returned⟩ := Option.bind_eq_some_iff.mp returned
  cases returned
  exact ⟨middle, entry, deleted, inserted, read, rfl⟩

/-- The deletion asks for the new radio and leaves the node where it is. -/
theorem not_handsOver_of_radio (search : IsSearchTree tree)
    (other : n.radioID ≠ association.radioID) : ¬ HandsOver malloc radioOf association tree := by
  rintro ⟨tree', request, returned, recorded, -⟩
  obtain ⟨middle, entry, deleted, inserted, -⟩ := acHandOver_far known (.inl other) returned
  have before := stationIndex_of_known known
  have kept : stationIndex middle = stationIndex tree := by
    rw [deleted.stationIndex search, StationOp.update, before]
    simp [other]
  rw [inserted.stationIndex (deleted.isSearchTree search), StationOp.update, kept, before] at recorded
  simp only [Option.isSome_some, if_true, before, Option.some.injEq] at recorded
  exact other (congrArg Station.radioID recorded)

/-- At the same radio of another WTP the node goes, and the pointer leads to whatever stands
    in its cell. -/
theorem handsOver_of_index (free : FindsFreeCell malloc) (sound : IsSound tree)
    (same : n.radioID = association.radioID) (other : n.index ≠ association.index) :
    HandsOver malloc radioOf association tree ↔ CellTakenOver radioOf association tree n := by
  have before := stationIndex_of_known known
  have search := sound.toIsSearchTree
  have different : n.toStation ≠ association := fun equal => other (congrArg Station.index equal)
  constructor
  · rintro ⟨tree', request, returned, -, asks⟩
    obtain ⟨middle, entry, deleted, inserted, read, rfl⟩ := acHandOver_far known (.inr other) returned
    have soundMiddle := sound.step free deleted trivial
    have sound' := soundMiddle.step free inserted rfl
    have asked := asks n.toStation before different
    simp only [assembleDeleteRequest, Option.some.injEq, DeleteRequest.mk.injEq, and_true] at asked
    obtain ⟨index, radio, BSSID⟩ := asked
    obtain ⟨member, cell⟩ := (readCell_eq_some_iff sound'.distinct).mp read
    rw [inserted.inorder_entries soundMiddle.toIsSearchTree, StationOp.plain] at member
    refine ⟨same, BSSID.symm, other, ?_, ⟨middle, deleted⟩, entry, ?_, cell, index⟩
    · rw [← BSSID, ← index]
      exact radio
    · -- the node the insertion has made would be one of the new WTP
      have ordered := soundMiddle.toIsSearchTree.ordered_entries
      rcases (SearchTree.mem_inorder_insert ordered).mp member with old | ⟨new, -⟩
      · rwa [deleted.inorder_entries search] at old
      · exact absurd (index.symm.trans (congrArg (·.index) new)) other
  · rintro ⟨-, BSSID, -, radio, ⟨middle, deleted⟩, entry, member, cell, index⟩
    have soundMiddle := sound.step free deleted trivial
    have absent : stationIndex middle association.staAddr = none := by
      rw [deleted.stationIndex search, StationOp.update, before]
      simp [same]
    obtain ⟨tree', inserted, recorded⟩ :=
      insert_of_absent soundMiddle.toIsSearchTree (malloc middle) association absent
    have sound' := soundMiddle.step free inserted rfl
    have read : readCell n.cell tree' = some entry := by
      rw [readCell_eq_some_iff sound'.distinct, inserted.inorder_entries soundMiddle.toIsSearchTree]
      refine ⟨(SearchTree.mem_inorder_insert soundMiddle.toIsSearchTree.ordered_entries).mpr
        (.inl ?_), cell⟩
      rwa [deleted.inorder_entries search]
    refine ⟨tree', some (assembleDeleteRequest radioOf association entry.index), ?_, recorded, ?_⟩
    · have first : avlDeleteNode tree association.staAddr association.radioID = some middle := deleted
      have second : avlInsert (malloc middle) association.index association.staAddr
          association.BSSID association.radioID middle = some tree' := inserted
      have far : n.radioID ≠ association.radioID ∨ n.index ≠ association.index := .inr other
      simp [acHandOver, known, far, first, second, read]
    · intro old found _
      rw [before] at found
      cases found
      simp [assembleDeleteRequest, index, ← BSSID, radio]

omit known

end Known

end HandOver

/-! ## A station that changes its radio -/

/-- A `malloc` that never uses a cell again while a higher one is taken. -/
def nextCell (tree : StationTree) : Nat := (cells (entries tree)).sum + 1

theorem findsFreeCell_nextCell : FindsFreeCell nextCell := by
  intro tree member
  have bound := List.single_le_sum (fun _ _ => Nat.zero_le _) _ member
  rw [nextCell] at bound
  omega

/-- A station at radio 1 of WTP 1. -/
def oneStation : StationTree :=
  measured (.node { index := 1, radioID := 1, staAddr := shortAddr 1, BSSID := shortAddr 8, cell := 1 }
    .nil .nil)

theorem reachable_oneStation : Reachable nextCell oneStation := by
  have step : Step .nil (.insert 1 1 (shortAddr 1) (shortAddr 8) 1) oneStation := rfl
  exact .step .empty step rfl

end WlanController.Stations
