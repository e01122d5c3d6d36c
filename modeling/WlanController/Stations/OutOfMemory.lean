import WlanController.Stations.StationIndex

/-!
# Insertions without memory

When `malloc` finds no cell for a new node, the insertion still comes back along the path to
where the node would have stood, and may rotate there.
-/

namespace WlanController.Stations

open SearchTree (inorder Ordered)

def avlInsertOutOfMemory (staAddr : EthAddr) : StationTree → Option StationTree
  | .nil => some .nil
  | .node t left right => do
    let tree ←
      if compareEthAddr staAddr t.staAddr < 0 then do
        let left ← avlInsertOutOfMemory staAddr left
        insertedLeft staAddr t left right
      else if compareEthAddr staAddr t.staAddr > 0 then do
        let right ← avlInsertOutOfMemory staAddr right
        insertedRight staAddr t left right
      else some (.node t left right)
    return updateHeight tree

section Insert

variable {staAddr : EthAddr} {t : NodeAVL} {left right : StationTree}

theorem avlInsertOutOfMemory_of_lt (less : staAddr < t.staAddr) :
    avlInsertOutOfMemory staAddr (.node t left right) =
      (avlInsertOutOfMemory staAddr left).bind fun left =>
        (insertedLeft staAddr t left right).map updateHeight := by
  rw [avlInsertOutOfMemory, if_pos (compareEthAddr_neg_iff.mpr less)]
  cases avlInsertOutOfMemory staAddr left with
  | none => rfl
  | some left => cases stored : insertedLeft staAddr t left right <;> simp [stored]

theorem avlInsertOutOfMemory_of_gt (more : t.staAddr < staAddr) :
    avlInsertOutOfMemory staAddr (.node t left right) =
      (avlInsertOutOfMemory staAddr right).bind fun right =>
        (insertedRight staAddr t left right).map updateHeight := by
  rw [avlInsertOutOfMemory, if_neg (by simpa using more.le),
    if_pos (compareEthAddr_pos_iff.mpr more)]
  cases avlInsertOutOfMemory staAddr right with
  | none => rfl
  | some right => cases stored : insertedRight staAddr t left right <;> simp [stored]

theorem avlInsertOutOfMemory_of_eq (same : staAddr = t.staAddr) :
    avlInsertOutOfMemory staAddr (.node t left right) =
      some (updateHeight (.node t left right)) := by
  subst same
  rw [avlInsertOutOfMemory]
  simp

theorem yields_insertOutOfMemory (staAddr : EthAddr) (shape : BinaryTree Entry) :
    Yields (avlInsertOutOfMemory staAddr (measured shape)) (inorder shape) := by
  induction shape with
  | nil => exact yields_measured .nil
  | node entry left right leftHypothesis rightHypothesis =>
    rw [measured]
    rcases lt_trichotomy staAddr entry.staAddr with less | same | more
    · rw [avlInsertOutOfMemory_of_lt less, SearchTree.inorder_node]
      refine leftHypothesis.bind fun shape same => ?_
      rw [← same]
      exact yields_insertedLeft _ shape right staAddr
    · rw [avlInsertOutOfMemory_of_eq same, updateHeight_node_measured]
      exact yields_measured (.node entry left right)
    · rw [avlInsertOutOfMemory_of_gt more, SearchTree.inorder_node]
      refine rightHypothesis.bind fun shape same => ?_
      rw [← same]
      exact yields_insertedRight _ left shape staAddr

end Insert

/-- If it returns, the stations are those that were there. -/
theorem avlInsertOutOfMemory_keeps {staAddr : EthAddr} {tree tree' : StationTree}
    (search : IsSearchTree tree) (returned : avlInsertOutOfMemory staAddr tree = some tree') :
    IsSearchTree tree' ∧ stationIndex tree' = stationIndex tree := by
  obtain ⟨shape, rfl⟩ := heightsExact_iff.mp search.heights
  obtain ⟨shape', rfl, same⟩ := yields_insertOutOfMemory staAddr shape tree' returned
  have stationsSame : inorder (stations (measured shape')) = inorder (stations (measured shape)) := by
    rw [stations_measured, stations_measured, SearchTree.inorder_map, SearchTree.inorder_map, same]
  constructor
  · refine ⟨heightsExact_measured shape', ?_⟩
    rw [Ordered, stationsSame]
    exact search.ordered
  · funext address
    rw [stationIndex_eq, stationIndex_eq]
    exact SearchTree.find_congr search.ordered stationsSame address

end WlanController.Stations
