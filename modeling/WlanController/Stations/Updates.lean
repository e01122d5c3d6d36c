import WlanController.Stations.Measured

/-!
# What updates do to the entries

Whatever the rotations do, an update that returns leaves the entries of a plain search
tree update, in their order.
-/

namespace WlanController.Stations

open SearchTree (inorder Ordered find least)

/-- Any tree that is returned has the right heights and these entries. -/
def Yields (result : Option StationTree) (elements : List Entry) : Prop :=
  ∀ tree, result = some tree → ∃ shape, tree = measured shape ∧ inorder shape = elements

theorem yields_measured (shape : BinaryTree Entry) : Yields (some (measured shape)) (inorder shape) := by
  intro tree returned
  cases returned
  exact ⟨shape, rfl, rfl⟩

theorem yields_none (elements : List Entry) : Yields none elements := by
  intro tree returned
  cases returned

theorem Yields.bind {result : Option StationTree} {elements elements' : List Entry}
    {next : StationTree → Option StationTree} (first : Yields result elements)
    (second : ∀ shape, inorder shape = elements → Yields (next (measured shape)) elements') :
    Yields (result.bind next) elements' := by
  intro tree returned
  obtain ⟨middle, reached, returned⟩ := Option.bind_eq_some_iff.mp returned
  obtain ⟨shape, rfl, same⟩ := first middle reached
  exact second shape same tree returned

/-- The last assignment to a height is right already. -/
theorem Yields.updateHeight {result : Option StationTree} {elements : List Entry}
    (yields : Yields result elements) : Yields (result.map updateHeight) elements := by
  intro tree returned
  obtain ⟨middle, reached, rfl⟩ := Option.map_eq_some_iff.mp returned
  obtain ⟨shape, rfl, same⟩ := yields middle reached
  exact ⟨shape, updateHeight_measured shape, same⟩

/-! ## Rotations -/

section Rotations

variable (n : NodeAVL) (left right : BinaryTree Entry)

theorem yields_rotateWithLeft :
    Yields (avlSingleRotateWithLeft (.node n (measured left) (measured right)))
      (inorder left ++ n.toEntry :: inorder right) := by
  cases left with
  | nil => exact yields_none _
  | node entry outer middle =>
    rw [avlSingleRotateWithLeft_measured, ← SearchTree.inorder_node, ← SearchTree.inorder_rotate]
    exact yields_measured _

theorem yields_rotateWithRight :
    Yields (avlSingleRotateWithRight (.node n (measured left) (measured right)))
      (inorder left ++ n.toEntry :: inorder right) := by
  cases right with
  | nil =>
    cases left with
    | nil => exact yields_none _
    | node entry outer middle => exact yields_none _
  | node entry middle outer =>
    rw [avlSingleRotateWithRight_measured, ← SearchTree.inorder_node, SearchTree.inorder_rotate]
    exact yields_measured _

theorem yields_doubleRotateWithLeft :
    Yields (avlDoubleRotateWithLeft (.node n (measured left) (measured right)))
      (inorder left ++ n.toEntry :: inorder right) := by
  cases left with
  | nil => exact yields_none _
  | node entry outer middle =>
    refine Yields.bind (yields_rotateWithRight _ outer middle) fun shape same => ?_
    have yields := yields_rotateWithLeft n shape right
    rwa [same] at yields

theorem yields_doubleRotateWithRight :
    Yields (avlDoubleRotateWithRight (.node n (measured left) (measured right)))
      (inorder left ++ n.toEntry :: inorder right) := by
  cases right with
  | nil => exact yields_none _
  | node entry middle outer =>
    refine Yields.bind (yields_rotateWithLeft _ middle outer) fun shape same => ?_
    have yields := yields_rotateWithRight n left shape
    rwa [same] at yields

/-! ## Inserting -/

theorem yields_insertedLeft (staAddr : EthAddr) :
    Yields ((insertedLeft staAddr n (measured left) (measured right)).map updateHeight)
      (inorder left ++ n.toEntry :: inorder right) := by
  unfold insertedLeft
  split
  next heavy =>
    cases left with
    | nil => exact yields_none _
    | node entry outer middle =>
      simp only [measured]
      split
      next => exact (yields_rotateWithLeft n (.node entry outer middle) right).updateHeight
      next => exact (yields_doubleRotateWithLeft n (.node entry outer middle) right).updateHeight
  next even =>
    rw [Option.map_some, updateHeight_node_measured]
    exact yields_measured (.node n.toEntry left right)

theorem yields_insertedRight (staAddr : EthAddr) :
    Yields ((insertedRight staAddr n (measured left) (measured right)).map updateHeight)
      (inorder left ++ n.toEntry :: inorder right) := by
  unfold insertedRight
  split
  next heavy =>
    cases right with
    | nil => exact yields_none _
    | node entry middle outer =>
      simp only [measured]
      split
      next => exact (yields_rotateWithRight n left (.node entry middle outer)).updateHeight
      next => exact (yields_doubleRotateWithRight n left (.node entry middle outer)).updateHeight
  next even =>
    rw [Option.map_some, updateHeight_node_measured]
    exact yields_measured (.node n.toEntry left right)

end Rotations

section Insert

variable (cell : Nat) (index : Int) (staAddr BSSID : EthAddr) (radioID : Int)

/-- What an insertion writes into its new cell. -/
def newEntry : Entry := { index, radioID, staAddr, BSSID, cell }

@[simp] theorem newEntry_staAddr :
    (newEntry cell index staAddr BSSID radioID).staAddr = staAddr := rfl

variable {cell index staAddr BSSID radioID} {t : NodeAVL} {left right : StationTree}

theorem avlInsert_of_lt (less : staAddr < t.staAddr) :
    avlInsert cell index staAddr BSSID radioID (.node t left right) =
      (avlInsert cell index staAddr BSSID radioID left).bind fun left =>
        (insertedLeft staAddr t left right).map updateHeight := by
  rw [avlInsert, if_pos (compareEthAddr_neg_iff.mpr less)]
  cases avlInsert cell index staAddr BSSID radioID left with
  | none => rfl
  | some left => cases stored : insertedLeft staAddr t left right <;> simp [stored]

theorem avlInsert_of_gt (more : t.staAddr < staAddr) :
    avlInsert cell index staAddr BSSID radioID (.node t left right) =
      (avlInsert cell index staAddr BSSID radioID right).bind fun right =>
        (insertedRight staAddr t left right).map updateHeight := by
  rw [avlInsert, if_neg (by simpa using more.le), if_pos (compareEthAddr_pos_iff.mpr more)]
  cases avlInsert cell index staAddr BSSID radioID right with
  | none => rfl
  | some right => cases stored : insertedRight staAddr t left right <;> simp [stored]

theorem avlInsert_of_eq (same : staAddr = t.staAddr) :
    avlInsert cell index staAddr BSSID radioID (.node t left right) =
      some (updateHeight (.node t left right)) := by
  subst same
  rw [avlInsert]
  simp

theorem yields_insert (shape : BinaryTree Entry) :
    Yields (avlInsert cell index staAddr BSSID radioID (measured shape))
      (inorder (SearchTree.insert (·.staAddr) (newEntry cell index staAddr BSSID radioID) shape)) := by
  induction shape with
  | nil =>
    intro tree returned
    cases returned
    exact ⟨.node (newEntry cell index staAddr BSSID radioID) .nil .nil, rfl, rfl⟩
  | node entry left right leftHypothesis rightHypothesis =>
    rw [SearchTree.insert, newEntry_staAddr]
    rcases lt_trichotomy staAddr entry.staAddr with less | same | more
    · rw [if_pos less, measured, avlInsert_of_lt less, SearchTree.inorder_node]
      refine leftHypothesis.bind fun shape same => ?_
      rw [← same]
      exact yields_insertedLeft _ shape right staAddr
    · rw [if_neg same.not_lt, if_neg same.not_gt, measured, avlInsert_of_eq same,
        updateHeight_node_measured]
      exact yields_measured (.node entry left right)
    · rw [if_neg (not_lt_of_gt more), if_pos more, measured, avlInsert_of_gt more,
        SearchTree.inorder_node]
      refine rightHypothesis.bind fun shape same => ?_
      rw [← same]
      exact yields_insertedRight _ left shape staAddr

end Insert

/-! ## Deleting -/

/-- The removal alone, without the rotations that follow it. -/
def deleteEntry (radioID : Option Int) (staAddr : EthAddr) : BinaryTree Entry → BinaryTree Entry
  | .nil => .nil
  | .node root left right =>
    if staAddr < root.staAddr then .node root (deleteEntry radioID staAddr left) right
    else if root.staAddr < staAddr then .node root left (deleteEntry radioID staAddr right)
    else if radioMatches radioID root.toStation then
      match left, right with
      | .nil, .nil => .nil
      | .node temp tempLeft tempRight, .nil =>
        .node { temp with cell := root.cell } tempLeft tempRight
      | .nil, .node temp tempLeft tempRight =>
        .node { temp with cell := root.cell } tempLeft tempRight
      | .node _ _ _, .node next nextLeft _ =>
        let temp := least next nextLeft
        .node { root with toStation := temp.toStation } left
          (deleteEntry (radioID.map fun _ => temp.radioID) temp.staAddr right)
    else .node root left right

section Delete

variable (n : NodeAVL) (left right : BinaryTree Entry)

theorem yields_rebalance :
    Yields (rebalance (.node n (measured left) (measured right)))
      (inorder left ++ n.toEntry :: inorder right) := by
  rw [rebalance, updateHeight_node_measured, measured, rotateDeleted]
  split
  · exact yields_rotateWithRight _ left right
  · split
    · cases left with
      | nil => exact yields_none _
      | node entry outer middle =>
        refine Yields.bind (yields_rotateWithLeft _ outer middle) fun shape same => ?_
        have yields := yields_rotateWithRight
          ⟨n.toEntry, (max (BinaryTree.node entry outer middle).height right.height : Nat)⟩ shape right
        rwa [same] at yields
    · split
      · exact yields_rotateWithLeft _ left right
      · split
        · cases right with
          | nil => exact yields_none _
          | node entry middle outer =>
            refine Yields.bind (yields_rotateWithRight _ middle outer) fun shape same => ?_
            have yields := yields_rotateWithLeft
              ⟨n.toEntry, (max left.height (BinaryTree.node entry middle outer).height : Nat)⟩ left
              shape
            rwa [same] at yields
        · exact yields_measured (.node n.toEntry left right)

@[simp] theorem toEntry_avlMinValueNode (node : NodeAVL) (shape : BinaryTree Entry) :
    (avlMinValueNode node (measured shape)).toEntry = least node.toEntry shape := by
  induction shape generalizing node with
  | nil => rfl
  | node entry left right leftHypothesis _ => exact leftHypothesis _

end Delete

section DeleteEntry

variable {radioID : Option Int} {staAddr : EthAddr} (n : NodeAVL) {left right : StationTree}

theorem avlDelete_of_lt (less : staAddr < n.staAddr) :
    avlDelete radioID staAddr (.node n left right) =
      (avlDelete radioID staAddr left).bind fun left => rebalance (.node n left right) := by
  rw [avlDelete.eq_def]
  simp only [compareEthAddr_neg_iff, less, if_true]
  rfl

theorem avlDelete_of_gt (more : n.staAddr < staAddr) :
    avlDelete radioID staAddr (.node n left right) =
      (avlDelete radioID staAddr right).bind fun right => rebalance (.node n left right) := by
  rw [avlDelete.eq_def]
  simp only [compareEthAddr_neg_iff, gt_iff_lt, compareEthAddr_pos_iff, more,
    not_lt_of_gt more, if_true, if_false]
  rfl

theorem avlDelete_of_other (same : staAddr = n.staAddr)
    (other : ¬ radioMatches radioID n.toStation = true) :
    avlDelete radioID staAddr (.node n left right) = rebalance (.node n left right) := by
  rw [avlDelete.eq_def]
  simp [same, other]

theorem avlDelete_leaf (same : staAddr = n.staAddr)
    (found : radioMatches radioID n.toStation = true) :
    avlDelete radioID staAddr (.node n .nil .nil) = some .nil := by
  rw [avlDelete.eq_def]
  simp [same, found]

theorem avlDelete_onlyLeft (same : staAddr = n.staAddr)
    (found : radioMatches radioID n.toStation = true) (temp : NodeAVL) :
    avlDelete radioID staAddr (.node n (.node temp left right) .nil) =
      rebalance (.node { temp with cell := n.cell } left right) := by
  rw [avlDelete.eq_def]
  simp [same, found]

theorem avlDelete_onlyRight (same : staAddr = n.staAddr)
    (found : radioMatches radioID n.toStation = true) (temp : NodeAVL) :
    avlDelete radioID staAddr (.node n .nil (.node temp left right)) =
      rebalance (.node { temp with cell := n.cell } left right) := by
  rw [avlDelete.eq_def]
  simp [same, found]

theorem avlDelete_both (same : staAddr = n.staAddr)
    (found : radioMatches radioID n.toStation = true) (child next : NodeAVL)
    (childLeft childRight nextLeft nextRight : StationTree) :
    avlDelete radioID staAddr
        (.node n (.node child childLeft childRight) (.node next nextLeft nextRight)) =
      (avlDelete (radioID.map fun _ => (avlMinValueNode next nextLeft).radioID)
          (avlMinValueNode next nextLeft).staAddr (.node next nextLeft nextRight)).bind fun right =>
        rebalance (.node { n with toStation := (avlMinValueNode next nextLeft).toStation }
          (.node child childLeft childRight) right) := by
  rw [avlDelete.eq_def]
  simp [same, found]

/-- Whatever relates trees before and after rebalancing, through any node above, relates
    the removal to the deletion. -/
theorem avlDelete_rule {Related : BinaryTree Entry → Option StationTree → Prop}
    (nil : Related .nil (some .nil))
    (here : ∀ n left right,
      Related (.node n.toEntry left right) (rebalance (.node n (measured left) (measured right))))
    (throughLeft : ∀ n plain result right, Related plain result →
      Related (.node n.toEntry plain right)
        (result.bind fun left => rebalance (.node n left (measured right))))
    (throughRight : ∀ n left plain result, Related plain result →
      Related (.node n.toEntry left plain)
        (result.bind fun right => rebalance (.node n (measured left) right)))
    (radioID : Option Int) (staAddr : EthAddr) (shape : BinaryTree Entry) :
    Related (deleteEntry radioID staAddr shape) (avlDelete radioID staAddr (measured shape)) := by
  induction shape generalizing radioID staAddr with
  | nil => exact nil
  | node root left right leftHypothesis rightHypothesis =>
    rw [deleteEntry.eq_def, measured]
    generalize (max left.height right.height : Nat) = height
    rcases lt_trichotomy staAddr root.staAddr with less | same | more
    · rw [avlDelete_of_lt ⟨root, height⟩ less]
      simp only [if_pos less]
      exact throughLeft ⟨root, height⟩ _ _ right (leftHypothesis radioID staAddr)
    · simp only [if_neg same.not_lt, if_neg same.not_gt]
      by_cases found : radioMatches radioID root.toStation = true
      · simp only [if_pos found]
        cases left with
        | nil =>
          cases right with
          | nil =>
            rw [measured, avlDelete_leaf ⟨root, height⟩ same found]
            exact nil
          | node temp tempLeft tempRight =>
            rw [measured, measured, avlDelete_onlyRight ⟨root, height⟩ same found]
            exact here ⟨{ temp with cell := root.cell }, _⟩ tempLeft tempRight
        | node temp tempLeft tempRight =>
          cases right with
          | nil =>
            rw [measured, measured, avlDelete_onlyLeft ⟨root, height⟩ same found]
            exact here ⟨{ temp with cell := root.cell }, _⟩ tempLeft tempRight
          | node next nextLeft nextRight =>
            have successor := toEntry_avlMinValueNode
              ⟨next, (max nextLeft.height nextRight.height : Nat)⟩ nextLeft
            rw [measured, measured, avlDelete_both ⟨root, height⟩ same found, successor]
            exact throughRight
              ⟨{ root with toStation := (least next nextLeft).toStation }, height⟩
              (.node temp tempLeft tempRight) _ _ (rightHypothesis _ _)
      · rw [avlDelete_of_other ⟨root, height⟩ same found]
        simp only [if_neg found]
        exact here ⟨root, height⟩ left right
    · rw [avlDelete_of_gt ⟨root, height⟩ more]
      simp only [if_neg (not_lt_of_gt more), if_pos more]
      exact throughRight ⟨root, height⟩ left _ _ (rightHypothesis radioID staAddr)

/-- A deletion that returns has done the removal. -/
theorem yields_delete (radioID : Option Int) (staAddr : EthAddr) (shape : BinaryTree Entry) :
    Yields (avlDelete radioID staAddr (measured shape))
      (inorder (deleteEntry radioID staAddr shape)) := by
  refine @avlDelete_rule (fun plain result => Yields result (inorder plain)) (yields_measured .nil)
    yields_rebalance ?_ ?_ radioID staAddr shape
  · intro n plain result right yields
    refine yields.bind fun left same => ?_
    rw [SearchTree.inorder_node, ← same]
    exact yields_rebalance n left right
  · intro n left plain result yields
    refine yields.bind fun right same => ?_
    rw [SearchTree.inorder_node, ← same]
    exact yields_rebalance n left right

end DeleteEntry

end WlanController.Stations
