import Mathlib.Data.Tree.Basic
import WlanController.Common.EthAddrOrder

/-!
# The tree of stations

The AVL tree in which the access controller looks up the stations that are associated
with its WTPs.  A node stands in a memory cell of its own, which the source's pointers
refer to.  `none` means that a rotation follows a pointer to an absent child.
-/

namespace WlanController.Stations

/-- What a node says about its station. -/
structure Station where
  index : Int
  radioID : Int
  staAddr : EthAddr
  BSSID : EthAddr
  deriving DecidableEq

/-- The contents of a node's cell, apart from its height. -/
structure Entry extends Station where
  cell : Nat
  deriving DecidableEq

structure NodeAVL extends Entry where
  height : Int
  deriving DecidableEq

abbrev StationTree := BinaryTree NodeAVL

def avlFind (staAddr : EthAddr) : StationTree → Option NodeAVL
  | .nil => none
  | .node t left right =>
    if compareEthAddr staAddr t.staAddr < 0 then avlFind staAddr left
    else if compareEthAddr staAddr t.staAddr > 0 then avlFind staAddr right
    else some t

/-- The node with the smallest key, given the root and its left subtree. -/
def avlMinValueNode : NodeAVL → StationTree → NodeAVL
  | node, .nil => node
  | _, .node node left _ => avlMinValueNode node left

/-! ## Heights and rotations -/

def avlHeight : StationTree → Int
  | .nil => -1
  | .node n _ _ => n.height

def avlMax (l r : Int) : Int := if l > r then l else r

def avlGetBalance : StationTree → Int
  | .nil => 0
  | .node _ left right => avlHeight left - avlHeight right

/-- The assignment to `height` that follows every change of a subtree. -/
def updateHeight : StationTree → StationTree
  | .nil => .nil
  | .node n left right =>
    .node { n with height := avlMax (avlHeight left) (avlHeight right) + 1 } left right

def avlSingleRotateWithLeft : StationTree → Option StationTree
  | .node k2 (.node k1 left middle) right =>
    let lower := updateHeight (.node k2 middle right)
    some (.node { k1 with height := avlMax (avlHeight left) (avlHeight lower) + 1 } left lower)
  | _ => none

def avlSingleRotateWithRight : StationTree → Option StationTree
  | .node k1 left (.node k2 middle right) =>
    let lower := updateHeight (.node k1 left middle)
    some (.node { k2 with height := avlMax (avlHeight right) (avlHeight lower) + 1 } lower right)
  | _ => none

def avlDoubleRotateWithLeft : StationTree → Option StationTree
  | .nil => none
  | .node k3 left right => do
    let left ← avlSingleRotateWithRight left
    avlSingleRotateWithLeft (.node k3 left right)

def avlDoubleRotateWithRight : StationTree → Option StationTree
  | .nil => none
  | .node k1 left right => do
    let right ← avlSingleRotateWithLeft right
    avlSingleRotateWithRight (.node k1 left right)

/-! ## Inserting -/

/-- After an insertion into the left subtree. -/
def insertedLeft (staAddr : EthAddr) (t : NodeAVL) (left right : StationTree) :
    Option StationTree :=
  if avlHeight left - avlHeight right = 2 then
    match left with
    | .nil => none
    | .node child _ _ =>
      if compareEthAddr staAddr child.staAddr < 0 then avlSingleRotateWithLeft (.node t left right)
      else avlDoubleRotateWithLeft (.node t left right)
  else some (.node t left right)

/-- After an insertion into the right subtree. -/
def insertedRight (staAddr : EthAddr) (t : NodeAVL) (left right : StationTree) :
    Option StationTree :=
  if avlHeight right - avlHeight left = 2 then
    match right with
    | .nil => none
    | .node child _ _ =>
      if compareEthAddr staAddr child.staAddr > 0 then
        avlSingleRotateWithRight (.node t left right)
      else avlDoubleRotateWithRight (.node t left right)
  else some (.node t left right)

/-- `cell` is where `malloc` puts the new node. -/
def avlInsert (cell : Nat) (index : Int) (staAddr BSSID : EthAddr) (radioID : Int) :
    StationTree → Option StationTree
  | .nil => some (updateHeight (.node { index, radioID, staAddr, BSSID, cell, height := 0 } .nil .nil))
  | .node t left right => do
    let tree ←
      if compareEthAddr staAddr t.staAddr < 0 then do
        let left ← avlInsert cell index staAddr BSSID radioID left
        insertedLeft staAddr t left right
      else if compareEthAddr staAddr t.staAddr > 0 then do
        let right ← avlInsert cell index staAddr BSSID radioID right
        insertedRight staAddr t left right
      else some (.node t left right)
    return updateHeight tree

/-! ## Deleting -/

/-- The rotations a deletion ends with at every node above the removed one. -/
def rotateDeleted : StationTree → Option StationTree
  | .nil => some .nil
  | .node root left right =>
    let balance := avlGetBalance (.node root left right)
    if balance > 1 ∧ avlGetBalance left ≥ 0 then
      avlSingleRotateWithRight (.node root left right)
    else if balance > 1 ∧ avlGetBalance left < 0 then do
      let left ← avlSingleRotateWithLeft left
      avlSingleRotateWithRight (.node root left right)
    else if balance < -1 ∧ avlGetBalance right ≤ 0 then
      avlSingleRotateWithLeft (.node root left right)
    else if balance < -1 ∧ avlGetBalance right > 0 then do
      let right ← avlSingleRotateWithRight right
      avlSingleRotateWithLeft (.node root left right)
    else some (.node root left right)

/-- What follows the removal in a subtree. -/
def rebalance (root : StationTree) : Option StationTree := rotateDeleted (updateHeight root)

/-- Whether the node with the key is to be removed: `AVLdeleteNode` asks for its radio. -/
def radioMatches (radioID : Option Int) (root : Station) : Bool :=
  radioID.all (root.radioID == ·)

/-- The deletion, with a radio to compare or without. -/
def avlDelete (radioID : Option Int) (staAddr : EthAddr) : StationTree → Option StationTree
  | .nil => some .nil
  | .node root left right =>
    if compareEthAddr staAddr root.staAddr < 0 then do
      let left ← avlDelete radioID staAddr left
      rebalance (.node root left right)
    else if compareEthAddr staAddr root.staAddr > 0 then do
      let right ← avlDelete radioID staAddr right
      rebalance (.node root left right)
    else if radioMatches radioID root.toStation then
      match left, right with
      | .nil, .nil => some .nil
      -- the only child is copied into the cell of the removed node
      | .node temp tempLeft tempRight, .nil =>
        rebalance (.node { temp with cell := root.cell } tempLeft tempRight)
      | .nil, .node temp tempLeft tempRight =>
        rebalance (.node { temp with cell := root.cell } tempLeft tempRight)
      -- the data of the successor is copied, and its node removed in turn
      | .node _ _ _, .node next nextLeft _ => do
        let temp := avlMinValueNode next nextLeft
        let right ← avlDelete (radioID.map fun _ => temp.radioID) temp.staAddr right
        rebalance (.node { root with toStation := temp.toStation } left right)
    else rebalance (.node root left right)

def avlDeleteNode (root : StationTree) (staAddr : EthAddr) (radioID : Int) : Option StationTree :=
  avlDelete (some radioID) staAddr root

def avlDeleteNodeWithoutRadioID (root : StationTree) (nodeToDelete : NodeAVL) :
    Option StationTree :=
  avlDelete none nodeToDelete.staAddr root

end WlanController.Stations
