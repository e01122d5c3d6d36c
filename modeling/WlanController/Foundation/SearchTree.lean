import Mathlib

/-!
# Search trees

Binary trees searched by a key.  What a tree stands for is its list of elements from
left to right: the tree is ordered when the keys of this list increase, and operations
are described by what they do to the list.  The shape matters for balance only.
-/

namespace SearchTree

universe u v w

variable {α : Type u} {β : Type w} {κ : Type v}

/-- The elements from left to right. -/
def inorder : BinaryTree α → List α
  | .nil => []
  | .node value left right => inorder left ++ value :: inorder right

@[simp] theorem inorder_nil : inorder (.nil : BinaryTree α) = [] := rfl

@[simp] theorem inorder_node (value : α) (left right : BinaryTree α) :
    inorder (.node value left right) = inorder left ++ value :: inorder right := rfl

theorem inorder_map (f : α → β) (tree : BinaryTree α) :
    inorder (tree.map f) = (inorder tree).map f := by
  induction tree with
  | nil => rfl
  | node value left right leftHypothesis rightHypothesis =>
    simp [BinaryTree.map, leftHypothesis, rightHypothesis]

/-- A rotation keeps the elements in their order. -/
theorem inorder_rotate (upper lower : α) (outer middle other : BinaryTree α) :
    inorder (.node lower outer (.node upper middle other)) =
      inorder (.node upper (.node lower outer middle) other) := by
  simp

/-! ## Order -/

section Order

variable [LinearOrder κ] (key : α → κ)

def Ordered (tree : BinaryTree α) : Prop := (inorder tree).Pairwise fun a b => key a < key b

theorem ordered_nil : Ordered key (.nil : BinaryTree α) := .nil

variable {key} {value : α} {left right tree : BinaryTree α}

theorem ordered_node :
    Ordered key (.node value left right) ↔
      Ordered key left ∧ Ordered key right ∧ (∀ a ∈ inorder left, key a < key value) ∧
        ∀ a ∈ inorder right, key value < key a := by
  simp only [Ordered, inorder_node, List.pairwise_append, List.pairwise_cons, List.forall_mem_cons]
  constructor
  · rintro ⟨ordered, ⟨above, ordered'⟩, across⟩
    exact ⟨ordered, ordered', fun a member => (across a member).1, above⟩
  · rintro ⟨ordered, ordered', below, above⟩
    refine ⟨ordered, ⟨above, ordered'⟩, fun a member => ⟨below a member, fun b member' => ?_⟩⟩
    exact lt_trans (below a member) (above b member')

/-- Keys are met once. -/
theorem Ordered.eq_of_key (ordered : Ordered key tree) {a b : α} (member : a ∈ inorder tree)
    (member' : b ∈ inorder tree) (same : key a = key b) : a = b := by
  have nodup : ((inorder tree).map key).Nodup :=
    List.pairwise_map.mpr (List.Pairwise.imp (fun less => ne_of_lt less) ordered)
  exact List.inj_on_of_nodup_map nodup member member' same

/-! ## Searching -/

variable (key) in
def find (k : κ) : BinaryTree α → Option α
  | .nil => none
  | .node value left right =>
    if k < key value then find k left
    else if key value < k then find k right
    else some value

/-- In an ordered tree the search finds the element with the key. -/
theorem find_eq_some_iff (ordered : Ordered key tree) {k : κ} {a : α} :
    find key k tree = some a ↔ a ∈ inorder tree ∧ key a = k := by
  induction tree with
  | nil => simp [find]
  | node value left right leftHypothesis rightHypothesis =>
    obtain ⟨orderedLeft, orderedRight, below, above⟩ := ordered_node.mp ordered
    simp only [find, inorder_node, List.mem_append, List.mem_cons]
    rcases lt_trichotomy k (key value) with less | rfl | more
    · rw [if_pos less, leftHypothesis orderedLeft]
      constructor
      · rintro ⟨member, same⟩
        exact ⟨.inl member, same⟩
      · rintro ⟨member | rfl | member, rfl⟩
        · exact ⟨member, rfl⟩
        · exact absurd less (lt_irrefl _)
        · exact absurd (above a member) (not_lt_of_gt less)
    · simp only [lt_irrefl, if_false, Option.some.injEq]
      constructor
      · rintro rfl
        exact ⟨.inr (.inl rfl), rfl⟩
      · rintro ⟨member | rfl | member, same⟩
        · exact absurd (same ▸ below a member) (lt_irrefl _)
        · rfl
        · exact absurd (same ▸ above a member) (lt_irrefl _)
    · rw [if_neg (not_lt_of_gt more), if_pos more, rightHypothesis orderedRight]
      constructor
      · rintro ⟨member, same⟩
        exact ⟨.inr (.inr member), same⟩
      · rintro ⟨member | rfl | member, rfl⟩
        · exact absurd (below a member) (not_lt_of_gt more)
        · exact absurd more (lt_irrefl _)
        · exact ⟨member, rfl⟩

theorem find_eq_none_iff (ordered : Ordered key tree) {k : κ} :
    find key k tree = none ↔ ∀ a ∈ inorder tree, key a ≠ k := by
  rw [Option.eq_none_iff_forall_ne_some]
  constructor
  · intro missing a member same
    exact missing a ((find_eq_some_iff ordered).mpr ⟨member, same⟩)
  · intro missing a found
    obtain ⟨member, same⟩ := (find_eq_some_iff ordered).mp found
    exact missing a member same

/-! ## Inserting -/

variable (key) in
/-- Add an element, unless there is one with its key. -/
def insert (a : α) : BinaryTree α → BinaryTree α
  | .nil => .node a .nil .nil
  | .node value left right =>
    if key a < key value then .node value (insert a left) right
    else if key value < key a then .node value left (insert a right)
    else .node value left right

theorem mem_inorder_insert (ordered : Ordered key tree) {a b : α} :
    b ∈ inorder (insert key a tree) ↔
      b ∈ inorder tree ∨ (b = a ∧ ∀ c ∈ inorder tree, key c ≠ key a) := by
  induction tree with
  | nil => simp [insert]
  | node value left right leftHypothesis rightHypothesis =>
    obtain ⟨orderedLeft, orderedRight, below, above⟩ := ordered_node.mp ordered
    have others : (∀ c ∈ inorder (.node value left right), key c ≠ key a) ↔
        (∀ c ∈ inorder left, key c ≠ key a) ∧ key value ≠ key a ∧
          ∀ c ∈ inorder right, key c ≠ key a := by
      rw [inorder_node, List.forall_mem_append, List.forall_mem_cons]
    rw [others, inorder_node, List.mem_append, List.mem_cons, insert]
    rcases lt_trichotomy (key a) (key value) with less | same | more
    · have rightDiffers : ∀ c ∈ inorder right, key c ≠ key a := fun c member =>
        (lt_trans less (above c member)).ne'
      have rest : key value ≠ key a ∧ ∀ c ∈ inorder right, key c ≠ key a := ⟨less.ne', rightDiffers⟩
      rw [if_pos less, inorder_node, List.mem_append, List.mem_cons, leftHypothesis orderedLeft,
        and_iff_left rest, or_right_comm]
    · rw [if_neg same.not_lt, if_neg same.not_gt, inorder_node, List.mem_append, List.mem_cons]
      simp [same]
    · have leftDiffers : ∀ c ∈ inorder left, key c ≠ key a := fun c member =>
        (lt_trans (below c member) more).ne
      rw [if_neg (not_lt_of_gt more), if_pos more, inorder_node, List.mem_append, List.mem_cons,
        rightHypothesis orderedRight, and_iff_right leftDiffers, and_iff_right more.ne, or_assoc,
        or_assoc]

/-- An insertion adds its element or nothing. -/
theorem inorder_insert (a : α) (tree : BinaryTree α) :
    inorder (insert key a tree) = inorder tree ∨
      (inorder (insert key a tree)).Perm (a :: inorder tree) := by
  induction tree with
  | nil => exact .inr (.refl _)
  | node value left right leftHypothesis rightHypothesis =>
    rw [insert]
    split
    next =>
      simp only [inorder_node]
      cases leftHypothesis with
      | inl same => exact .inl (by rw [same])
      | inr added => exact .inr (added.append_right _)
    next =>
      split
      next =>
        simp only [inorder_node]
        cases rightHypothesis with
        | inl same => exact .inl (by rw [same])
        | inr added =>
          have moved := (added.cons value).trans (List.Perm.swap a value (inorder right))
          exact .inr ((moved.append_left (inorder left)).trans List.perm_middle)
      next => exact .inl rfl

theorem Ordered.insert (ordered : Ordered key tree) (a : α) : Ordered key (insert key a tree) := by
  induction tree with
  | nil => exact List.pairwise_singleton _ _
  | node value left right leftHypothesis rightHypothesis =>
    obtain ⟨orderedLeft, orderedRight, below, above⟩ := ordered_node.mp ordered
    rw [SearchTree.insert]
    rcases lt_trichotomy (key a) (key value) with less | same | more
    · rw [if_pos less, ordered_node]
      refine ⟨leftHypothesis orderedLeft, orderedRight, fun b member => ?_, above⟩
      rcases (mem_inorder_insert orderedLeft).mp member with old | ⟨rfl, -⟩
      · exact below b old
      · exact less
    · rw [if_neg same.not_lt, if_neg same.not_gt]
      exact ordered
    · rw [if_neg (not_lt_of_gt more), if_pos more, ordered_node]
      refine ⟨orderedLeft, rightHypothesis orderedRight, below, fun b member => ?_⟩
      rcases (mem_inorder_insert orderedRight).mp member with old | ⟨rfl, -⟩
      · exact above b old
      · exact more

/-! ## Removing -/

/-- The leftmost element of a tree given by its root and its left subtree. -/
def least : α → BinaryTree α → α
  | value, .nil => value
  | _, .node value left _ => least value left

theorem exists_inorder_eq_least (value : α) (left right : BinaryTree α) :
    ∃ rest, inorder (.node value left right) = least value left :: rest := by
  induction left generalizing value right with
  | nil => exact ⟨inorder right, rfl⟩
  | node value' left' right' leftHypothesis rightHypothesis =>
    obtain ⟨rest, first⟩ := leftHypothesis value' right'
    refine ⟨rest ++ value :: inorder right, ?_⟩
    rw [inorder_node, first]
    rfl

variable (key) in
/-- Take out the element with a key.  An element with two subtrees is replaced by the
    one that follows it. -/
def remove (k : κ) : BinaryTree α → BinaryTree α
  | .nil => .nil
  | .node value left right =>
    if k < key value then .node value (remove k left) right
    else if key value < k then .node value left (remove k right)
    else
      match left, right with
      | .nil, _ => right
      | _, .nil => left
      | _, .node next nextLeft _ =>
        .node (least next nextLeft) left (remove (key (least next nextLeft)) right)

theorem remove_of_lt {k : κ} (less : k < key value) :
    remove key k (.node value left right) = .node value (remove key k left) right := by
  rw [remove.eq_def]
  simp [less]

theorem remove_of_gt {k : κ} (more : key value < k) :
    remove key k (.node value left right) = .node value left (remove key k right) := by
  rw [remove.eq_def]
  simp [more, not_lt_of_gt more]

theorem remove_root_nil : remove key (key value) (.node value .nil right) = right := by
  rw [remove.eq_def]
  simp

theorem remove_root_left : remove key (key value) (.node value left .nil) = left := by
  rw [remove.eq_def]
  cases left <;> simp

theorem remove_root {leftValue next : α} {leftLeft leftRight nextLeft nextRight : BinaryTree α} :
    remove key (key value) (.node value (.node leftValue leftLeft leftRight)
        (.node next nextLeft nextRight)) =
      .node (least next nextLeft) (.node leftValue leftLeft leftRight)
        (remove key (key (least next nextLeft)) (.node next nextLeft nextRight)) := by
  rw [remove.eq_def]
  simp

theorem inorder_remove (ordered : Ordered key tree) (k : κ) :
    inorder (remove key k tree) = (inorder tree).filter (key · ≠ k) := by
  induction tree generalizing k with
  | nil => rfl
  | node value left right leftHypothesis rightHypothesis =>
    obtain ⟨orderedLeft, orderedRight, below, above⟩ := ordered_node.mp ordered
    have keepLeft : key value ≤ k → (inorder left).filter (key · ≠ k) = inorder left := by
      intro atMost
      rw [List.filter_eq_self]
      exact fun a member => by simpa using (lt_of_lt_of_le (below a member) atMost).ne
    have keepRight : k ≤ key value → (inorder right).filter (key · ≠ k) = inorder right := by
      intro atLeast
      rw [List.filter_eq_self]
      exact fun a member => by simpa using (lt_of_le_of_lt atLeast (above a member)).ne'
    rw [inorder_node, List.filter_append, List.filter_cons]
    rcases lt_trichotomy k (key value) with less | rfl | more
    · rw [remove_of_lt less, inorder_node, leftHypothesis orderedLeft, keepRight less.le,
        if_pos (by simpa using less.ne')]
    · rw [keepLeft le_rfl, keepRight le_rfl, if_neg (by simp)]
      cases left with
      | nil => rw [remove_root_nil, inorder_nil, List.nil_append]
      | node leftValue leftLeft leftRight =>
        cases right with
        | nil => rw [remove_root_left, inorder_nil, List.append_nil]
        | node next nextLeft nextRight =>
          -- the right subtree without its least element is what follows that element
          obtain ⟨rest, first⟩ := exists_inorder_eq_least next nextLeft nextRight
          rw [remove_root, inorder_node (least next nextLeft), rightHypothesis orderedRight, first,
            List.filter_cons_of_neg (by simp)]
          congr 2
          rw [List.filter_eq_self]
          intro a member
          rw [Ordered, first, List.pairwise_cons] at orderedRight
          simpa using (orderedRight.1 a member).ne'
    · rw [remove_of_gt more, inorder_node, rightHypothesis orderedRight, keepLeft more.le,
        if_pos (by simpa using more.ne)]

theorem Ordered.remove (ordered : Ordered key tree) (k : κ) :
    Ordered key (remove key k tree) := by
  rw [Ordered, inorder_remove ordered]
  exact List.Pairwise.filter _ ordered

/-! ## Searching after an update -/

/-- What is found depends on the elements and their order only. -/
theorem find_congr {tree' : BinaryTree α} (ordered : Ordered key tree)
    (same : inorder tree' = inorder tree) (k : κ) : find key k tree' = find key k tree := by
  have ordered' : Ordered key tree' := by
    rw [Ordered, same]
    exact ordered
  apply Option.ext
  intro a
  rw [find_eq_some_iff ordered, find_eq_some_iff ordered', same]

/-- A new element is found, and every old one still is. -/
theorem find_insert (ordered : Ordered key tree) (a : α) (k : κ) :
    find key k (insert key a tree) =
      (find key k tree).or (if k = key a then some a else none) := by
  apply Option.ext
  intro b
  rw [find_eq_some_iff (ordered.insert a), mem_inorder_insert ordered]
  cases found : find key k tree with
  | some c =>
    obtain ⟨member, rfl⟩ := (find_eq_some_iff ordered).mp found
    rw [Option.some_or, Option.some_inj]
    constructor
    · rintro ⟨old | ⟨rfl, new⟩, same⟩
      · exact ordered.eq_of_key member old same.symm
      · exact absurd same.symm (new c member)
    · rintro rfl
      exact ⟨.inl member, rfl⟩
  | none =>
    have missing := (find_eq_none_iff ordered).mp found
    rw [Option.none_or]
    constructor
    · rintro ⟨old | ⟨rfl, -⟩, rfl⟩
      · exact absurd rfl (missing b old)
      · exact if_pos rfl
    · intro new
      by_cases here : k = key a
      · rw [if_pos here] at new
        cases new
        exact ⟨.inr ⟨rfl, here ▸ missing⟩, here.symm⟩
      · rw [if_neg here] at new
        cases new

/-- The removed element is not found any more, and every other one still is. -/
theorem find_remove (ordered : Ordered key tree) (removed k : κ) :
    find key k (remove key removed tree) = if k = removed then none else find key k tree := by
  apply Option.ext
  intro a
  rw [find_eq_some_iff (ordered.remove removed), inorder_remove ordered, List.mem_filter,
    decide_eq_true_eq]
  by_cases here : k = removed
  · rw [if_pos here]
    constructor
    · rintro ⟨⟨-, other⟩, same⟩
      exact absurd (same.trans here) other
    · intro none
      cases none
  · rw [if_neg here, find_eq_some_iff ordered]
    constructor
    · rintro ⟨⟨member, -⟩, same⟩
      exact ⟨member, same⟩
    · rintro ⟨member, rfl⟩
      exact ⟨⟨member, here⟩, rfl⟩

/-! ## Elements seen through a function -/

theorem ordered_map (f : β → α) (tree : BinaryTree β) :
    Ordered key (tree.map f) ↔ Ordered (fun b => key (f b)) tree := by
  rw [Ordered, inorder_map, List.pairwise_map]
  rfl

theorem find_map (f : β → α) (k : κ) (tree : BinaryTree β) :
    find key k (tree.map f) = (find (fun b => key (f b)) k tree).map f := by
  induction tree with
  | nil => rfl
  | node value left right leftHypothesis rightHypothesis =>
    simp only [BinaryTree.map, find, leftHypothesis, rightHypothesis]
    split
    next => rfl
    next => split <;> rfl

theorem insert_map (f : β → α) (b : β) (tree : BinaryTree β) :
    (SearchTree.insert (fun b => key (f b)) b tree).map f =
      SearchTree.insert key (f b) (tree.map f) := by
  induction tree with
  | nil => rfl
  | node value left right leftHypothesis rightHypothesis =>
    simp only [BinaryTree.map, SearchTree.insert, ← leftHypothesis, ← rightHypothesis]
    split
    next => rfl
    next => split <;> rfl

theorem least_map (f : β → α) (value : β) (tree : BinaryTree β) :
    least (f value) (tree.map f) = f (least value tree) := by
  induction tree generalizing value with
  | nil => rfl
  | node value' left right leftHypothesis _ => exact leftHypothesis value'

end Order

/-! ## Balance -/

/-- The heights of the two subtrees of every element differ by at most one. -/
def Balanced : BinaryTree α → Prop
  | .nil => True
  | .node _ left right =>
    left.height ≤ right.height + 1 ∧ right.height ≤ left.height + 1 ∧ Balanced left ∧ Balanced right

instance decidableBalanced : (tree : BinaryTree α) → Decidable (Balanced tree)
  | .nil => inferInstanceAs (Decidable True)
  | .node _ left right =>
    have := decidableBalanced left
    have := decidableBalanced right
    inferInstanceAs (Decidable (_ ∧ _))

theorem height_map (f : α → β) (tree : BinaryTree α) : (tree.map f).height = tree.height := by
  induction tree with
  | nil => rfl
  | node value left right leftHypothesis rightHypothesis =>
    simp [BinaryTree.map, leftHypothesis, rightHypothesis]

theorem balanced_map (f : α → β) (tree : BinaryTree α) :
    Balanced (tree.map f) ↔ Balanced tree := by
  induction tree with
  | nil => rfl
  | node value left right leftHypothesis rightHypothesis =>
    simp only [BinaryTree.map, Balanced, height_map, leftHypothesis, rightHypothesis]

theorem numNodes_lt_two_pow (tree : BinaryTree α) : tree.numNodes < 2 ^ tree.height := by
  induction tree with
  | nil => simp
  | node value left right leftHypothesis rightHypothesis =>
    have leftBound : 2 ^ left.height ≤ 2 ^ max left.height right.height :=
      Nat.pow_le_pow_right (by simp) (Nat.le_max_left _ _)
    have rightBound : 2 ^ right.height ≤ 2 ^ max left.height right.height :=
      Nat.pow_le_pow_right (by simp) (Nat.le_max_right _ _)
    simp only [BinaryTree.numNodes, BinaryTree.height, Nat.pow_succ]
    omega

theorem length_inorder (tree : BinaryTree α) : (inorder tree).length = tree.numNodes := by
  induction tree with
  | nil => rfl
  | node value left right leftHypothesis rightHypothesis =>
    simp [leftHypothesis, rightHypothesis]
    omega

/-! ## Shapes -/

/-- The shapes of a number of nodes that are no higher than a bound. -/
def shapes : Nat → Nat → List (BinaryTree Unit)
  | _, 0 => [.nil]
  | 0, _ + 1 => []
  | height + 1, nodes + 1 =>
    (List.range (nodes + 1)).flatMap fun leftNodes =>
      (shapes height leftNodes).flatMap fun left =>
        (shapes height (nodes - leftNodes)).map fun right => .node () left right

theorem mem_shapes {shape : BinaryTree Unit} {height : Nat} (low : shape.height ≤ height) :
    shape ∈ shapes height shape.numNodes := by
  induction shape generalizing height with
  | nil => cases height <;> simp [shapes]
  | node value left right leftHypothesis rightHypothesis =>
    cases height with
    | zero => simp [BinaryTree.height] at low
    | succ height =>
      obtain ⟨lowLeft, lowRight⟩ := Nat.max_le.mp (Nat.le_of_succ_le_succ low)
      have member := rightHypothesis lowRight
      simp only [shapes, BinaryTree.numNodes, List.mem_flatMap, List.mem_range, List.mem_map]
      refine ⟨left.numNodes, by omega, left, leftHypothesis lowLeft, right, ?_, rfl⟩
      rwa [Nat.add_sub_cancel_left]

end SearchTree
