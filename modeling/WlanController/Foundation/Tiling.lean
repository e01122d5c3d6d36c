import Mathlib

/-!
# Blocks that tile a list

A block holds a run of elements and the position it belongs to.  Blocks that follow
one another without gap tile the list they make when put together: they do not
overlap, and every element of the list is that of the block at its position.
-/

namespace Tiling

universe u

structure Block (α : Type u) where
  start : Nat
  items : List α

variable {α : Type u}

namespace Block

def stop (block : Block α) : Nat := block.start + block.items.length

def Contains (block : Block α) (position : Nat) : Prop :=
  block.start ≤ position ∧ position < block.stop

/-- No position belongs to both blocks. -/
def Apart (block other : Block α) : Prop := ∀ position, ¬ (block.Contains position ∧ other.Contains position)

theorem Apart.symm {block other : Block α} (apart : block.Apart other) : other.Apart block :=
  fun position both => apart position both.symm

instance : Std.Symm (@Block.Apart α) := ⟨fun _ _ => Apart.symm⟩

/-- A block that holds anything overlaps itself. -/
theorem not_apart_self {block : Block α} (some : 0 < block.items.length) : ¬ block.Apart block := by
  intro apart
  have inside : block.Contains block.start := ⟨Nat.le_refl _, Nat.lt_add_of_pos_right some⟩
  exact apart block.start ⟨inside, inside⟩

end Block

/-- Blocks that are pairwise apart and together hold exactly the elements of `whole`. -/
structure Tiles (blocks : List (Block α)) (whole : List α) : Prop where
  apart : blocks.Pairwise Block.Apart
  inside : ∀ block ∈ blocks, block.stop ≤ whole.length
  covers : ∀ position < whole.length, ∃ block ∈ blocks,
    block.Contains position ∧ whole[position]? = block.items[position - block.start]?

/-- Each block starts where the one before it stops. -/
inductive Chain : Nat → List (Block α) → Nat → Prop
  | nil (position : Nat) : Chain position [] position
  | cons {block : Block α} {blocks : List (Block α)} {final : Nat} :
      Chain block.stop blocks final → Chain block.start (block :: blocks) final

theorem Chain.bounds {position final : Nat} {blocks : List (Block α)}
    (chain : Chain position blocks final) :
    position ≤ final ∧ ∀ block ∈ blocks, position ≤ block.start ∧ block.stop ≤ final := by
  induction chain with
  | nil => exact ⟨Nat.le_refl _, fun _ member => nomatch member⟩
  | cons rest inductionHypothesis =>
    rename_i block blocks final
    have step : block.start ≤ block.stop := Nat.le_add_right _ _
    obtain ⟨ordered, inside⟩ := inductionHypothesis
    refine ⟨step.trans ordered, ?_⟩
    rw [List.forall_mem_cons]
    refine ⟨⟨Nat.le_refl _, ordered⟩, fun other member => ?_⟩
    exact ⟨step.trans (inside other member).1, (inside other member).2⟩

theorem Chain.final_eq {position final : Nat} {blocks : List (Block α)}
    (chain : Chain position blocks final) :
    final = position + (blocks.flatMap Block.items).length := by
  induction chain with
  | nil => simp
  | cons rest inductionHypothesis =>
    rw [inductionHypothesis, List.flatMap_cons, List.length_append, ← Nat.add_assoc]
    rfl

theorem Chain.apart {position final : Nat} {blocks : List (Block α)}
    (chain : Chain position blocks final) : blocks.Pairwise Block.Apart := by
  induction chain with
  | nil => exact .nil
  | cons rest inductionHypothesis =>
    refine List.pairwise_cons.mpr ⟨fun other member place both => ?_, inductionHypothesis⟩
    have after := (rest.bounds.2 other member).1
    have before := both.1.2
    have inside := both.2.1
    omega

theorem Chain.covers {position final : Nat} {blocks : List (Block α)}
    (chain : Chain position blocks final) {place : Nat} (behind : position ≤ place)
    (before : place < final) :
    ∃ block ∈ blocks, block.Contains place ∧
      (blocks.flatMap Block.items)[place - position]? = block.items[place - block.start]? := by
  induction chain with
  | nil => omega
  | cons rest inductionHypothesis =>
    rename_i block blocks final
    rw [List.flatMap_cons]
    by_cases here : place < block.stop
    · refine ⟨block, List.mem_cons_self, ⟨behind, here⟩, ?_⟩
      unfold Block.stop at here
      rw [List.getElem?_append_left (by omega)]
    · obtain ⟨other, member, contains, same⟩ := inductionHypothesis (by omega) before
      refine ⟨other, List.mem_cons_of_mem _ member, contains, ?_⟩
      unfold Block.stop at here same
      rw [List.getElem?_append_right (by omega), ← same]
      congr 1
      omega

theorem Chain.concat {position : Nat} {blocks : List (Block α)} {block : Block α}
    (chain : Chain position blocks block.start) :
    Chain position (blocks ++ [block]) block.stop := by
  generalize next : block.start = final at chain
  induction chain with
  | nil =>
    subst next
    exact .cons (.nil _)
  | cons rest inductionHypothesis => exact .cons (inductionHypothesis next)

/-- A chain from the beginning tiles what its blocks hold. -/
theorem Chain.tiles {final : Nat} {blocks : List (Block α)} (chain : Chain 0 blocks final) :
    Tiles blocks (blocks.flatMap Block.items) := by
  have length := chain.final_eq
  rw [Nat.zero_add] at length
  constructor
  case apart => exact chain.apart
  case inside =>
    intro block member
    rw [← length]
    exact (chain.bounds.2 block member).2
  case covers =>
    intro position inside
    exact chain.covers (Nat.zero_le _) (length ▸ inside)

/-! ## Blocks out of a larger collection -/

/-- Different members of a list weigh together no more than the list. -/
theorem sum_le_sum_of_nodup {β : Type u} (weight : β → Nat) {chosen all : List β}
    (nodup : chosen.Nodup) (subset : chosen ⊆ all) :
    (chosen.map weight).sum ≤ (all.map weight).sum := by
  obtain ⟨sub, permutation, sublist⟩ := List.subperm_of_subset nodup subset
  rw [← (permutation.map weight).sum_eq]
  exact (sublist.map weight).sum_le_sum fun _ _ => Nat.zero_le _

/-- Members that weigh nothing can be left out. -/
theorem sum_filter_ne_zero {β : Type u} (weight : β → Nat) (all : List β) :
    ((all.filter (weight · ≠ 0)).map weight).sum = (all.map weight).sum := by
  induction all with
  | nil => rfl
  | cons first all inductionHypothesis =>
    rw [List.map_cons, List.sum_cons, ← inductionHypothesis]
    by_cases empty : weight first = 0
    · rw [List.filter_cons_of_neg (by simpa using empty), empty, Nat.zero_add]
    · rw [List.filter_cons_of_pos (by simpa using empty), List.map_cons, List.sum_cons]

/-- Where different members already weigh as much as all, any other one weighs nothing. -/
theorem weight_eq_zero_of_sum_le {β : Type u} (weight : β → Nat) {chosen all : List β}
    (nodup : chosen.Nodup) (subset : chosen ⊆ all)
    (everything : (all.map weight).sum ≤ (chosen.map weight).sum) {other : β}
    (member : other ∈ all) (outside : other ∉ chosen) : weight other = 0 := by
  have more := sum_le_sum_of_nodup weight (List.nodup_cons.mpr ⟨outside, nodup⟩)
    (List.cons_subset.mpr ⟨member, subset⟩)
  rw [List.map_cons, List.sum_cons] at more
  omega

/-- Blocks that tile a list hold as much as it has. -/
theorem Tiles.length_le {blocks : List (Block α)} {whole : List α} (tiles : Tiles blocks whole) :
    whole.length ≤ (blocks.map (·.items.length)).sum := by
  have covered : List.range whole.length ⊆
      blocks.flatMap fun block => List.range' block.start block.items.length := by
    intro position inside
    obtain ⟨block, member, contains, -⟩ := tiles.covers position (List.mem_range.mp inside)
    rw [List.mem_flatMap]
    exact ⟨block, member, List.mem_range'_1.mpr contains⟩
  have count := (List.subperm_of_subset List.nodup_range covered).length_le
  rwa [List.length_range, List.length_flatMap, show
    (fun block : Block α => (List.range' block.start block.items.length).length) =
      fun block => block.items.length from funext fun _ => List.length_range'] at count

end Tiling
