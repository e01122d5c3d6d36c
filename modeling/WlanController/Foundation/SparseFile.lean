import WlanController.Foundation.Tiling

/-!
# Files that are written at offsets

A write puts its block where it belongs, over what is there, and lengthens the file if need be.
What lies between the old end and a block that begins behind it reads as zero.  A file that has
been written block by block is as long as the furthest block reaches, and at each position it
has what some block has there, or a zero where no block has been.
-/

namespace SparseFile

open Tiling (Block)

universe u

variable {α : Type u} [Zero α]

/-- A write of nothing leaves the file as it is, wherever it is. -/
def write (file : List α) (block : Block α) : List α :=
  if block.items = [] then file
  else (file ++ List.replicate (block.start - file.length) 0).take block.start ++ block.items ++
    file.drop block.stop

def fileOf (blocks : List (Block α)) : List α := blocks.foldl write []

theorem fileOf_append (blocks : List (Block α)) (block : Block α) :
    fileOf (blocks ++ [block]) = write (fileOf blocks) block := by
  simp [fileOf]

theorem length_write {block : Block α} (inside : block.items ≠ []) (file : List α) :
    (write file block).length = max file.length block.stop := by
  have positive : 0 < block.items.length := List.length_pos_iff.mpr inside
  simp only [write, if_neg inside, List.length_append, List.length_take, List.length_replicate,
    List.length_drop, Block.stop]
  omega

/-- A write at the end of the file. -/
theorem write_length (file items : List α) : write file ⟨file.length, items⟩ = file ++ items := by
  by_cases nothing : items = []
  case pos => simp [write, nothing]
  case neg => simp [write, nothing, Block.stop]

theorem getElem?_write_inside (file : List α) {block : Block α} {position : Nat}
    (inside : block.Contains position) :
    (write file block)[position]? = block.items[position - block.start]? := by
  obtain ⟨low, high⟩ := inside
  have positive : block.items ≠ [] := by
    intro none
    simp only [Block.stop, none, List.length_nil] at high
    omega
  have front : ((file ++ List.replicate (block.start - file.length) 0).take block.start).length =
      block.start := by
    simp only [List.length_take, List.length_append, List.length_replicate]
    omega
  simp only [Block.stop] at high
  rw [write, if_neg positive, List.append_assoc, List.getElem?_append_right (by omega), front,
    List.getElem?_append_left (by omega)]

/-- Outside of the block the file keeps what it has, and what is new is zero. -/
theorem getElem?_write_outside (file : List α) {block : Block α} {position : Nat}
    (outside : ¬ block.Contains position) :
    (write file block)[position]? = file[position]? ∨
      file[position]? = none ∧ (write file block)[position]? = some 0 := by
  by_cases nothing : block.items = []
  case pos => simp [write, nothing]
  case neg =>
    have front : ((file ++ List.replicate (block.start - file.length) 0).take block.start).length =
        block.start := by
      simp only [List.length_take, List.length_append, List.length_replicate]
      omega
    rw [write, if_neg nothing, List.append_assoc]
    by_cases before : position < block.start
    case pos =>
      rw [List.getElem?_append_left (by omega), List.getElem?_take_of_lt before]
      by_cases there : position < file.length
      case pos => exact .inl (List.getElem?_append_left there)
      case neg =>
        refine .inr ⟨List.getElem?_eq_none (by omega), ?_⟩
        rw [List.getElem?_append_right (by omega), List.getElem?_replicate, if_pos (by omega)]
    case neg =>
      have behind : block.stop ≤ position := by
        by_contra within
        exact outside ⟨by omega, by omega⟩
      have length : block.items.length = block.stop - block.start := by simp [Block.stop]
      have ordered : block.start ≤ block.stop := by simp [Block.stop]
      rw [List.getElem?_append_right (by omega), front, List.getElem?_append_right (by omega),
        List.getElem?_drop]
      exact .inl (congrArg (file[·]?) (by omega))

/-- A block lies inside the file it has been written to. -/
theorem lt_length_fileOf {blocks : List (Block α)} {block : Block α} (member : block ∈ blocks)
    {position : Nat} (inside : block.Contains position) : position < (fileOf blocks).length := by
  induction blocks using List.reverseRecOn with
  | nil => cases member
  | append_singleton blocks last inductionHypothesis =>
    rw [fileOf_append]
    cases List.mem_append.mp member with
    | inl earlier =>
      have there := inductionHypothesis earlier
      by_cases nothing : last.items = []
      case pos => simpa [write, nothing] using there
      case neg =>
        rw [length_write nothing]
        omega
    | inr same =>
      cases List.mem_singleton.mp same
      have room := inside.2
      have something : block.items ≠ [] := by
        intro nothing
        have low := inside.1
        simp only [Block.stop, nothing, List.length_nil] at room
        omega
      rw [length_write something]
      omega

/-- The file ends where some block does. -/
theorem length_fileOf_le {blocks : List (Block α)} {bound : Nat}
    (inside : ∀ block ∈ blocks, block.stop ≤ bound) : (fileOf blocks).length ≤ bound := by
  induction blocks using List.reverseRecOn with
  | nil => simp [fileOf]
  | append_singleton blocks last inductionHypothesis =>
    have shorter := inductionHypothesis fun block member => inside block (by simp [member])
    have here := inside last (by simp)
    rw [fileOf_append]
    by_cases nothing : last.items = []
    case pos => simpa [write, nothing] using shorter
    case neg =>
      rw [length_write nothing]
      omega

/-- What is at a position comes from a block that has been there, or no block has been there. -/
theorem getElem?_fileOf (blocks : List (Block α)) {position : Nat} {item : α}
    (there : (fileOf blocks)[position]? = some item) :
    (∃ block ∈ blocks, block.Contains position ∧
        block.items[position - block.start]? = some item) ∨
      item = 0 ∧ ∀ block ∈ blocks, ¬ block.Contains position := by
  induction blocks using List.reverseRecOn with
  | nil => simp [fileOf] at there
  | append_singleton blocks last inductionHypothesis =>
    rw [fileOf_append] at there
    by_cases inside : last.Contains position
    case pos =>
      rw [getElem?_write_inside _ inside] at there
      exact .inl ⟨last, by simp, inside, there⟩
    case neg =>
      -- the last block is somewhere else, what is here has been here or is new
      cases getElem?_write_outside (fileOf blocks) inside with
      | inl same =>
        rw [same] at there
        cases inductionHypothesis there with
        | inl found =>
          obtain ⟨block, member, found⟩ := found
          exact .inl ⟨block, by simp [member], found⟩
        | inr free =>
          refine .inr ⟨free.1, fun block member => ?_⟩
          cases List.mem_append.mp member with
          | inl earlier => exact free.2 block earlier
          | inr same =>
            cases List.mem_singleton.mp same
            exact inside
      | inr new =>
        rw [new.2] at there
        cases there
        refine .inr ⟨rfl, fun block member here => ?_⟩
        cases List.mem_append.mp member with
        | inl earlier =>
          have room := lt_length_fileOf earlier here
          rw [List.getElem?_eq_none_iff] at new
          omega
        | inr same =>
          cases List.mem_singleton.mp same
          exact inside here

/-! ## Blocks of one whole -/

section Whole

variable {whole : List α} {blocks : List (Block α)}

/-- Each block has what the whole has where it is. -/
def PartsOf (blocks : List (Block α)) (whole : List α) : Prop :=
  ∀ block ∈ blocks, ∀ position, block.Contains position →
    block.items[position - block.start]? = whole[position]?

theorem PartsOf.getElem?_covered (parts : PartsOf blocks whole) {block : Block α}
    (member : block ∈ blocks) {position : Nat} (inside : block.Contains position) :
    (fileOf blocks)[position]? = whole[position]? := by
  have room := lt_length_fileOf member inside
  have there := List.getElem?_eq_getElem room
  cases getElem?_fileOf blocks there with
  | inl found =>
    obtain ⟨other, member', inside', same⟩ := found
    rw [there, ← same]
    exact parts other member' position inside'
  | inr free => exact absurd inside (free.2 block member)

theorem getElem?_uncovered {position : Nat}
    (free : ∀ block ∈ blocks, ¬ block.Contains position) {item : α}
    (there : (fileOf blocks)[position]? = some item) : item = 0 := by
  cases getElem?_fileOf blocks there with
  | inl found =>
    obtain ⟨block, member, inside, _⟩ := found
    exact absurd inside (free block member)
  | inr zero => exact zero.1

/-- The file is the whole if it is as long and what no block covers is zero. -/
theorem PartsOf.fileOf_eq_iff (parts : PartsOf blocks whole) :
    fileOf blocks = whole ↔ (fileOf blocks).length = whole.length ∧
      ∀ position < whole.length, (∀ block ∈ blocks, ¬ block.Contains position) →
        whole[position]? = some 0 := by
  constructor
  · intro same
    refine ⟨congrArg List.length same, fun position room free => ?_⟩
    have there := List.getElem?_eq_getElem (same ▸ room : position < (fileOf blocks).length)
    have zero := getElem?_uncovered free there
    rw [zero, same] at there
    exact there
  · intro both
    obtain ⟨length, zero⟩ := both
    apply List.ext_getElem?
    intro position
    by_cases room : position < whole.length
    case neg => rw [List.getElem?_eq_none (by omega), List.getElem?_eq_none (by omega)]
    case pos =>
      by_cases free : ∀ block ∈ blocks, ¬ block.Contains position
      case pos =>
        have there := List.getElem?_eq_getElem (length ▸ room : position < (fileOf blocks).length)
        rw [zero position room free, there, getElem?_uncovered free there]
      case neg =>
        simp only [not_forall, not_not] at free
        obtain ⟨block, member, inside⟩ := free
        exact parts.getElem?_covered member inside

end Whole

end SparseFile
