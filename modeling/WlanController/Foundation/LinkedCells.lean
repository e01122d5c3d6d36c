import Mathlib.Data.List.Nodup
import Mathlib.Logic.Function.Basic

/-!
# Doubly linked cells

A heap maps addresses to cells, each with an item and with the addresses of its two neighbours.
Cells are linked from one address to another if each of them points to the one before and to the one
behind it.  Links of a part do not depend on the cells outside, so a list of cells can be changed at
either end.
-/

namespace LinkedCells

variable {α β : Type}

structure Cell (α β : Type) where
  item : β
  prev : α
  next : α
deriving DecidableEq

abbrev Heap (α β : Type) := α → Option (Cell α β)

namespace Heap

variable [DecidableEq α]

def store (heap : Heap α β) (address : α) (cell : Cell α β) : Heap α β :=
  Function.update heap address (some cell)

def release (heap : Heap α β) (address : α) : Heap α β := Function.update heap address none

/-- `none` where there is no cell. -/
def modify (heap : Heap α β) (address : α) (change : Cell α β → Cell α β) : Option (Heap α β) :=
  (heap address).map fun cell => heap.store address (change cell)

end Heap

/-- The address of the first cell, or what is behind. -/
def first (behind : α) : List (α × β) → α
  | [] => behind
  | (address, _) :: _ => address

/-- The address of the last cell, or what is before. -/
def last (before : α) : List (α × β) → α
  | [] => before
  | (address, _) :: cells => last address cells

@[simp] theorem first_nil (behind : α) : first behind ([] : List (α × β)) = behind := rfl

@[simp] theorem first_cons (behind : α) (address : α) (item : β) (cells : List (α × β)) :
    first behind ((address, item) :: cells) = address := rfl

@[simp] theorem last_nil (before : α) : last before ([] : List (α × β)) = before := rfl

@[simp] theorem last_cons (before : α) (address : α) (item : β) (cells : List (α × β)) :
    last before ((address, item) :: cells) = last address cells := rfl

@[simp] theorem last_concat (before : α) (cells : List (α × β)) (address : α) (item : β) :
    last before (cells ++ [(address, item)]) = address := by
  induction cells generalizing before with
  | nil => rfl
  | cons cell cells inductionHypothesis => exact inductionHypothesis cell.1

@[simp] theorem first_concat (behind : α) (cells : List (α × β)) (address : α) (item : β) :
    first behind (cells ++ [(address, item)]) = first address cells := by
  cases cells <;> rfl

theorem first_mem {behind : α} {cells : List (α × β)} (inhabited : cells ≠ []) :
    first behind cells ∈ cells.map Prod.fst := by
  cases cells with
  | nil => exact absurd rfl inhabited
  | cons cell cells => exact List.mem_cons_self

theorem last_mem {before : α} {cells : List (α × β)} (inhabited : cells ≠ []) :
    last before cells ∈ cells.map Prod.fst := by
  obtain ⟨cells', ⟨address, item⟩, rfl⟩ := (List.eq_nil_or_concat' cells).resolve_left inhabited
  simp

/-- Each cell points to its neighbours. -/
def Linked (heap : Heap α β) (before : α) : List (α × β) → (behind : α) → Prop
  | [], _ => True
  | (address, item) :: cells, behind =>
      heap address = some ⟨item, before, first behind cells⟩ ∧ Linked heap address cells behind

@[simp] theorem linked_nil (heap : Heap α β) (before behind : α) : Linked heap before [] behind :=
  trivial

theorem linked_append (heap : Heap α β) (before behind : α) (cells cells' : List (α × β)) :
    Linked heap before (cells ++ cells') behind ↔
      Linked heap before cells (first behind cells') ∧
        Linked heap (last before cells) cells' behind := by
  induction cells generalizing before with
  | nil => simp
  | cons cell cells inductionHypothesis =>
    have next : first behind (cells ++ cells') = first (first behind cells') cells := by
      cases cells <;> rfl
    simp only [List.cons_append, Linked, last, inductionHypothesis, next, and_assoc]

/-- The cells are linked from `null` to `null`, and they are what the heap consists of. -/
structure Owns (null : α) (heap : Heap α β) (cells : List (α × β)) : Prop where
  linked : Linked heap null cells null
  distinct : (cells.map Prod.fst).Nodup
  proper : null ∉ cells.map Prod.fst
  owned : ∀ address, (heap address).isSome ↔ address ∈ cells.map Prod.fst

namespace Owns

variable {null : α} {heap : Heap α β} {cells : List (α × β)} {address : α} {item : β}

theorem empty : Owns null (fun _ => none : Heap α β) [] where
  linked := trivial
  distinct := List.nodup_nil
  proper := nofun
  owned := by simp

theorem not_mem (owns : Owns null heap cells) (free : heap address = none) :
    address ∉ cells.map Prod.fst := by
  rw [← owns.owned, free]
  simp

theorem first_eq_null (owns : Owns null heap cells) : first null cells = null ↔ cells = [] := by
  constructor
  · intro same
    by_contra inhabited
    exact owns.proper (same ▸ first_mem inhabited)
  · rintro rfl
    rfl

theorem last_eq_null (owns : Owns null heap cells) : last null cells = null ↔ cells = [] := by
  constructor
  · intro same
    by_contra inhabited
    exact owns.proper (same ▸ last_mem inhabited)
  · rintro rfl
    rfl

end Owns

/-! ## The other way round -/

def Cell.flip (cell : Cell α β) : Cell α β := ⟨cell.item, cell.next, cell.prev⟩

def Heap.flip (heap : Heap α β) : Heap α β := fun address => (heap address).map Cell.flip

theorem last_reverse (before : α) (cells : List (α × β)) :
    last before cells.reverse = first before cells := by
  cases cells with
  | nil => rfl
  | cons cell cells => rw [List.reverse_cons, last_concat, first_cons]

theorem first_reverse (behind : α) (cells : List (α × β)) :
    first behind cells.reverse = last behind cells := by
  rw [← last_reverse, List.reverse_reverse]

namespace Heap

@[simp] theorem flip_flip (heap : Heap α β) : heap.flip.flip = heap := by
  funext address
  rw [flip, flip, Option.map_map]
  cases heap address <;> rfl

end Heap

theorem linked_flip {heap : Heap α β} {cells : List (α × β)} {before behind : α}
    (linked : Linked heap before cells behind) : Linked heap.flip behind cells.reverse before := by
  induction cells generalizing before with
  | nil => trivial
  | cons cell cells inductionHypothesis =>
    obtain ⟨address, item⟩ := cell
    rw [List.reverse_cons, linked_append]
    refine ⟨inductionHypothesis linked.2, ?_, trivial⟩
    rw [Heap.flip, linked.1, last_reverse]
    rfl

variable [DecidableEq α]

/-- What is outside does not matter. -/
theorem linked_update {heap : Heap α β} {address : α} {cells : List (α × β)}
    (outside : address ∉ cells.map Prod.fst) (cell : Option (Cell α β)) (before behind : α) :
    Linked (Function.update heap address cell) before cells behind ↔
      Linked heap before cells behind := by
  induction cells generalizing before with
  | nil => exact Iff.rfl
  | cons head cells inductionHypothesis =>
    simp only [List.map_cons, List.mem_cons, not_or] at outside
    have other : head.1 ≠ address := Ne.symm outside.1
    simp only [Linked, inductionHypothesis outside.2, Function.update_of_ne other]

theorem linked_store {heap : Heap α β} {address : α} {cells : List (α × β)}
    (outside : address ∉ cells.map Prod.fst) {cell : Cell α β} {before behind : α}
    (linked : Linked heap before cells behind) :
    Linked (heap.store address cell) before cells behind :=
  (linked_update outside (some cell) before behind).mpr linked

theorem linked_release {heap : Heap α β} {address : α} {cells : List (α × β)}
    (outside : address ∉ cells.map Prod.fst) {before behind : α}
    (linked : Linked heap before cells behind) :
    Linked (heap.release address) before cells behind :=
  (linked_update outside none before behind).mpr linked

namespace Heap

variable {heap : Heap α β} {address : α}

@[simp] theorem store_self (heap : Heap α β) (address : α) (cell : Cell α β) :
    heap.store address cell address = some cell := Function.update_self ..

@[simp] theorem store_other (heap : Heap α β) {address other : α} (apart : other ≠ address)
    (cell : Cell α β) : heap.store address cell other = heap other :=
  Function.update_of_ne apart ..

@[simp] theorem release_self (heap : Heap α β) (address : α) : heap.release address address = none :=
  Function.update_self ..

@[simp] theorem release_other (heap : Heap α β) {address other : α} (apart : other ≠ address) :
    heap.release address other = heap other := Function.update_of_ne apart ..

theorem modify_of_some {cell : Cell α β} (there : heap address = some cell)
    (change : Cell α β → Cell α β) : heap.modify address change = some (heap.store address (change cell)) := by
  rw [modify, there]
  rfl

/-- The link of a cell to the one before it, where there is a cell. -/
def setPrev (null : α) (heap : Heap α β) (address before : α) : Option (Heap α β) :=
  if address = null then some heap else heap.modify address fun cell => { cell with prev := before }

/-- The link of a cell to the one behind it, where there is a cell. -/
def setNext (null : α) (heap : Heap α β) (address behind : α) : Option (Heap α β) :=
  if address = null then some heap else heap.modify address fun cell => { cell with next := behind }

end Heap

namespace Owns

variable {null : α} {heap : Heap α β} {cells : List (α × β)} {address : α} {item : β}

/-! ### The front -/

/-- A new cell in front of the others. -/
theorem link_front (owns : Owns null heap cells) (item : β) (proper : address ≠ null)
    (free : heap address = none) :
    ∃ heap', Heap.setPrev null (heap.store address ⟨item, null, first null cells⟩)
        (first null cells) address = some heap' ∧
      Owns null heap' ((address, item) :: cells) := by
  have outside := owns.not_mem free
  cases cells with
  | nil =>
    refine ⟨heap.store address ⟨item, null, null⟩, if_pos rfl, ?_, ?_, ?_, ?_⟩
    · exact ⟨Heap.store_self .., trivial⟩
    · exact List.nodup_singleton _
    · simpa using Ne.symm proper
    · intro other
      have nothing := owns.owned other
      by_cases same : other = address
      · simp [same]
      · simpa [same] using nothing
  | cons head rest =>
    obtain ⟨front, item'⟩ := head
    have apart : front ≠ address := by
      intro same
      exact outside (same ▸ List.mem_cons_self)
    have properFront : front ≠ null := by
      intro same
      exact owns.proper (same ▸ List.mem_cons_self)
    have distinct := List.nodup_cons.mp owns.distinct
    have there : heap.store address ⟨item, null, front⟩ front =
        some ⟨item', null, first null rest⟩ := by
      rw [Heap.store_other heap apart]
      exact owns.linked.1
    refine ⟨_, (if_neg properFront).trans (Heap.modify_of_some there _), ?_, ?_, ?_, ?_⟩
    · refine ⟨?_, Heap.store_self .., ?_⟩
      · rw [Heap.store_other _ (Ne.symm apart), Heap.store_self, first_cons]
      · apply linked_store distinct.1
        apply linked_store fun member => outside (List.mem_cons_of_mem _ member)
        exact owns.linked.2
    · exact List.nodup_cons.mpr ⟨outside, owns.distinct⟩
    · rw [List.map_cons, List.mem_cons, not_or]
      exact ⟨Ne.symm proper, owns.proper⟩
    · intro other
      by_cases isFront : other = front
      · simp [isFront]
      · by_cases same : other = address
        · simp [same, Ne.symm apart]
        · have owned := owns.owned other
          simpa [isFront, same] using owned

/-- The first cell is taken away. -/
theorem unlink_front (owns : Owns null heap ((address, item) :: cells)) :
    heap address = some ⟨item, null, first null cells⟩ ∧
      ∃ heap', Heap.setPrev null heap (first null cells) null = some heap' ∧
        Owns null (heap'.release address) cells := by
  refine ⟨owns.linked.1, ?_⟩
  have distinct := List.nodup_cons.mp owns.distinct
  have proper : null ∉ cells.map Prod.fst := fun member => owns.proper (List.mem_cons_of_mem _ member)
  cases cells with
  | nil =>
    refine ⟨heap, if_pos rfl, trivial, List.nodup_nil, proper, ?_⟩
    intro other
    have owned := owns.owned other
    by_cases same : other = address
    · simp [same]
    · simpa [same] using owned
  | cons head rest =>
    obtain ⟨front, item'⟩ := head
    have apart : front ≠ address := by
      intro same
      exact distinct.1 (same ▸ List.mem_cons_self)
    have properFront : front ≠ null := by
      intro same
      exact proper (same ▸ List.mem_cons_self)
    have distinct' := List.nodup_cons.mp distinct.2
    refine ⟨_, (if_neg properFront).trans (Heap.modify_of_some owns.linked.2.1 _), ?_, distinct.2,
      proper, ?_⟩
    · refine ⟨?_, ?_⟩
      · rw [Heap.release_other _ apart, Heap.store_self]
      · apply linked_release fun member => distinct.1 (List.mem_cons_of_mem _ member)
        apply linked_store distinct'.1
        exact owns.linked.2.2
    · intro other
      have owned := owns.owned other
      by_cases same : other = address
      · rw [same, Heap.release_self]
        exact iff_of_false nofun distinct.1
      · rw [Heap.release_other _ same]
        by_cases isFront : other = front
        · simp [isFront]
        · simpa [isFront, same] using owned

end Owns

/-! ## The back, which is the front of the cells the other way round -/

namespace Heap

theorem flip_store (heap : Heap α β) (address : α) (cell : Cell α β) :
    (heap.store address cell).flip = heap.flip.store address cell.flip := by
  funext other
  by_cases same : other = address
  · simp [flip, same]
  · simp [flip, same]

theorem flip_release (heap : Heap α β) (address : α) :
    (heap.release address).flip = heap.flip.release address := by
  funext other
  by_cases same : other = address
  · simp [flip, same]
  · simp [flip, same]

theorem setNext_flip (null : α) (heap : Heap α β) (address behind : α) :
    setNext null heap.flip address behind = (setPrev null heap address behind).map flip := by
  rw [setNext, setPrev]
  by_cases nowhere : address = null
  · rw [if_pos nowhere, if_pos nowhere]
    rfl
  · rw [if_neg nowhere, if_neg nowhere, modify, modify, flip]
    cases heap address with
    | none => rfl
    | some cell =>
      simp only [Option.map_some, flip_store]
      rfl

end Heap

namespace Owns

variable {null : α} {heap : Heap α β} {cells : List (α × β)} {address : α} {item : β}

theorem flip (owns : Owns null heap cells) : Owns null heap.flip cells.reverse where
  linked := linked_flip owns.linked
  distinct := by
    rw [List.map_reverse, List.nodup_reverse]
    exact owns.distinct
  proper := by
    rw [List.map_reverse, List.mem_reverse]
    exact owns.proper
  owned address := by
    rw [List.map_reverse, List.mem_reverse, ← owns.owned, Heap.flip, Option.isSome_map]

/-- A new cell behind the others. -/
theorem link_back (owns : Owns null heap cells) (item : β) (proper : address ≠ null)
    (free : heap address = none) :
    ∃ heap', Heap.setNext null (heap.store address ⟨item, last null cells, null⟩)
        (last null cells) address = some heap' ∧
      Owns null heap' (cells ++ [(address, item)]) := by
  have free' : heap.flip address = none := by rw [Heap.flip, free]; rfl
  obtain ⟨heap', linked, owns'⟩ := owns.flip.link_front item proper free'
  rw [first_reverse] at linked
  refine ⟨heap'.flip, ?_, ?_⟩
  · have turned := Heap.setNext_flip null
      (heap.flip.store address ⟨item, null, last null cells⟩) (last null cells) address
    rw [linked, Heap.flip_store, Heap.flip_flip] at turned
    exact turned
  · have turned := owns'.flip
    rwa [List.reverse_cons, List.reverse_reverse] at turned

/-- The last cell is taken away. -/
theorem unlink_back (owns : Owns null heap (cells ++ [(address, item)])) :
    heap address = some ⟨item, last null cells, null⟩ ∧
      ∃ heap', Heap.setNext null heap (last null cells) null = some heap' ∧
        Owns null (heap'.release address) cells := by
  have turned := owns.flip
  rw [List.reverse_append, List.reverse_singleton, List.singleton_append] at turned
  obtain ⟨there, heap', unlinked, owns'⟩ := turned.unlink_front
  rw [first_reverse] at there unlinked
  refine ⟨?_, heap'.flip, ?_, ?_⟩
  · rw [← Heap.flip_flip heap, Heap.flip, there]
    rfl
  · have linked := Heap.setNext_flip null heap.flip (last null cells) null
    rw [unlinked, Heap.flip_flip] at linked
    exact linked
  · have back := owns'.flip
    rwa [Heap.flip_release, List.reverse_reverse] at back

end Owns

end LinkedCells
