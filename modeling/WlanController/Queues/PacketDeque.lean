import Mathlib.Algebra.Ring.Nat
import Mathlib.Data.List.Range
import Mathlib.Data.List.Perm.Subperm
import WlanController.Queues.SafeList

/-!
# The packet queue as a double-ended queue

A list of packets says what the operations on a queue are for.  A queue represents a list if its
elements are the allocated cells and are linked in the order of the list; then every operation
answers what the list prescribes and represents again what is left of the list.
-/

namespace WlanController.Queues

open LinkedCells

/-! ## What the operations are for -/

inductive Operation where
  | addHead (pData : Address) (nSize : Int)
  | addTail (pData : Address) (nSize : Int)
  | addTailFlag (pData : Address) (nSize : Int) (dataFlag : Bool)
  | getHead
  | removeHead
  | removeHeadFlag
  | removeTail
  | getCount

inductive Reply where
  | added (done : Bool)
  | data (found : Option (Address × Int))
  | flagged (found : Option (Address × Int × Option Bool))
  | count (elements : UInt64)

namespace Packet

def data (packet : Packet) : Address × Int := (packet.pData, packet.nSize)

def flagged (packet : Packet) : Address × Int × Option Bool :=
  (packet.pData, packet.nSize, packet.dataFlag)

end Packet

namespace Operation

/-- The list, where there is `memory` for another packet or not. -/
def prescribed (memory : Bool) (packets : List Packet) : Operation → Reply × List Packet
  | addHead pData nSize =>
      if pData ≠ null ∧ memory then (.added true, ⟨pData, nSize, none⟩ :: packets)
      else (.added false, packets)
  | addTail pData nSize =>
      if pData ≠ null ∧ memory then (.added true, packets ++ [⟨pData, nSize, none⟩])
      else (.added false, packets)
  | addTailFlag pData nSize dataFlag =>
      if pData ≠ null ∧ memory then (.added true, packets ++ [⟨pData, nSize, some dataFlag⟩])
      else (.added false, packets)
  | getHead => (.data (packets.head?.map Packet.data), packets)
  | removeHead => (.data (packets.head?.map Packet.data), packets.tail)
  | removeHeadFlag => (.flagged (packets.head?.map Packet.flagged), packets.tail)
  | removeTail => (.data (packets.getLast?.map Packet.data), packets.dropLast)
  | getCount => (.count (.ofNat packets.length), packets)

/-- The queue, where `malloc` returns `pNewElement`. -/
def performed (pNewElement : Address) (pList : CWPrivateSafeList) :
    Operation → Option (Reply × CWPrivateSafeList)
  | addHead pData nSize =>
      (cwAddElementToSafeListHead pNewElement pData nSize pList).map fun after =>
        (.added after.1, after.2)
  | addTail pData nSize =>
      (cwAddElementToSafeListTail pNewElement pData nSize pList).map fun after =>
        (.added after.1, after.2)
  | addTailFlag pData nSize dataFlag =>
      (cwAddElementToSafeListTailwitDataFlag pNewElement pData nSize dataFlag pList).map fun after =>
        (.added after.1, after.2)
  | getHead => (cwGetHeadElementFromSafeList pList).map fun found => (.data found, pList)
  | removeHead =>
      (cwRemoveHeadElementFromSafeList pList).map fun after => (.data after.1, after.2)
  | removeHeadFlag =>
      (cwRemoveHeadElementFromSafeListwithDataFlag pList).map fun after => (.flagged after.1, after.2)
  | removeTail =>
      (cwRemoveTailElementFromSafeList pList).map fun after => (.data after.1, after.2)
  | getCount => some (.count (cwGetCountElementFromSafeList pList), pList)

end Operation

/-- `malloc` returns an address where nothing is allocated, or none. -/
structure Allocator where
  malloc : Heap Address Packet → Address
  fresh : ∀ heap, malloc heap ≠ null → heap (malloc heap) = none

/-- The queue counts the packets, it has a head and a tail if there are packets, and it has
    allocated one element for each. -/
structure Agrees (pList : CWPrivateSafeList) (packets : List Packet) : Prop where
  count : pList.nCount.toNat = packets.length
  head : pList.pFirstElement = null ↔ packets = []
  tail : pList.pLastElement = null ↔ packets = []
  allocated : ∃ addresses : List Address, addresses.Nodup ∧ addresses.length = packets.length ∧
    ∀ address, (pList.heap address).isSome ↔ address ∈ addresses

/-- Request after request, nothing is accessed that is not allocated, the queue answers what the
    list prescribes, and it agrees with the list. -/
def Refines : List (Operation × Allocator) → CWPrivateSafeList → List Packet → Prop
  | [], pList, packets => Agrees pList packets
  | (operation, allocator) :: requests, pList, packets =>
      Agrees pList packets ∧
        ∃ pList', operation.performed (allocator.malloc pList.heap) pList =
            some ((operation.prescribed (allocator.malloc pList.heap ≠ null) packets).1, pList') ∧
          Refines requests pList'
            (operation.prescribed (allocator.malloc pList.heap ≠ null) packets).2

/-! ## The invariant -/

structure Represents (pList : CWPrivateSafeList) (cells : List (Address × Packet)) : Prop where
  owns : Owns null pList.heap cells
  head : pList.pFirstElement = first null cells
  tail : pList.pLastElement = last null cells
  count : pList.nCount = .ofNat cells.length
  data : ∀ cell ∈ cells, cell.2.pData ≠ null

namespace Represents

variable {pList : CWPrivateSafeList} {cells : List (Address × Packet)}

theorem create : Represents cwCreateSafeList [] where
  owns := .empty
  head := rfl
  tail := rfl
  count := rfl
  data := nofun

/-- There are no more elements than addresses. -/
theorem length_lt (represents : Represents pList cells) : cells.length < 2 ^ 64 := by
  have apart : (null :: cells.map Prod.fst).Nodup :=
    List.nodup_cons.mpr ⟨represents.owns.proper, represents.owns.distinct⟩
  have numbers : ((null :: cells.map Prod.fst).map UInt64.toNat).Nodup :=
    apart.map fun _ _ => UInt64.toNat.inj
  have bounded : (null :: cells.map Prod.fst).map UInt64.toNat ⊆ List.range (2 ^ 64) := by
    intro number member
    obtain ⟨address, _, rfl⟩ := List.mem_map.mp member
    exact List.mem_range.mpr address.toNat_lt
  have few := (numbers.subperm bounded).length_le
  rw [List.length_map, List.length_cons, List.length_map, List.length_range] at few
  omega

theorem agrees (represents : Represents pList cells) : Agrees pList (cells.map Prod.snd) where
  count := by
    rw [represents.count, List.length_map]
    exact UInt64.toNat_ofNat_of_lt' represents.length_lt
  head := by
    rw [represents.head, represents.owns.first_eq_null, List.map_eq_nil_iff]
  tail := by
    rw [represents.tail, represents.owns.last_eq_null, List.map_eq_nil_iff]
  allocated := by
    refine ⟨cells.map Prod.fst, represents.owns.distinct, ?_, represents.owns.owned⟩
    rw [List.length_map, List.length_map]

/-! ## What an operation does -/

theorem addHead (represents : Represents pList cells) {pNewElement pData : Address}
    (hasData : pData ≠ null) (memory : pNewElement ≠ null)
    (fresh : pList.heap pNewElement = none) (nSize : Int) :
    ∃ pList', cwAddElementToSafeListHead pNewElement pData nSize pList = some (true, pList') ∧
      Represents pList' ((pNewElement, ⟨pData, nSize, none⟩) :: cells) := by
  obtain ⟨heap', linked, owns⟩ := represents.owns.link_front ⟨pData, nSize, none⟩ memory fresh
  rw [← represents.head] at linked
  simp only [cwAddElementToSafeListHead, if_neg hasData, if_neg memory, linked]
  refine ⟨_, rfl, owns, rfl, ?_, ?_, ?_⟩
  · show (if pList.pLastElement = null then pNewElement else pList.pLastElement) = _
    rw [represents.tail, last_cons]
    cases cells with
    | nil => rfl
    | cons cell cells =>
      have proper : last null (cell :: cells) ≠ null :=
        mt represents.owns.last_eq_null.mp (List.cons_ne_nil _ _)
      rw [if_neg proper]
      rfl
  · show pList.nCount + 1 = _
    rw [represents.count, List.length_cons, UInt64.ofNat_add]
    rfl
  · intro cell member
    cases member with
    | head => exact hasData
    | tail _ later => exact represents.data cell later

/-- Without data or memory nothing is changed. -/
theorem addHead_refused {pNewElement pData : Address} (refused : ¬ (pData ≠ null ∧ pNewElement ≠ null))
    (nSize : Int) : cwAddElementToSafeListHead pNewElement pData nSize pList = some (false, pList) := by
  rw [cwAddElementToSafeListHead]
  split
  next => rfl
  next hasData => exact if_pos (not_not.mp fun memory => refused ⟨hasData, memory⟩)

theorem addTail_refused {pNewElement pData : Address} (refused : ¬ (pData ≠ null ∧ pNewElement ≠ null))
    (nSize : Int) (dataFlag : Option Bool) :
    addElementTail pNewElement pData nSize dataFlag pList = some (false, pList) := by
  rw [addElementTail]
  split
  next => rfl
  next hasData => exact if_pos (not_not.mp fun memory => refused ⟨hasData, memory⟩)

theorem addTail (represents : Represents pList cells) {pNewElement pData : Address}
    (hasData : pData ≠ null) (memory : pNewElement ≠ null)
    (fresh : pList.heap pNewElement = none) (nSize : Int) (dataFlag : Option Bool) :
    ∃ pList', addElementTail pNewElement pData nSize dataFlag pList = some (true, pList') ∧
      Represents pList' (cells ++ [(pNewElement, ⟨pData, nSize, dataFlag⟩)]) := by
  obtain ⟨heap', linked, owns⟩ := represents.owns.link_back ⟨pData, nSize, dataFlag⟩ memory fresh
  rw [← represents.tail] at linked
  simp only [addElementTail, if_neg hasData, if_neg memory, linked]
  refine ⟨_, rfl, owns, ?_, (last_concat ..).symm, ?_, ?_⟩
  · show (if pList.pFirstElement = null then pNewElement else pList.pFirstElement) = _
    rw [represents.head, first_concat]
    cases cells with
    | nil => rfl
    | cons cell cells =>
      have proper : first null (cell :: cells) ≠ null :=
        mt represents.owns.first_eq_null.mp (List.cons_ne_nil _ _)
      rw [if_neg proper]
      rfl
  · show pList.nCount + 1 = _
    rw [represents.count, List.length_append, UInt64.ofNat_add]
    rfl
  · intro cell member
    cases List.mem_append.mp member with
    | inl earlier => exact represents.data cell earlier
    | inr last =>
      rw [List.mem_singleton.mp last]
      exact hasData

/-- One less than one more. -/
theorem count_sub (represents : Represents pList cells) {rest : Nat} (length : cells.length = rest + 1) :
    pList.nCount - 1 = .ofNat rest := by
  rw [represents.count, length, UInt64.ofNat_add]
  exact UInt64.add_sub_cancel ..

theorem removeHead_nil (represents : Represents pList []) : removeHead pList = some (none, pList) :=
  if_pos represents.head

theorem removeHead_cons {address : Address} {packet : Packet}
    (represents : Represents pList ((address, packet) :: cells)) :
    ∃ pList', removeHead pList = some (some packet, pList') ∧ Represents pList' cells := by
  obtain ⟨there, heap', unlinked, owns⟩ := represents.owns.unlink_front
  have head : pList.pFirstElement = address := represents.head
  have proper : address ≠ null := by
    intro same
    exact represents.owns.proper (same ▸ List.mem_cons_self)
  simp only [removeHead, head, if_neg proper, there, Option.bind_eq_bind, Option.bind_some, unlinked]
  refine ⟨_, rfl, owns, rfl, ?_, represents.count_sub rfl, ?_⟩
  · show (if first null cells = null then null else pList.pLastElement) = _
    cases cells with
    | nil => rfl
    | cons cell cells =>
      have properFirst : first null (cell :: cells) ≠ null := by
        intro same
        exact represents.owns.proper (List.mem_cons_of_mem _ (same ▸ first_mem (List.cons_ne_nil _ _)))
      rw [if_neg properFirst, represents.tail]
      rfl
  · intro cell member
    exact represents.data cell (List.mem_cons_of_mem _ member)

theorem removeTail_nil (represents : Represents pList []) :
    cwRemoveTailElementFromSafeList pList = some (none, pList) :=
  if_pos represents.tail

theorem removeTail_concat {address : Address} {packet : Packet}
    (represents : Represents pList (cells ++ [(address, packet)])) :
    ∃ pList', cwRemoveTailElementFromSafeList pList = some (some packet.data, pList') ∧
      Represents pList' cells := by
  obtain ⟨there, heap', unlinked, owns⟩ := represents.owns.unlink_back
  have tail : pList.pLastElement = address := by rw [represents.tail, last_concat]
  have proper : address ≠ null := by
    intro same
    apply represents.owns.proper
    rw [same]
    simp
  simp only [cwRemoveTailElementFromSafeList, tail, if_neg proper, there, Option.bind_eq_bind,
    Option.bind_some, unlinked]
  refine ⟨_, rfl, owns, ?_, rfl, represents.count_sub (by simp), ?_⟩
  · show (if last null cells = null then null else pList.pFirstElement) = _
    cases cells with
    | nil => rfl
    | cons cell cells =>
      have properLast : last null (cell :: cells) ≠ null := by
        intro same
        apply represents.owns.proper
        rw [List.map_append, List.mem_append]
        exact .inl (same ▸ last_mem (List.cons_ne_nil _ _))
      rw [if_neg properLast, represents.head]
      rfl
  · intro cell member
    exact represents.data cell (List.mem_append_left _ member)

theorem removesHead (represents : Represents pList cells) :
    ∃ pList', removeHead pList = some ((cells.map Prod.snd).head?, pList') ∧
      Represents pList' cells.tail := by
  cases cells with
  | nil => exact ⟨pList, removeHead_nil represents, represents⟩
  | cons cell cells => exact removeHead_cons represents

theorem removesTail (represents : Represents pList cells) :
    ∃ pList', cwRemoveTailElementFromSafeList pList =
        some ((cells.map Prod.snd).getLast?.map Packet.data, pList') ∧
      Represents pList' cells.dropLast := by
  cases List.eq_nil_or_concat' cells with
  | inl empty =>
    subst empty
    exact ⟨pList, removeTail_nil represents, represents⟩
  | inr more =>
    obtain ⟨cells', cell, rfl⟩ := more
    obtain ⟨pList', removed, represents'⟩ := removeTail_concat represents
    refine ⟨pList', ?_, ?_⟩
    · rw [removed, List.map_append, List.map_singleton, List.getLast?_concat]
      rfl
    · rwa [List.dropLast_concat]

theorem getHead (represents : Represents pList cells) :
    cwGetHeadElementFromSafeList pList =
      some ((cells.map Prod.snd).head?.map Packet.data) := by
  cases cells with
  | nil => exact if_pos represents.head
  | cons cell cells =>
    obtain ⟨address, packet⟩ := cell
    have head : pList.pFirstElement = address := represents.head
    have proper : address ≠ null := by
      intro same
      exact represents.owns.proper (same ▸ List.mem_cons_self)
    simp only [cwGetHeadElementFromSafeList, head, if_neg proper, represents.owns.linked.1]
    rfl

end Represents

/-! ## Runs -/

section Runs

variable {pList : CWPrivateSafeList} {cells : List (Address × Packet)}

/-- An operation keeps to the list. -/
theorem performed_prescribed (represents : Represents pList cells) {pNewElement : Address}
    (fresh : pNewElement ≠ null → pList.heap pNewElement = none) (operation : Operation) :
    ∃ pList' cells',
      operation.performed pNewElement pList =
          some ((operation.prescribed (pNewElement ≠ null) (cells.map Prod.snd)).1, pList') ∧
        Represents pList' cells' ∧
        cells'.map Prod.snd =
          (operation.prescribed (pNewElement ≠ null) (cells.map Prod.snd)).2 := by
  have memory_iff (pData : Address) : (pData ≠ null ∧ decide (pNewElement ≠ null) = true) ↔
      (pData ≠ null ∧ pNewElement ≠ null) := by rw [decide_eq_true_iff]
  cases operation with
  | addHead pData nSize =>
    by_cases stored : pData ≠ null ∧ pNewElement ≠ null
    · obtain ⟨pList', added, represents'⟩ :=
        represents.addHead stored.1 stored.2 (fresh stored.2) nSize
      refine ⟨pList', _, ?_, represents', ?_⟩
      · simp only [Operation.performed, added, Operation.prescribed, memory_iff, if_pos stored]
        rfl
      · simp only [Operation.prescribed, memory_iff, if_pos stored, List.map_cons]
    · refine ⟨pList, cells, ?_, represents, ?_⟩
      · simp only [Operation.performed, Represents.addHead_refused stored, Operation.prescribed,
          memory_iff, if_neg stored]
        rfl
      · simp only [Operation.prescribed, memory_iff, if_neg stored]
  | addTail pData nSize =>
    by_cases stored : pData ≠ null ∧ pNewElement ≠ null
    · obtain ⟨pList', added, represents'⟩ :=
        represents.addTail stored.1 stored.2 (fresh stored.2) nSize none
      refine ⟨pList', _, ?_, represents', ?_⟩
      · simp only [Operation.performed, cwAddElementToSafeListTail, added, Operation.prescribed,
          memory_iff, if_pos stored]
        rfl
      · simp only [Operation.prescribed, memory_iff, if_pos stored, List.map_append, List.map_cons,
          List.map_nil]
    · refine ⟨pList, cells, ?_, represents, ?_⟩
      · simp only [Operation.performed, cwAddElementToSafeListTail,
          Represents.addTail_refused stored, Operation.prescribed, memory_iff, if_neg stored]
        rfl
      · simp only [Operation.prescribed, memory_iff, if_neg stored]
  | addTailFlag pData nSize dataFlag =>
    by_cases stored : pData ≠ null ∧ pNewElement ≠ null
    · obtain ⟨pList', added, represents'⟩ :=
        represents.addTail stored.1 stored.2 (fresh stored.2) nSize (some dataFlag)
      refine ⟨pList', _, ?_, represents', ?_⟩
      · simp only [Operation.performed, cwAddElementToSafeListTailwitDataFlag, added,
          Operation.prescribed, memory_iff, if_pos stored]
        rfl
      · simp only [Operation.prescribed, memory_iff, if_pos stored, List.map_append, List.map_cons,
          List.map_nil]
    · refine ⟨pList, cells, ?_, represents, ?_⟩
      · simp only [Operation.performed, cwAddElementToSafeListTailwitDataFlag,
          Represents.addTail_refused stored, Operation.prescribed, memory_iff, if_neg stored]
        rfl
      · simp only [Operation.prescribed, memory_iff, if_neg stored]
  | getHead =>
    refine ⟨pList, cells, ?_, represents, rfl⟩
    rw [Operation.performed, represents.getHead]
    rfl
  | removeHead =>
    obtain ⟨pList', removed, represents'⟩ := represents.removesHead
    refine ⟨pList', cells.tail, ?_, represents', List.map_tail⟩
    rw [Operation.performed, cwRemoveHeadElementFromSafeList, removed]
    rfl
  | removeHeadFlag =>
    obtain ⟨pList', removed, represents'⟩ := represents.removesHead
    refine ⟨pList', cells.tail, ?_, represents', List.map_tail⟩
    rw [Operation.performed, cwRemoveHeadElementFromSafeListwithDataFlag, removed]
    rfl
  | removeTail =>
    obtain ⟨pList', removed, represents'⟩ := represents.removesTail
    refine ⟨pList', cells.dropLast, ?_, represents', List.map_dropLast⟩
    rw [Operation.performed, removed]
    rfl
  | getCount =>
    refine ⟨pList, cells, ?_, represents, rfl⟩
    rw [Operation.performed, cwGetCountElementFromSafeList, represents.count, Operation.prescribed,
      List.length_map]

theorem refines_of_represents (requests : List (Operation × Allocator))
    (represents : Represents pList cells) : Refines requests pList (cells.map Prod.snd) := by
  induction requests generalizing pList cells with
  | nil => exact represents.agrees
  | cons request requests inductionHypothesis =>
    obtain ⟨operation, allocator⟩ := request
    obtain ⟨pList', cells', answered, represents', left⟩ :=
      performed_prescribed represents (allocator.fresh pList.heap) operation
    refine ⟨represents.agrees, pList', answered, ?_⟩
    rw [← left]
    exact inductionHypothesis represents'

/-- The loop that cleans a queue deletes the data of every packet, head first. -/
theorem clean_spec {rounds : Nat} (represents : Represents pList cells) (more : cells.length < rounds) :
    ∃ pList', cwCleanSafeList rounds pList =
        some ((cells.map Prod.snd).map Packet.pData, pList') ∧ Represents pList' [] := by
  induction rounds generalizing pList cells with
  | zero => exact absurd more (Nat.not_lt_zero _)
  | succ rounds inductionHypothesis =>
    obtain ⟨pList', removed, represents'⟩ := represents.removesHead
    cases cells with
    | nil =>
      refine ⟨pList', ?_, represents'⟩
      rw [cwCleanSafeList, cwRemoveHeadElementFromSafeList, removed]
      rfl
    | cons cell cells =>
      obtain ⟨pList'', deleted, empty⟩ :=
        inductionHypothesis represents' (Nat.lt_of_succ_lt_succ more)
      have hasData : cell.2.pData ≠ null := represents.data cell List.mem_cons_self
      refine ⟨pList'', ?_, empty⟩
      rw [cwCleanSafeList, cwRemoveHeadElementFromSafeList, removed]
      simp only [List.map_cons, List.head?_cons, Option.map_some, Option.bind_eq_bind,
        Option.bind_some, if_neg hasData]
      rw [List.tail_cons] at deleted
      rw [deleted]
      rfl

/-- Whatever the requests are, the queue does what the list prescribes. -/
theorem safeList_refines_deque (requests : List (Operation × Allocator)) :
    Refines requests cwCreateSafeList [] :=
  refines_of_represents requests Represents.create

end Runs

end WlanController.Queues
