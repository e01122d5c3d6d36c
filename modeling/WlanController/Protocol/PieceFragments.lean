import WlanController.Protocol.Arrival
import WlanController.Protocol.PacketBytes
import WlanController.Protocol.Reassembly

/-!
# The fragments of one message

A list that holds pieces of one message, in whatever order they came, is complete exactly
when it holds all of them, and then the loop puts them together in their own order.
-/

namespace WlanController.Protocol

/-- What the receiver stores for the piece with index `i`. -/
def pieceFragment (fragmentID size : Nat) (body : List UInt8) (i : Nat) : CWProtocolFragment :=
  arrivedFragment
    { fragmentID
      fragmentOffset := i * size / 8
      last := if i < Pieces.count size body.length - 1 then 0 else 1 }
    (Pieces.piece size body i)

/-- The list after the pieces with the indices in `order` have come, the latest first. -/
def pieceFragments (fragmentID size : Nat) (body : List UInt8) (order : List Nat) :
    List CWProtocolFragment :=
  order.map (pieceFragment fragmentID size body)

section Pieces

variable {fragmentID size : Nat} {body : List UInt8}

theorem pieceFragment_last_iff {i : Nat} (inside : i < Pieces.count size body.length) :
    (pieceFragment fragmentID size body i).last = 1 ↔ i + 1 = Pieces.count size body.length := by
  by_cases inner : i < Pieces.count size body.length - 1
  · have notLast : (pieceFragment fragmentID size body i).last = 0 := if_pos inner
    simp only [notLast]
    omega
  · have last : (pieceFragment fragmentID size body i).last = 1 := if_neg inner
    simp only [last, true_iff]
    omega

/-- Offsets count units of eight bytes. -/
theorem pieceFragment_offset (k i : Nat) :
    (pieceFragment fragmentID (8 * k) body i).fragmentOffset = i * k := by
  have offset : i * (8 * k) / 8 = i * k := by
    rw [Nat.mul_left_comm, Nat.mul_div_cancel_left _ (by decide)]
  exact offset

theorem pieceFragment_offset_inj (units : 8 ∣ size) (positive : 0 < size) {i j : Nat}
    (same : (pieceFragment fragmentID size body i).fragmentOffset =
      (pieceFragment fragmentID size body j).fragmentOffset) : i = j := by
  obtain ⟨k, rfl⟩ := units
  rw [pieceFragment_offset, pieceFragment_offset] at same
  exact Nat.eq_of_mul_eq_mul_right (by omega) same

theorem oneMessage_pieceFragments (units : 8 ∣ size) (positive : 0 < size) {order : List Nat}
    (nodup : order.Nodup) : OneMessage (pieceFragments fragmentID size body order) := by
  constructor
  case sameID =>
    intro el member el' member'
    obtain ⟨i, -, rfl⟩ := List.mem_map.mp member
    obtain ⟨j, -, rfl⟩ := List.mem_map.mp member'
    rfl
  case distinct =>
    exact List.pairwise_map.mpr (nodup.imp fun different same =>
      different (pieceFragment_offset_inj units positive same))

/-! ## Sizes -/

/-- The last piece announces the size of the whole message. -/
theorem totalSize_pieceFragments (units : 8 ∣ size) (positive : 0 < size) {order : List Nat}
    (inside : ∀ i ∈ order, i < Pieces.count size body.length) :
    totalSize (pieceFragments fragmentID size body order) =
      if Pieces.count size body.length - 1 ∈ order then (body.length : Int) else 0 := by
  rw [totalSize, pieceFragments, List.foldl_map]
  -- the size in hand is kept by every piece that is not the last one
  generalize (0 : Int) = start
  induction order generalizing start with
  | nil => rfl
  | cons i order inductionHypothesis =>
    rw [List.forall_mem_cons] at inside
    rw [List.foldl_cons, inductionHypothesis inside.2]
    by_cases last : i + 1 = Pieces.count size body.length
    · have ends : ((pieceFragment fragmentID size body i).fragmentOffset * 8 +
          (pieceFragment fragmentID size body i).dataLen : Int) = body.length := by
        obtain ⟨k, rfl⟩ := units
        have length := Pieces.length_piece_last positive last
        have before := Pieces.mul_lt_length positive inside.1
        have data : (pieceFragment fragmentID (8 * k) body i).dataLen =
            (Pieces.piece (8 * k) body i).length := rfl
        rw [Nat.mul_left_comm] at before length
        rw [pieceFragment_offset, data, length]
        push_cast
        omega
      have here : Pieces.count size body.length - 1 = i := by omega
      rw [if_pos ((pieceFragment_last_iff inside.1).mpr last), ends, here]
      simp
    · have other : Pieces.count size body.length - 1 ≠ i := by omega
      rw [if_neg fun isLast => last ((pieceFragment_last_iff inside.1).mp isLast)]
      simp [other]

theorem currentSize_pieceFragments (order : List Nat) :
    currentSize (pieceFragments fragmentID size body order) =
      ((order.map fun i => (Pieces.piece size body i).length).sum : Nat) := by
  rw [currentSize_eq, pieceFragments, List.map_map]
  rfl

/-- All pieces together have the size of the message, and without one of them the others
    fall short. -/
theorem complete_pieceFragments_iff (units : 8 ∣ size) (positive : 0 < size)
    (nonempty : 0 < body.length) {order : List Nat} (nodup : order.Nodup)
    (inside : ∀ i ∈ order, i < Pieces.count size body.length) :
    Complete (pieceFragments fragmentID size body order) ↔
      ∀ i < Pieces.count size body.length, i ∈ order := by
  have total : totalSize (pieceFragments fragmentID size body order) =
      if Pieces.count size body.length - 1 ∈ order then (body.length : Int) else 0 :=
    totalSize_pieceFragments units positive inside
  have some : 0 < Pieces.count size body.length := Pieces.count_pos nonempty
  have all := Pieces.sum_length_pieces positive body
  constructor
  · intro complete i small
    by_contra missing
    have lastHere : Pieces.count size body.length - 1 ∈ order := by
      by_contra absent
      exact complete.announced (total.trans (if_neg absent))
    have sizes := complete.size
    rw [total, if_pos lastHere, currentSize_pieceFragments] at sizes
    have more := Tiling.sum_le_sum_of_nodup (fun i => (Pieces.piece size body i).length)
      (List.nodup_cons.mpr ⟨missing, nodup⟩)
      (List.cons_subset.mpr ⟨List.mem_range.mpr small, fun j member =>
        List.mem_range.mpr (inside j member)⟩)
    rw [List.map_cons, List.sum_cons, all] at more
    have holds := Pieces.length_piece_pos positive small
    omega
  · intro every
    have lastHere := every (Pieces.count size body.length - 1) (by omega)
    have permutation : order.Perm (List.range (Pieces.count size body.length)) :=
      (List.perm_ext_iff_of_nodup nodup List.nodup_range).mpr fun i =>
        ⟨fun member => List.mem_range.mpr (inside i member),
          fun member => every i (List.mem_range.mp member)⟩
    rw [if_pos lastHere] at total
    constructor
    case announced =>
      rw [total]
      omega
    case size =>
      rw [currentSize_pieceFragments, total, (permutation.map _).sum_eq, all]

/-! ## Putting the pieces together -/

/-- The loop goes from each piece to the next one. -/
theorem walk_pieceFragments (units : 8 ∣ size) (positive : 0 < size) {order : List Nat}
    (every : ∀ i < Pieces.count size body.length, i ∈ order) (remaining i : Nat)
    (inner : i + remaining < Pieces.count size body.length) :
    Walk (pieceFragments fragmentID size body order)
      (pieceFragment fragmentID size body i).fragmentOffset
      (pieceFragments fragmentID size body (List.range' i remaining))
      (pieceFragment fragmentID size body (i + remaining)).fragmentOffset := by
  induction remaining generalizing i with
  | zero => exact .nil _
  | succ remaining inductionHypothesis =>
    have next := inductionHypothesis (i + 1) (by omega)
    rw [Nat.add_right_comm] at next
    have notLast : (pieceFragment fragmentID size body i).last ≠ 1 := by
      rw [Ne, pieceFragment_last_iff (by omega)]
      omega
    have step : (pieceFragment fragmentID size body (i + 1)).fragmentOffset =
        (pieceFragment fragmentID size body i).fragmentOffset +
          (pieceFragment fragmentID size body i).data.length / 8 := by
      obtain ⟨k, rfl⟩ := units
      have length : (pieceFragment fragmentID (8 * k) body i).data.length = 8 * k :=
        Pieces.length_piece_inner positive (by omega)
      rw [length, pieceFragment_offset, pieceFragment_offset, Nat.succ_mul,
        Nat.mul_div_cancel_left _ (by decide)]
    rw [step] at next
    exact .cons (List.mem_map_of_mem (every i (by omega))) notLast next

theorem passedBytes_pieceFragments (order : List Nat) :
    passedBytes (pieceFragments fragmentID size body order) =
      (order.map (Pieces.piece size body)).flatten := by
  rw [passedBytes, pieceFragments, List.flatMap_map, List.flatMap_def]
  rfl

/-- When the last missing piece comes, the call returns the whole message. -/
theorem cwProtocolParseFragment_of_pieces (units : 8 ∣ size) (positive : 0 < size)
    (nonempty : 0 < body.length) {order : List Nat} (nodup : order.Nodup)
    (inside : ∀ i ∈ order, i < Pieces.count size body.length)
    (every : ∀ i < Pieces.count size body.length, i ∈ order)
    {fragmentsList : List CWProtocolFragment} {call : ParseCall}
    {dataMsgType : Option CWDataMsgType}
    (extended : fragmentsWith fragmentsList call =
      some (pieceFragments fragmentID size body order, dataMsgType)) :
    ∃ fuel dataFlag radioMAC room,
      cwProtocolParseFragment fuel call.packet fragmentsList call.dataFlag call.radioMAC =
        some ⟨.ok (partly body room dataMsgType), [], dataFlag, radioMAC⟩ := by
  have some : 0 < Pieces.count size body.length := Pieces.count_pos nonempty
  obtain ⟨n, count⟩ := Nat.exists_eq_succ_of_ne_zero some.ne'
  have member : pieceFragment fragmentID size body n ∈ pieceFragments fragmentID size body order :=
    List.mem_map_of_mem (every n (by omega))
  have last : (pieceFragment fragmentID size body n).last = 1 :=
    (pieceFragment_last_iff (by omega)).mpr count.symm
  have walk : Walk (pieceFragments fragmentID size body order)
      (pieceFragment fragmentID size body 0).fragmentOffset
      (pieceFragments fragmentID size body (List.range' 0 n))
      (pieceFragment fragmentID size body (0 + n)).fragmentOffset :=
    walk_pieceFragments units positive every n 0 (by omega)
  have whole : passedBytes (pieceFragments fragmentID size body (List.range' 0 n)) ++
      (pieceFragment fragmentID size body n).data = body := by
    have pieces := Pieces.flatten_all positive body
    rw [count, List.range_succ, List.map_append, List.flatten_append] at pieces
    rw [passedBytes_pieceFragments, ← List.range_eq_range']
    rwa [List.map_singleton, List.flatten_singleton] at pieces
  have complete : Complete (pieceFragments fragmentID size body order) :=
    (complete_pieceFragments_iff units positive nonempty nodup inside).mpr every
  have sizes : (passedBytes (pieceFragments fragmentID size body (List.range' 0 n))).length +
      (pieceFragment fragmentID size body n).data.length ≤
      ((pieceFragments fragmentID size body order).map (·.data.length)).sum := by
    have total := complete.size
    rw [currentSize_eq, totalSize_pieceFragments units positive inside,
      if_pos (every _ (by omega))] at total
    rw [← List.length_append, whole]
    omega
  have start : (pieceFragment fragmentID size body 0).fragmentOffset = 0 := by
    simp [pieceFragment, arrivedFragment]
  rw [start, Nat.zero_add] at walk
  obtain ⟨fuel, dataFlag, radioMAC, room, returned⟩ := cwProtocolParseFragment_of_walk extended
    (oneMessage_pieceFragments units positive nodup) complete member last walk sizes
  rw [whole] at returned
  exact ⟨fuel, dataFlag, radioMAC, room, returned⟩

end Pieces

end WlanController.Protocol
