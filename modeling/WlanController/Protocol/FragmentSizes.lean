import WlanController.Protocol.PacketBytes

/-!
# Packets and the path MTU

The payload budget is taken off the MTU before the header is assembled, so the header
actually written decides whether a packet fits.
-/

namespace WlanController.Protocol

/-- Packets with headers of `headerLength` bytes that carry `size` bytes between them and
    leave `reserve` bytes of the path MTU. -/
structure FragmentsFit (PMTU : Int) (reserve headerLength size : Nat)
    (fragments : List CWProtocolMessage) : Prop where
  fits : ∀ fragment ∈ fragments, (fragment.offset + reserve : Int) ≤ PMTU
  nonempty : ∀ fragment ∈ fragments, headerLength < fragment.offset
  aligned : ∀ fragment ∈ fragments.dropLast, 8 ∣ fragment.offset - headerLength
  total : (fragments.map fun fragment => fragment.offset - headerLength).sum = size

theorem dropLast_range (n : Nat) : (List.range n).dropLast = List.range (n - 1) := by
  cases n with
  | zero => rfl
  | succ n => rw [List.range_succ, List.dropLast_concat, Nat.add_sub_cancel]

/-- Packets cut from one body fit as soon as the first one does. -/
theorem fragmentsFit_pieces {size : Nat} (positive : 0 < size) (units : 8 ∣ size)
    {body : List UInt8} (nonempty : 0 < body.length) {header : Nat → List UInt8}
    {headerLength : Nat} (headers : ∀ i, (header i).length = headerLength) (PMTU : Int)
    (reserve : Nat) :
    FragmentsFit PMTU reserve headerLength body.length
        ((List.range (Pieces.count size body.length)).map fun i =>
          filled (header i ++ Pieces.piece size body i) 0) ↔
      (headerLength + min size body.length + reserve : Int) ≤ PMTU := by
  constructor
  · intro fit
    have first := fit.fits (filled (header 0 ++ Pieces.piece size body 0) 0)
      (List.mem_map_of_mem (List.mem_range.mpr (Pieces.count_pos nonempty)))
    rw [offset_filled, List.length_append, headers, Pieces.length_piece] at first
    push_cast at first
    omega
  · intro room
    constructor
    case fits =>
      intro fragment member
      obtain ⟨i, -, rfl⟩ := List.mem_map.mp member
      rw [offset_filled, List.length_append, headers, Pieces.length_piece]
      push_cast
      omega
    case nonempty =>
      intro fragment member
      obtain ⟨i, inside, rfl⟩ := List.mem_map.mp member
      have some := Pieces.length_piece_pos positive (List.mem_range.mp inside)
      rw [offset_filled, List.length_append, headers]
      omega
    case aligned =>
      intro fragment member
      rw [← List.map_dropLast, dropLast_range] at member
      obtain ⟨i, inside, rfl⟩ := List.mem_map.mp member
      have inner : i + 1 < Pieces.count size body.length := by
        have bound := List.mem_range.mp inside
        omega
      rw [offset_filled, List.length_append, headers, Nat.add_sub_cancel_left,
        Pieces.length_piece_inner positive inner]
      exact units
    case total =>
      refine Eq.trans ?_ (Pieces.sum_length_pieces positive body)
      rw [List.map_map]
      congr 1
      apply List.map_congr_left
      intro i _
      simp [headers]

/-- The bytes of every optional part of a header, and of the length in a keep-alive. -/
def dataHeaderLength (gRADIO_MAC : EthAddr)
    (bindingValuesPtr : Option CWBindingTransportHeaderValues) (cut : Fragmentation)
    (keepAlive : Nat) : Nat :=
  if keepAlive ≠ 0 then if cut.fragmentsNum = 1 then 8 + 2 else 8
  else transportHeaderHLEN gRADIO_MAC bindingValuesPtr * 4

theorem length_dataPacketHeader (gRADIO_MAC : EthAddr) (cut : Fragmentation) (type : Nat)
    (bindingValuesPtr : Option CWBindingTransportHeaderValues)
    (is_crypted keepAlive fragID i : Nat) :
    (dataPacketHeader gRADIO_MAC cut type bindingValuesPtr is_crypted keepAlive fragID i).length =
      dataHeaderLength gRADIO_MAC bindingValuesPtr cut keepAlive := by
  have binding : (dataPacketValues cut type bindingValuesPtr is_crypted fragID i).bindingValuesPtr =
      bindingValuesPtr := by
    unfold dataPacketValues fragmentValues
    split <;> rfl
  rw [dataPacketHeader, List.length_append, dataHeaderBytes, keepAliveLengthBytes, dataHeaderLength]
  by_cases alive : keepAlive ≠ 0
  · by_cases single : cut.fragmentsNum = 1
    · simp [alive, single]
    · simp [alive, single]
  · rw [if_neg alive, if_neg alive, if_neg fun both => alive both.2, length_transportHeaderBytes,
      binding]
    rfl

theorem transportHeaderHLEN_mul (gRADIO_MAC : EthAddr)
    (bindingValuesPtr : Option CWBindingTransportHeaderValues) :
    transportHeaderHLEN gRADIO_MAC bindingValuesPtr * 4 =
      8 + (if radioMacPresent gRADIO_MAC then 8 else 0) +
        if bindingValuesPtr.isSome then 8 else 0 := by
  unfold transportHeaderHLEN cwBindingHLEN
  split <;> split <;> rfl

theorem controlPacketValues_binding (cut : Fragmentation)
    (is_crypted fragID uninitializedType i : Nat) :
    (controlPacketValues cut is_crypted fragID uninitializedType i).bindingValuesPtr = none := by
  unfold controlPacketValues fragmentValues
  split <;> rfl

theorem cwAssembleMessage_fragmentsFit (gRADIO_MAC : EthAddr) {PMTU : Int} (room : 8 ≤ PMTU - 33)
    (seqNum msgTypeValue : Nat) {msgElems msgElemsBinding : List CWProtocolMessage}
    (valid : ∀ message ∈ msgElems, message.Valid)
    (validBinding : ∀ message ∈ msgElemsBinding, message.Valid)
    (is_crypted fragID uninitializedType : Nat) {size : Nat}
    (size_eq : size = 8 + (msgElemsLength msgElems + msgElemsLength msgElemsBinding)) :
    ∃ fragments,
      cwAssembleMessage gRADIO_MAC PMTU seqNum msgTypeValue msgElems msgElemsBinding is_crypted
        fragID uninitializedType = .ok fragments ∧
      (FragmentsFit PMTU gMaxDTLSHeaderSize (transportHeaderHLEN gRADIO_MAC none * 4) size
          fragments ↔
        ¬ radioMacPresent gRADIO_MAC ∨ (size + 41 : Int) ≤ PMTU) := by
  have length := length_controlMessageBytes seqNum msgTypeValue valid validBinding
  obtain rfl : size = (controlMessageBytes seqNum msgTypeValue msgElems msgElemsBinding).length := by
    rw [size_eq, length]
  have positive : 0 < (PMTU - 33).toNat / 8 * 8 := by omega
  refine ⟨_, cwAssembleMessage_eq gRADIO_MAC room seqNum msgTypeValue valid validBinding is_crypted
    fragID uninitializedType rfl rfl, ?_⟩
  refine (fragmentsFit_pieces positive (Nat.dvd_mul_left 8 _) (by omega) (fun i => ?_) PMTU
    gMaxDTLSHeaderSize).trans ?_
  · rw [length_transportHeaderBytes, controlPacketValues_binding]
  · rw [transportHeaderHLEN_mul, gMaxDTLSHeaderSize]
    cases radioMacPresent gRADIO_MAC with
    | true =>
      simp only [if_true, not_true_eq_false, false_or, Option.isSome_none, Bool.false_eq_true,
        if_false]
      push_cast
      omega
    | false =>
      simp only [Bool.false_eq_true, if_false, not_false_eq_true, true_or, iff_true,
        Option.isSome_none]
      push_cast
      omega

theorem cwAssembleDataMessage_fragmentsFit (gRADIO_MAC : EthAddr) {PMTU : Int}
    (room : 8 ≤ PMTU - 16) {frame : CWProtocolMessage} (valid : frame.Valid)
    (nonempty : 0 < frame.offset) (bindingValuesPtr : Option CWBindingTransportHeaderValues)
    (is_crypted keepAlive fragID : Nat) :
    ∃ fragments,
      cwAssembleDataMessage gRADIO_MAC PMTU frame bindingValuesPtr is_crypted keepAlive fragID =
        .ok fragments ∧
      (FragmentsFit PMTU 0
          (dataHeaderLength gRADIO_MAC bindingValuesPtr (dataCut PMTU frame.offset) keepAlive)
          frame.offset fragments ↔
        ¬ (radioMacPresent gRADIO_MAC ∧ bindingValuesPtr.isSome) ∨ keepAlive ≠ 0 ∨
          (frame.offset + 24 : Int) ≤ PMTU) := by
  refine ⟨_, cwAssembleDataMessage_eq gRADIO_MAC room valid bindingValuesPtr is_crypted keepAlive
    fragID rfl, ?_⟩
  have positive : 0 < (PMTU - 16).toNat / 8 * 8 := by omega
  have length := valid.length_contents
  rw [← length] at nonempty ⊢
  refine (fragmentsFit_pieces positive (Nat.dvd_mul_left 8 _) nonempty
    (fun i => length_dataPacketHeader ..) PMTU 0).trans ?_
  rw [dataHeaderLength, transportHeaderHLEN_mul]
  by_cases alive : keepAlive ≠ 0
  · rw [if_pos alive]
    have fits : ((if (dataCut PMTU frame.contents.length).fragmentsNum = 1 then 8 + 2 else 8 : Nat) +
        min ((PMTU - 16).toNat / 8 * 8) frame.contents.length + (0 : Nat) : Int) ≤ PMTU := by
      split <;> push_cast <;> omega
    exact iff_of_true fits (.inr (.inl alive))
  · rw [if_neg alive, or_iff_right_of_imp fun dead => absurd dead alive]
    cases radioMacPresent gRADIO_MAC with
    | true =>
      cases bindingValuesPtr with
      | none =>
        simp only [if_true, Option.isSome_none, Bool.false_eq_true, if_false, and_false,
          not_false_eq_true, true_or, iff_true]
        push_cast
        omega
      | some bindingValues =>
        simp only [if_true, Option.isSome_some, and_self, not_true_eq_false, false_or]
        push_cast
        omega
    | false =>
      simp only [Bool.false_eq_true, if_false, false_and, not_false_eq_true, true_or, iff_true]
      split <;> push_cast <;> omega

/-- Every packet fits exactly when the header leaves the payload the room that was
    reserved for it.  A control message has it unless a radio MAC address is sent and the
    message comes within eight bytes of the budget; a data frame has it unless both the
    address and binding information are sent. -/
theorem fragmentsFit_iff (gRADIO_MAC : EthAddr) (PMTU : Int) :
    (∀ seqNum msgTypeValue msgElems msgElemsBinding is_crypted fragID uninitializedType,
      8 ≤ PMTU - gMaxDTLSHeaderSize - gMaxCAPWAPHeaderSize →
      (∀ message ∈ msgElems, message.Valid) → (∀ message ∈ msgElemsBinding, message.Valid) →
      ∃ fragments,
        cwAssembleMessage gRADIO_MAC PMTU seqNum msgTypeValue msgElems msgElemsBinding is_crypted
          fragID uninitializedType = .ok fragments ∧
        (FragmentsFit PMTU gMaxDTLSHeaderSize (transportHeaderHLEN gRADIO_MAC none * 4)
            (8 + (msgElemsLength msgElems + msgElemsLength msgElemsBinding)) fragments ↔
          ¬ radioMacPresent gRADIO_MAC ∨
            ((8 + (msgElemsLength msgElems + msgElemsLength msgElemsBinding) : Nat) + 41 : Int) ≤
              PMTU)) ∧
    ∀ (frame : CWProtocolMessage) bindingValuesPtr is_crypted keepAlive fragID,
      8 ≤ PMTU - gMaxCAPWAPHeaderSizeBinding → frame.Valid → 0 < frame.offset →
      ∃ fragments,
        cwAssembleDataMessage gRADIO_MAC PMTU frame bindingValuesPtr is_crypted keepAlive fragID =
          .ok fragments ∧
        (FragmentsFit PMTU 0
            (dataHeaderLength gRADIO_MAC bindingValuesPtr (dataCut PMTU frame.offset) keepAlive)
            frame.offset fragments ↔
          ¬ (radioMacPresent gRADIO_MAC ∧ bindingValuesPtr.isSome) ∨ keepAlive ≠ 0 ∨
            (frame.offset + 24 : Int) ≤ PMTU) := by
  constructor
  · intro seqNum msgTypeValue msgElems msgElemsBinding is_crypted fragID uninitializedType room
      valid validBinding
    have budget : 8 ≤ PMTU - 33 := by
      simp only [gMaxDTLSHeaderSize, gMaxCAPWAPHeaderSize] at room
      omega
    exact cwAssembleMessage_fragmentsFit gRADIO_MAC budget seqNum msgTypeValue valid validBinding
      is_crypted fragID uninitializedType rfl
  · intro frame bindingValuesPtr is_crypted keepAlive fragID room valid nonempty
    exact cwAssembleDataMessage_fragmentsFit gRADIO_MAC room valid nonempty bindingValuesPtr
      is_crypted keepAlive fragID

/-- The address a WTP announces before it has learnt another one. -/
def defaultRadioMAC : EthAddr := ⟨[0xAA, 0xBB, 0xCC, 0xDD, 0xEE, 0xFF], rfl⟩

theorem fragmentsFit_iff_small :
    (∃ fragments,
      cwAssembleMessage defaultRadioMAC 49 0 1 [] [] 0 0 0 = .ok fragments ∧
        FragmentsFit 49 25 16 8 fragments) ∧
    ∃ fragments,
      cwAssembleDataMessage defaultRadioMAC 32 (filled [1, 2, 3] 0) none 0 0 0 = .ok fragments ∧
        FragmentsFit 32 0 16 3 fragments := by
  obtain ⟨fragments, assembled, fit⟩ := (fragmentsFit_iff defaultRadioMAC 49).1 0 1 [] [] 0 0 0
    (by decide) (by simp) (by simp)
  obtain ⟨frames, assembled', fit'⟩ := (fragmentsFit_iff defaultRadioMAC 32).2
    (filled [1, 2, 3] 0) none 0 0 0 (by decide) (valid_filled _ _) (by decide)
  exact ⟨⟨fragments, assembled, fit.mpr (by decide)⟩, frames, assembled', fit'.mpr (by decide)⟩

/-- A control message that fills the budget goes out in one packet that does not fit. -/
theorem cwAssembleMessage_exceeds_PMTU :
    ∃ fragments,
      cwAssembleMessage defaultRadioMAC 1400 0 1 [filled (List.replicate 1352 0) 0] [] 0 0 0 =
        .ok fragments ∧
      ¬ FragmentsFit 1400 gMaxDTLSHeaderSize (transportHeaderHLEN defaultRadioMAC none * 4) 1360
        fragments := by
  have valid : ∀ message ∈ [filled (List.replicate 1352 0) 0], message.Valid := by
    intro message member
    rw [List.mem_singleton.mp member]
    exact valid_filled _ _
  have size : 1360 = 8 + (msgElemsLength [filled (List.replicate 1352 0) 0] + msgElemsLength []) := by
    rw [msgElemsLength, List.map_singleton, List.sum_singleton, offset_filled, List.length_replicate]
    rfl
  obtain ⟨fragments, assembled, fit⟩ := cwAssembleMessage_fragmentsFit defaultRadioMAC
    (show 8 ≤ (1400 : Int) - 33 by decide) 0 1 valid (by simp) 0 0 0 size
  refine ⟨fragments, assembled, fun fits => ?_⟩
  rcases fit.mp fits with absent | roomy
  · exact absent (by decide)
  · exact absurd roomy (by decide)

end WlanController.Protocol
