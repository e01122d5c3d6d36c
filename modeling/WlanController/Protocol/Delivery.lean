import WlanController.Protocol.PieceFragments

/-!
# From one end to the other

The packets `CWAssembleMessage` emits reach the receiver in any order and any number of
times.  The first call at which all of them have come returns the message; every call
before it waits for more.
-/

namespace WlanController.Protocol

/-- The arrival of one of the packets a message was sent in. -/
structure Delivery (packets : List CWProtocolMessage) where
  index : Fin packets.length
  stale : List UInt8
  room : maxTransportHeaderSize ≤ ((packets.get index).contents ++ stale).length
  dataFlag : Bool
  radioMAC : Option EthAddr

def Delivery.call {packets : List CWProtocolMessage} (delivery : Delivery packets) : ParseCall where
  packet := Packet.carrying (packets.get delivery.index).contents delivery.stale delivery.room
  dataFlag := delivery.dataFlag
  radioMAC := delivery.radioMAC

/-- The call reports that it needs more fragments. -/
def Waits (fragmentsList : List CWProtocolFragment) (call : ParseCall)
    (fragmentsList' : List CWProtocolFragment) : Prop :=
  ∃ outcome, Returns fragmentsList call outcome ∧
    outcome.result = .error (.raised .needResource none) ∧ outcome.fragmentsList = fragmentsList'

/-- The call returns a message with these contents and empties the list. -/
def Completes (fragmentsList : List CWProtocolFragment) (call : ParseCall) (contents : List UInt8) :
    Prop :=
  ∃ outcome message, Returns fragmentsList call outcome ∧ outcome.result = .ok message ∧
    message.contents = contents ∧ outcome.fragmentsList = []

/-! ## One packet -/

section Carrying

variable {headerBytes payload stale : List UInt8}
  {room : maxTransportHeaderSize ≤ ((headerBytes ++ payload) ++ stale).length}
  {dataFlag : Bool} {radioMAC : Option EthAddr} {header : ParsedTransportHeader}
  {assigned : Option CWDataMsgType}

/-- A packet whose header is read as that of a whole message. -/
theorem completes_carrying {bytes : List UInt8} (split : bytes = headerBytes ++ payload)
    (room : maxTransportHeaderSize ≤ (bytes ++ stale).length)
    (reads : Reads (cwParseTransportHeader dataFlag radioMAC) headerBytes header assigned)
    (whole : header.values.isFragment = 0) :
    Completes [] ⟨Packet.carrying bytes stale room, dataFlag, radioMAC⟩ payload := by
  subst split
  have parsed := reads ⟨(Packet.carrying (headerBytes ++ payload) stale room).buf, 0, none⟩
    (payload ++ stale) (by simp [Packet.carrying])
  rw [Nat.zero_add, Option.or_none] at parsed
  have data : ((Packet.carrying (headerBytes ++ payload) stale room).buf.drop
      headerBytes.length).take
        ((Packet.carrying (headerBytes ++ payload) stale room).readBytes - headerBytes.length) =
      payload := by
    simp [Packet.carrying]
  have size : ¬ (Packet.carrying (headerBytes ++ payload) stale room).readBytes <
      headerBytes.length := by
    simp [Packet.carrying]
  have stored := (stores_rawBytes payload).run_create rfl
  have single : ∀ message : CWProtocolMessage, message.offset = headerBytes.length →
      singleFragment (Packet.carrying (headerBytes ++ payload) stale room) message =
        .ok { filled payload 0 with dataMsgType := message.dataMsgType } := by
    intro message offset
    simp only [singleFragment, offset, if_neg size, data, stored]
  refine ⟨⟨.ok { filled payload 0 with dataMsgType := assigned }, [], header.dataFlag,
    header.radioMAC⟩, _, returns_of_some 0 ?_, rfl, contents_filled payload 0, rfl⟩
  simp only [cwProtocolParseFragment, parsed, if_pos whole]
  rw [single _ rfl]

/-- A copy of a stored fragment changes nothing. -/
theorem waits_copy
    (reads : Reads (cwParseTransportHeader dataFlag radioMAC) headerBytes header assigned)
    (fragmented : header.values.isFragment ≠ 0) {fragmentsList : List CWProtocolFragment}
    (copy : ∀ copied, storeFragment fragmentsList header.values.kept copied =
      .error (.raised .needResource none, fragmentsList)) :
    Waits fragmentsList ⟨Packet.carrying (headerBytes ++ payload) stale room, dataFlag, radioMAC⟩
      fragmentsList := by
  have parsed := reads ⟨(Packet.carrying (headerBytes ++ payload) stale room).buf, 0, none⟩
    (payload ++ stale) (by simp [Packet.carrying])
  refine ⟨⟨.error (.raised .needResource none), fragmentsList, header.dataFlag, header.radioMAC⟩,
    returns_of_some 0 ?_, rfl, rfl⟩
  simp only [CWProtocolTransportHeaderValues.kept] at copy
  simp only [cwProtocolParseFragment, parsed, if_neg fragmented, copy]

end Carrying

theorem waits_of_incomplete {fragmentsList fragments : List CWProtocolFragment} {call : ParseCall}
    {dataMsgType : Option CWDataMsgType}
    (extended : fragmentsWith fragmentsList call = some (fragments, dataMsgType))
    (incomplete : ¬ Complete fragments) : Waits fragmentsList call fragments := by
  obtain ⟨dataFlag, radioMAC, returns⟩ := cwProtocolParseFragment_of_some extended
  have returned := returns 0
  rw [completeMessage_of_incomplete incomplete] at returned
  exact ⟨_, returns_of_some 0 returned, rfl, rfl⟩

/-! ## The pieces of one message -/

/-- The list holds one fragment for each piece that has been delivered. -/
structure Holds (fragmentID size : Nat) (body : List UInt8) (delivered : List Nat)
    (fragmentsList : List CWProtocolFragment) : Prop where
  inside : ∀ i ∈ delivered, i < Pieces.count size body.length
  pieces : ∃ order : List Nat, order.Nodup ∧ (∀ i, i ∈ order ↔ i ∈ delivered) ∧
    fragmentsList = pieceFragments fragmentID size body order

/-- A packet that reads as fragment `i` of the message. -/
def ReadsAsPiece (fragmentID size : Nat) (body : List UInt8) (i : Nat) (packet : List UInt8) :
    Prop :=
  ∃ headerBytes, packet = headerBytes ++ Pieces.piece size body i ∧
    ∀ dataFlag radioMAC, ∃ header assigned,
      Reads (cwParseTransportHeader dataFlag radioMAC) headerBytes header assigned ∧
      header.values.isFragment ≠ 0 ∧
      header.values.kept = (pieceFragment fragmentID size body i).toFragmentValues

section Pieces

variable {fragmentID size : Nat} {body : List UInt8}

theorem holds_nil (fragmentID size : Nat) (body : List UInt8) :
    Holds fragmentID size body [] [] where
  inside := fun _ member => nomatch member
  pieces := ⟨[], .nil, fun _ => Iff.rfl, rfl⟩

theorem Holds.congr {delivered delivered' : List Nat} {fragmentsList : List CWProtocolFragment}
    (holds : Holds fragmentID size body delivered fragmentsList)
    (same : ∀ i, i ∈ delivered ↔ i ∈ delivered') :
    Holds fragmentID size body delivered' fragmentsList := by
  obtain ⟨inside, order, nodup, members, list⟩ := holds
  exact ⟨fun i member => inside i ((same i).mpr member), order, nodup,
    fun i => (members i).trans (same i), list⟩

/-- A piece that has come before is dropped. -/
theorem Holds.copy (units : 8 ∣ size) (positive : 0 < size) {delivered : List Nat}
    {fragmentsList : List CWProtocolFragment}
    (holds : Holds fragmentID size body delivered fragmentsList) {i : Nat} (old : i ∈ delivered)
    {packet : List UInt8} (piece : ReadsAsPiece fragmentID size body i packet) (stale : List UInt8)
    (room : maxTransportHeaderSize ≤ (packet ++ stale).length) (dataFlag : Bool)
    (radioMAC : Option EthAddr) :
    Waits fragmentsList ⟨Packet.carrying packet stale room, dataFlag, radioMAC⟩ fragmentsList := by
  obtain ⟨-, order, nodup, members, rfl⟩ := holds
  obtain ⟨headerBytes, rfl, parses⟩ := piece
  obtain ⟨header, assigned, reads, fragmented, kept⟩ := parses dataFlag radioMAC
  refine waits_copy reads fragmented fun copied => ?_
  rw [kept]
  have one : OneMessage (pieceFragments fragmentID size body order) :=
    oneMessage_pieceFragments units positive nodup
  have member : pieceFragment fragmentID size body i ∈ pieceFragments fragmentID size body order :=
    List.mem_map_of_mem ((members i).mpr old)
  exact storeFragment_copy (fun oldEl inside => one.sameID oldEl inside _ member) member rfl copied

/-- A new piece is put in front. -/
theorem Holds.new (units : 8 ∣ size) (positive : 0 < size) {delivered : List Nat}
    {fragmentsList : List CWProtocolFragment}
    (holds : Holds fragmentID size body delivered fragmentsList) {i : Nat}
    (small : i < Pieces.count size body.length) (new : i ∉ delivered)
    {packet : List UInt8} (piece : ReadsAsPiece fragmentID size body i packet) (stale : List UInt8)
    (room : maxTransportHeaderSize ≤ (packet ++ stale).length) (dataFlag : Bool)
    (radioMAC : Option EthAddr) :
    ∃ fragments assigned, Holds fragmentID size body (i :: delivered) fragments ∧
      fragmentsWith fragmentsList ⟨Packet.carrying packet stale room, dataFlag, radioMAC⟩ =
        some (fragments, assigned) := by
  obtain ⟨inside, order, nodup, members, rfl⟩ := holds
  obtain ⟨headerBytes, rfl, parses⟩ := piece
  obtain ⟨header, assigned, reads, fragmented, kept⟩ := parses dataFlag radioMAC
  have absent : i ∉ order := fun member => new ((members i).mp member)
  have stored : storeFragment (pieceFragments fragmentID size body order)
      (pieceFragment fragmentID size body i).toFragmentValues
      (some (pieceFragment fragmentID size body i)) =
      .ok (pieceFragments fragmentID size body (i :: order)) := by
    apply storeFragment_new
    · intro oldEl member
      obtain ⟨j, -, rfl⟩ := List.mem_map.mp member
      rfl
    · intro oldEl member same
      obtain ⟨j, held, rfl⟩ := List.mem_map.mp member
      exact absent (pieceFragment_offset_inj units positive same ▸ held)
  refine ⟨pieceFragments fragmentID size body (i :: order), assigned, ⟨?_, i :: order,
    List.nodup_cons.mpr ⟨absent, nodup⟩, by simp [members], rfl⟩, ?_⟩
  · simpa using ⟨small, inside⟩
  · rw [fragmentsWith_carrying reads fragmented, kept]
    have arrived : arrivedFragment (pieceFragment fragmentID size body i).toFragmentValues
        (Pieces.piece size body i) = pieceFragment fragmentID size body i := rfl
    rw [arrived, stored]

theorem Holds.complete_iff (units : 8 ∣ size) (positive : 0 < size) (nonempty : 0 < body.length)
    {delivered : List Nat} {fragmentsList : List CWProtocolFragment}
    (holds : Holds fragmentID size body delivered fragmentsList) :
    Complete fragmentsList ↔ ∀ i < Pieces.count size body.length, i ∈ delivered := by
  obtain ⟨inside, order, nodup, members, rfl⟩ := holds
  rw [complete_pieceFragments_iff units positive nonempty nodup fun i member =>
    inside i ((members i).mp member)]
  simp [members]

/-- As long as a piece is missing, a delivery only adds to the list. -/
theorem Holds.waits (units : 8 ∣ size) (positive : 0 < size) (nonempty : 0 < body.length)
    {delivered : List Nat} {fragmentsList : List CWProtocolFragment}
    (holds : Holds fragmentID size body delivered fragmentsList) {i missing : Nat}
    (small : i < Pieces.count size body.length) (there : missing < Pieces.count size body.length)
    (absent : missing ∉ i :: delivered)
    {packet : List UInt8} (piece : ReadsAsPiece fragmentID size body i packet) (stale : List UInt8)
    (room : maxTransportHeaderSize ≤ (packet ++ stale).length) (dataFlag : Bool)
    (radioMAC : Option EthAddr) :
    ∃ fragments, Holds fragmentID size body (i :: delivered) fragments ∧
      Waits fragmentsList ⟨Packet.carrying packet stale room, dataFlag, radioMAC⟩ fragments := by
  by_cases old : i ∈ delivered
  · have waits := holds.copy units positive old piece stale room dataFlag radioMAC
    exact ⟨fragmentsList, holds.congr (by simpa using old), waits⟩
  · obtain ⟨fragments, assigned, holds', extended⟩ :=
      holds.new units positive small old piece stale room dataFlag radioMAC
    refine ⟨fragments, holds', waits_of_incomplete extended fun complete => ?_⟩
    exact absent ((holds'.complete_iff units positive nonempty).mp complete missing there)

/-- The delivery of the last missing piece completes the message. -/
theorem Holds.completes (units : 8 ∣ size) (positive : 0 < size) (nonempty : 0 < body.length)
    {delivered : List Nat} {fragmentsList : List CWProtocolFragment}
    (holds : Holds fragmentID size body delivered fragmentsList) {i missing : Nat}
    (small : i < Pieces.count size body.length) (there : missing < Pieces.count size body.length)
    (absent : missing ∉ delivered)
    (every : ∀ j < Pieces.count size body.length, j ∈ i :: delivered)
    {packet : List UInt8} (piece : ReadsAsPiece fragmentID size body i packet) (stale : List UInt8)
    (room : maxTransportHeaderSize ≤ (packet ++ stale).length) (dataFlag : Bool)
    (radioMAC : Option EthAddr) :
    Completes fragmentsList ⟨Packet.carrying packet stale room, dataFlag, radioMAC⟩ body := by
  have new : i ∉ delivered := by
    rcases List.mem_cons.mp (every missing there) with rfl | old
    · exact absent
    · exact absurd old absent
  obtain ⟨fragments, assigned, holds', extended⟩ :=
    holds.new units positive small new piece stale room dataFlag radioMAC
  obtain ⟨inside, order, nodup, members, rfl⟩ := holds'
  obtain ⟨fuel, dataFlag', radioMAC', left, returned⟩ :=
    cwProtocolParseFragment_of_pieces units positive nonempty nodup
      (fun j member => inside j ((members j).mp member))
      (fun j small => (members j).mpr (every j small)) extended
  exact ⟨_, _, returns_of_some fuel returned, rfl, contents_partly _ _ _, rfl⟩

end Pieces

/-! ## Deliveries in any order -/

/-- Whatever order the packets come in, and however often, every call waits as long as
    one of them is missing, and the call that gets the last one returns the message. -/
def Reassembles (packets : List CWProtocolMessage) (contents : List UInt8) : Prop :=
  ∀ (deliveries : List (Delivery packets)) (missing : Fin packets.length),
    (∀ delivery ∈ deliveries, delivery.index ≠ missing) →
    ∃ fragmentsList, Run.Trace Waits [] (deliveries.map Delivery.call) fragmentsList ∧
      ∀ next : Delivery packets,
        (∀ index, ∃ delivery ∈ next :: deliveries, delivery.index = index) →
        Completes fragmentsList next.call contents

section Run

variable {fragmentID size : Nat} {body : List UInt8} {packets : List CWProtocolMessage}

/-- The list along a run in which a piece is missing throughout. -/
theorem Holds.run (units : 8 ∣ size) (positive : 0 < size) (nonempty : 0 < body.length)
    (count : packets.length = Pieces.count size body.length)
    (pieces : ∀ index : Fin packets.length,
      ReadsAsPiece fragmentID size body index (packets.get index).contents)
    {missing : Fin packets.length} (deliveries : List (Delivery packets)) {delivered : List Nat}
    {fragmentsList : List CWProtocolFragment}
    (holds : Holds fragmentID size body delivered fragmentsList)
    (absent : missing.val ∉ delivered)
    (others : ∀ delivery ∈ deliveries, delivery.index ≠ missing) :
    ∃ fragmentsList', Run.Trace Waits fragmentsList (deliveries.map Delivery.call) fragmentsList' ∧
      Holds fragmentID size body (deliveries.map (·.index.val) ++ delivered) fragmentsList' := by
  induction deliveries generalizing delivered fragmentsList with
  | nil => exact ⟨fragmentsList, .nil _, holds⟩
  | cons delivery deliveries inductionHypothesis =>
    rw [List.forall_mem_cons] at others
    have different : missing.val ≠ delivery.index.val := fun same => others.1 (Fin.ext same.symm)
    have still : missing.val ∉ delivery.index.val :: delivered := by
      simp [different, absent]
    obtain ⟨fragments, held, waits⟩ := holds.waits units positive nonempty
      (count ▸ delivery.index.isLt) (count ▸ missing.isLt) still (pieces delivery.index)
      delivery.stale delivery.room delivery.dataFlag delivery.radioMAC
    obtain ⟨fragments', trace, held'⟩ := inductionHypothesis held still others.2
    refine ⟨fragments', .cons waits trace, held'.congr fun i => ?_⟩
    simp only [List.mem_append, List.mem_cons, List.map_cons]
    tauto

variable (fragmentID) in
theorem reassembles_of_count (units : 8 ∣ size) (positive : 0 < size) (nonempty : 0 < body.length)
    (count : packets.length = Pieces.count size body.length)
    (pieces : ∀ index : Fin packets.length,
      ReadsAsPiece fragmentID size body index (packets.get index).contents) :
    Reassembles packets body := by
  intro deliveries missing others
  obtain ⟨fragmentsList, trace, held⟩ := (holds_nil fragmentID size body).run units positive
    nonempty count pieces deliveries List.not_mem_nil others
  refine ⟨fragmentsList, trace, fun next every => ?_⟩
  have absent : missing.val ∉ deliveries.map (·.index.val) ++ [] := by
    simp only [List.append_nil, List.mem_map, not_exists, not_and]
    exact fun delivery member same => others delivery member (Fin.ext same)
  refine held.completes units positive nonempty (count ▸ next.index.isLt) (count ▸ missing.isLt)
    absent (fun j small => ?_) (pieces next.index) next.stale next.room next.dataFlag next.radioMAC
  obtain ⟨delivery, member, index⟩ := every ⟨j, count ▸ small⟩
  have here : delivery.index.val ∈ (next :: deliveries).map (·.index.val) :=
    List.mem_map_of_mem member
  rw [index] at here
  simpa using here

theorem reassembles_of_pieces (units : 8 ∣ size) (positive : 0 < size) (nonempty : 0 < body.length)
    {packetOf : Nat → CWProtocolMessage}
    (pieces : ∀ i < Pieces.count size body.length,
      ReadsAsPiece fragmentID size body i (packetOf i).contents) :
    Reassembles ((List.range (Pieces.count size body.length)).map packetOf) body := by
  have count : ((List.range (Pieces.count size body.length)).map packetOf).length =
      Pieces.count size body.length := by simp
  refine reassembles_of_count fragmentID units positive nonempty count fun index => ?_
  have small := index.isLt.trans_eq count
  rw [List.get_eq_getElem, List.getElem_map, List.getElem_range]
  exact pieces index small

/-- A message that was not cut is complete with its one packet. -/
theorem reassembles_single {packet : CWProtocolMessage} {headerBytes : List UInt8}
    (bytes : packet.contents = headerBytes ++ body)
    (reads : ∀ dataFlag radioMAC, ∃ header assigned,
      Reads (cwParseTransportHeader dataFlag radioMAC) headerBytes header assigned ∧
      header.values.isFragment = 0) :
    Reassembles [packet] body := by
  intro deliveries missing others
  cases deliveries with
  | nil =>
    refine ⟨[], .nil [], fun next _ => ?_⟩
    obtain ⟨header, assigned, parsed, whole⟩ := reads next.dataFlag next.radioMAC
    have contents : ([packet].get next.index).contents = headerBytes ++ body := by
      rw [← bytes, List.get_eq_getElem, List.getElem_singleton]
    exact completes_carrying contents next.room parsed whole
  | cons delivery deliveries =>
    -- the only packet there is cannot be missing
    have first := delivery.index.isLt
    have second := missing.isLt
    simp only [List.length_singleton] at first second
    exact absurd (Fin.ext (by omega)) (others delivery List.mem_cons_self)

end Run

/-! ## Control messages -/

theorem representable_controlPacket (cut : Fragmentation)
    (is_crypted fragID uninitializedType : Nat) {i : Nat} (near : i * cut.PMTU / 8 < 8192) :
    Representable { controlPacketValues cut is_crypted fragID uninitializedType i with
      fragmentID :=
        (controlPacketValues cut is_crypted fragID uninitializedType i).fragmentID % 65536 } := by
  unfold controlPacketValues
  split
  next single => constructor <;> simp
  next fragmented =>
    have flag : (if i < cut.fragmentsNum - 1 then 0 else 1) < 2 := by split <;> decide
    exact ⟨Nat.one_lt_two, flag, Nat.mod_lt _ (by decide), near⟩

theorem reads_controlPacket (gRADIO_MAC : EthAddr) (cut : Fragmentation)
    (is_crypted fragID uninitializedType : Nat) {i : Nat} (near : i * cut.PMTU / 8 < 8192)
    (dataFlag : Bool) (radioMAC : Option EthAddr) :
    ∃ header assigned,
      Reads (cwParseTransportHeader dataFlag radioMAC)
        (transportHeaderBytes gRADIO_MAC
          (controlPacketValues cut is_crypted fragID uninitializedType i))
        header assigned ∧
      header.values.isFragment = (if cut.fragmentsNum = 1 then 0 else 1) ∧
      (cut.fragmentsNum ≠ 1 → header.values.kept =
        ⟨fragID % 65536, i * cut.PMTU / 8, if i < cut.fragmentsNum - 1 then 0 else 1⟩) := by
  have plain : (controlPacketValues cut is_crypted fragID uninitializedType i).bindingValuesPtr =
      none := by
    unfold controlPacketValues
    split <;> rfl
  obtain ⟨assigned, reads⟩ := reads_assembledHeader gRADIO_MAC
    (representable_controlPacket cut is_crypted fragID uninitializedType near)
    (by simp [plain]) dataFlag radioMAC
  rw [transportHeaderBytes_fragmentID_mod] at reads
  refine ⟨_, assigned, reads, ?_, fun fragmented => ?_⟩
  · simp only [receivedValues, controlPacketValues]
    split <;> rfl
  · simp only [receivedValues, controlPacketValues, if_neg fragmented]
    rfl

/-- The packets of a control message bring the message through, in any order. -/
theorem cwAssembleMessage_reassembles (gRADIO_MAC : EthAddr) {PMTU : Int} (room : 8 ≤ PMTU - 33)
    (seqNum msgTypeValue : Nat) {msgElems msgElemsBinding : List CWProtocolMessage}
    (valid : ∀ message ∈ msgElems, message.Valid)
    (validBinding : ∀ message ∈ msgElemsBinding, message.Valid)
    (is_crypted fragID uninitializedType : Nat) {cut : Fragmentation}
    (cut_eq : cut = controlCut PMTU (8 + (msgElemsLength msgElems + msgElemsLength msgElemsBinding)))
    (near : ∀ i < cut.fragmentsNum, i * cut.PMTU / 8 < 8192) :
    ∃ packets controlHdr,
      cwAssembleMessage gRADIO_MAC PMTU seqNum msgTypeValue msgElems msgElemsBinding is_crypted
        fragID uninitializedType = .ok packets ∧
      cwAssembleControlHeader ⟨.ofNat msgTypeValue, .ofNat seqNum,
        .ofNat (msgElemsLength msgElems + msgElemsLength msgElemsBinding)⟩ = .ok controlHdr ∧
      packets.length = cut.fragmentsNum ∧
      Reassembles packets (controlHdr.contents ++
        (msgElems.flatMap CWProtocolMessage.contents ++
          msgElemsBinding.flatMap CWProtocolMessage.contents)) := by
  have length := length_controlMessageBytes seqNum msgTypeValue valid validBinding
  generalize body_eq : controlMessageBytes seqNum msgTypeValue msgElems msgElemsBinding = body
    at length
  rw [← length] at cut_eq
  refine ⟨_, _, cwAssembleMessage_eq gRADIO_MAC room seqNum msgTypeValue valid validBinding
    is_crypted fragID uninitializedType body_eq.symm cut_eq, cwAssembleControlHeader_eq _,
    by simp, ?_⟩
  rw [contents_filled, ← controlMessageBytes, body_eq]
  have positive : 0 < cut.PMTU := by
    simp only [cut_eq, controlCut]
    omega
  have units : 8 ∣ cut.PMTU := by
    rw [cut_eq, controlCut]
    exact Nat.dvd_mul_left _ _
  have counted : cut.fragmentsNum = Pieces.count cut.PMTU body.length := by rw [cut_eq]; rfl
  have nonempty : 0 < body.length := by omega
  by_cases single : cut.fragmentsNum = 1
  · rw [single, List.range_one, List.map_singleton]
    have whole : Pieces.piece cut.PMTU body 0 = body :=
      piece_eq_of_single positive (counted ▸ single)
    refine reassembles_single ((contents_filled _ 0).trans (by rw [whole]))
      fun dataFlag radioMAC => ?_
    obtain ⟨header, assigned, reads, plain, -⟩ := reads_controlPacket gRADIO_MAC cut is_crypted
      fragID uninitializedType (near 0 (by omega)) dataFlag radioMAC
    exact ⟨header, assigned, reads, plain.trans (if_pos single)⟩
  · have pieces : ∀ i < cut.fragmentsNum, ReadsAsPiece (fragID % 65536) cut.PMTU body i
        (filled (transportHeaderBytes gRADIO_MAC
            (controlPacketValues cut is_crypted fragID uninitializedType i) ++
          Pieces.piece cut.PMTU body i) 0).contents := by
      intro i small
      rw [contents_filled]
      refine ⟨_, rfl, fun dataFlag radioMAC => ?_⟩
      obtain ⟨header, assigned, reads, fragmented, kept⟩ := reads_controlPacket gRADIO_MAC cut
        is_crypted fragID uninitializedType (near i small) dataFlag radioMAC
      refine ⟨header, assigned, reads, ?_, (kept single).trans ?_⟩
      · rw [fragmented, if_neg single]
        exact Nat.one_ne_zero
      · simp only [pieceFragment, arrivedFragment, counted]
    rw [counted] at pieces ⊢
    exact reassembles_of_pieces units positive nonempty pieces

/-- A message element; two of them and the control header fill four packets of eight
    bytes, the last one not quite. -/
def tenBytes : CWProtocolMessage := filled [1, 2, 3, 4, 5, 6, 7, 8, 9, 10] 0

theorem cwAssembleMessage_reassembles_tenBytes :
    ∃ packets controlHdr,
      cwAssembleMessage noRadioMAC 41 3 14 [tenBytes, tenBytes] [] 0 70000 0 = .ok packets ∧
      cwAssembleControlHeader ⟨14, 3, 20⟩ = .ok controlHdr ∧ packets.length = 4 ∧
      Reassembles packets (controlHdr.contents ++ (tenBytes.contents ++ tenBytes.contents)) := by
  have valid : ∀ message ∈ [tenBytes, tenBytes], message.Valid := by
    simp [tenBytes, valid_filled]
  obtain ⟨packets, controlHdr, assembled, header, length, whole⟩ :=
    cwAssembleMessage_reassembles noRadioMAC (show (8 : Int) ≤ 41 - 33 by decide) 3 14 valid
      (show ∀ message ∈ ([] : List CWProtocolMessage), message.Valid from fun _ => nofun) 0 70000 0
      (show (⟨8, 4⟩ : Fragmentation) = _ by decide) (by decide)
  exact ⟨packets, controlHdr, assembled, header, length, by simpa using whole⟩

end WlanController.Protocol
