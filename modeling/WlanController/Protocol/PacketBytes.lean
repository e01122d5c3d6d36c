import WlanController.Protocol.Assembly
import WlanController.Protocol.TransportHeaderCodec

/-!
# The packets of a message

What the assemblers emit, packet by packet: a header and a piece of the message.
-/

namespace WlanController.Protocol

/-! ## Cutting -/

theorem handleFragmentation_of_room {budget : Int} (room : 8 ≤ budget) (size : Nat) :
    handleFragmentation budget size =
      ⟨budget.toNat / 8 * 8, Pieces.count (budget.toNat / 8 * 8) size⟩ := by
  have aligned : budget.toNat / 8 * 8 ≠ 0 := by omega
  simp only [handleFragmentation, if_neg aligned, Pieces.count]

/-- The size the loop computes for a fragment is the length of its piece. -/
theorem fragSize_eq_length_piece {size : Nat} (positive : 0 < size) {body : List UInt8} {i : Nat}
    (inside : i < Pieces.count size body.length) :
    (if i < Pieces.count size body.length - 1 then size
      else body.length - (Pieces.count size body.length - 1) * size) =
      (Pieces.piece size body i).length := by
  by_cases inner : i < Pieces.count size body.length - 1
  · rw [if_pos inner, Pieces.length_piece_inner positive (by omega)]
  · have last : i + 1 = Pieces.count size body.length := by omega
    rw [if_neg inner, Pieces.length_piece_last positive last, ← last, Nat.add_sub_cancel]

/-- Copying a piece out of a message stays inside what was stored there. -/
theorem bytesAt_piece {msg : CWProtocolMessage} (valid : msg.Valid) {size i : Nat}
    (inside : i * size ≤ msg.contents.length) :
    msg.bytesAt (i * size) (Pieces.piece size msg.contents i).length =
      .ok (Pieces.piece size msg.contents i) := by
  have stored := valid.length_contents
  have length := Pieces.length_piece size msg.contents i
  have bound : i * size + (Pieces.piece size msg.contents i).length ≤ msg.offset := by omega
  have room : i * size + (Pieces.piece size msg.contents i).length ≤ msg.msg.length :=
    bound.trans valid
  rw [CWProtocolMessage.bytesAt, if_pos room]
  congr 1
  calc (msg.msg.drop (i * size)).take (Pieces.piece size msg.contents i).length
      = ((msg.contents).drop (i * size)).take (Pieces.piece size msg.contents i).length := by
        rw [CWProtocolMessage.contents, List.drop_take, List.take_take, Nat.min_eq_left]
        rw [CWProtocolMessage.contents] at bound
        omega
    _ = Pieces.piece size msg.contents i := by
        rw [Pieces.piece, List.take_eq_take_iff, List.length_take]
        omega

/-- The header values of the fragment with index `i`. -/
def fragmentValues (transportVal : CWProtocolTransportHeaderValues) (cut : Fragmentation) (i : Nat) :
    CWProtocolTransportHeaderValues :=
  { transportVal with
    isFragment := 1
    fragmentOffset := i * cut.PMTU / 8
    last := if i < cut.fragmentsNum - 1 then 0 else 1 }

/-- The bytes of the fragment with index `i`. -/
def fragmentBytes (headerBytes : CWProtocolTransportHeaderValues → List UInt8)
    (transportVal : CWProtocolTransportHeaderValues) (cut : Fragmentation) (body : List UInt8)
    (i : Nat) : List UInt8 :=
  headerBytes (fragmentValues transportVal cut i) ++ Pieces.piece cut.PMTU body i

theorem ok_bind {ε α β : Type} (value : α) (next : α → Except ε β) :
    (Except.ok value >>= next) = next value := rfl

/-- A packet: a header and what follows it. -/
theorem assembleInto_packet (header payload : List UInt8) :
    assembleInto (header.length + payload.length)
      (do
        cwProtocolStoreMessage (filled header 0)
        cwProtocolStoreRawBytes payload) =
      .ok (filled (header ++ payload) 0) := by
  have stores := (stores_message (valid_filled header 0)).bind (stores_rawBytes payload)
  rw [contents_filled] at stores
  exact assembleInto_stores stores (List.length_append ..).symm

theorem assembleFragments_eq
    {assembleHeader : CWProtocolTransportHeaderValues → Except Failure CWProtocolMessage}
    {headerBytes : CWProtocolTransportHeaderValues → List UInt8}
    (assembles : ∀ values, assembleHeader values = .ok (filled (headerBytes values) 0))
    (transportVal : CWProtocolTransportHeaderValues) {msg : CWProtocolMessage} (valid : msg.Valid)
    {cut : Fragmentation} (positive : 0 < cut.PMTU)
    (counted : cut.fragmentsNum = Pieces.count cut.PMTU msg.offset) (remaining i : Nat)
    (rest : i + remaining = cut.fragmentsNum) :
    assembleFragments assembleHeader transportVal msg cut msg.offset remaining i (i * cut.PMTU) =
      .ok ((List.range' i remaining).map fun j =>
        filled (fragmentBytes headerBytes transportVal cut msg.contents j) 0) := by
  induction remaining generalizing i with
  | zero => rfl
  | succ remaining inductionHypothesis =>
    rw [← valid.length_contents] at counted inductionHypothesis ⊢
    have inside : i < Pieces.count cut.PMTU msg.contents.length := by omega
    have before := Pieces.mul_lt_length positive inside
    have size := fragSize_eq_length_piece positive inside
    rw [← counted] at size
    have stored := assembleInto_packet (headerBytes (fragmentValues transportVal cut i))
      (Pieces.piece cut.PMTU msg.contents i)
    have next : assembleFragments assembleHeader transportVal msg cut msg.contents.length remaining
        (i + 1) (i * cut.PMTU + (Pieces.piece cut.PMTU msg.contents i).length) =
        .ok ((List.range' (i + 1) remaining).map fun j =>
          filled (fragmentBytes headerBytes transportVal cut msg.contents j) 0) := by
      by_cases inner : i + 1 < cut.fragmentsNum
      · rw [Pieces.length_piece_inner positive (by omega), ← Nat.succ_mul]
        exact inductionHypothesis (i + 1) (by omega)
      · -- behind the last fragment the offset is not looked at any more
        have done : remaining = 0 := by omega
        subst done
        rfl
    have round : assembleFragments assembleHeader transportVal msg cut msg.contents.length
        (remaining + 1) i (i * cut.PMTU) =
        (do
          let fragment ← assembleInto
            ((headerBytes (fragmentValues transportVal cut i)).length +
              (Pieces.piece cut.PMTU msg.contents i).length)
            (do
              cwProtocolStoreMessage (filled (headerBytes (fragmentValues transportVal cut i)) 0)
              cwProtocolStoreRawBytes (Pieces.piece cut.PMTU msg.contents i))
          let fragments ← assembleFragments assembleHeader transportVal msg cut msg.contents.length
            remaining (i + 1) (i * cut.PMTU + (Pieces.piece cut.PMTU msg.contents i).length)
          return fragment :: fragments) := by
      simp only [assembleFragments, size]
      rw [assembles, bytesAt_piece valid before.le]
      rfl
    rw [round, stored, ok_bind, next, ok_bind]
    rfl

theorem piece_eq_of_single {size : Nat} (positive : 0 < size) {body : List UInt8}
    (single : Pieces.count size body.length = 1) : Pieces.piece size body 0 = body := by
  have short := Pieces.count_le_one positive single.le
  rw [Pieces.piece, Nat.zero_mul, List.drop_zero, List.take_of_length_le short]

/-- The fragment loop run from its beginning. -/
theorem assembleFragments_all
    {assembleHeader : CWProtocolTransportHeaderValues → Except Failure CWProtocolMessage}
    {headerBytes : CWProtocolTransportHeaderValues → List UInt8}
    (assembles : ∀ values, assembleHeader values = .ok (filled (headerBytes values) 0))
    (transportVal : CWProtocolTransportHeaderValues) {msg : CWProtocolMessage} (valid : msg.Valid)
    {cut : Fragmentation} (positive : 0 < cut.PMTU)
    (counted : cut.fragmentsNum = Pieces.count cut.PMTU msg.offset) :
    assembleFragments assembleHeader transportVal msg cut msg.offset cut.fragmentsNum 0 0 =
      .ok ((List.range cut.fragmentsNum).map fun i =>
        filled (fragmentBytes headerBytes transportVal cut msg.contents i) 0) := by
  have whole := assembleFragments_eq assembles transportVal valid positive counted cut.fragmentsNum 0
    (Nat.zero_add _)
  rwa [Nat.zero_mul, ← List.range_eq_range'] at whole

/-! ## Control messages -/

def controlHeaderBytes (values : CWControlHeaderValues) : List UInt8 :=
  BigEndian.encode 4 values.messageTypeValue.toNat ++ (BigEndian.encode 1 values.seqNum.toNat ++
    (BigEndian.encode 2 (cwControlHeaderOffsetForMsgElems + values.msgElemsLen.toNat) ++
      BigEndian.encode 1 0))

@[simp] theorem length_controlHeaderBytes (values : CWControlHeaderValues) :
    (controlHeaderBytes values).length = 8 := by
  simp [controlHeaderBytes]

theorem cwAssembleControlHeader_eq (values : CWControlHeaderValues) :
    cwAssembleControlHeader values = .ok (filled (controlHeaderBytes values) 0) :=
  assembleInto_stores
    ((stores_store32 _).bind ((stores_store8 _).bind ((stores_store16 _).bind (stores_store8 0))))
    (length_controlHeaderBytes values).symm

/-- A control message before it is cut: the control header and the message elements. -/
def controlMessageBytes (seqNum msgTypeValue : Nat)
    (msgElems msgElemsBinding : List CWProtocolMessage) : List UInt8 :=
  controlHeaderBytes ⟨.ofNat msgTypeValue, .ofNat seqNum,
      .ofNat (msgElemsLength msgElems + msgElemsLength msgElemsBinding)⟩ ++
    (msgElems.flatMap CWProtocolMessage.contents ++
      msgElemsBinding.flatMap CWProtocolMessage.contents)

theorem length_flatMap_contents {messages : List CWProtocolMessage}
    (valid : ∀ message ∈ messages, message.Valid) :
    (messages.flatMap CWProtocolMessage.contents).length = msgElemsLength messages := by
  rw [List.length_flatMap, msgElemsLength]
  congr 1
  apply List.map_congr_left
  intro message member
  exact (valid message member).length_contents

theorem length_controlMessageBytes (seqNum msgTypeValue : Nat)
    {msgElems msgElemsBinding : List CWProtocolMessage}
    (valid : ∀ message ∈ msgElems, message.Valid)
    (validBinding : ∀ message ∈ msgElemsBinding, message.Valid) :
    (controlMessageBytes seqNum msgTypeValue msgElems msgElemsBinding).length =
      8 + (msgElemsLength msgElems + msgElemsLength msgElemsBinding) := by
  rw [controlMessageBytes, List.length_append, List.length_append, length_controlHeaderBytes,
    length_flatMap_contents valid, length_flatMap_contents validBinding]

/-- How `CWAssembleMessage` cuts a message of `size` bytes. -/
def controlCut (PMTU : Int) (size : Nat) : Fragmentation :=
  ⟨(PMTU - 33).toNat / 8 * 8, Pieces.count ((PMTU - 33).toNat / 8 * 8) size⟩

/-- The header of packet `i`: a message of one packet is not marked as fragmented. -/
def controlPacketValues (cut : Fragmentation) (is_crypted fragID uninitializedType i : Nat) :
    CWProtocolTransportHeaderValues :=
  if cut.fragmentsNum = 1 then
    { payloadType := is_crypted, type := 0, isFragment := 0, last := 0, fragmentID := 0,
      fragmentOffset := 0, keepAlive := 0, bindingValuesPtr := none }
  else
    fragmentValues
      { payloadType := is_crypted, type := uninitializedType, isFragment := 0, last := 0,
        fragmentID := fragID, fragmentOffset := 0, keepAlive := 0, bindingValuesPtr := none }
      cut i

theorem cwAssembleMessage_eq (gRADIO_MAC : EthAddr) {PMTU : Int} (room : 8 ≤ PMTU - 33)
    (seqNum msgTypeValue : Nat) {msgElems msgElemsBinding : List CWProtocolMessage}
    (valid : ∀ message ∈ msgElems, message.Valid)
    (validBinding : ∀ message ∈ msgElemsBinding, message.Valid)
    (is_crypted fragID uninitializedType : Nat) {body : List UInt8}
    (body_eq : body = controlMessageBytes seqNum msgTypeValue msgElems msgElemsBinding)
    {cut : Fragmentation} (cut_eq : cut = controlCut PMTU body.length) :
    cwAssembleMessage gRADIO_MAC PMTU seqNum msgTypeValue msgElems msgElemsBinding is_crypted fragID
        uninitializedType =
      .ok ((List.range cut.fragmentsNum).map fun i =>
        filled (transportHeaderBytes gRADIO_MAC
            (controlPacketValues cut is_crypted fragID uninitializedType i) ++
          Pieces.piece cut.PMTU body i) 0) := by
  have positive : 0 < cut.PMTU := by
    simp only [cut_eq, controlCut]
    omega
  have counted : cut.fragmentsNum = Pieces.count cut.PMTU body.length := by rw [cut_eq]; rfl
  have handled : handleFragmentation (PMTU - gMaxDTLSHeaderSize - gMaxCAPWAPHeaderSize)
      (filled body 0).offset = cut := by
    have budget : PMTU - gMaxDTLSHeaderSize - gMaxCAPWAPHeaderSize = PMTU - 33 := by
      simp only [gMaxDTLSHeaderSize, gMaxCAPWAPHeaderSize]
      omega
    rw [budget, offset_filled, handleFragmentation_of_room room, cut_eq, controlCut]
  have stored : assembleInto
      ((filled (controlHeaderBytes ⟨.ofNat msgTypeValue, .ofNat seqNum,
        .ofNat (msgElemsLength msgElems + msgElemsLength msgElemsBinding)⟩) 0).offset +
        (msgElemsLength msgElems + msgElemsLength msgElemsBinding))
      (do
        cwProtocolStoreMessage (filled (controlHeaderBytes ⟨.ofNat msgTypeValue, .ofNat seqNum,
          .ofNat (msgElemsLength msgElems + msgElemsLength msgElemsBinding)⟩) 0)
        msgElems.forM cwProtocolStoreMessage
        msgElemsBinding.forM cwProtocolStoreMessage) = .ok (filled body 0) := by
    have header := stores_message (valid_filled (controlHeaderBytes ⟨.ofNat msgTypeValue,
      .ofNat seqNum, .ofNat (msgElemsLength msgElems + msgElemsLength msgElemsBinding)⟩) 0)
    rw [contents_filled] at header
    have length := length_controlMessageBytes seqNum msgTypeValue valid validBinding
    rw [body_eq]
    refine assembleInto_stores
      (header.bind ((stores_messages valid).bind (stores_messages validBinding))) ?_
    rw [offset_filled, length_controlHeaderBytes]
    exact length.symm
  rw [cwAssembleMessage, cwAssembleControlHeader_eq, ok_bind, stored, ok_bind]
  simp only [handled]
  by_cases single : cut.fragmentsNum = 1
  · have whole : Pieces.piece cut.PMTU body 0 = body :=
      piece_eq_of_single positive (counted ▸ single)
    simp only [if_pos single]
    rw [cwAssembleTransportHeader_eq, ok_bind]
    simp only [single, List.range_one, List.map_singleton, controlPacketValues, if_true, whole]
    have stores := (stores_message (valid_filled (transportHeaderBytes gRADIO_MAC
      { payloadType := is_crypted, type := 0, isFragment := 0, last := 0, fragmentID := 0,
        fragmentOffset := 0, keepAlive := 0, bindingValuesPtr := none }) 0)).bind
      (stores_message (valid_filled body 0))
    rw [contents_filled, contents_filled] at stores
    rw [offset_filled, offset_filled, assembleInto_stores stores (List.length_append ..).symm]
    rfl
  · simp only [if_neg single]
    have loop := assembleFragments_all (cwAssembleTransportHeader_eq gRADIO_MAC)
      { payloadType := is_crypted, type := uninitializedType, isFragment := 0, last := 0,
        fragmentID := fragID, fragmentOffset := 0, keepAlive := 0, bindingValuesPtr := none }
      (valid_filled body 0) positive counted
    rw [contents_filled] at loop
    simp only [controlPacketValues, if_neg single]
    exact loop

/-! ## Data messages -/

def dataHeaderBytes (gRADIO_MAC : EthAddr) (keepAlive : Nat)
    (values : CWProtocolTransportHeaderValues) : List UInt8 :=
  if keepAlive ≠ 0 then keepAliveHeaderBytes values keepAlive
  else transportHeaderBytes gRADIO_MAC values

theorem assembleDataHeader_eq (gRADIO_MAC : EthAddr) (keepAlive : Nat)
    (values : CWProtocolTransportHeaderValues) :
    assembleDataHeader gRADIO_MAC keepAlive values =
      .ok (filled (dataHeaderBytes gRADIO_MAC keepAlive values) 0) := by
  unfold assembleDataHeader dataHeaderBytes
  split
  · exact cwAssembleTransportHeaderKeepAliveData_eq values keepAlive
  · exact cwAssembleTransportHeader_eq gRADIO_MAC values

/-- How `CWAssembleDataMessage` cuts a frame of `size` bytes. -/
def dataCut (PMTU : Int) (size : Nat) : Fragmentation :=
  ⟨(PMTU - 16).toNat / 8 * 8, Pieces.count ((PMTU - 16).toNat / 8 * 8) size⟩

/-- A keep-alive packet that is not fragmented has a length between header and frame. -/
def keepAliveLengthBytes (cut : Fragmentation) (keepAlive : Nat) : List UInt8 :=
  if cut.fragmentsNum = 1 ∧ keepAlive ≠ 0 then BigEndian.encode 2 keepAliveMessageElementLength
  else []

def dataPacketValues (cut : Fragmentation) (type : Nat)
    (bindingValuesPtr : Option CWBindingTransportHeaderValues) (is_crypted fragID i : Nat) :
    CWProtocolTransportHeaderValues :=
  if cut.fragmentsNum = 1 then
    { payloadType := is_crypted, type, isFragment := 0, last := 0, fragmentID := 0,
      fragmentOffset := 0, keepAlive := 0, bindingValuesPtr }
  else
    fragmentValues
      { payloadType := is_crypted, type, isFragment := 0, last := 0, fragmentID := fragID,
        fragmentOffset := 0, keepAlive := 0, bindingValuesPtr }
      cut i

/-- What stands before the payload of packet `i`. -/
def dataPacketHeader (gRADIO_MAC : EthAddr) (cut : Fragmentation) (type : Nat)
    (bindingValuesPtr : Option CWBindingTransportHeaderValues)
    (is_crypted keepAlive fragID i : Nat) : List UInt8 :=
  dataHeaderBytes gRADIO_MAC keepAlive
      (dataPacketValues cut type bindingValuesPtr is_crypted fragID i) ++
    keepAliveLengthBytes cut keepAlive

theorem cwAssembleDataMessage_eq (gRADIO_MAC : EthAddr) {PMTU : Int} (room : 8 ≤ PMTU - 16)
    {frame : CWProtocolMessage} (valid : frame.Valid)
    (bindingValuesPtr : Option CWBindingTransportHeaderValues) (is_crypted keepAlive fragID : Nat)
    {cut : Fragmentation} (cut_eq : cut = dataCut PMTU frame.offset) :
    cwAssembleDataMessage gRADIO_MAC PMTU frame bindingValuesPtr is_crypted keepAlive fragID =
      .ok ((List.range cut.fragmentsNum).map fun i =>
        filled (dataPacketHeader gRADIO_MAC cut
            (if frame.dataMsgType = some .ieee80211Frame then 1 else 0) bindingValuesPtr is_crypted
            keepAlive fragID i ++
          Pieces.piece cut.PMTU frame.contents i) 0) := by
  have positive : 0 < cut.PMTU := by
    simp only [cut_eq, dataCut]
    omega
  have counted : cut.fragmentsNum = Pieces.count cut.PMTU frame.offset := by rw [cut_eq]; rfl
  have handled : handleFragmentation (PMTU - gMaxCAPWAPHeaderSizeBinding) frame.offset = cut := by
    have budget : PMTU - gMaxCAPWAPHeaderSizeBinding = PMTU - 16 := by
      simp only [gMaxCAPWAPHeaderSizeBinding]
      omega
    rw [budget, handleFragmentation_of_room room, cut_eq, dataCut]
  simp only [cwAssembleDataMessage, handled]
  by_cases single : cut.fragmentsNum = 1
  · have whole : Pieces.piece cut.PMTU frame.contents 0 = frame.contents := by
      refine piece_eq_of_single positive ?_
      rw [valid.length_contents, ← counted, single]
    simp only [if_pos single]
    rw [assembleDataHeader_eq, ok_bind]
    simp only [single, List.range_one, List.map_singleton, dataPacketValues, if_true, whole,
      dataPacketHeader, keepAliveLengthBytes, true_and, List.append_assoc]
    have headerPart := stores_message (valid_filled (dataHeaderBytes gRADIO_MAC keepAlive
      { payloadType := is_crypted,
        type := if frame.dataMsgType = some .ieee80211Frame then 1 else 0, isFragment := 0,
        last := 0, fragmentID := 0, fragmentOffset := 0, keepAlive := 0, bindingValuesPtr }) 0)
    have framePart := stores_message valid
    have length := valid.length_contents
    rw [contents_filled] at headerPart
    by_cases alive : keepAlive ≠ 0
    · simp only [if_pos alive, offset_filled]
      rw [assembleInto_stores (headerPart.bind ((stores_store16 _).bind framePart))
        (by simp [length]; omega)]
      rfl
    · simp only [if_neg alive, offset_filled, List.nil_append]
      rw [assembleInto_stores (headerPart.bind framePart) (by simp [length])]
      rfl
  · simp only [if_neg single]
    have loop := assembleFragments_all (assembleDataHeader_eq gRADIO_MAC keepAlive)
      { payloadType := is_crypted,
        type := if frame.dataMsgType = some .ieee80211Frame then 1 else 0, isFragment := 0,
        last := 0, fragmentID := fragID, fragmentOffset := 0, keepAlive := 0, bindingValuesPtr }
      valid positive counted
    have noLength : keepAliveLengthBytes cut keepAlive = [] := if_neg fun both => single both.1
    simp only [dataPacketHeader, dataPacketValues, if_neg single, noLength, List.append_nil]
    exact loop

end WlanController.Protocol
