import WlanController.Protocol.DataDelivery
import WlanController.Protocol.FragmentSizes

/-!
# The data-channel round trip

Each kind of data message the program sends, and which of them arrive as what they are.
-/

namespace WlanController.Protocol

/-- What `bindingValuesPtr->dataRate = -1` marks statistics with. -/
def statisticsDataRate : BitVec 32 := -1

/-- The kinds of data messages, with what their senders put into the binding information. -/
inductive DataKind where
  | ieee8023Frame
  | ieee80211Frame (bindingValuesPtr : Option CWBindingTransportHeaderValues)
  | stats (RSSI SNR : UInt8)
  | freqStats (RSSI : UInt8)
  | keepAlive
  deriving DecidableEq, Repr

namespace DataKind

def dataMsgType : DataKind → CWDataMsgType
  | .ieee8023Frame => .ieee8023Frame
  | .ieee80211Frame _ => .ieee80211Frame
  | .stats _ _ => .stats
  | .freqStats _ => .freqStats
  | .keepAlive => .keepAlive

def bindingValuesPtr : DataKind → Option CWBindingTransportHeaderValues
  | .ieee80211Frame bindingValuesPtr => bindingValuesPtr
  | .stats RSSI SNR => some ⟨RSSI, SNR, statisticsDataRate⟩
  | .freqStats RSSI => some ⟨RSSI, 1, statisticsDataRate⟩
  | .ieee8023Frame | .keepAlive => none

/-- The `keepAlive` argument. -/
def keepAliveArg : DataKind → Nat
  | .keepAlive => 1
  | .ieee8023Frame | .ieee80211Frame _ | .stats _ _ | .freqStats _ => 0

/-- The senders of statistics leave `data_msgType` unset. -/
def Marks (kind : DataKind) (frame : CWProtocolMessage) : Prop :=
  match kind with
  | .stats _ _ | .freqStats _ => True
  | .ieee8023Frame | .ieee80211Frame _ | .keepAlive => frame.dataMsgType = some kind.dataMsgType

/-- The kind the parser infers. -/
def received : DataKind → CWDataMsgType
  | .ieee8023Frame => .ieee8023Frame
  | .keepAlive => .keepAlive
  | .ieee80211Frame _ | .stats _ _ | .freqStats _ => .ieee80211Frame

end DataKind

/-- The `type` that the assembler takes from the frame. -/
def frameType (frame : CWProtocolMessage) : Nat :=
  if frame.dataMsgType = some .ieee80211Frame then 1 else 0

/-- The packets of a data frame. -/
def dataPackets (gRADIO_MAC : EthAddr) (cut : Fragmentation) (kind : DataKind) (type : Nat)
    (is_crypted fragID : Nat) (body : List UInt8) : List CWProtocolMessage :=
  (List.range cut.fragmentsNum).map fun i =>
    filled (dataPacketHeader gRADIO_MAC cut type kind.bindingValuesPtr is_crypted kind.keepAliveArg
        fragID i ++ Pieces.piece cut.PMTU body i) 0

theorem length_dataPackets (gRADIO_MAC : EthAddr) (cut : Fragmentation) (kind : DataKind)
    (type is_crypted fragID : Nat) (body : List UInt8) :
    (dataPackets gRADIO_MAC cut kind type is_crypted fragID body).length = cut.fragmentsNum := by
  simp [dataPackets]

/-! ## Headers -/

/-- The flag that a packet is a fragment. -/
def fragmentFlag (cut : Fragmentation) : Nat := if cut.fragmentsNum = 1 then 0 else 1

section Headers

variable (gRADIO_MAC : EthAddr) {cut : Fragmentation} (kind : DataKind) (is_crypted fragID i : Nat)

theorem isFragment_dataPacketValues (cut : Fragmentation) (type : Nat)
    (bindingValuesPtr : Option CWBindingTransportHeaderValues) :
    (dataPacketValues cut type bindingValuesPtr is_crypted fragID i).isFragment =
      fragmentFlag cut := by
  unfold dataPacketValues fragmentFlag
  split <;> rfl

theorem binding_dataPacketValues (cut : Fragmentation) (type : Nat)
    (bindingValuesPtr : Option CWBindingTransportHeaderValues) :
    (dataPacketValues cut type bindingValuesPtr is_crypted fragID i).bindingValuesPtr =
      bindingValuesPtr := by
  unfold dataPacketValues
  split <;> rfl

theorem binding_sent_dataPacketValues (cut : Fragmentation) (type : Nat)
    (bindingValuesPtr : Option CWBindingTransportHeaderValues) :
    (dataPacketValues cut type bindingValuesPtr is_crypted fragID i).sent.bindingValuesPtr =
      bindingValuesPtr :=
  binding_dataPacketValues is_crypted fragID i cut type bindingValuesPtr

theorem type_dataPacketValues (cut : Fragmentation) (type : Nat)
    (bindingValuesPtr : Option CWBindingTransportHeaderValues) :
    (dataPacketValues cut type bindingValuesPtr is_crypted fragID i).type = type := by
  unfold dataPacketValues
  split <;> rfl

theorem representable_dataPacket (cut : Fragmentation) (type : Nat)
    (bindingValuesPtr : Option CWBindingTransportHeaderValues) :
    Representable (dataPacketValues cut type bindingValuesPtr is_crypted fragID i).sent := by
  apply representable_sent
  · rw [isFragment_dataPacketValues, fragmentFlag]
    split <;> simp
  · unfold dataPacketValues
    split
    · simp
    · simp only [fragmentValues]
      split <;> simp

/-- What a fragment is stored under. -/
theorem kept_dataPacketValues (fragmented : cut.fragmentsNum ≠ 1) (type : Nat)
    (bindingValuesPtr : Option CWBindingTransportHeaderValues) :
    (dataPacketValues cut type bindingValuesPtr is_crypted fragID i).sent.kept =
      ⟨fragID % 65536, i * cut.PMTU / 8 % 8192, if i < cut.fragmentsNum - 1 then 0 else 1⟩ := by
  simp only [dataPacketValues, if_neg fragmented]
  rfl

theorem dataPacketHeader_frame {kind : DataKind} (dead : kind ≠ .keepAlive) (cut : Fragmentation)
    (type : Nat) :
    dataPacketHeader gRADIO_MAC cut type kind.bindingValuesPtr is_crypted kind.keepAliveArg fragID i =
      transportHeaderBytes gRADIO_MAC
        (dataPacketValues cut type kind.bindingValuesPtr is_crypted fragID i).sent := by
  have never : kind.keepAliveArg = 0 := by
    cases kind with
    | keepAlive => exact absurd rfl dead
    | ieee8023Frame | ieee80211Frame _ | stats _ _ | freqStats _ => rfl
  rw [never, dataPacketHeader, dataHeaderBytes, keepAliveLengthBytes, if_neg (not_not.mpr rfl),
    if_neg (fun alive => alive.2 rfl), List.append_nil, transportHeaderBytes_sent]

/-- The T flag makes a frame of every kind but the keep-alive. -/
theorem frameKind_transportHeaderT {frame : CWProtocolMessage} (marks : kind.Marks frame)
    (dead : kind ≠ .keepAlive) :
    frameKind (transportHeaderT (dataPacketValues cut (frameType frame) kind.bindingValuesPtr
      is_crypted fragID i).sent) = kind.received := by
  have type : (dataPacketValues cut (frameType frame) kind.bindingValuesPtr is_crypted fragID
      i).sent.type = frameType frame :=
    type_dataPacketValues is_crypted fragID i cut _ _
  rw [transportHeaderT, binding_sent_dataPacketValues, type, frameType]
  cases kind with
  | ieee8023Frame =>
    simp only [DataKind.Marks, DataKind.dataMsgType] at marks
    simp [DataKind.bindingValuesPtr, DataKind.received, frameKind, marks]
  | ieee80211Frame bindingValuesPtr =>
    simp only [DataKind.Marks, DataKind.dataMsgType] at marks
    cases bindingValuesPtr <;>
      simp [DataKind.bindingValuesPtr, DataKind.received, frameKind, marks]
  | stats RSSI SNR => simp [DataKind.bindingValuesPtr, DataKind.received, frameKind]
  | freqStats RSSI => simp [DataKind.bindingValuesPtr, DataKind.received, frameKind]
  | keepAlive => exact absurd rfl dead

end Headers

/-! ## Packets -/

/-- A packet as the receiver finds it: `taken` bytes of its piece are lost to the header. -/
structure DataPacketRead (cut : Fragmentation) (fragID i : Nat) (body : List UInt8)
    (dataMsgType : CWDataMsgType) (taken : Nat) (call : ParseCall) (header : ParsedTransportHeader)
    (msg : CWProtocolMessage) : Prop where
  read : HeaderRead call header msg
  dataMsgType : msg.dataMsgType = some dataMsgType
  isFragment : header.values.isFragment = fragmentFlag cut
  kept : cut.fragmentsNum ≠ 1 → header.values.kept =
    ⟨fragID % 65536, i * cut.PMTU / 8 % 8192, if i < cut.fragmentsNum - 1 then 0 else 1⟩
  left : (call.packet.readBytes : Int) - msg.offset =
    (Pieces.piece cut.PMTU body i).length - taken

/-- The length of a keep-alive packet is only written when there is one packet. -/
def lostBytes (cut : Fragmentation) (kind : DataKind) : Nat :=
  if kind = .keepAlive ∧ cut.fragmentsNum ≠ 1 then 2 else 0

section Packets

variable {gRADIO_MAC : EthAddr} {cut : Fragmentation} {kind : DataKind} {is_crypted fragID : Nat}
  {body : List UInt8}

theorem contents_delivered {type : Nat}
    (delivery : Delivery (dataPackets gRADIO_MAC cut kind type is_crypted fragID body)) :
    ((dataPackets gRADIO_MAC cut kind type is_crypted fragID body).get delivery.index).contents =
      dataPacketHeader gRADIO_MAC cut type kind.bindingValuesPtr is_crypted kind.keepAliveArg fragID
        delivery.index ++ Pieces.piece cut.PMTU body delivery.index := by
  simp [dataPackets]

/-- A header is read off the front of the buffer. -/
theorem Reads.headerRead {headerBytes : List UInt8} {header : ParsedTransportHeader}
    {dataMsgType : CWDataMsgType} {dataFlag : Bool} {radioMAC : Option EthAddr}
    (reads : Reads (cwParseTransportHeader dataFlag radioMAC) headerBytes header (some dataMsgType))
    {packet : Packet} {rest : List UInt8} (bytes : packet.buf = headerBytes ++ rest) :
    ∃ msg, HeaderRead ⟨packet, dataFlag, radioMAC⟩ header msg ∧
      msg.dataMsgType = some dataMsgType ∧ msg.offset = headerBytes.length := by
  refine ⟨_, reads ⟨packet.buf, 0, none⟩ rest bytes, rfl, ?_⟩
  exact Nat.zero_add _

theorem dataPacketRead_frame {frame : CWProtocolMessage} (marks : kind.Marks frame)
    (dead : kind ≠ .keepAlive)
    (apart : ¬ (radioMacPresent gRADIO_MAC ∧ kind.bindingValuesPtr.isSome))
    (delivery : Delivery
      (dataPackets gRADIO_MAC cut kind (frameType frame) is_crypted fragID body))
    (onData : delivery.dataFlag = true) :
    ∃ header msg, DataPacketRead cut fragID delivery.index body kind.received 0 delivery.call header
      msg := by
  have bytes := contents_delivered delivery
  rw [dataPacketHeader_frame gRADIO_MAC is_crypted fragID _ dead] at bytes
  have reads := reads_dataHeader gRADIO_MAC
    (representable_dataPacket is_crypted fragID delivery.index cut (frameType frame)
      kind.bindingValuesPtr)
    (by rwa [binding_sent_dataPacketValues]) delivery.radioMAC
  rw [frameKind_transportHeaderT kind is_crypted fragID delivery.index marks dead, ← onData] at reads
  have buffer : delivery.call.packet.buf =
      transportHeaderBytes gRADIO_MAC (dataPacketValues cut (frameType frame) kind.bindingValuesPtr
        is_crypted fragID delivery.index).sent ++
      (Pieces.piece cut.PMTU body delivery.index ++ delivery.stale) := by
    simp only [Delivery.call, Packet.carrying, bytes, List.append_assoc]
  obtain ⟨msg, read, dataMsgType, offset⟩ := reads.headerRead buffer
  refine ⟨_, msg, read, dataMsgType, ?_, fun fragmented => ?_, ?_⟩
  · exact isFragment_dataPacketValues is_crypted fragID delivery.index cut _ _
  · exact kept_dataPacketValues is_crypted fragID delivery.index fragmented _ _
  · simp only [offset, Delivery.call, Packet.carrying, bytes, List.length_append]
    omega

/-- Behind a keep-alive header two bytes are taken for a length, whether they were written
    as one or not. -/
theorem dataPacketRead_keepAlive {type : Nat}
    (delivery : Delivery (dataPackets gRADIO_MAC cut .keepAlive type is_crypted fragID body))
    (onData : delivery.dataFlag = true) :
    ∃ header msg, DataPacketRead cut fragID delivery.index body .keepAlive
      (lostBytes cut .keepAlive) delivery.call header msg := by
  have bytes := contents_delivered delivery
  have room := delivery.room
  rw [dataPacketHeader, dataHeaderBytes, DataKind.keepAliveArg, if_pos Nat.one_ne_zero,
    ← keepAliveHeaderBytes_sent, List.append_assoc] at bytes
  generalize behind_eq : keepAliveLengthBytes cut 1 ++ Pieces.piece cut.PMTU body delivery.index =
    behind at bytes
  have long : 2 ≤ (behind ++ delivery.stale).length := by
    simp only [bytes, List.length_append, length_keepAliveHeaderBytes, maxTransportHeaderSize] at room
    rw [List.length_append]
    omega
  have two : ((behind ++ delivery.stale).take 2).length = 2 := List.length_take_of_le long
  have word := BigEndian.encode_decode ((behind ++ delivery.stale).take 2)
  have small := BigEndian.decode_lt ((behind ++ delivery.stale).take 2)
  rw [two] at word small
  have reads := reads_keepAliveHeader_data
    (representable_dataPacket is_crypted fragID delivery.index cut type none) delivery.radioMAC small
  rw [word, ← onData] at reads
  have buffer : delivery.call.packet.buf =
      (keepAliveHeaderBytes (dataPacketValues cut type none is_crypted fragID delivery.index).sent 1 ++
        (behind ++ delivery.stale).take 2) ++ (behind ++ delivery.stale).drop 2 := by
    simp only [List.append_assoc, List.take_append_drop]
    simp only [Delivery.call, Packet.carrying, bytes, List.append_assoc]
    rfl
  obtain ⟨msg, read, dataMsgType, offset⟩ := reads.headerRead buffer
  refine ⟨_, msg, read, dataMsgType, ?_, fun fragmented => ?_, ?_⟩
  · exact isFragment_dataPacketValues is_crypted fragID delivery.index cut _ _
  · exact kept_dataPacketValues is_crypted fragID delivery.index fragmented _ _
  · have size : delivery.call.packet.readBytes = 8 + behind.length := by
      simp only [Delivery.call, Packet.carrying, bytes, List.length_append,
        length_keepAliveHeaderBytes]
    rw [List.length_append, length_keepAliveHeaderBytes, two] at offset
    rw [size, offset, ← behind_eq, List.length_append, lostBytes, keepAliveLengthBytes]
    by_cases single : cut.fragmentsNum = 1
    · simp only [single, true_and, ne_eq, one_ne_zero, not_false_eq_true, if_true, not_true_eq_false,
        and_false, if_false, BigEndian.length_encode]
      omega
    · simp only [single, false_and, if_false, List.length_nil, ne_eq, not_false_eq_true, and_self,
        if_true]
      omega

end Packets

/-! ## Frames that do not come through -/

theorem not_deliversOnce {packets : List CWProtocolMessage} {contents : List UInt8}
    {dataMsgType : CWDataMsgType}
    (fails : ∀ deliveries : List (Delivery packets), (∀ delivery ∈ deliveries, delivery.dataFlag = true) →
      ∀ results, Receives [] (deliveries.map Delivery.call) results →
      ∀ message, .ok message ∈ results →
        ¬ (message.contents = contents ∧ message.dataMsgType = some dataMsgType)) :
    ¬ DeliversOnce packets contents dataMsgType := by
  intro delivers
  -- one order is enough, with nothing but zeros behind the packets
  obtain ⟨results, message, receives, single, stored, kind⟩ := delivers
    ((List.finRange packets.length).map fun index =>
      ⟨index, List.replicate maxTransportHeaderSize 0, by simp, true, none⟩)
    (by simp [Function.comp_def]) (by simp)
  exact fails _ (by simp) results receives message (mem_of_filterMap_toOption single) ⟨stored, kind⟩

/-- No call returns anything for a packet whose header is refused. -/
theorem not_deliversOnce_of_refused {packets : List CWProtocolMessage} {contents : List UInt8}
    {dataMsgType : CWDataMsgType}
    (refused : ∀ delivery : Delivery packets, delivery.dataFlag = true →
      ∀ header msg, ¬ HeaderRead delivery.call header msg) :
    ¬ DeliversOnce packets contents dataMsgType := by
  refine not_deliversOnce fun deliveries onData results receives message member _ => ?_
  refine receives.messages (fun _ => True) (fun _ => False) ?_ trivial message member
  intro fragmentsList call inside outcome _ returns
  obtain ⟨delivery, among, rfl⟩ := List.mem_map.mp inside
  refine ⟨trivial, fun message result => ?_⟩
  obtain ⟨header, msg, read, -⟩ := returns.message result
  exact refused delivery (onData delivery among) header msg read

/-- Every message has the kind that all the headers announce. -/
theorem Receives.dataMsgType {packets : List CWProtocolMessage} {dataMsgType : CWDataMsgType}
    (announce : ∀ delivery : Delivery packets, delivery.dataFlag = true →
      ∃ header msg, HeaderRead delivery.call header msg ∧ msg.dataMsgType = some dataMsgType)
    {deliveries : List (Delivery packets)} (onData : ∀ delivery ∈ deliveries, delivery.dataFlag = true)
    {results : List (Except Failure CWProtocolMessage)}
    (receives : Receives [] (deliveries.map Delivery.call) results) :
    ∀ message, .ok message ∈ results → message.dataMsgType = some dataMsgType := by
  refine receives.messages (fun _ => True) (fun message => message.dataMsgType = some dataMsgType) ?_
    trivial
  intro fragmentsList call inside outcome _ returns
  obtain ⟨delivery, among, rfl⟩ := List.mem_map.mp inside
  refine ⟨trivial, fun message result => ?_⟩
  obtain ⟨header, msg, read, kind, -⟩ := returns.message result
  obtain ⟨header', msg', read', announced⟩ := announce delivery (onData delivery among)
  obtain ⟨rfl, rfl⟩ := read.unique read'
  rw [kind, announced]

theorem not_deliversOnce_of_kind {packets : List CWProtocolMessage} {contents : List UInt8}
    {received sent : CWDataMsgType} (other : received ≠ sent)
    (announce : ∀ delivery : Delivery packets, delivery.dataFlag = true →
      ∃ header msg, HeaderRead delivery.call header msg ∧ msg.dataMsgType = some received) :
    ¬ DeliversOnce packets contents sent := by
  refine not_deliversOnce fun deliveries onData results receives message member both => ?_
  have kind := receives.dataMsgType announce onData message member
  rw [both.2] at kind
  exact other (Option.some.inj kind).symm

theorem not_deliversOnce_of_endsBefore {packets : List CWProtocolMessage} {contents : List UInt8}
    {dataMsgType : CWDataMsgType} (nonempty : 0 < contents.length)
    (ends : ∀ delivery : Delivery packets, delivery.dataFlag = true →
      CallEndsBefore contents.length delivery.call) :
    ¬ DeliversOnce packets contents dataMsgType := by
  refine not_deliversOnce fun deliveries onData results receives message member both => ?_
  refine receives.messages (EndsBefore contents.length)
    (fun message => message.contents.length ≠ contents.length) ?_ (fun _ inside => nomatch inside)
    message member (congrArg List.length both.1)
  intro fragmentsList call inside outcome before returns
  obtain ⟨delivery, among, rfl⟩ := List.mem_map.mp inside
  exact before.step nonempty (ends delivery (onData delivery among)) returns

/-- The last fragment ends early where its offset does not fit the field or bytes of it are
    taken for a length. -/
theorem DataPacketRead.callEndsBefore {cut : Fragmentation} {fragID i taken : Nat}
    {body : List UInt8} {dataMsgType : CWDataMsgType} {call : ParseCall}
    {header : ParsedTransportHeader} {msg : CWProtocolMessage}
    (read : DataPacketRead cut fragID i body dataMsgType taken call header msg)
    (units : 8 ∣ cut.PMTU) (positive : 0 < cut.PMTU)
    (counted : cut.fragmentsNum = Pieces.count cut.PMTU body.length) (small : i < cut.fragmentsNum)
    (fragmented : cut.fragmentsNum ≠ 1)
    (short : 0 < taken ∨ 65536 ≤ (cut.fragmentsNum - 1) * cut.PMTU) :
    CallEndsBefore body.length call := by
  intro header' msg' read'
  obtain ⟨rfl, rfl⟩ := read.read.unique read'
  have kept := read.kept fragmented
  have flag := read.isFragment
  rw [fragmentFlag, if_neg fragmented] at flag
  refine ⟨by omega, fun last => ?_⟩
  have isLast : header.values.last = if i < cut.fragmentsNum - 1 then 0 else 1 :=
    congrArg FragmentValues.last kept
  have offset : header.values.fragmentOffset = i * cut.PMTU / 8 % 8192 :=
    congrArg FragmentValues.fragmentOffset kept
  have final : i + 1 = cut.fragmentsNum := by
    split at isLast <;> omega
  have inside : i < Pieces.count cut.PMTU body.length := counted ▸ small
  have length := Pieces.length_piece_last positive (final.trans counted)
  have before := Pieces.mul_lt_length positive inside
  have index : cut.fragmentsNum - 1 = i := by omega
  rw [index] at short
  rw [read.left, offset, length]
  obtain ⟨k, size⟩ := units
  rw [size, Nat.mul_left_comm] at before short ⊢
  rw [Nat.mul_div_cancel_left _ (by decide)]
  generalize i * k = units at before short ⊢
  omega

/-! ## Frames that do -/

/-- Packets of which all but the last one make the receiver wait. -/
theorem deliversOnce_of_waits {packets : List CWProtocolMessage} {contents : List UInt8}
    {dataMsgType : CWDataMsgType} (positive : 0 < packets.length)
    (announce : ∀ delivery : Delivery packets, delivery.dataFlag = true →
      ∃ header msg, HeaderRead delivery.call header msg ∧ msg.dataMsgType = some dataMsgType)
    (waits : ∀ (deliveries : List (Delivery packets)) (next : Delivery packets),
      (∀ delivery ∈ deliveries, delivery.index ≠ next.index) → next.dataFlag = true →
      (∀ index, ∃ delivery ∈ next :: deliveries, delivery.index = index) →
      ∃ fragmentsList, Run.Trace Waits [] (deliveries.map Delivery.call) fragmentsList ∧
        Completes fragmentsList next.call contents) :
    DeliversOnce packets contents dataMsgType := by
  intro deliveries permutation onData
  rcases List.eq_nil_or_concat deliveries with rfl | ⟨earlier, last, rfl⟩
  · have lengths := permutation.length_eq
    simp only [List.map_nil, List.length_nil, List.length_finRange] at lengths
    omega
  · rw [List.concat_eq_append] at permutation onData ⊢
    have nodup : ((earlier ++ [last]).map Delivery.index).Nodup :=
      permutation.nodup_iff.mpr (List.nodup_finRange _)
    rw [List.map_append, List.nodup_append'] at nodup
    have others : ∀ delivery ∈ earlier, delivery.index ≠ last.index := by
      intro delivery member same
      exact nodup.2.2 (List.mem_map_of_mem member) (by simp [same])
    have every : ∀ index, ∃ delivery ∈ last :: earlier, delivery.index = index := by
      intro index
      have member := permutation.mem_iff.mpr (List.mem_finRange index)
      obtain ⟨delivery, inside, here⟩ := List.mem_map.mp member
      exact ⟨delivery, by simpa [or_comm] using inside, here⟩
    obtain ⟨fragmentsList, trace, completes⟩ :=
      waits earlier last others (onData last (by simp)) every
    obtain ⟨results, message, receives, single, stored⟩ := receives_of_waits trace completes
    have calls : earlier.map Delivery.call ++ [last.call] =
        (earlier ++ [last]).map Delivery.call := by simp
    rw [calls] at receives
    exact ⟨results, message, receives, single, stored, receives.dataMsgType announce onData message
      (mem_of_filterMap_toOption single)⟩

section Whole

variable {gRADIO_MAC : EthAddr} {cut : Fragmentation} {kind : DataKind} {is_crypted fragID : Nat}
  {body : List UInt8} {frame : CWProtocolMessage}

/-- A packet of its own completes the frame at once. -/
theorem completes_single (single : cut.fragmentsNum = 1) (whole : Pieces.piece cut.PMTU body 0 = body)
    (apart : ¬ (radioMacPresent gRADIO_MAC ∧ kind.bindingValuesPtr.isSome)) {type : Nat}
    (next : Delivery (dataPackets gRADIO_MAC cut kind type is_crypted fragID body))
    (onData : next.dataFlag = true) : Completes [] next.call body := by
  have first : next.index.val = 0 := by
    have small := next.index.isLt.trans_eq (length_dataPackets ..)
    omega
  have bytes := contents_delivered next
  rw [first, whole] at bytes
  have plain : (dataPacketValues cut type kind.bindingValuesPtr is_crypted fragID 0).sent.isFragment =
      0 :=
    (isFragment_dataPacketValues is_crypted fragID 0 cut _ _).trans (if_pos single)
  have representable := representable_dataPacket is_crypted fragID 0 cut type kind.bindingValuesPtr
  rw [Delivery.call, onData]
  by_cases alive : kind = .keepAlive
  · subst alive
    have reads := reads_keepAliveHeader_data representable next.radioMAC
      (show keepAliveMessageElementLength < 65536 by decide)
    rw [keepAliveHeaderBytes_sent] at reads
    rw [dataPacketHeader, dataHeaderBytes, DataKind.keepAliveArg, if_pos Nat.one_ne_zero,
      keepAliveLengthBytes, if_pos ⟨single, Nat.one_ne_zero⟩] at bytes
    exact completes_carrying bytes next.room reads plain
  · have reads := reads_dataHeader gRADIO_MAC representable (by rwa [binding_sent_dataPacketValues])
      next.radioMAC
    rw [dataPacketHeader_frame gRADIO_MAC is_crypted fragID 0 alive] at bytes
    exact completes_carrying bytes next.room reads plain

/-- The fragments of a frame that is no keep-alive are pieces of it. -/
theorem reassembles_dataPackets (units : 8 ∣ cut.PMTU) (positive : 0 < cut.PMTU)
    (nonempty : 0 < body.length)
    (counted : cut.fragmentsNum = Pieces.count cut.PMTU body.length)
    (fragmented : cut.fragmentsNum ≠ 1) (dead : kind ≠ .keepAlive)
    (apart : ¬ (radioMacPresent gRADIO_MAC ∧ kind.bindingValuesPtr.isSome))
    (near : (cut.fragmentsNum - 1) * cut.PMTU < 65536) (type : Nat) :
    Reassembles (dataPackets gRADIO_MAC cut kind type is_crypted fragID body) body := by
  have pieces : ∀ i < cut.fragmentsNum, ReadsAsPiece (fragID % 65536) cut.PMTU body i
      (filled (dataPacketHeader gRADIO_MAC cut type kind.bindingValuesPtr is_crypted
        kind.keepAliveArg fragID i ++ Pieces.piece cut.PMTU body i) 0).contents := by
    intro i small
    rw [contents_filled, dataPacketHeader_frame gRADIO_MAC is_crypted fragID i dead]
    refine ⟨_, rfl, fun dataFlag radioMAC => ?_⟩
    obtain ⟨assigned, reads⟩ := reads_assembledHeader gRADIO_MAC
      (representable_dataPacket is_crypted fragID i cut type kind.bindingValuesPtr)
      (by rwa [binding_sent_dataPacketValues]) dataFlag radioMAC
    refine ⟨_, assigned, reads, ?_, ?_⟩
    · have flag := isFragment_dataPacketValues is_crypted fragID i cut type kind.bindingValuesPtr
      rw [fragmentFlag, if_neg fragmented] at flag
      exact ne_of_eq_of_ne flag Nat.one_ne_zero
    · have inField : i * cut.PMTU / 8 % 8192 = i * cut.PMTU / 8 := by
        have before : i * cut.PMTU ≤ (cut.fragmentsNum - 1) * cut.PMTU :=
          Nat.mul_le_mul_right _ (by omega)
        omega
      refine (kept_dataPacketValues is_crypted fragID i fragmented type kind.bindingValuesPtr).trans ?_
      rw [inField, counted]
      rfl
  rw [counted] at pieces
  rw [dataPackets, counted]
  exact reassembles_of_pieces units positive nonempty pieces

/-- With both optional parts no packet has a header the receiver takes. -/
theorem not_headerRead_of_both (present : radioMacPresent gRADIO_MAC)
    (bound : kind.bindingValuesPtr.isSome) {type : Nat}
    (delivery : Delivery (dataPackets gRADIO_MAC cut kind type is_crypted fragID body))
    (onData : delivery.dataFlag = true) (header : ParsedTransportHeader) (msg : CWProtocolMessage) :
    ¬ HeaderRead delivery.call header msg := by
  have dead : kind ≠ .keepAlive := by
    rintro rfl
    cases bound
  have bytes := contents_delivered delivery
  rw [dataPacketHeader_frame gRADIO_MAC is_crypted fragID _ dead] at bytes
  have refuses := refuses_dataHeader present
    (representable_dataPacket is_crypted fragID delivery.index cut type kind.bindingValuesPtr)
    (by rwa [binding_sent_dataPacketValues]) delivery.radioMAC
  obtain ⟨failure, left, refused⟩ := refuses ⟨delivery.call.packet.buf, 0, none⟩
    (Pieces.piece cut.PMTU body delivery.index ++ delivery.stale) (by
      simp only [Delivery.call, Packet.carrying, bytes, List.append_assoc, List.drop_zero])
  rw [← onData] at refused
  intro read
  rw [HeaderRead] at read
  rw [Delivery.call] at read refused
  rw [refused] at read
  cases read

/-- Every other packet is read. -/
theorem dataPacketRead (marks : kind.Marks frame)
    (apart : ¬ (radioMacPresent gRADIO_MAC ∧ kind.bindingValuesPtr.isSome))
    (delivery : Delivery
      (dataPackets gRADIO_MAC cut kind (frameType frame) is_crypted fragID body))
    (onData : delivery.dataFlag = true) :
    ∃ header msg, DataPacketRead cut fragID delivery.index body kind.received (lostBytes cut kind)
      delivery.call header msg := by
  by_cases alive : kind = .keepAlive
  · subst alive
    exact dataPacketRead_keepAlive delivery onData
  · have none : lostBytes cut kind = 0 := if_neg fun both => alive both.1
    rw [none]
    exact dataPacketRead_frame marks alive apart delivery onData

end Whole

/-! ## Which frames come through -/

/-- Statistics are told from frames by their data rate, which the T flag overrules; the two
    optional parts of a header are written in one order and read in the other; a keep-alive in
    fragments has no length; and an offset has thirteen bits. -/
structure ComesThrough (gRADIO_MAC : EthAddr) (cut : Fragmentation) (kind : DataKind) : Prop where
  notStats : ∀ RSSI SNR, kind ≠ .stats RSSI SNR
  notFreqStats : ∀ RSSI, kind ≠ .freqStats RSSI
  apart : ¬ (radioMacPresent gRADIO_MAC ∧ kind.bindingValuesPtr.isSome)
  whole : kind = .keepAlive → cut.fragmentsNum = 1
  near : (cut.fragmentsNum - 1) * cut.PMTU < 65536

theorem received_eq_iff (kind : DataKind) :
    kind.received = kind.dataMsgType ↔
      (∀ RSSI SNR, kind ≠ .stats RSSI SNR) ∧ ∀ RSSI, kind ≠ .freqStats RSSI := by
  cases kind <;> simp [DataKind.received, DataKind.dataMsgType]

theorem cwAssembleDataMessage_deliversOnce_iff (gRADIO_MAC : EthAddr) {PMTU : Int}
    (room : 8 ≤ PMTU - gMaxCAPWAPHeaderSizeBinding) (kind : DataKind) {frame : CWProtocolMessage}
    (valid : frame.Valid) (nonempty : 0 < frame.offset) (marks : kind.Marks frame)
    (is_crypted fragID : Nat) :
    (∃ packets,
      cwAssembleDataMessage gRADIO_MAC PMTU frame kind.bindingValuesPtr is_crypted kind.keepAliveArg
        fragID = .ok packets ∧
      DeliversOnce packets frame.contents kind.dataMsgType) ↔
      ComesThrough gRADIO_MAC (dataCut PMTU frame.offset) kind := by
  have length := valid.length_contents
  generalize cut_eq : dataCut PMTU frame.offset = cut
  have assembled := cwAssembleDataMessage_eq gRADIO_MAC room valid kind.bindingValuesPtr is_crypted
    kind.keepAliveArg fragID cut_eq.symm
  have positive : 0 < cut.PMTU := by
    simp only [← cut_eq, dataCut, gMaxCAPWAPHeaderSizeBinding] at room ⊢
    omega
  have units : 8 ∣ cut.PMTU := by
    rw [← cut_eq, dataCut]
    exact Nat.dvd_mul_left _ _
  have counted : cut.fragmentsNum = Pieces.count cut.PMTU frame.contents.length := by
    rw [length, ← cut_eq]
    rfl
  have inhabited : 0 < frame.contents.length := by omega
  have some : 0 < cut.fragmentsNum := by
    rw [counted]
    exact Pieces.count_pos inhabited
  have packets : (∃ packets,
      cwAssembleDataMessage gRADIO_MAC PMTU frame kind.bindingValuesPtr is_crypted kind.keepAliveArg
        fragID = .ok packets ∧
      DeliversOnce packets frame.contents kind.dataMsgType) ↔
      DeliversOnce (dataPackets gRADIO_MAC cut kind (frameType frame) is_crypted fragID frame.contents)
        frame.contents kind.dataMsgType := by
    constructor
    · rintro ⟨packets, same, delivers⟩
      rw [assembled] at same
      cases same
      exact delivers
    · intro delivers
      exact ⟨_, assembled, delivers⟩
  rw [packets]
  constructor
  · intro delivers
    have apart : ¬ (radioMacPresent gRADIO_MAC ∧ kind.bindingValuesPtr.isSome) := fun both =>
      not_deliversOnce_of_refused (not_headerRead_of_both both.1 both.2) delivers
    have same : kind.received = kind.dataMsgType := by
      by_contra other
      refine not_deliversOnce_of_kind other (fun delivery onData => ?_) delivers
      obtain ⟨header, msg, read⟩ := dataPacketRead marks apart delivery onData
      exact ⟨header, msg, read.read, read.dataMsgType⟩
    have early : cut.fragmentsNum ≠ 1 →
        ¬ (0 < lostBytes cut kind ∨ 65536 ≤ (cut.fragmentsNum - 1) * cut.PMTU) := by
      intro fragmented short
      refine not_deliversOnce_of_endsBefore inhabited (fun delivery onData => ?_) delivers
      obtain ⟨header, msg, read⟩ := dataPacketRead marks apart delivery onData
      exact read.callEndsBefore units positive counted
        (delivery.index.isLt.trans_eq (length_dataPackets ..)) fragmented short
    obtain ⟨notStats, notFreqStats⟩ := (received_eq_iff kind).mp same
    refine ⟨notStats, notFreqStats, apart, fun alive => ?_, ?_⟩
    · by_contra fragmented
      exact early fragmented (.inl (by simp [lostBytes, alive, fragmented]))
    · by_cases single : cut.fragmentsNum = 1
      · simp [single]
      · have near := early single
        omega
  · rintro ⟨notStats, notFreqStats, apart, whole, near⟩
    have same := (received_eq_iff kind).mpr ⟨notStats, notFreqStats⟩
    refine deliversOnce_of_waits (some.trans_eq (length_dataPackets ..).symm)
      (fun delivery onData => ?_) fun deliveries next others onData every => ?_
    · obtain ⟨header, msg, read⟩ := dataPacketRead marks apart delivery onData
      exact ⟨header, msg, read.read, by rw [read.dataMsgType, same]⟩
    · by_cases single : cut.fragmentsNum = 1
      · have first : deliveries = [] := by
          -- the only packet there is comes last
          refine List.eq_nil_iff_forall_not_mem.mpr fun delivery member => ?_
          have here := delivery.index.isLt.trans_eq (length_dataPackets ..)
          have last := next.index.isLt.trans_eq (length_dataPackets ..)
          exact others delivery member (Fin.ext (by omega))
        subst first
        exact ⟨[], .nil [], completes_single single
          (piece_eq_of_single positive (counted ▸ single)) apart next onData⟩
      · have dead : kind ≠ .keepAlive := fun alive => single (whole alive)
        obtain ⟨fragmentsList, trace, completes⟩ := reassembles_dataPackets units positive inhabited
          counted single dead apart near (frameType frame) deliveries next.index others
        exact ⟨fragmentsList, trace, completes next every⟩

/-- A frame of ten bytes that goes out in two fragments. -/
def etherFrame : CWProtocolMessage :=
  { filled [1, 2, 3, 4, 5, 6, 7, 8, 9, 10] 0 with dataMsgType := some .ieee8023Frame }

theorem comesThrough_etherFrame : ComesThrough defaultRadioMAC (dataCut 24 10) .ieee8023Frame where
  notStats RSSI SNR same := by cases same
  notFreqStats RSSI same := by cases same
  apart both := by cases both.2
  whole same := by cases same
  near := Nat.lt_of_lt_of_le (Nat.lt_succ_self 8) (Nat.le_add_left 9 65527)

theorem etherFrame_deliversOnce :
    ∃ packets,
      cwAssembleDataMessage defaultRadioMAC 24 etherFrame none cwPacketPlain 0 70000 = .ok packets ∧
      DeliversOnce packets [1, 2, 3, 4, 5, 6, 7, 8, 9, 10] .ieee8023Frame := by
  have room : (8 : Int) ≤ 24 - gMaxCAPWAPHeaderSizeBinding := by
    simp only [gMaxCAPWAPHeaderSizeBinding]
    omega
  have valid : etherFrame.Valid := valid_filled _ 0
  exact (cwAssembleDataMessage_deliversOnce_iff defaultRadioMAC room .ieee8023Frame valid
    (Nat.succ_pos 9) rfl cwPacketPlain 70000).mpr comesThrough_etherFrame

/-- Statistics of three bytes arrive as an 802.11 frame. -/
theorem stats_not_deliversOnce :
    ¬ ∃ packets,
      cwAssembleDataMessage noRadioMAC 24 (filled [1, 2, 3] 0)
        (some ⟨40, 30, statisticsDataRate⟩) cwPacketPlain 0 7 = .ok packets ∧
      DeliversOnce packets [1, 2, 3] .stats := by
  rintro ⟨packets, assembled, delivers⟩
  rw [cwAssembleDataMessage_eq noRadioMAC (by decide) (valid_filled _ _) _ _ _ _ rfl] at assembled
  cases assembled
  have sent : DeliversOnce (dataPackets noRadioMAC (dataCut 24 3) (.stats 40 30)
      (frameType (filled [1, 2, 3] 0)) cwPacketPlain 7 [1, 2, 3]) [1, 2, 3] .stats := delivers
  refine not_deliversOnce_of_kind (show CWDataMsgType.ieee80211Frame ≠ .stats by decide)
    (fun delivery onData => ?_) sent
  have marks : DataKind.Marks (.stats 40 30) (filled [1, 2, 3] 0) := trivial
  obtain ⟨header, msg, read⟩ :=
    dataPacketRead marks (fun both => absurd both.1 (by decide)) delivery onData
  exact ⟨header, msg, read.read, read.dataMsgType⟩

end WlanController.Protocol
