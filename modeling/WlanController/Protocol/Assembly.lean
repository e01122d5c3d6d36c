import WlanController.Foundation.Pieces
import WlanController.Protocol.TransportHeader

/-!
# Assembling messages

Control messages and data frames are put together and, where they do not fit one
packet, cut into fragments of whole eight-byte units.  The fragment identifier that
`CWGetFragmentID` hands out and the value of an uninitialized `type` are parameters.
-/

namespace WlanController.Protocol

def gMaxDTLSHeaderSize : Nat := 25
def gMaxCAPWAPHeaderSize : Nat := 8

structure CWControlHeaderValues where
  messageTypeValue : UInt32
  seqNum : UInt8
  msgElemsLen : UInt16
  deriving DecidableEq, Repr

def cwControlHeaderOffsetForMsgElems : Nat := 3

def cwAssembleControlHeader (values : CWControlHeaderValues) : Except Failure CWProtocolMessage :=
  assembleInto 8 do
    cwProtocolStore32 values.messageTypeValue.toNat
    cwProtocolStore8 values.seqNum.toNat
    cwProtocolStore16 (cwControlHeaderOffsetForMsgElems + values.msgElemsLen.toNat)
    cwProtocolStore8 0

/-- How a message is cut: the bytes of a fragment and the number of fragments. -/
structure Fragmentation where
  PMTU : Nat
  fragmentsNum : Nat
  deriving DecidableEq, Repr

/-- `PMTU` is what is left for the payload; without room for eight bytes the message is
    not cut at all. -/
def handleFragmentation (PMTU : Int) (size : Nat) : Fragmentation :=
  let PMTU := PMTU.toNat / 8 * 8
  if PMTU = 0 then ⟨0, 1⟩
  else ⟨PMTU, size / PMTU + if size % PMTU ≠ 0 then 1 else 0⟩

/-- One round of the fragment loop for each of the `remaining` fragments, from index `i`
    and message offset `offset` on. -/
def assembleFragments
    (assembleHeader : CWProtocolTransportHeaderValues → Except Failure CWProtocolMessage)
    (transportVal : CWProtocolTransportHeaderValues) (msg : CWProtocolMessage)
    (cut : Fragmentation) (totalSize : Nat) :
    (remaining i offset : Nat) → Except Failure (List CWProtocolMessage)
  | 0, _, _ => return []
  | remaining + 1, i, offset => do
    let notLast := i < cut.fragmentsNum - 1
    let fragSize := if notLast then cut.PMTU else totalSize - (cut.fragmentsNum - 1) * cut.PMTU
    let transportHdr ← assembleHeader { transportVal with
      isFragment := 1
      fragmentOffset := offset / 8
      last := if notLast then 0 else 1 }
    let bytes ← msg.bytesAt offset fragSize
    let fragment ← assembleInto (transportHdr.offset + fragSize) do
      cwProtocolStoreMessage transportHdr
      cwProtocolStoreRawBytes bytes
    let fragments ← assembleFragments assembleHeader transportVal msg cut totalSize remaining
      (i + 1) (offset + fragSize)
    return fragment :: fragments

/-- The size of all message elements. -/
def msgElemsLength (msgElems : List CWProtocolMessage) : Nat := (msgElems.map (·.offset)).sum

def cwAssembleMessage (gRADIO_MAC : EthAddr) (PMTU : Int) (seqNum msgTypeValue : Nat)
    (msgElems msgElemsBinding : List CWProtocolMessage) (is_crypted : Nat)
    (fragID uninitializedType : Nat) : Except Failure (List CWProtocolMessage) := do
  let msgElemsLen := msgElemsLength msgElems + msgElemsLength msgElemsBinding
  let controlHdr ← cwAssembleControlHeader
    ⟨.ofNat msgTypeValue, .ofNat seqNum, .ofNat msgElemsLen⟩
  let msg ← assembleInto (controlHdr.offset + msgElemsLen) do
    cwProtocolStoreMessage controlHdr
    msgElems.forM cwProtocolStoreMessage
    msgElemsBinding.forM cwProtocolStoreMessage
  let cut := handleFragmentation (PMTU - gMaxDTLSHeaderSize - gMaxCAPWAPHeaderSize) msg.offset
  let transportVal : CWProtocolTransportHeaderValues :=
    { payloadType := is_crypted, type := 0, isFragment := 0, last := 0, fragmentID := 0,
      fragmentOffset := 0, keepAlive := 0, bindingValuesPtr := none }
  if cut.fragmentsNum = 1 then
    let transportHdr ← cwAssembleTransportHeader gRADIO_MAC transportVal
    let completeMsg ← assembleInto (transportHdr.offset + msg.offset) do
      cwProtocolStoreMessage transportHdr
      cwProtocolStoreMessage msg
    return [completeMsg]
  else
    assembleFragments (cwAssembleTransportHeader gRADIO_MAC)
      { transportVal with type := uninitializedType, fragmentID := fragID }
      msg cut msg.offset cut.fragmentsNum 0 0

/-- What the source stores as the message element length of a keep-alive packet. -/
def keepAliveMessageElementLength : Nat := 22

def assembleDataHeader (gRADIO_MAC : EthAddr) (keepAlive : Nat)
    (transportVal : CWProtocolTransportHeaderValues) : Except Failure CWProtocolMessage :=
  if keepAlive ≠ 0 then cwAssembleTransportHeaderKeepAliveData transportVal keepAlive
  else cwAssembleTransportHeader gRADIO_MAC transportVal

def cwAssembleDataMessage (gRADIO_MAC : EthAddr) (PMTU : Int) (frame : CWProtocolMessage)
    (bindingValuesPtr : Option CWBindingTransportHeaderValues) (is_crypted keepAlive fragID : Nat) :
    Except Failure (List CWProtocolMessage) := do
  let cut := handleFragmentation (PMTU - gMaxCAPWAPHeaderSizeBinding) frame.offset
  let transportVal : CWProtocolTransportHeaderValues :=
    { payloadType := is_crypted, type := if frame.dataMsgType = some .ieee80211Frame then 1 else 0,
      isFragment := 0, last := 0, fragmentID := 0, fragmentOffset := 0, keepAlive := 0,
      bindingValuesPtr }
  if cut.fragmentsNum = 1 then
    let transportHdr ← assembleDataHeader gRADIO_MAC keepAlive transportVal
    let completeMsg ←
      assembleInto (transportHdr.offset + frame.offset + if keepAlive ≠ 0 then 2 else 0) do
        cwProtocolStoreMessage transportHdr
        if keepAlive ≠ 0 then cwProtocolStore16 keepAliveMessageElementLength
        cwProtocolStoreMessage frame
    return [completeMsg]
  else
    assembleFragments (assembleDataHeader gRADIO_MAC keepAlive)
      { transportVal with fragmentID := fragID } frame cut frame.offset cut.fragmentsNum 0 0

end WlanController.Protocol
