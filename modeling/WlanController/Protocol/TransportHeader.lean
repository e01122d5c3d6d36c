import WlanController.Common.EthAddr
import WlanController.Foundation.BitField
import WlanController.Protocol.Message

/-!
# The CAPWAP transport header

The assembler and the parser of the transport header, with the optional radio MAC
address and the optional wireless binding information, and the assembler the
keep-alive packets use instead.
-/

namespace WlanController.Protocol

open BitField (Field)

/-! ## Words -/

def cwSetField32 (src : BitVec 32) (field : Field) (val : BitVec 32) : BitVec 32 :=
  src ||| ((~~~(0xFFFFFFFF#32 <<< field.len) &&& val) <<< (32 - field.start - field.len))

/-- `CWGetField32` on an `unsigned int`. -/
def cwGetField32 (src : BitVec 32) (field : Field) : BitVec 32 :=
  ~~~(0xFFFFFFFF#32 <<< field.len) &&& (src >>> (32 - field.start - field.len))

/-- `CWGetField32` on an `int`, where the shift copies the sign. -/
def cwGetField32Signed (src : BitVec 32) (field : Field) : BitVec 32 :=
  ~~~(0xFFFFFFFF#32 <<< field.len) &&& src.sshiftRight (32 - field.start - field.len)

/-- The word that successive `CWSetField32` calls leave in a variable set to zero. -/
def cwSetFields32 (entries : List (Field × BitVec 32)) : BitVec 32 :=
  entries.foldl (fun val entry => cwSetField32 val entry.1 entry.2) 0

def cwTransportHeaderVersion : Field := ⟨0, 4⟩
def cwTransportHeaderType : Field := ⟨4, 4⟩
def cwTransportHeaderHLEN : Field := ⟨8, 5⟩
def cwTransportHeaderRID : Field := ⟨13, 5⟩
def cwTransportHeaderWBID : Field := ⟨18, 5⟩
def cwTransportHeaderT : Field := ⟨23, 1⟩
def cwTransportHeaderF : Field := ⟨24, 1⟩
def cwTransportHeaderL : Field := ⟨25, 1⟩
def cwTransportHeaderW : Field := ⟨26, 1⟩
def cwTransportHeaderM : Field := ⟨27, 1⟩
def cwTransportHeaderK : Field := ⟨28, 1⟩
def cwTransportHeaderFlags : Field := ⟨29, 3⟩
def cwTransportHeaderFragmentID : Field := ⟨0, 16⟩
def cwTransportHeaderFragmentOffset : Field := ⟨16, 13⟩
def cwTransportHeaderReserved : Field := ⟨29, 3⟩
def cwTransportHeaderLength : Field := ⟨0, 8⟩
def cwTransportHeaderRSSI : Field := ⟨8, 8⟩
def cwTransportHeaderSNR : Field := ⟨16, 8⟩
def cwTransportHeaderDataRate1 : Field := ⟨24, 8⟩
def cwTransportHeaderDataRate2 : Field := ⟨0, 8⟩
def cwTransportHeaderPadding : Field := ⟨8, 24⟩

/-! ## Header values -/

def cwProtocolVersion : Nat := 0
def cwPacketPlain : Nat := 0
def cwBindingHLEN : Nat := 4
def cwBindingDataLength : Nat := 4
def gMaxCAPWAPHeaderSizeBinding : Nat := 16

/-- `dataRate` is the bit pattern of an `int`; its two low bytes are sent. -/
structure CWBindingTransportHeaderValues where
  RSSI : UInt8
  SNR : UInt8
  dataRate : BitVec 32
  deriving DecidableEq, Repr

structure CWProtocolTransportHeaderValues where
  payloadType : Nat
  type : Nat
  isFragment : Nat
  last : Nat
  fragmentID : Nat
  fragmentOffset : Nat
  keepAlive : Nat
  bindingValuesPtr : Option CWBindingTransportHeaderValues
  deriving DecidableEq, Repr

/-! ## Assembling -/

/-- A call that allocates a message and stores into it. -/
def assembleInto (size : Nat) (program : MessageM Unit) : Except Failure CWProtocolMessage :=
  match program.run (cwCreateProtocolMessage size) with
  | .ok _ message => .ok message
  | .error failure _ => .error failure

/-- A radio MAC address is set once one of its bytes is not zero. -/
def radioMacPresent (gRADIO_MAC : EthAddr) : Bool := gRADIO_MAC.bytes.any (· != 0)

def bindingFirstWord (values : CWBindingTransportHeaderValues) : BitVec 32 :=
  cwSetFields32
    [(cwTransportHeaderLength, BitVec.ofNat 32 cwBindingDataLength),
     (cwTransportHeaderRSSI, BitVec.ofNat 32 values.RSSI.toNat),
     (cwTransportHeaderSNR, BitVec.ofNat 32 values.SNR.toNat),
     (cwTransportHeaderDataRate1, values.dataRate.sshiftRight 8)]

def bindingSecondWord (values : CWBindingTransportHeaderValues) : BitVec 32 :=
  cwSetFields32
    [(cwTransportHeaderDataRate2, values.dataRate &&& 0x000000FF#32),
     (cwTransportHeaderPadding, 0)]

def cwAssembleTransportHeaderBinding (values : CWBindingTransportHeaderValues) :
    MessageM Unit := do
  cwProtocolStore32 (bindingFirstWord values).toNat
  cwProtocolStore32 (bindingSecondWord values).toNat

/-- The length of the header in four-byte words. -/
def transportHeaderHLEN (gRADIO_MAC : EthAddr)
    (bindingValuesPtr : Option CWBindingTransportHeaderValues) : Nat :=
  if radioMacPresent gRADIO_MAC then
    if bindingValuesPtr.isSome then cwBindingHLEN + 2 else 2 + 2
  else
    if bindingValuesPtr.isSome then cwBindingHLEN else 2

/-- The T flag: the payload is a native 802.11 frame. -/
def transportHeaderT (values : CWProtocolTransportHeaderValues) : Nat :=
  if values.bindingValuesPtr.isSome then 1 else if values.type = 1 then 1 else 0

def transportHeaderFirstWord (gRADIO_MAC : EthAddr) (values : CWProtocolTransportHeaderValues) :
    BitVec 32 :=
  cwSetFields32
    [(cwTransportHeaderVersion, BitVec.ofNat 32 cwProtocolVersion),
     (cwTransportHeaderType, BitVec.ofNat 32 (if values.payloadType = cwPacketPlain then 0 else 1)),
     (cwTransportHeaderHLEN,
       BitVec.ofNat 32 (transportHeaderHLEN gRADIO_MAC values.bindingValuesPtr)),
     (cwTransportHeaderRID, BitVec.ofNat 32 0),
     (cwTransportHeaderWBID, BitVec.ofNat 32 1),
     (cwTransportHeaderT, BitVec.ofNat 32 (transportHeaderT values)),
     (cwTransportHeaderF, BitVec.ofNat 32 values.isFragment),
     (cwTransportHeaderL, BitVec.ofNat 32 values.last),
     (cwTransportHeaderW, BitVec.ofNat 32 (if values.bindingValuesPtr.isSome then 1 else 0)),
     (cwTransportHeaderM, BitVec.ofNat 32 (if radioMacPresent gRADIO_MAC then 1 else 0)),
     (cwTransportHeaderK, BitVec.ofNat 32 0),
     (cwTransportHeaderFlags, BitVec.ofNat 32 0)]

def transportHeaderSecondWord (values : CWProtocolTransportHeaderValues) : BitVec 32 :=
  cwSetFields32
    [(cwTransportHeaderFragmentID, BitVec.ofNat 32 values.fragmentID),
     (cwTransportHeaderFragmentOffset, BitVec.ofNat 32 values.fragmentOffset),
     (cwTransportHeaderReserved, BitVec.ofNat 32 0)]

def cwAssembleTransportHeader (gRADIO_MAC : EthAddr) (values : CWProtocolTransportHeaderValues) :
    Except Failure CWProtocolMessage :=
  let radioMacBytes := if radioMacPresent gRADIO_MAC then 8 else 0
  let size :=
    if values.bindingValuesPtr.isSome then gMaxCAPWAPHeaderSizeBinding + radioMacBytes
    else 8 + radioMacBytes
  assembleInto size do
    cwProtocolStore32 (transportHeaderFirstWord gRADIO_MAC values).toNat
    cwProtocolStore32 (transportHeaderSecondWord values).toNat
    if radioMacPresent gRADIO_MAC then
      cwProtocolStore8 6
      cwProtocolStoreRawBytes gRADIO_MAC.bytes
      cwProtocolStore8 0
    match values.bindingValuesPtr with
    | some bindingValues => cwAssembleTransportHeaderBinding bindingValues
    | none => pure ()

def keepAliveFirstWord (values : CWProtocolTransportHeaderValues) (keepAlive : Nat) : BitVec 32 :=
  cwSetFields32
    [(cwTransportHeaderVersion, BitVec.ofNat 32 cwProtocolVersion),
     (cwTransportHeaderType, BitVec.ofNat 32 (if values.payloadType = cwPacketPlain then 0 else 1)),
     (cwTransportHeaderHLEN, BitVec.ofNat 32 2),
     (cwTransportHeaderRID, BitVec.ofNat 32 0),
     (cwTransportHeaderWBID, BitVec.ofNat 32 1),
     (cwTransportHeaderT, BitVec.ofNat 32 0),
     (cwTransportHeaderF, BitVec.ofNat 32 values.isFragment),
     (cwTransportHeaderL, BitVec.ofNat 32 values.last),
     (cwTransportHeaderW, BitVec.ofNat 32 0),
     (cwTransportHeaderM, BitVec.ofNat 32 0),
     (cwTransportHeaderK, BitVec.ofNat 32 keepAlive),
     (cwTransportHeaderFlags, BitVec.ofNat 32 0)]

def cwAssembleTransportHeaderKeepAliveData (values : CWProtocolTransportHeaderValues)
    (keepAlive : Nat) : Except Failure CWProtocolMessage :=
  assembleInto 8 do
    cwProtocolStore32 (keepAliveFirstWord values keepAlive).toNat
    cwProtocolStore32 (transportHeaderSecondWord values).toNat

/-! ## Parsing -/

def setDataMsgType (dataMsgType : CWDataMsgType) : MessageM Unit :=
  modify fun message => { message with dataMsgType := some dataMsgType }

/-- The low byte of the data rate is looked up at the position of the high one. -/
def cwParseTransportHeaderBinding : MessageM CWBindingTransportHeaderValues := do
  let firstWord := BitVec.ofNat 32 (← cwProtocolRetrieve32)
  if (cwGetField32 firstWord cwTransportHeaderLength).toNat ≠ cwBindingDataLength then
    cwErrorRaise .invalidFormat "Wrong Binding Data Field Length"
  let RSSI := UInt8.ofNat (cwGetField32 firstWord cwTransportHeaderRSSI).toNat
  let SNR := UInt8.ofNat (cwGetField32 firstWord cwTransportHeaderSNR).toNat
  let dataRate := cwGetField32 firstWord cwTransportHeaderDataRate1
  let secondWord := BitVec.ofNat 32 (← cwProtocolRetrieve32)
  if dataRate = 255 then
    if SNR = 1 then setDataMsgType .freqStats else setDataMsgType .stats
  else if dataRate = 0 then
    setDataMsgType .frame
  return ⟨RSSI, SNR, (dataRate <<< 8) ||| cwGetField32 secondWord cwTransportHeaderDataRate1⟩

/-- `RadioMAC` is the caller's address, `none` for a null pointer; the result is
    what it holds afterwards. -/
def cwParseTransportHeaderMACAddress (RadioMAC : Option EthAddr) : MessageM (Option EthAddr) := do
  let macLen ← cwProtocolRetrieve8
  let bytes ← cwProtocolRetrieveRawBytes 7
  match RadioMAC with
  | none => return none
  | some address =>
    if ethALen < macLen then throw (.outOfBounds .radioMAC)
    return some (address.overwrite (bytes.take macLen))

/-- What the parser makes of the parts behind the two fixed words.  When it fails, a
    caller gives up on the packet and reads neither flag nor address. -/
structure HeaderOptions where
  bindingValuesPtr : Option CWBindingTransportHeaderValues
  /-- The `dataFlagPtr` output. -/
  dataFlag : Bool
  /-- The `RadioMAC` output. -/
  radioMAC : Option EthAddr
  deriving DecidableEq, Repr

def parseOptionalRadioMAC (m : Nat) (RadioMAC : Option EthAddr) : MessageM (Option EthAddr) :=
  if m ≠ 0 then cwParseTransportHeaderMACAddress RadioMAC else pure RadioMAC

def parseOptionalBinding (optionalWireless : Nat) :
    MessageM (Option CWBindingTransportHeaderValues) :=
  if optionalWireless ≠ 0 then some <$> cwParseTransportHeaderBinding else pure none

/-- On the data channel, the kind of packet decides what follows the fixed words. -/
def parseDataKind (keepAlive type optionalWireless : Nat) :
    MessageM (Option CWBindingTransportHeaderValues) :=
  if keepAlive ≠ 0 then do
    setDataMsgType .keepAlive
    -- the length of the message elements that follow
    let _ ← cwProtocolRetrieve16
    return none
  else if type = 0 then
    if optionalWireless ≠ 0 then some <$> cwParseTransportHeaderBinding
    else do
      setDataMsgType .ieee8023Frame
      return none
  else do
    let bindingValuesPtr ← parseOptionalBinding optionalWireless
    setDataMsgType .ieee80211Frame
    return bindingValuesPtr

def parseDataHeaderOptions (keepAlive type optionalWireless m : Nat) (RadioMAC : Option EthAddr) :
    MessageM HeaderOptions := do
  let bindingValuesPtr ← parseDataKind keepAlive type optionalWireless
  let radioMAC ← parseOptionalRadioMAC m RadioMAC
  return ⟨bindingValuesPtr, true, radioMAC⟩

/-- Elsewhere, binding information marks a data packet, and a radio MAC address is
    looked for only without it. -/
def parseControlHeaderOptions (transport4BytesLen optionalWireless m : Nat)
    (RadioMAC : Option EthAddr) : MessageM HeaderOptions :=
  if transport4BytesLen = 4 ∧ optionalWireless = 1 then do
    let bindingValues ← cwParseTransportHeaderBinding
    return ⟨some bindingValues, true, RadioMAC⟩
  else do
    let radioMAC ← parseOptionalRadioMAC m RadioMAC
    return ⟨none, false, radioMAC⟩

/-- The parts behind the two fixed words. -/
def parseHeaderOptions (dataFlag : Bool) (transport4BytesLen keepAlive type optionalWireless m : Nat)
    (RadioMAC : Option EthAddr) : MessageM HeaderOptions :=
  if dataFlag then parseDataHeaderOptions keepAlive type optionalWireless m RadioMAC
  else parseControlHeaderOptions transport4BytesLen optionalWireless m RadioMAC

structure ParsedTransportHeader where
  values : CWProtocolTransportHeaderValues
  dataFlag : Bool
  radioMAC : Option EthAddr
  deriving DecidableEq, Repr

def cwParseTransportHeader (dataFlag : Bool) (RadioMAC : Option EthAddr) :
    MessageM ParsedTransportHeader := do
  let firstWord := BitVec.ofNat 32 (← cwProtocolRetrieve32)
  let field := fun position => (cwGetField32Signed firstWord position).toNat
  if field cwTransportHeaderVersion ≠ cwProtocolVersion then
    cwErrorRaise .invalidFormat "Wrong Protocol Version"
  let transport4BytesLen := field cwTransportHeaderHLEN
  let optionalWireless := field cwTransportHeaderW
  let m := field cwTransportHeaderM
  let secondWord := BitVec.ofNat 32 (← cwProtocolRetrieve32)
  let options ← parseHeaderOptions dataFlag transport4BytesLen (field cwTransportHeaderK)
    (field cwTransportHeaderT) optionalWireless m RadioMAC
  if ¬ (transport4BytesLen = 2 ∨ transport4BytesLen = 4 ∧ optionalWireless = 1 ∨ m ≠ 0) then
    cwErrorRaise .invalidFormat "Malformed Transport Header"
  return {
    values := {
      payloadType := field cwTransportHeaderType
      type := field cwTransportHeaderT
      isFragment := field cwTransportHeaderF
      last := field cwTransportHeaderL
      fragmentID := (cwGetField32Signed secondWord cwTransportHeaderFragmentID).toNat
      fragmentOffset := (cwGetField32Signed secondWord cwTransportHeaderFragmentOffset).toNat
      keepAlive := field cwTransportHeaderK
      bindingValuesPtr := options.bindingValuesPtr }
    dataFlag := options.dataFlag
    radioMAC := options.radioMAC }

/-- A WTP without a radio MAC address. -/
def noRadioMAC : EthAddr := ⟨[0, 0, 0, 0, 0, 0], rfl⟩

end WlanController.Protocol
