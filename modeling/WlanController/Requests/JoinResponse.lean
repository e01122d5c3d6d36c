import WlanController.Elements.ACDescriptor
import WlanController.Requests.ConfigureRequest
import WlanController.Vendor.VendorAnswers

/-!
# Join responses

The WTP goes through the elements of the AC's response twice: in a first loop it takes what there is
one of and counts the control addresses, and in a second loop it fills the arrays for the addresses.
What it keeps from the response is saved in what it knows of its AC.
-/

namespace WlanController.Requests

open Protocol Radios Elements

def cwMsgTypeValueJoinResponse : Nat := 4

def acIPv4ListType : Nat := 2

def acIPv6ListType : Nat := 3

def cwControlIPv4AddressType : Nat := 10

def cwControlIPv6AddressType : Nat := 11

def localIPv4AddressType : Nat := 30

def ecnSupportType : Nat := 53

/-- `CWProtocolJoinResponseValues`, with `none` for what has not been assigned.  An address comes
with the number of the WTPs that use it. -/
structure JoinResponseValues where
  code : Option Nat
  descriptor : Option CWACInfoValues
  name : Option (List UInt8)
  ECNSupport : Option Nat
  ACIPv4List : Option (List Nat)
  ACIPv6List : Option (List (List UInt8))
  IPv4AddressesCount : Nat
  IPv6AddressesCount : Nat
  IPv4Addresses : List (Nat × Nat)
  IPv6Addresses : List (List UInt8 × Nat)

/-- The counts are set to zero in front of the loops. -/
def JoinResponseValues.initial : JoinResponseValues where
  code := none
  descriptor := none
  name := none
  ECNSupport := none
  ACIPv4List := none
  ACIPv6List := none
  IPv4AddressesCount := 0
  IPv6AddressesCount := 0
  IPv4Addresses := []
  IPv6Addresses := []

/-! ## The parser -/

def retrieveControlIPv4Address : MessageM (Nat × Nat) := do
  let addr ← cwProtocolRetrieve32
  let WTPCount ← cwProtocolRetrieve16
  return (addr, WTPCount)

def retrieveControlIPv6Address : MessageM (List UInt8 × Nat) := do
  let addr ← cwProtocolRetrieveRawBytes 16
  let WTPCount ← cwProtocolRetrieve16
  return (addr, WTPCount)

def cwParseACIPv4List (len : Nat) : ParserM JoinResponseValues Unit :=
  if len = 0 ∨ len % 4 ≠ 0 then
    refusing .invalidFormat (some "Malformed AC IPv4 List Messame Element")
  else
    parseInto len (readRecords cwProtocolRetrieve32 (len / 4)) fun list values =>
      { values with ACIPv4List := some list }

def cwParseACIPv6List (len : Nat) : ParserM JoinResponseValues Unit :=
  if len = 0 ∨ len % 16 ≠ 0 then
    refusing .invalidFormat (some "Malformed AC IPv6 List Messame Element")
  else
    parseInto len (readRecords (cwProtocolRetrieveRawBytes 16) (len / 16)) fun list values =>
      { values with ACIPv6List := some list }

/-- What is done in front of every element: the counts and the pointers of both lists. -/
def resetLists (values : JoinResponseValues) : JoinResponseValues :=
  { values with ACIPv4List := some [], ACIPv6List := some [] }

/-- The `switch` of the first loop.  The end of the radio information is not compared. -/
def parseJoinElement (elemType elemLen : Nat) : ParserM JoinResponseValues Unit := do
  assigning resetLists
  if elemType = acDescriptorType then do
    let descriptor ← reading (cwParseACDescriptor elemLen)
    assigning fun values => { values with descriptor := some descriptor }
  else if elemType = wtpRadioInformationType then do
    let _ ← reading retrieveRadioInformation
    return ()
  else if elemType = acIPv4ListType then cwParseACIPv4List elemLen
  else if elemType = acIPv6ListType then cwParseACIPv6List elemLen
  else if elemType = Vendor.resultCodeType then
    parseInto elemLen cwProtocolRetrieve32 fun code values => { values with code := some code }
  else if elemType = acNameType then
    parseInto elemLen (cwProtocolRetrieveRawBytes elemLen) fun name values =>
      { values with name := some name }
  else if elemType = localIPv4AddressType then skipping elemLen
  else if elemType = cwControlIPv4AddressType then do
    assigning fun values => { values with IPv4AddressesCount := values.IPv4AddressesCount + 1 }
    skipping elemLen
  else if elemType = cwControlIPv6AddressType then do
    assigning fun values => { values with IPv6AddressesCount := values.IPv6AddressesCount + 1 }
    skipping elemLen
  else if elemType = ecnSupportType then
    parseInto elemLen cwProtocolRetrieve8 fun value values =>
      { values with ECNSupport := some value }
  else refusing .invalidFormat (some "Unrecognized Message Element")

/-- The `switch` of the second loop, with the counts of the first as the sizes of the arrays. -/
def parseJoinAddresses (type len : Nat) : ParserM JoinResponseValues Unit := do
  if type = cwControlIPv4AddressType then
    if (← get).values.IPv4Addresses.length < (← get).values.IPv4AddressesCount then
      parseInto len retrieveControlIPv4Address fun entry values =>
        { values with IPv4Addresses := values.IPv4Addresses ++ [entry] }
    else throw .overrun
  else if type = cwControlIPv6AddressType then
    if (← get).values.IPv6Addresses.length < (← get).values.IPv6AddressesCount then
      parseInto len retrieveControlIPv6Address fun entry values =>
        { values with IPv6Addresses := values.IPv6Addresses ++ [entry] }
    else throw .overrun
  else skipping len

def cwParseJoinResponseMessage (seqNum : Nat) : ParserM JoinResponseValues Unit := do
  let controlVal ← reading cwParseControlHeader
  if controlVal.messageTypeValue.toNat ≠ cwMsgTypeValueJoinResponse then
    refusing .invalidFormat (some "Message is not Join Response as Expected")
  if controlVal.seqNum.toNat ≠ seqNum then
    refusing .invalidFormat (some "Different Sequence Number")
  let offsetTillMessages := (← get).message.offset
  cwParseElements parseJoinElement (elementsLen controlVal)
  expectingEnd
  modify fun s => { s with message := { s.message with offset := offsetTillMessages } }
  cwParseElements parseJoinAddresses (elementsLen controlVal)

/-- The values after a response that is accepted. -/
def joinResponseValues (seqNum : Nat) (response : List UInt8) : Option JoinResponseValues :=
  match (cwParseJoinResponseMessage seqNum).run ⟨⟨response, 0, none⟩, .initial⟩ with
  | .ok _ s => some s.values
  | .error _ _ => none

/-! ## Saving -/

/-- What the WTP keeps of its AC from a join response. -/
structure ACInfo where
  stations : Nat
  limit : Nat
  activeWTPs : Nat
  maxWTPs : Nat
  security : Nat
  RMACField : Nat
  vendorInfos : List VendorInfoValues
  name : List UInt8
  ACIPv4List : List Nat
  ACIPv6List : List (List UInt8)

def cwProtocolSuccess : Nat := 0

def cwProtocolSuccessNAT : Nat := 2

/-- What a list that has not been assigned or has no entries leaves of the one that was kept. -/
def keepList {α : Type} (kept : List α) : Option (List α) → Option (List α)
  | none => none
  | some [] => some kept
  | some list => some list

/-- Returns `CW_FALSE` for any other code.  There is no result where something is looked at that has
not been assigned. -/
def cwSaveJoinResponseMessage (gACInfoPtr : ACInfo) (joinResponse : JoinResponseValues) :
    Option (Bool × ACInfo) := do
  let code ← joinResponse.code
  if code = cwProtocolSuccess ∨ code = cwProtocolSuccessNAT then
    let descriptor ← joinResponse.descriptor
    let name ← joinResponse.name
    let ACIPv4List ← keepList gACInfoPtr.ACIPv4List joinResponse.ACIPv4List
    let ACIPv6List ← keepList gACInfoPtr.ACIPv6List joinResponse.ACIPv6List
    return (true, {
      stations := descriptor.stations
      limit := descriptor.limit
      activeWTPs := descriptor.activeWTPs
      maxWTPs := descriptor.maxWTPs
      security := descriptor.security
      RMACField := descriptor.RMACField
      vendorInfos := descriptor.vendorInfos
      name := name.takeWhile fun b => b ≠ 0
      ACIPv4List
      ACIPv6List })
  else
    return (false, gACInfoPtr)

/-! ## Well-formed elements -/

/-- An element of a join response as an AC may send it. -/
inductive JoinResponseElement where
  | acDescriptor (values : CWACInfoValues) (fits : values.FitsFields) (short : values.size < 65536)
  | radioInformation (radioID phyStandardValue : UInt8)
  | acIPv4List (addresses : List UInt32) (inhabited : addresses ≠ [])
      (short : 4 * addresses.length < 65536)
  | acIPv6List (addresses : List (Vector UInt8 16)) (inhabited : addresses ≠ [])
      (short : 16 * addresses.length < 65536)
  | resultCode (code : UInt32)
  | acName (name : List UInt8) (short : name.length < 65536)
  | localIPv4Address (address : UInt32)
  | controlIPv4Address (address : UInt32) (WTPCount : UInt16)
  | controlIPv6Address (address : Vector UInt8 16) (WTPCount : UInt16)
  | ecnSupport (value : UInt8)

namespace JoinResponseElement

def type : JoinResponseElement → Nat
  | acDescriptor _ _ _ => acDescriptorType
  | radioInformation _ _ => wtpRadioInformationType
  | acIPv4List _ _ _ => acIPv4ListType
  | acIPv6List _ _ _ => acIPv6ListType
  | resultCode _ => Vendor.resultCodeType
  | acName _ _ => acNameType
  | localIPv4Address _ => localIPv4AddressType
  | controlIPv4Address _ _ => cwControlIPv4AddressType
  | controlIPv6Address _ _ => cwControlIPv6AddressType
  | ecnSupport _ => ecnSupportType

def body : JoinResponseElement → List UInt8
  | acDescriptor values _ _ => values.body
  | radioInformation radioID phyStandardValue => radioInformationBytes radioID phyStandardValue
  | acIPv4List addresses _ _ => addresses.flatMap fun address => BigEndian.encode 4 address.toNat
  | acIPv6List addresses _ _ => addresses.flatMap Vector.toList
  | resultCode code => BigEndian.encode 4 code.toNat
  | acName name _ => name
  | localIPv4Address address => BigEndian.encode 4 address.toNat
  | controlIPv4Address address WTPCount =>
    BigEndian.encode 4 address.toNat ++ BigEndian.encode 2 WTPCount.toNat
  | controlIPv6Address address WTPCount => address.toList ++ BigEndian.encode 2 WTPCount.toNat
  | ecnSupport value => BigEndian.encode 1 value.toNat

def bytes (element : JoinResponseElement) : List UInt8 :=
  Elements.elementBytes element.type element.body

/-- There may be one for each radio or address; of the others there is one. -/
def repeatable : JoinResponseElement → Bool
  | radioInformation _ _ => true
  | controlIPv4Address _ _ => true
  | controlIPv6Address _ _ => true
  | _ => false

end JoinResponseElement

/-- Elements with each single-valued one once, that fit in a message. -/
structure JoinResponse where
  elements : List JoinResponseElement
  once : ((elements.filter fun element => !element.repeatable).map
    JoinResponseElement.type).Nodup
  fits : (elements.flatMap JoinResponseElement.bytes).length < 65533

def joinResponseBytes (seqNum : UInt8) (elements : List JoinResponseElement) : List UInt8 :=
  controlHeaderBytes ⟨.ofNat cwMsgTypeValueJoinResponse, seqNum,
    .ofNat (elements.flatMap JoinResponseElement.bytes).length⟩ ++
      elements.flatMap JoinResponseElement.bytes

end WlanController.Requests
