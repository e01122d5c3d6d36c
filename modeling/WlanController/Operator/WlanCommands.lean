import WlanController.Elements.WlanElements
import WlanController.Operator.TargetSelection
import WlanController.Radios.RadiosInfo
import WlanController.Requests.JoinResponse

/-!
# Adding and deleting WLANs

The operator's tool sends a radio and a WLAN as text.  The AC turns the text into indices, asks the
WTP for the WLAN and notes the BSSID that the answer brings; the WTP starts an access point and notes
that.  Each side has a table of its own.
-/

namespace WlanController.Operator

open Protocol Radios Elements Requests

/-! ## The operator's tool -/

def colon : UInt8 := 58

/-- What `wlan_add` puts in its message, in front of the terminating zero. -/
def addPayload (radioID wlanID ssid tunnel : List UInt8) : List UInt8 :=
  radioID ++ colon :: (wlanID ++ colon :: (ssid ++ colon :: tunnel))

def delPayload (radioID wlanID : List UInt8) : List UInt8 := radioID ++ colon :: wlanID

/-! ## `CWManageApplication` -/

/-- The next token and what `strtok` keeps for the next call. -/
def nextToken (payload : List UInt8) : Option (List UInt8 × List UInt8) :=
  match payload.dropWhile (· = colon) with
  | [] => none
  | text => some (text.takeWhile (· ≠ colon), (text.dropWhile (· ≠ colon)).tail)

def atoiBytes (token : List UInt8) : Int := atoi (token.map fun byte => Char.ofNat byte.toNat)

structure WUMWLANCmdParameters where
  typeCmd : WlanOperation
  radioID : Int
  wlanID : Int
  ssid : List UInt8
  deriving Repr

/-- `if(id > 0) id--;` -/
def lowered (id : Int) : Int := if id > 0 then id - 1 else id

/-- The command in a payload for `MSG_ELEMENT_TYPE_ADD_WLAN`, and `none` where a member is used that
has not been assigned. -/
def readAddWlan (payload : List UInt8) : Option WUMWLANCmdParameters := do
  let (radioID, payload) ← nextToken payload
  let (wlanID, payload) ← nextToken payload
  let (ssid, _) ← nextToken payload
  return ⟨.addWlan, lowered (atoiBytes radioID), lowered (atoiBytes wlanID), ssid⟩

def readDelWlan (payload : List UInt8) : Option WUMWLANCmdParameters := do
  let (radioID, payload) ← nextToken payload
  let (wlanID, _) ← nextToken payload
  return ⟨.delWlan, atoiBytes radioID, atoiBytes wlanID, []⟩

/-! ## The tables -/

/-- An interface of a radio, as the AC keeps it. -/
structure ACInterface where
  typeInterface : InterfaceType
  BSSID : Option EthAddr
  info : Elements.WTPInterfaceInfo

/-- An interface of a radio, as the WTP keeps it: `saved` are the members that are copied from a
request. -/
structure WTPInterface where
  typeInterface : InterfaceType
  MACaddr : EthAddr
  BSSID : Option EthAddr
  saved : Option ACInterfaceRequestInfo

/-- A session: the AC has made room for as many radios as the WTP has in use. -/
structure Link where
  radioCount : Nat
  radiosInfo : Nat → Fin wtpMaxInterfaces → ACInterface
  gRadiosInfo : Nat → Fin wtpMaxInterfaces → WTPInterface

namespace Link

def setAC (link : Link) (indexRadio : Nat) (indexWlan : Fin wtpMaxInterfaces)
    (entry : ACInterface) : Link :=
  { link with
    radiosInfo := Function.update link.radiosInfo indexRadio
      (Function.update (link.radiosInfo indexRadio) indexWlan entry) }

def setWTP (link : Link) (indexRadio : Nat) (indexWlan : Fin wtpMaxInterfaces)
    (entry : WTPInterface) : Link :=
  { link with
    gRadiosInfo := Function.update link.gRadiosInfo indexRadio
      (Function.update (link.gRadiosInfo indexRadio) indexWlan entry) }

end Link

/-! ## Requests of the AC -/

def cwMsgTypeValueWlanConfigurationRequest : Nat := 3398913

def cwMsgTypeValueWlanConfigurationResponse : Nat := 3398914

def ieee80211DeleteWlanType : Nat := 1027

def ieee80211AssignedWTPBSSIDType : Nat := 1026

/-- The low half of the bits, one from each field. -/
def capabilityBits (capability : List UInt8) : UInt16 :=
  (capability.zipIdx).foldl (fun bits field => bits ||| field.1.toUInt16 <<< field.2.toUInt16) 0

/-- ESS and short slot time. -/
def acCapability : List UInt8 := [1, 0, 0, 0, 0, 0, 0, 0, 0, 0, 1, 0, 0, 0, 0, 0]

def zeroKey : List UInt8 := [0, 0, 0, 0]

theorem length_zeroKey : zeroKey.length = wlanKeyLen := rfl

def zeroTSC : List UInt8 := [0, 0, 0, 0, 0, 0]

theorem length_zeroTSC : zeroTSC.length = wlanGroupTSCLen := rfl

/-- The record for a WLAN with this SSID. -/
def acUpdateInfoWlan (interfaceInfo : Elements.WTPInterfaceInfo) (wlanID : Int)
    (SSID : List UInt8) : Elements.WTPInterfaceInfo where
  wlanID := .ofInt wlanID
  capability := acCapability
  capability_length := rfl
  capabilityBit := capabilityBits acCapability
  keyIndex := 0
  keyStatus := 0
  key := zeroKey
  key_length := length_zeroKey
  groupTSC := zeroTSC
  groupTSC_length := length_zeroTSC
  qos := 0
  authType := 0
  MACmode := 0
  frameTunnelMode := interfaceInfo.frameTunnelMode
  suppressSSID := 1
  SSID

def cwAssembleMsgElemACDelWlan (radioID wlanID : UInt8) : Except Failure CWProtocolMessage := do
  let msgPtr ← assembleInto 2 do
    cwProtocolStore8 radioID.toNat
    cwProtocolStore8 wlanID.toNat
  cwAssembleMsgElem msgPtr ieee80211DeleteWlanType

/-- The control message as it comes out of the transport headers. -/
def controlMessage (messageTypeValue : Nat) (seqNum : UInt8) (elements : List UInt8) : List UInt8 :=
  controlHeaderBytes ⟨.ofNat messageTypeValue, seqNum, .ofNat elements.length⟩ ++ elements

/-! ## The WTP -/

def cwParseACDelWlan (info : ACInterfaceRequestInfo) (len : Nat) : MessageM ACInterfaceRequestInfo :=
  cwParseMessageElement len do
    let radioID ← cwProtocolRetrieve8
    let wlanID ← cwProtocolRetrieve8
    return { info with operation := .delWlan, radioID, wlanID }

/-- An element whose parser assigns to the record.  What it has assigned in front of an error is not
looked at. -/
def parseWlanElement (type len : Nat) : ParserM ACInterfaceRequestInfo Unit := do
  let info := (← get).values
  if type = ieee80211AddWlanType then do
    let info ← reading (cwParseACAddWlan info len)
    assigning fun _ => info
  else if type = ieee80211DeleteWlanType then do
    let info ← reading (cwParseACDelWlan info len)
    assigning fun _ => info
  else if type = ieee80211UpdateWlanType then do
    let info ← reading (cwParseACUpdateWlan info len)
    assigning fun _ => info
  else refusing .invalidFormat (some "Unrecognized Message Element")

def cwParseIEEEConfigurationRequestMessage (seqNum : Nat) : ParserM ACInterfaceRequestInfo Unit := do
  let controlVal ← reading cwParseControlHeader
  if controlVal.messageTypeValue.toNat ≠ cwMsgTypeValueWlanConfigurationRequest then
    refusing .invalidFormat (some "Message is not IEE Wlan Configuration Request as Expected")
  if controlVal.seqNum.toNat ≠ seqNum then
    refusing .invalidFormat (some "Different Sequence Number")
  cwParseElements parseWlanElement (elementsLen controlVal)
  expectingEnd

/-- How an exchange ends without an answer. -/
inductive Stuck where
  /-- `while(1);` -/
  | hangs
  /-- An access outside a table, or to what has not been assigned. -/
  | outside
  /-- A message is refused, and the session ends. -/
  | lost
  deriving DecidableEq, Repr

/-- The state of the WTP and whether the request has been saved.  The driver does what it is asked
for. -/
def cwSaveIEEEConfigurationRequestMessage (interfaceACInfo : ACInterfaceRequestInfo) (link : Link) :
    Except Stuck (Bool × Link) :=
  match interfaceACInfo.operation with
  | .addWlan =>
    if inside : interfaceACInfo.wlanID < wtpMaxInterfaces ∧
        interfaceACInfo.radioID < wtpRadioMax then
      if interfaceACInfo.radioID < link.radioCount then
        let entry := link.gRadiosInfo interfaceACInfo.radioID ⟨interfaceACInfo.wlanID, inside.1⟩
        if entry.typeInterface = .cwSTAMode then
          return (true, link.setWTP interfaceACInfo.radioID ⟨interfaceACInfo.wlanID, inside.1⟩
            { entry with
              typeInterface := .cwAPMode
              BSSID := some entry.MACaddr
              saved := some interfaceACInfo })
        else return (false, link)
      else throw .outside
    else return (false, link)
  | .delWlan => throw .hangs
  | .updateWlan => return (true, link)

def cwProtocolFailure : Nat := 3

/-- The elements of the answer: the result code, and the BSSID of a WLAN that has been added.  With
no BSSID the second element has no bytes. -/
def answerElements (saved : Bool) (interfaceACInfo : ACInterfaceRequestInfo) (link : Link) :
    Except Stuck (List UInt8) :=
  let resultCode := if saved then cwProtocolSuccess else cwProtocolFailure
  let code := Elements.elementBytes Vendor.resultCodeType (BigEndian.encode 4 resultCode)
  if saved = true ∧ interfaceACInfo.operation = .addWlan then
    if inside : interfaceACInfo.wlanID < wtpMaxInterfaces ∧
        interfaceACInfo.radioID < wtpRadioMax then
      match (link.gRadiosInfo interfaceACInfo.radioID
          ⟨interfaceACInfo.wlanID, inside.1⟩).BSSID with
      | some BSSID =>
        let body := BigEndian.encode 1 interfaceACInfo.radioID ++
          (BigEndian.encode 1 interfaceACInfo.wlanID ++ BSSID.bytes)
        return code ++ Elements.elementBytes ieee80211AssignedWTPBSSIDType body
      | none => throw .outside
    else return code
  else return code

/-- The WTP's part of the exchange, with its answer. -/
def answerRequest (seqNum : UInt8) (request : List UInt8) (link : Link) :
    Except Stuck (List UInt8 × Link) := do
  match (cwParseIEEEConfigurationRequestMessage seqNum.toNat).run ⟨⟨request, 0, none⟩, default⟩ with
  | .error _ _ => throw .lost
  | .ok _ s =>
    let answer ← cwSaveIEEEConfigurationRequestMessage s.values link
    let elements ← answerElements answer.1 s.values answer.2
    return (controlMessage cwMsgTypeValueWlanConfigurationResponse seqNum elements, answer.2)

/-! ## The answer at the AC -/

def retrieveAssignedBSSID (len : Nat) : MessageM (Nat × Nat × List UInt8) :=
  cwParseMessageElement len do
    let radioID ← cwProtocolRetrieve8
    let wlanID ← cwProtocolRetrieve8
    let BSSID ← cwProtocolRetrieveRawBytes ethALen
    return (radioID, wlanID, BSSID)

/-- The interface becomes one in AP mode with a BSSID. -/
def assignBSSID (radioID wlanID : Nat) (BSSID : List UInt8) (link : Link) : Except Stuck Link :=
  if inside : wlanID < wtpMaxInterfaces ∧ radioID < wtpRadioMax then
    if radioID < link.radioCount then
      if length : BSSID.length = ethALen then
        return link.setAC radioID ⟨wlanID, inside.1⟩
          { link.radiosInfo radioID ⟨wlanID, inside.1⟩ with
            typeInterface := .cwAPMode
            BSSID := some ⟨BSSID, length⟩ }
      else throw .outside
    else throw .outside
  else return link

/-- The `switch` for an element of the answer. -/
def parseAnswerElement (elemType elemLen : Nat) : ParserM Link Unit := do
  if elemType = Vendor.resultCodeType then
    parseInto elemLen cwProtocolRetrieve32 fun _ link => link
  else if elemType = ieee80211AssignedWTPBSSIDType then do
    let assigned ← reading (retrieveAssignedBSSID elemLen)
    match assignBSSID assigned.1 assigned.2.1 assigned.2.2 (← get).values with
    | .ok link => assigning fun _ => link
    | .error _ => throw .overrun
  else refusing .invalidFormat (some "Unrecognized Message Element")

/-- The end is compared with what the header announces. -/
def cwParseIEEEConfigurationResponseMessage : ParserM Link Unit := do
  let controlVal ← reading cwParseControlHeader
  if controlVal.messageTypeValue.toNat ≠ cwMsgTypeValueWlanConfigurationResponse then
    refusing .invalidFormat
      (some "Message is not Configuration Response (maybe it is Image Data Request)")
  let offsetTillMessages := (← get).message.offset
  cwParseElements parseAnswerElement (elementsLen controlVal)
  if (← get).message.offset - offsetTillMessages ≠ elementsLen controlVal then
    refusing .invalidFormat (some "Garbage at the End of the Message")

def takeAnswer (answer : List UInt8) (link : Link) : Except Stuck Link :=
  match cwParseIEEEConfigurationResponseMessage.run ⟨⟨answer, 0, none⟩, link⟩ with
  | .ok _ s => return s.values
  | .error .overrun _ => throw .outside
  | .error _ _ => throw .lost

/-! ## An exchange -/

/-- The element of a request, behind the update of the AC's table. -/
def requestElement (cmd : WUMWLANCmdParameters) (link : Link) : Except Stuck (List UInt8 × Link) :=
  match cmd.typeCmd with
  | .addWlan =>
    if inside : 0 ≤ cmd.radioID ∧ cmd.radioID < link.radioCount ∧ 0 ≤ cmd.wlanID ∧
        cmd.wlanID.toNat < wtpMaxInterfaces then
      let indexWlan : Fin wtpMaxInterfaces := ⟨cmd.wlanID.toNat, inside.2.2.2⟩
      let entry := link.radiosInfo cmd.radioID.toNat indexWlan
      let info := acUpdateInfoWlan entry.info cmd.wlanID cmd.ssid
      match cwAssembleMsgElemACAddWlan (.ofInt cmd.radioID) info with
      | .ok element =>
        return (element.contents, link.setAC cmd.radioID.toNat indexWlan { entry with info })
      | .error _ => throw .lost
    else throw .outside
  | .delWlan =>
    match cwAssembleMsgElemACDelWlan (.ofInt cmd.radioID) (.ofInt cmd.wlanID) with
    | .ok element => return (element.contents, link)
    | .error _ => throw .lost
  | .updateWlan => throw .lost

/-- The thread of a session with a command, up to the answer. -/
def exchange (seqNum : UInt8) (cmd : WUMWLANCmdParameters) (link : Link) : Except Stuck Link := do
  let requested ← requestElement cmd link
  let answer ← answerRequest seqNum
    (controlMessage cwMsgTypeValueWlanConfigurationRequest seqNum requested.1) requested.2
  takeAnswer answer.1 answer.2

/-! ## Orders -/

inductive WlanCommand where
  | add (radioID wlanID ssid tunnel : List UInt8)
  | del (radioID wlanID : List UInt8)

def WlanCommand.read : WlanCommand → Option WUMWLANCmdParameters
  | add radioID wlanID ssid tunnel => readAddWlan (addPayload radioID wlanID ssid tunnel)
  | del radioID wlanID => readDelWlan (delPayload radioID wlanID)

inductive Target where
  | allActive
  | one (wtpIndex : Nat)

/-- A command of the operator, and the sequence numbers that the requests of the sessions get. -/
structure Order where
  target : Target
  command : WlanCommand
  seqNum : Nat → UInt8

/-- What the AC looks at to find the sessions for an order. -/
structure Sessions where
  gMaxWTPs : Nat
  gActiveWTPs : Nat
  isNotFree : Nat → Bool

def Sessions.selected (sessions : Sessions) : Target → List Nat
  | .allActive =>
    if sessions.gActiveWTPs > 0 then (List.range sessions.gMaxWTPs).filter sessions.isNotFree
    else []
  | .one wtpIndex =>
    if wtpIndex < sessions.gMaxWTPs ∧ sessions.isNotFree wtpIndex then [wtpIndex] else []

/-- One session after the other gets the command, and the next one when the answer is there. -/
def manageOrder (sessions : Sessions) (order : Order) (links : Nat → Link) :
    Except Stuck (Nat → Link) :=
  match order.command.read with
  | none => throw .outside
  | some cmdWLAN =>
    if cmdWLAN.typeCmd = .addWlan ∧ (cmdWLAN.radioID < 0 ∨ cmdWLAN.wlanID < 0) then return links
    else
      (sessions.selected order.target).foldlM (fun links i => do
        return Function.update links i (← exchange (order.seqNum i) cmdWLAN (links i))) links

def manageOrders (sessions : Sessions) (orders : List Order) (links : Nat → Link) :
    Except Stuck (Nat → Link) :=
  orders.foldlM (fun links order => manageOrder sessions order links) links

end WlanController.Operator
