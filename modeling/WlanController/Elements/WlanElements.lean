import WlanController.Elements.MessageElement
import WlanController.Radios.StationRequest

/-!
# WLANs and stations

The AC adds and changes the WLANs of a WTP and tells it of stations, in elements that each
side takes apart by hand.  The two sides agree on every one of them but the update of a
WLAN: that is assembled into half the bytes it needs, and the WTP looks for other fields in
it than the AC puts there.
-/

namespace WlanController.Elements

open Protocol Radios

def wlanCapabilityNumFields : Nat := 16
def wlanKeyLen : Nat := 4
def wlanGroupTSCLen : Nat := 6
def cwMsgIEEEAddWlanMinLen : Nat := 23

def ieee80211AddWlanType : Nat := 1024
def ieee80211UpdateWlanType : Nat := 1044

/-- The members of the record that are sent.  `SSID` are the bytes in front of the terminating
    zero. -/
structure WTPInterfaceInfo where
  wlanID : UInt8
  capability : List UInt8
  capability_length : capability.length = wlanCapabilityNumFields
  capabilityBit : UInt16
  keyIndex : UInt8
  keyStatus : UInt8
  key : List UInt8
  key_length : key.length = wlanKeyLen
  groupTSC : List UInt8
  groupTSC_length : groupTSC.length = wlanGroupTSCLen
  qos : UInt8
  authType : UInt8
  MACmode : UInt8
  frameTunnelMode : UInt8
  suppressSSID : UInt8
  SSID : List UInt8

inductive WlanOperation where
  | addWlan | delWlan | updateWlan
  deriving DecidableEq, Inhabited, Repr

/-- The members of the record that the WTP's parsers set. -/
structure ACInterfaceRequestInfo where
  operation : WlanOperation
  radioID : Nat
  wlanID : Nat
  capabilityBit : UInt16
  keyIndex : UInt8
  keyStatus : UInt8
  keyLength : UInt16
  key : List UInt8
  groupTSC : List UInt8
  qos : UInt8
  authType : UInt8
  MACmode : UInt8
  tunnelMode : UInt8
  suppressSSID : UInt8
  SSID : List UInt8
  deriving Inhabited

/-! ## The AC -/

def cwAssembleMsgElemACAddWlan (radioID : UInt8) (interfaceInfo : WTPInterfaceInfo) :
    Except Failure CWProtocolMessage := do
  let msgPtr ← assembleInto (cwMsgIEEEAddWlanMinLen + interfaceInfo.SSID.length) do
    cwProtocolStore8 radioID.toNat
    cwProtocolStore8 interfaceInfo.wlanID.toNat
    cwProtocolStore16 interfaceInfo.capabilityBit.toNat
    cwProtocolStore8 interfaceInfo.keyIndex.toNat
    cwProtocolStore8 interfaceInfo.keyStatus.toNat
    cwProtocolStore16 wlanKeyLen
    cwProtocolStoreRawBytes interfaceInfo.key
    cwProtocolStoreRawBytes interfaceInfo.groupTSC
    cwProtocolStore8 interfaceInfo.qos.toNat
    cwProtocolStore8 interfaceInfo.authType.toNat
    cwProtocolStore8 interfaceInfo.MACmode.toNat
    cwProtocolStore8 interfaceInfo.frameTunnelMode.toNat
    cwProtocolStore8 interfaceInfo.suppressSSID.toNat
    cwProtocolStoreRawBytes interfaceInfo.SSID
  cwAssembleMsgElem msgPtr ieee80211AddWlanType

def cwAssembleMsgElemACUpdateWlan (radioID : UInt8) (interfaceInfo : WTPInterfaceInfo) :
    Except Failure CWProtocolMessage := do
  let msgPtr ← assembleInto 12 do
    cwProtocolStore8 radioID.toNat
    cwProtocolStore8 interfaceInfo.wlanID.toNat
    interfaceInfo.capability.forM fun field => cwProtocolStore8 field.toNat
    cwProtocolStore8 interfaceInfo.keyIndex.toNat
    cwProtocolStore8 interfaceInfo.keyStatus.toNat
    cwProtocolStoreRawBytes interfaceInfo.key
  cwAssembleMsgElem msgPtr ieee80211UpdateWlanType

/-! ## The WTP -/

def cwParseACAddWlan (info : ACInterfaceRequestInfo) (len : Nat) : MessageM ACInterfaceRequestInfo :=
  cwParseMessageElement len do
    let radioID ← cwProtocolRetrieve8
    let wlanID ← cwProtocolRetrieve8
    let capabilityBit ← cwProtocolRetrieve16
    let keyIndex ← cwProtocolRetrieve8
    let keyStatus ← cwProtocolRetrieve8
    let keyLength ← cwProtocolRetrieve16
    let key ← cwProtocolRetrieveRawBytes wlanKeyLen
    let groupTSC ← cwProtocolRetrieveRawBytes wlanGroupTSCLen
    let qos ← cwProtocolRetrieve8
    let authType ← cwProtocolRetrieve8
    let MACmode ← cwProtocolRetrieve8
    let tunnelMode ← cwProtocolRetrieve8
    let suppressSSID ← cwProtocolRetrieve8
    -- `calloc` is asked for one byte more than the SSID has
    if (len : Int) - cwMsgIEEEAddWlanMinLen + 1 < 0 then cwErrorRaise .outOfMemory none
    -- nothing can be allocated for `-1` bytes, and they are copied all the same
    else if (len : Int) - cwMsgIEEEAddWlanMinLen < 0 then throw (.outOfBounds .receiveBuffer)
    else
      let SSID ← cwProtocolRetrieveRawBytes (len - cwMsgIEEEAddWlanMinLen)
      return { info with
        operation := .addWlan, radioID, wlanID, capabilityBit := .ofNat capabilityBit,
        keyIndex := .ofNat keyIndex, keyStatus := .ofNat keyStatus, keyLength := .ofNat keyLength,
        key, groupTSC, qos := .ofNat qos, authType := .ofNat authType, MACmode := .ofNat MACmode,
        tunnelMode := .ofNat tunnelMode, suppressSSID := .ofNat suppressSSID, SSID }

def cwParseACUpdateWlan (info : ACInterfaceRequestInfo) (len : Nat) :
    MessageM ACInterfaceRequestInfo :=
  cwParseMessageElement len do
    let radioID ← cwProtocolRetrieve8
    let wlanID ← cwProtocolRetrieve8
    let capabilityBit ← cwProtocolRetrieve16
    let keyIndex ← cwProtocolRetrieve8
    let keyStatus ← cwProtocolRetrieve8
    let keyLength ← cwProtocolRetrieve8
    let key ← cwProtocolRetrieveRawBytes wlanKeyLen
    return { info with
      operation := .updateWlan, radioID, wlanID, capabilityBit := .ofNat capabilityBit,
      keyIndex := .ofNat keyIndex, keyStatus := .ofNat keyStatus, keyLength := .ofNat keyLength, key }

/-! ## A WLAN that is added -/

/-- The record as the WTP has to set it. -/
def WTPInterfaceInfo.added (interfaceInfo : WTPInterfaceInfo) (radioID : UInt8)
    (info : ACInterfaceRequestInfo) : ACInterfaceRequestInfo :=
  { info with
    operation := .addWlan
    radioID := radioID.toNat
    wlanID := interfaceInfo.wlanID.toNat
    capabilityBit := interfaceInfo.capabilityBit
    keyIndex := interfaceInfo.keyIndex
    keyStatus := interfaceInfo.keyStatus
    keyLength := .ofNat wlanKeyLen
    key := interfaceInfo.key
    groupTSC := interfaceInfo.groupTSC
    qos := interfaceInfo.qos
    authType := interfaceInfo.authType
    MACmode := interfaceInfo.MACmode
    tunnelMode := interfaceInfo.frameTunnelMode
    suppressSSID := interfaceInfo.suppressSSID
    SSID := interfaceInfo.SSID }

/-- What the WTP has to set of a WLAN that is changed. -/
def WTPInterfaceInfo.updated (interfaceInfo : WTPInterfaceInfo) (radioID : UInt8)
    (info : ACInterfaceRequestInfo) : ACInterfaceRequestInfo :=
  { info with
    operation := .updateWlan
    radioID := radioID.toNat
    wlanID := interfaceInfo.wlanID.toNat
    capabilityBit := interfaceInfo.capabilityBit
    keyIndex := interfaceInfo.keyIndex
    keyStatus := interfaceInfo.keyStatus
    key := interfaceInfo.key }

def addWlanBody (radioID : UInt8) (interfaceInfo : WTPInterfaceInfo) : List UInt8 :=
  BigEndian.encode 1 radioID.toNat ++ (BigEndian.encode 1 interfaceInfo.wlanID.toNat ++
    (BigEndian.encode 2 interfaceInfo.capabilityBit.toNat ++
      (BigEndian.encode 1 interfaceInfo.keyIndex.toNat ++
        (BigEndian.encode 1 interfaceInfo.keyStatus.toNat ++ (BigEndian.encode 2 wlanKeyLen ++
          (interfaceInfo.key ++ (interfaceInfo.groupTSC ++
            (BigEndian.encode 1 interfaceInfo.qos.toNat ++
              (BigEndian.encode 1 interfaceInfo.authType.toNat ++
                (BigEndian.encode 1 interfaceInfo.MACmode.toNat ++
                  (BigEndian.encode 1 interfaceInfo.frameTunnelMode.toNat ++
                    (BigEndian.encode 1 interfaceInfo.suppressSSID.toNat ++
                      interfaceInfo.SSID))))))))))))

theorem length_addWlanBody (radioID : UInt8) (interfaceInfo : WTPInterfaceInfo) :
    (addWlanBody radioID interfaceInfo).length =
      cwMsgIEEEAddWlanMinLen + interfaceInfo.SSID.length := by
  simp only [addWlanBody, List.length_append, BigEndian.length_encode, interfaceInfo.key_length,
    interfaceInfo.groupTSC_length, wlanKeyLen, wlanGroupTSCLen, cwMsgIEEEAddWlanMinLen]
  omega

theorem cwAssembleMsgElemACAddWlan_eq (radioID : UInt8) (interfaceInfo : WTPInterfaceInfo) :
    cwAssembleMsgElemACAddWlan radioID interfaceInfo =
      .ok (filled (elementBytes ieee80211AddWlanType (addWlanBody radioID interfaceInfo)) 2) := by
  have stores := (stores_store8 radioID.toNat).bind ((stores_store8 interfaceInfo.wlanID.toNat).bind
    ((stores_store16 interfaceInfo.capabilityBit.toNat).bind
      ((stores_store8 interfaceInfo.keyIndex.toNat).bind
        ((stores_store8 interfaceInfo.keyStatus.toNat).bind ((stores_store16 wlanKeyLen).bind
          ((stores_rawBytes interfaceInfo.key).bind ((stores_rawBytes interfaceInfo.groupTSC).bind
            ((stores_store8 interfaceInfo.qos.toNat).bind
              ((stores_store8 interfaceInfo.authType.toNat).bind
                ((stores_store8 interfaceInfo.MACmode.toNat).bind
                  ((stores_store8 interfaceInfo.frameTunnelMode.toNat).bind
                    ((stores_store8 interfaceInfo.suppressSSID.toNat).bind
                      (stores_rawBytes interfaceInfo.SSID)))))))))))))
  rw [cwAssembleMsgElemACAddWlan,
    assembleInto_stores stores (length_addWlanBody radioID interfaceInfo).symm, ok_bind]
  exact cwAssembleMsgElem_eq _ _

/-- The WTP takes what the element is longer than its fixed part for the SSID. -/
theorem readsFrom_addWlan (radioID : UInt8) (interfaceInfo : WTPInterfaceInfo)
    (info : ACInterfaceRequestInfo) (start : Nat) :
    ReadsFrom start (cwParseACAddWlan info (addWlanBody radioID interfaceInfo).length)
      (addWlanBody radioID interfaceInfo) (interfaceInfo.added radioID info) := by
  rw [length_addWlanBody]
  have key := fun start => readsFrom_rawBytes start interfaceInfo.key
  rw [interfaceInfo.key_length] at key
  have groupTSC := fun start => readsFrom_rawBytes start interfaceInfo.groupTSC
  rw [interfaceInfo.groupTSC_length] at groupTSC
  have notNegative : ¬ ((cwMsgIEEEAddWlanMinLen + interfaceInfo.SSID.length : Nat) : Int) -
      cwMsgIEEEAddWlanMinLen < 0 := by omega
  have notNegative' : ¬ ((cwMsgIEEEAddWlanMinLen + interfaceInfo.SSID.length : Nat) : Int) -
      cwMsgIEEEAddWlanMinLen + 1 < 0 := by omega
  apply ReadsFrom.messageElement _ (length_addWlanBody radioID interfaceInfo)
  apply ((reads_retrieve8 radioID.toNat_lt).from _).bind
  apply ((reads_retrieve8 interfaceInfo.wlanID.toNat_lt).from _).bind
  apply ((reads_retrieve16 interfaceInfo.capabilityBit.toNat_lt).from _).bind
  apply ((reads_retrieve8 interfaceInfo.keyIndex.toNat_lt).from _).bind
  apply ((reads_retrieve8 interfaceInfo.keyStatus.toNat_lt).from _).bind
  apply ((reads_retrieve16 (by simp [wlanKeyLen])).from _).bind
  apply (key _).bind
  apply (groupTSC _).bind
  apply ((reads_retrieve8 interfaceInfo.qos.toNat_lt).from _).bind
  apply ((reads_retrieve8 interfaceInfo.authType.toNat_lt).from _).bind
  apply ((reads_retrieve8 interfaceInfo.MACmode.toNat_lt).from _).bind
  apply ((reads_retrieve8 interfaceInfo.frameTunnelMode.toNat_lt).from _).bind
  apply ((reads_retrieve8 interfaceInfo.suppressSSID.toNat_lt).from _).bind
  rw [if_neg notNegative', if_neg notNegative, Nat.add_sub_cancel_left]
  simp only [UInt8.ofNat_toNat, UInt16.ofNat_toNat, bind_pure_comp]
  exact (readsFrom_rawBytes _ interfaceInfo.SSID).map fun SSID =>
    { interfaceInfo.added radioID info with SSID }

theorem addWlan_arrives_iff (radioID : UInt8) (interfaceInfo : WTPInterfaceInfo)
    (info : ACInterfaceRequestInfo) :
    Arrives (cwAssembleMsgElemACAddWlan radioID interfaceInfo) ieee80211AddWlanType
      (cwParseACAddWlan info) (interfaceInfo.added radioID info) ↔
        cwMsgIEEEAddWlanMinLen + interfaceInfo.SSID.length < 65536 := by
  have arrives : Arrives (cwAssembleMsgElemACAddWlan radioID interfaceInfo) ieee80211AddWlanType
      (cwParseACAddWlan info) (interfaceInfo.added radioID info) ↔
        (addWlanBody radioID interfaceInfo).length < 65536 ∧
          interfaceInfo.added radioID info = interfaceInfo.added radioID info :=
    arrives_iff (by simp [ieee80211AddWlanType]) (cwAssembleMsgElemACAddWlan_eq radioID interfaceInfo)
      (fun len => ⟨_, rfl⟩) fun _ => readsFrom_addWlan radioID interfaceInfo info
  rw [arrives, length_addWlanBody]
  simp

/-! ## A WLAN that is changed -/

/-- The AC stores 24 bytes into a buffer of twelve. -/
theorem cwAssembleMsgElemACUpdateWlan_overruns (radioID : UInt8) (interfaceInfo : WTPInterfaceInfo)
    (element : CWProtocolMessage) :
    cwAssembleMsgElemACUpdateWlan radioID interfaceInfo ≠ .ok element := by
  intro assembled
  have fills := (fills_store8 radioID.toNat).bind ((fills_store8 interfaceInfo.wlanID.toNat).bind
    ((fills_forM (fun field : UInt8 => fills_store8 field.toNat) interfaceInfo.capability).bind
      ((fills_store8 interfaceInfo.keyIndex.toNat).bind
        ((fills_store8 interfaceInfo.keyStatus.toNat).bind (fills_rawBytes interfaceInfo.key)))))
  rw [interfaceInfo.capability_length, interfaceInfo.key_length] at fills
  rw [cwAssembleMsgElemACUpdateWlan] at assembled
  cases body : assembleInto 12 (do
      cwProtocolStore8 radioID.toNat
      cwProtocolStore8 interfaceInfo.wlanID.toNat
      interfaceInfo.capability.forM fun field => cwProtocolStore8 field.toNat
      cwProtocolStore8 interfaceInfo.keyIndex.toNat
      cwProtocolStore8 interfaceInfo.keyStatus.toNat
      cwProtocolStoreRawBytes interfaceInfo.key) with
  | error failure =>
    rw [body] at assembled
    cases assembled
  | ok message =>
    have room := fills.le_size body
    simp [wlanCapabilityNumFields, wlanKeyLen] at room

/-- Nor would a larger buffer help: the WTP takes eleven bytes for the whole element. -/
theorem length_of_updateWlan {info info' : ACInterfaceRequestInfo} {len : Nat}
    {message after : CWProtocolMessage} (valid : message.Valid)
    (ran : (cwParseACUpdateWlan info len).run message = .ok info' after) : len = 11 := by
  have accepts := (accepts_retrieve8.bind fun radioID => accepts_retrieve8.bind fun wlanID =>
    accepts_retrieve16.bind fun capabilityBit => accepts_retrieve8.bind fun keyIndex =>
      accepts_retrieve8.bind fun keyStatus => accepts_retrieve8.bind fun keyLength =>
        (accepts_rawBytes wlanKeyLen).bind fun key =>
          accepts_pure ({ info with
            operation := .updateWlan, radioID, wlanID, capabilityBit := .ofNat capabilityBit,
            keyIndex := .ofNat keyIndex, keyStatus := .ofNat keyStatus,
            keyLength := .ofNat keyLength, key } : ACInterfaceRequestInfo)).messageElement len
  obtain ⟨word, _, ⟨length, _, _, _, same, ⟨_, rfl, _⟩, _, _, _, rfl, ⟨_, rfl, _⟩, _, _, _, rfl,
    ⟨_, rfl, _⟩, _, _, _, rfl, ⟨_, rfl, _⟩, _, _, _, rfl, ⟨_, rfl, _⟩, _, _, _, rfl, ⟨_, rfl, _⟩,
    _, _, _, rfl, ⟨exact, _⟩, rfl, _⟩, _⟩ := (accepts message valid info' after).mp ran
  rw [← length, same]
  simp [exact, wlanKeyLen]

/-! ## Stations -/

/-- The record behind an element that adds or deletes a station. -/
def stationNamed (operation : StationOperation) (radioID : UInt8) (StationMacAddr : EthAddr)
    (request : StationRequest) : StationRequest :=
  { request with
    typeOp := some operation
    radioID := radioID.toNat
    address := some StationMacAddr.bytes }

theorem ofInt_toNat (byte : UInt8) : UInt8.ofInt byte.toNat = byte := by
  have small := byte.toNat_lt
  have kept : ((byte.toNat : Int) % 2 ^ 8).toNat = byte.toNat := by omega
  rw [UInt8.ofInt, kept, UInt8.ofNat_toNat]

theorem station_arrives (operation : StationOperation) (radioID : UInt8) (StationMacAddr : EthAddr)
    (request : StationRequest) :
    Arrives (assembleStationElement operation radioID.toNat StationMacAddr) operation.elementType
      (fun len => parseStationElement operation len request)
      (stationNamed operation radioID StationMacAddr request) := by
  have known : operation.elementType < 65536 := by
    cases operation <;> simp [StationOperation.elementType]
  have fits : (StationElement.station operation radioID StationMacAddr.bytes).Fits := by
    simp [StationElement.Fits, ethALen]
  have short := StationElement.length_body_lt _ fits
  have assembled := assembleStationElement_eq operation radioID.toNat StationMacAddr
  rw [ofInt_toNat] at assembled
  apply (arrives_iff known assembled (fun len => ⟨_, rfl⟩) ?reads).mpr ⟨short, rfl⟩
  case reads =>
    intro _ start
    exact Accepts.readsFrom (accepts_stationElement operation _ request)
      ⟨rfl, radioID, StationMacAddr.bytes, fits, rfl, rfl⟩ start

/-- The record behind an IEEE 802.11 station.  The identifier is sent without the two bits that
    mark it in a frame. -/
def ieee80211StationNamed (radioID wlanID : UInt8) (associationResponse : CWFrameAssociationResponse)
    (request : StationRequest) : StationRequest :=
  { request with
    radioID := radioID.toNat
    wlanID := wlanID.toNat
    address := some associationResponse.DA.bytes
    assID := associationResponse.assID - 49152
    flags := 0
    capability := associationResponse.capabilityBit
    supportedRates := some associationResponse.supportedRates }

theorem ieee80211Station_arrives (radioID wlanID : UInt8)
    (associationResponse : CWFrameAssociationResponse) (request : StationRequest) :
    Arrives (cwAssembleMsgElem80211Station radioID.toNat wlanID.toNat associationResponse)
      ieee80211StationType (fun len => cwParse80211Station len request)
      (ieee80211StationNamed radioID wlanID associationResponse request) := by
  have assembled := cwAssembleMsgElem80211Station_eq radioID.toNat wlanID.toNat associationResponse
  rw [ofInt_toNat, ofInt_toNat] at assembled
  have rates := associationResponse.supportedRatesLen
  have fits : (StationElement.ieee80211Station radioID (associationResponse.assID - 49152) 0
      associationResponse.DA associationResponse.capabilityBit wlanID
        associationResponse.supportedRates).Fits := by
    simp only [StationElement.Fits, cwMsgIEEEStationLen]
    omega
  have short := StationElement.length_body_lt _ fits
  apply (arrives_iff (StationElement.type_lt _) assembled (fun len => ⟨_, rfl⟩) ?reads).mpr
    ⟨short, rfl⟩
  case reads =>
    intro short start
    exact Accepts.readsFrom (accepts_ieee80211Station _ short request)
      ⟨rfl, radioID, _, 0, _, _, wlanID, _, fits, rfl, rfl⟩ start

/-! ## Where the two sides agree -/

/-- The elements with what they are assembled from. -/
inductive WlanElement where
  | addWlan (radioID : UInt8) (interfaceInfo : WTPInterfaceInfo)
  | updateWlan (radioID : UInt8) (interfaceInfo : WTPInterfaceInfo)
  | addStation (radioID : UInt8) (StationMacAddr : EthAddr)
  | deleteStation (radioID : UInt8) (StationMacAddr : EthAddr)
  | ieee80211Station (radioID wlanID : UInt8) (associationResponse : CWFrameAssociationResponse)

/-- The element is assembled inside its buffer, and the WTP sets its record to the values the
    AC has sent and ends behind the element, whatever the record held before. -/
def WlanElement.Agrees : WlanElement → Prop
  | addWlan radioID interfaceInfo =>
      ∀ info, Arrives (cwAssembleMsgElemACAddWlan radioID interfaceInfo) ieee80211AddWlanType
        (cwParseACAddWlan info) (interfaceInfo.added radioID info)
  | updateWlan radioID interfaceInfo =>
      ∀ info, Arrives (cwAssembleMsgElemACUpdateWlan radioID interfaceInfo) ieee80211UpdateWlanType
        (cwParseACUpdateWlan info) (interfaceInfo.updated radioID info)
  | addStation radioID StationMacAddr =>
      ∀ request, Arrives (cwAssembleMsgElemAddStation radioID.toNat StationMacAddr)
        StationOperation.add.elementType (fun len => parseStationElement .add len request)
        (stationNamed .add radioID StationMacAddr request)
  | deleteStation radioID StationMacAddr =>
      ∀ request, Arrives (cwAssembleMsgElemDeleteStation radioID.toNat StationMacAddr)
        StationOperation.delete.elementType (fun len => parseStationElement .delete len request)
        (stationNamed .delete radioID StationMacAddr request)
  | ieee80211Station radioID wlanID associationResponse =>
      ∀ request, Arrives
        (cwAssembleMsgElem80211Station radioID.toNat wlanID.toNat associationResponse)
        ieee80211StationType (fun len => cwParse80211Station len request)
        (ieee80211StationNamed radioID wlanID associationResponse request)

/-- It is no update, and the SSID leaves room for the length of an added WLAN. -/
def WlanElement.Supported : WlanElement → Prop
  | addWlan _ interfaceInfo => cwMsgIEEEAddWlanMinLen + interfaceInfo.SSID.length < 65536
  | updateWlan _ _ => False
  | addStation _ _ => True
  | deleteStation _ _ => True
  | ieee80211Station _ _ _ => True

/-- AC and WTP agree on every element that is not an update of a WLAN and whose length can be
    announced. -/
theorem wlanElement_agrees_iff (element : WlanElement) : element.Agrees ↔ element.Supported := by
  cases element with
  | addWlan radioID interfaceInfo =>
    constructor
    · intro agrees
      exact (addWlan_arrives_iff radioID interfaceInfo default).mp (agrees default)
    · intro supported info
      exact (addWlan_arrives_iff radioID interfaceInfo info).mpr supported
  | updateWlan radioID interfaceInfo =>
    constructor
    · intro agrees
      obtain ⟨element, assembled, _⟩ := agrees default
      exact cwAssembleMsgElemACUpdateWlan_overruns radioID interfaceInfo element assembled
    · exact False.elim
  | addStation radioID StationMacAddr =>
    exact iff_of_true (station_arrives .add radioID StationMacAddr) trivial
  | deleteStation radioID StationMacAddr =>
    exact iff_of_true (station_arrives .delete radioID StationMacAddr) trivial
  | ieee80211Station radioID wlanID associationResponse =>
    exact iff_of_true (ieee80211Station_arrives radioID wlanID associationResponse) trivial

/-- A WLAN with the default settings of the AC. -/
def defaultWlan : WTPInterfaceInfo where
  wlanID := 1
  capability := [1, 0, 0, 0, 0, 0, 0, 0, 0, 0, 1, 0, 0, 0, 0, 0]
  capability_length := rfl
  capabilityBit := 1025
  keyIndex := 0
  keyStatus := 0
  key := List.replicate wlanKeyLen 0
  key_length := List.length_replicate
  groupTSC := List.replicate wlanGroupTSCLen 0
  groupTSC_length := List.length_replicate
  qos := 0
  authType := 0
  MACmode := 0
  frameTunnelMode := 0
  suppressSSID := 1
  SSID := [119, 108, 97, 110]

theorem updateWlan_not_agrees : ¬ (WlanElement.updateWlan 1 defaultWlan).Agrees := by
  intro agrees
  obtain ⟨element, assembled, _⟩ := agrees default
  exact cwAssembleMsgElemACUpdateWlan_overruns 1 defaultWlan element assembled

end WlanController.Elements
