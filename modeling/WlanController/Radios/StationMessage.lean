import WlanController.Protocol.PacketBytes
import WlanController.Radios.BSSSearch

/-!
# Station configuration requests

The AC tells a WTP in message elements which station to add or to delete.  An added station
is named twice, with the radio and then with radio and WLAN; a deleted station is named with
the radio alone.
-/

namespace WlanController.Radios

open Protocol

/-- The operations, whose values are the types of their message elements. -/
inductive StationOperation where
  | add | delete
  deriving DecidableEq, Repr

def StationOperation.elementType : StationOperation → Nat
  | .add => 8
  | .delete => 18

def ieee80211StationType : Nat := 1036

def stationConfigurationRequest : Nat := 25

/-- The members of the record that are sent. -/
structure CWFrameAssociationResponse where
  DA : EthAddr
  BSSID : EthAddr
  seqCtrl : UInt16
  capabilityBit : UInt16
  assID : UInt16
  supportedRates : List UInt8
  /-- `supportedRatesLen` is a `short int`. -/
  supportedRatesLen : supportedRates.length < 32768

/-! ## Assembling -/

def cwAssembleMsgElem (msgPtr : CWProtocolMessage) (type : Nat) :
    Except Failure CWProtocolMessage :=
  assembleInto (6 + msgPtr.offset) do
    cwProtocolStore16 type
    cwProtocolStore16 msgPtr.offset
    cwProtocolStoreMessage msgPtr

/-- The element of an operation: the radio and the address of the station. -/
def assembleStationElement (operation : StationOperation) (radioID : Int)
    (StationMacAddr : EthAddr) : Except Failure CWProtocolMessage := do
  let msgPtr ← assembleInto 8 do
    cwProtocolStore8 (UInt8.ofInt radioID).toNat
    cwProtocolStore8 6
    cwProtocolStoreRawBytes StationMacAddr.bytes
  cwAssembleMsgElem msgPtr operation.elementType

def cwAssembleMsgElemAddStation (radioID : Int) (StationMacAddr : EthAddr) :
    Except Failure CWProtocolMessage :=
  assembleStationElement .add radioID StationMacAddr

def cwAssembleMsgElemDeleteStation (radioID : Int) (StationMacAddr : EthAddr) :
    Except Failure CWProtocolMessage :=
  assembleStationElement .delete radioID StationMacAddr

def cwMsgIEEEStationLen : Nat := 13

def cwAssembleMsgElem80211Station (radioID wlanID : Int)
    (associationResponse : CWFrameAssociationResponse) : Except Failure CWProtocolMessage := do
  let msgPtr ← assembleInto (cwMsgIEEEStationLen + associationResponse.supportedRates.length) do
    cwProtocolStore8 (UInt8.ofInt radioID).toNat
    cwProtocolStore16 (associationResponse.assID - 49152).toNat
    cwProtocolStore8 0
    cwProtocolStoreRawBytes associationResponse.DA.bytes
    cwProtocolStore16 associationResponse.capabilityBit.toNat
    cwProtocolStore8 (UInt8.ofInt wlanID).toNat
    cwProtocolStoreRawBytes associationResponse.supportedRates
  cwAssembleMsgElem msgPtr ieee80211StationType

/-- `CW_CREATE_PROTOCOL_MSG_ARRAY_ERR` leaves an element without bytes. -/
def emptyElement : CWProtocolMessage := ⟨[], 0, none⟩

/-- The two elements of the array `msgElems`, for the interface the search has selected. -/
def stationMsgElems (radio : CWWTPRadioInfoValues) (indexWlan : Fin wtpMaxInterfaces)
    (associationResponse : CWFrameAssociationResponse) :
    StationOperation → Except Failure (List CWProtocolMessage)
  | .add => do
      let addStation ← cwAssembleMsgElemAddStation radio.radioID associationResponse.DA
      let station ← cwAssembleMsgElem80211Station radio.radioID (radio.interfaces indexWlan).wlanID
        associationResponse
      return [addStation, station]
  | .delete => do
      let deleteStation ← cwAssembleMsgElemDeleteStation radio.radioID associationResponse.DA
      return [deleteStation, emptyElement]

/-- The interface that the AC means. -/
structure SelectedBSS where
  indexRadio : Nat
  indexWlan : Fin wtpMaxInterfaces
  radio : CWWTPRadioInfoValues

/-- `none` where the search goes on with indices outside the filled elements. -/
def selectBSS (table : CWWTPRadiosInfo) (associationResponse : CWFrameAssociationResponse) :
    Option SelectedBSS :=
  match searchStationConfiguration table associationResponse.BSSID associationResponse.seqCtrl with
  | .selected indexRadio indexWlan =>
      (table.radiosInfo[indexRadio]?).map fun radio => ⟨indexRadio, indexWlan, radio⟩
  | .nothing => none
  | .outside => none

/-- The packets of the request.  `none` stands for an access outside `radiosInfo`. -/
def cwAssembleStationConfigurationRequest (table : CWWTPRadiosInfo) (gRADIO_MAC : EthAddr)
    (PMTU : Int) (seqNum fragID uninitializedType : Nat)
    (associationResponse : CWFrameAssociationResponse) (operation : StationOperation) :
    Option (Except Failure (List CWProtocolMessage)) :=
  (selectBSS table associationResponse).map fun bss => do
    let msgElems ← stationMsgElems bss.radio bss.indexWlan associationResponse operation
    cwAssembleMessage gRADIO_MAC PMTU seqNum stationConfigurationRequest msgElems [] cwPacketPlain
      fragID uninitializedType

/-! ## The elements as bytes -/

/-- The elements a request is made of. -/
inductive StationElement where
  | station (operation : StationOperation) (radioID : UInt8) (address : List UInt8)
  | ieee80211Station (radioID : UInt8) (assID : UInt16) (flags : UInt8) (address : EthAddr)
      (capability : UInt16) (wlanID : UInt8) (supportedRates : List UInt8)

namespace StationElement

def type : StationElement → Nat
  | station operation _ _ => operation.elementType
  | ieee80211Station .. => ieee80211StationType

def body : StationElement → List UInt8
  | station _ radioID address => radioID :: UInt8.ofNat address.length :: address
  | ieee80211Station radioID assID flags address capability wlanID supportedRates =>
      radioID :: (BigEndian.encode 2 assID.toNat ++ flags :: (address.bytes ++
        (BigEndian.encode 2 capability.toNat ++ wlanID :: supportedRates)))

/-- The lengths have room in their fields. -/
def Fits : StationElement → Prop
  | station _ _ address => address.length < 256
  | ieee80211Station _ _ _ _ _ _ supportedRates => cwMsgIEEEStationLen + supportedRates.length < 65536

def bytes (element : StationElement) : List UInt8 :=
  BigEndian.encode 2 element.type ++ (BigEndian.encode 2 element.body.length ++ element.body)

theorem length_bytes (element : StationElement) : element.bytes.length = 4 + element.body.length := by
  simp only [bytes, List.length_append, BigEndian.length_encode]
  omega

theorem type_lt (element : StationElement) : element.type < 65536 := by
  cases element with
  | station operation => cases operation <;> simp [type, StationOperation.elementType]
  | ieee80211Station => simp [type, ieee80211StationType]

theorem length_body_lt (element : StationElement) (fits : element.Fits) :
    element.body.length < 65536 := by
  cases element with
  | station operation radioID address =>
    simp only [Fits] at fits
    simp only [body, List.length_cons]
    omega
  | ieee80211Station radioID assID flags address capability wlanID supportedRates =>
    simp only [Fits, cwMsgIEEEStationLen] at fits
    simp only [body, List.length_cons, List.length_append, BigEndian.length_encode,
      EthAddr.length_bytes, ethALen]
    omega

end StationElement

/-- The elements of a request. -/
def requestElements (radioID wlanID : Int) (associationResponse : CWFrameAssociationResponse) :
    StationOperation → List StationElement
  | .add =>
      [.station .add (UInt8.ofInt radioID) associationResponse.DA.bytes,
        .ieee80211Station (UInt8.ofInt radioID) (associationResponse.assID - 49152) 0
          associationResponse.DA associationResponse.capabilityBit (UInt8.ofInt wlanID)
          associationResponse.supportedRates]
  | .delete => [.station .delete (UInt8.ofInt radioID) associationResponse.DA.bytes]

@[simp] theorem encode_byte (byte : UInt8) : BigEndian.encode 1 byte.toNat = [byte] := by
  simp [BigEndian.encode]

/-- An element leaves two bytes of its buffer unused. -/
theorem cwAssembleMsgElem_eq (body : List UInt8) (type : Nat) :
    cwAssembleMsgElem (filled body 0) type =
      .ok (filled (BigEndian.encode 2 type ++ (BigEndian.encode 2 body.length ++ body)) 2) := by
  have stores := (stores_store16 type).bind ((stores_store16 body.length).bind
    (stores_message (valid_filled body 0)))
  rw [contents_filled] at stores
  have run := stores [] 2
  have size : (BigEndian.encode 2 type ++ (BigEndian.encode 2 body.length ++ body)).length + 2 =
      6 + body.length := by
    simp only [List.length_append, BigEndian.length_encode]
    omega
  rw [size, ← cwCreateProtocolMessage_eq_filled] at run
  simp only [cwAssembleMsgElem, assembleInto, offset_filled]
  rw [run]
  rfl

theorem assembleStationElement_eq (operation : StationOperation) (radioID : Int) (DA : EthAddr) :
    assembleStationElement operation radioID DA =
      .ok (filled (StationElement.station operation (UInt8.ofInt radioID) DA.bytes).bytes 2) := by
  have stores := (stores_store8 (UInt8.ofInt radioID).toNat).bind
    ((stores_store8 6).bind (stores_rawBytes DA.bytes))
  have body : BigEndian.encode 1 (UInt8.ofInt radioID).toNat ++ (BigEndian.encode 1 6 ++ DA.bytes) =
      (StationElement.station operation (UInt8.ofInt radioID) DA.bytes).body := by
    simp [StationElement.body, BigEndian.encode, ethALen]
  rw [body] at stores
  have length : 8 =
      (StationElement.station operation (UInt8.ofInt radioID) DA.bytes).body.length := by
    simp [StationElement.body, ethALen]
  rw [assembleStationElement, assembleInto_stores stores length, ok_bind, cwAssembleMsgElem_eq]
  rfl

theorem cwAssembleMsgElem80211Station_eq (radioID wlanID : Int)
    (associationResponse : CWFrameAssociationResponse) :
    cwAssembleMsgElem80211Station radioID wlanID associationResponse =
      .ok (filled (StationElement.ieee80211Station (UInt8.ofInt radioID)
        (associationResponse.assID - 49152) 0 associationResponse.DA
        associationResponse.capabilityBit (UInt8.ofInt wlanID)
        associationResponse.supportedRates).bytes 2) := by
  have stores := (stores_store8 (UInt8.ofInt radioID).toNat).bind
    ((stores_store16 (associationResponse.assID - 49152).toNat).bind ((stores_store8 0).bind
      ((stores_rawBytes associationResponse.DA.bytes).bind
        ((stores_store16 associationResponse.capabilityBit.toNat).bind
          ((stores_store8 (UInt8.ofInt wlanID).toNat).bind
            (stores_rawBytes associationResponse.supportedRates))))))
  rw [cwAssembleMsgElem80211Station, assembleInto_stores stores ?size, ok_bind,
    cwAssembleMsgElem_eq]
  case size =>
    simp [cwMsgIEEEStationLen, ethALen]
    omega
  simp [StationElement.bytes, StationElement.body, StationElement.type, BigEndian.encode]

/-- The array of the request; the second element of a deletion stays empty. -/
def filledElements (radioID wlanID : Int) (associationResponse : CWFrameAssociationResponse)
    (operation : StationOperation) : List CWProtocolMessage :=
  (requestElements radioID wlanID associationResponse operation).map (fun element =>
    filled element.bytes 2) ++
    match operation with
    | .add => []
    | .delete => [emptyElement]

theorem stationMsgElems_eq (radio : CWWTPRadioInfoValues) (indexWlan : Fin wtpMaxInterfaces)
    (associationResponse : CWFrameAssociationResponse) (operation : StationOperation) :
    stationMsgElems radio indexWlan associationResponse operation =
      .ok (filledElements radio.radioID (radio.interfaces indexWlan).wlanID associationResponse
        operation) := by
  cases operation with
  | add =>
    rw [stationMsgElems, cwAssembleMsgElemAddStation, assembleStationElement_eq, ok_bind,
      cwAssembleMsgElem80211Station_eq, ok_bind]
    rfl
  | delete =>
    rw [stationMsgElems, cwAssembleMsgElemDeleteStation, assembleStationElement_eq, ok_bind]
    rfl

theorem valid_filledElements (radioID wlanID : Int)
    (associationResponse : CWFrameAssociationResponse) (operation : StationOperation) :
    ∀ message ∈ filledElements radioID wlanID associationResponse operation, message.Valid := by
  cases operation with
  | add => simp [filledElements, requestElements, valid_filled]
  | delete =>
    have valid : emptyElement.Valid := Nat.zero_le _
    simp [filledElements, requestElements, valid_filled, valid]

theorem contents_filledElements (radioID wlanID : Int)
    (associationResponse : CWFrameAssociationResponse) (operation : StationOperation) :
    (filledElements radioID wlanID associationResponse operation).flatMap
        CWProtocolMessage.contents =
      (requestElements radioID wlanID associationResponse operation).flatMap
        StationElement.bytes := by
  cases operation with
  | add => simp [filledElements, requestElements]
  | delete =>
    have empty : emptyElement.contents = [] := rfl
    simp [filledElements, requestElements, empty]

theorem requestElements_fit (radioID wlanID : Int)
    (associationResponse : CWFrameAssociationResponse) (operation : StationOperation) :
    ∀ element ∈ requestElements radioID wlanID associationResponse operation, element.Fits := by
  have short := associationResponse.supportedRatesLen
  cases operation with
  | add =>
    simp only [requestElements, List.forall_mem_cons]
    refine ⟨?_, ?_, by simp⟩
    · simp [StationElement.Fits, ethALen]
    · simp only [StationElement.Fits, cwMsgIEEEStationLen]
      omega
  | delete => simp [requestElements, StationElement.Fits, ethALen]

theorem length_requestElements (radioID wlanID : Int)
    (associationResponse : CWFrameAssociationResponse) (operation : StationOperation) :
    ((requestElements radioID wlanID associationResponse operation).flatMap
      StationElement.bytes).length < 65533 := by
  have short := associationResponse.supportedRatesLen
  cases operation with
  | add =>
    simp only [requestElements, List.flatMap_cons, List.flatMap_nil, List.length_append,
      StationElement.length_bytes, StationElement.body, List.length_cons, BigEndian.length_encode,
      EthAddr.length_bytes, ethALen, List.length_nil]
    omega
  | delete =>
    simp [requestElements, StationElement.length_bytes, StationElement.body, ethALen]

end WlanController.Radios
