import WlanController.Frames.ManagementFrames

/-!
# The answers to a station

Which answers fit into the buffers that are allocated for them, and which answers to an
association say to their receiver what they were built from.
-/

namespace WlanController.Frames

open Protocol

/-! ## What the builders store -/

theorem stores_moveOn (count : Nat) : Stores (moveOn count) (List.replicate count 0) := by
  intro done room
  simp only [List.length_replicate, run_moveOn, CWProtocolMessage.advance, filled, List.length_append,
    List.append_assoc, List.replicate_append_replicate]

def mgmtHeaderBytes (stype : Nat) (DA SA BSSID : EthAddr) : List UInt8 :=
  ByteOrder.store 2 (ieee80211FC wlanFCTypeMgmt stype).toNat ++ (ByteOrder.store 2 (htons 0) ++
    (DA.bytes ++ (SA.bytes ++ (BSSID.bytes ++ List.replicate lenIESeqCtrl 0))))

theorem stores_mgmtHeader (stype : Nat) (DA SA BSSID : EthAddr) :
    Stores (assembleMgmtHeader stype DA SA BSSID) (mgmtHeaderBytes stype DA SA BSSID) :=
  (stores_short _).bind ((stores_short _).bind ((stores_addr DA).bind ((stores_addr SA).bind
    ((stores_addr BSSID).bind (stores_moveOn _)))))

theorem length_mgmtHeaderBytes (stype : Nat) (DA SA BSSID : EthAddr) :
    (mgmtHeaderBytes stype DA SA BSSID).length = 24 := by
  simp [mgmtHeaderBytes, length_store, ethALen, lenIESeqCtrl]

def probeFixedBytes (interfaceInfo : InterfaceInfo) (SA : EthAddr) : List UInt8 :=
  mgmtHeaderBytes wlanFCStypeProbeResp SA interfaceInfo.MACaddr interfaceInfo.BSSID ++
    (List.replicate lenIETimestamp 0 ++ (ByteOrder.store 2 (htons 100) ++
      ByteOrder.store 2 interfaceInfo.capabilityBit))

theorem stores_probeFixed (interfaceInfo : InterfaceInfo) (SA : EthAddr) :
    Stores (assembleProbeFixed interfaceInfo SA) (probeFixedBytes interfaceInfo SA) :=
  (stores_mgmtHeader _ _ _ _).bind ((stores_moveOn _).bind ((stores_short _).bind (stores_short _)))

theorem length_probeFixedBytes (interfaceInfo : InterfaceInfo) (SA : EthAddr) :
    (probeFixedBytes interfaceInfo SA).length = mgmtFrameFixedLenProbeResp := by
  simp [probeFixedBytes, length_mgmtHeaderBytes, length_store, lenIETimestamp,
    mgmtFrameFixedLenProbeResp]

def authFixedBytes (addrAP SA : EthAddr) : List UInt8 :=
  mgmtHeaderBytes wlanFCStypeAuth SA addrAP addrAP ++
    (ByteOrder.store 2 0 ++ (ByteOrder.store 2 2 ++ ByteOrder.store 2 0))

theorem stores_authFixed (addrAP SA : EthAddr) :
    Stores (assembleAuthFixed addrAP SA) (authFixedBytes addrAP SA) :=
  (stores_mgmtHeader _ _ _ _).bind ((stores_short _).bind ((stores_short _).bind (stores_short _)))

theorem length_authFixedBytes (addrAP SA : EthAddr) :
    (authFixedBytes addrAP SA).length = mgmtFrameFixedLenAuth := by
  simp [authFixedBytes, length_mgmtHeaderBytes, length_store, mgmtFrameFixedLenAuth]

def associationFixedBytes (stype : Nat) (DA SA BSSID : EthAddr) (capabilityBit : Nat)
    (staAID : BitVec 16) : List UInt8 :=
  mgmtHeaderBytes stype DA SA BSSID ++ (ByteOrder.store 2 capabilityBit ++
    (ByteOrder.store 2 0 ++ ByteOrder.store 2 (assIDField staAID).toNat))

theorem stores_associationFixed (stype : Nat) (DA SA BSSID : EthAddr) (capabilityBit : Nat)
    (staAID : BitVec 16) :
    Stores (assembleAssociationFixed stype DA SA BSSID capabilityBit staAID)
      (associationFixedBytes stype DA SA BSSID capabilityBit staAID) :=
  (stores_mgmtHeader _ _ _ _).bind ((stores_short _).bind ((stores_short _).bind (stores_short _)))

theorem length_associationFixedBytes (stype : Nat) (DA SA BSSID : EthAddr) (capabilityBit : Nat)
    (staAID : BitVec 16) :
    (associationFixedBytes stype DA SA BSSID capabilityBit staAID).length =
      mgmtFrameFixedLenAssociation := by
  simp [associationFixedBytes, length_mgmtHeaderBytes, length_store, mgmtFrameFixedLenAssociation]

/-! ## What fits -/

/-- A frame is returned of which the bytes up to the length that is returned have been written,
    and nothing behind the buffer has. -/
def Complete (result : Except Failure (Option CWProtocolMessage)) : Prop :=
  ∃ bytes room, result = .ok (some (filled bytes room))

section BuildFrame

variable {size : Nat} {head : MessageM Unit} {tail : MessageM Bool} {fixed elements : List UInt8}

theorem run_behind (stores : Stores head fixed) (room : fixed.length ≤ size) :
    (head >>= fun _ => tail).run (cwCreateProtocolMessage size) =
      tail.run (filled fixed (size - fixed.length)) := by
  have run := stores [] (size - fixed.length)
  rw [Nat.add_sub_cancel' room] at run
  rw [cwCreateProtocolMessage_eq_filled, EStateM.run_bind, run, List.nil_append]

theorem buildFrame_fits (stores : Stores head fixed) (fills : Fills tail elements true)
    (fits : fixed.length + elements.length ≤ size) :
    buildFrame size (head >>= fun _ => tail) =
      .ok (some (filled (fixed ++ elements) (size - fixed.length - elements.length))) := by
  have room : fixed.length ≤ size := by omega
  cases fills fixed (size - fixed.length) with
  | inl stored => rw [buildFrame, run_behind stores room, stored.2]
  | inr burst => omega

theorem buildFrame_bursts {value : Bool} (stores : Stores head fixed)
    (fills : Fills tail elements value) (room : fixed.length ≤ size)
    (bursts : size < fixed.length + elements.length) :
    buildFrame size (head >>= fun _ => tail) = .error (.outOfBounds .message) := by
  cases fills fixed (size - fixed.length) with
  | inl stored => omega
  | inr burst =>
    obtain ⟨_, after, run⟩ := burst
    rw [buildFrame, run_behind stores room, run]

theorem complete_iff (stores : Stores head fixed) (fills : Fills tail elements true)
    (room : fixed.length ≤ size) :
    Complete (buildFrame size (head >>= fun _ => tail)) ↔ fixed.length + elements.length ≤ size := by
  constructor
  · intro complete
    by_contra bursts
    obtain ⟨bytes, behind, built⟩ := complete
    rw [buildFrame_bursts stores fills room (not_le.mp bursts)] at built
    cases built
  · intro fits
    exact ⟨_, _, buildFrame_fits stores fills fits⟩

/-- A builder that gives up returns nothing. -/
theorem incomplete (stores : Stores head fixed) (fills : Fills tail elements false)
    (room : fixed.length ≤ size) : ¬ Complete (buildFrame size (head >>= fun _ => tail)) := by
  rintro ⟨bytes, behind, built⟩
  cases fills fixed (size - fixed.length) with
  | inl stored =>
    rw [buildFrame, run_behind stores room, stored.2] at built
    cases built
  | inr burst =>
    obtain ⟨_, after, run⟩ := burst
    rw [buildFrame, run_behind stores room, run] at built
    cases built

end BuildFrame

/-! ## The lists of rates -/

theorem fills_of_true {first : MessageM Bool} {next : Bool → MessageM Bool}
    {bytes bytes' : List UInt8} {value : Bool} (fills : Fills first bytes true)
    (fills' : Fills (next true) bytes' value) : Fills (first >>= next) (bytes ++ bytes') value :=
  fills.bind fills'

/-- The list of further rates, where there are any. -/
def extElement (extSupportedRates : List UInt8) : List UInt8 :=
  if 0 < extSupportedRates.length then
    element ieTypeExtSuppRates (extSupportedRates.take cw80211MaxSuppRates)
  else []

def markedRates (supportedRates : List UInt8) : List UInt8 :=
  (supportedRates.take cw80211MaxSuppRates).map markBasic

def stationElements (thisSTA : WTPSTAInfo) : List UInt8 :=
  element ieTypeSuppRates (markedRates thisSTA.supportedRates) ++ extElement thisSTA.extSupportedRates

theorem markedRates_ne_nil {supportedRates : List UInt8} (nonempty : supportedRates ≠ []) :
    markedRates supportedRates ≠ [] := by
  cases supportedRates with
  | nil => exact absurd rfl nonempty
  | cons rate rates => simp [markedRates, cw80211MaxSuppRates]

theorem fills_extRates (extSupportedRates : List UInt8) :
    Fills (do
      if 0 < extSupportedRates.length then
        if !(← cw80211AssembleIEExtendedSupportedRates
            (extSupportedRates.take (min wtpNl80211BitrateNum cw80211MaxSuppRates))) then
          return false
      return true) (extElement extSupportedRates) true := by
  by_cases nonempty : 0 < extSupportedRates.length
  · have taken : extSupportedRates.take cw80211MaxSuppRates ≠ [] := by
      cases extSupportedRates with
      | nil => cases nonempty
      | cons rate rates => simp [cw80211MaxSuppRates]
    simp only [extElement, if_pos nonempty]
    rw [← List.append_nil (element _ _)]
    exact fills_of_true (fills_rates ieTypeExtSuppRates taken) (fills_pure true)
  · simp only [extElement, if_neg nonempty]
    exact fills_pure true

theorem fills_stationRates {thisSTA : WTPSTAInfo} (nonempty : thisSTA.supportedRates ≠ []) :
    Fills (assembleStationRates thisSTA) (stationElements thisSTA) true := by
  apply fills_of_true (fills_rates ieTypeSuppRates (markedRates_ne_nil nonempty))
  exact fills_extRates thisSTA.extSupportedRates

/-- Without any rates only the type of the first list is stored. -/
theorem fills_stationNoRates {thisSTA : WTPSTAInfo} (empty : thisSTA.supportedRates = []) :
    Fills (assembleStationRates thisSTA) [ieTypeSuppRates] false := by
  have none : (thisSTA.supportedRates.take (min wtpNl80211BitrateNum cw80211MaxSuppRates)).map
      markBasic = [] := by
    rw [empty]
    rfl
  simp only [assembleStationRates, none]
  exact (fills_noRates ieTypeSuppRates).bind (fills_pure false)

def probeRates (supportedRates : List UInt8) : List UInt8 :=
  (supportedRates.take wtpNl80211BitrateNum).map markBasic

/-- The two elements at the end of a probe response. -/
def closingElements : List UInt8 := element ieTypeDSSS [1] ++ element ieTypeERP [0]

def probeElements (SSID : List UInt8) (request : ProbingStation) : List UInt8 :=
  element ieTypeSSID SSID ++ (element ieTypeSuppRates (probeRates request.supportedRates) ++
    (extElement request.extSupportedRates ++ closingElements))

theorem fills_closing : Fills (do
    cw80211AssembleIEDSSS 1
    cw80211AssembleIEERP 4
    return true) closingElements true := by
  rw [closingElements, ← List.append_nil (element ieTypeERP [0])]
  exact (fills_DSSS 1).bind ((fills_ERP 4).bind (fills_pure true))

theorem fills_probeElements (SSID : List UInt8) {request : ProbingStation}
    (nonempty : request.supportedRates ≠ []) :
    Fills (assembleProbeElements SSID request) (probeElements SSID request) true := by
  have taken : probeRates request.supportedRates ≠ [] := by
    cases rates : request.supportedRates with
    | nil => exact absurd rates nonempty
    | cons rate rates => simp [probeRates, wtpNl80211BitrateNum]
  apply (fills_SSID SSID).bind
  apply fills_of_true (fills_rates ieTypeSuppRates taken)
  by_cases ext : 0 < request.extSupportedRates.length
  · have taken' : request.extSupportedRates.take cw80211MaxSuppRates ≠ [] := by
      cases rates : request.extSupportedRates with
      | nil =>
        rw [rates] at ext
        cases ext
      | cons rate rates => simp [cw80211MaxSuppRates]
    simp only [extElement, if_pos ext]
    exact fills_of_true (fills_rates ieTypeExtSuppRates taken') fills_closing
  · simp only [extElement, if_neg ext]
    exact fills_closing

theorem fills_probeNoRates (SSID : List UInt8) {request : ProbingStation}
    (empty : request.supportedRates = []) :
    Fills (assembleProbeElements SSID request) (element ieTypeSSID SSID ++ [ieTypeSuppRates]) false := by
  have none : (request.supportedRates.take wtpNl80211BitrateNum).map markBasic = [] := by
    rw [empty]
    rfl
  simp only [assembleProbeElements, none]
  exact (fills_SSID SSID).bind ((fills_noRates ieTypeSuppRates).bind (fills_pure false))

/-! ## The answers -/

/-- An answer to a station, with what it is built from. -/
inductive Answer where
  | probeResponse (interfaceInfo : InterfaceInfo) (request : ProbingStation)
  | authResponse (addrAP SA : EthAddr)
  | associationResponse (interfaceInfo : InterfaceInfo) (thisSTA : WTPSTAInfo) (SA : EthAddr)
  | reassociationResponse (interfaceInfo : InterfaceInfo) (thisSTA : WTPSTAInfo) (SA : EthAddr)
  | associationResponseAC (MACAddr BSSID : EthAddr) (capabilityBit : Nat) (staAID : BitVec 16)
      (suppRate : List UInt8) (SA : EthAddr)
  | reassociationResponseAC (MACAddr BSSID : EthAddr) (capabilityBit : Nat) (staAID : BitVec 16)
      (suppRate : List UInt8) (SA : EthAddr)
  deriving DecidableEq, Repr

namespace Answer

def assemble : Answer → Except Failure (Option CWProtocolMessage)
  | probeResponse interfaceInfo request => cw80211AssembleProbeResponse interfaceInfo request
  | authResponse addrAP SA => cw80211AssembleAuthResponse addrAP SA
  | associationResponse interfaceInfo thisSTA SA =>
    cw80211AssembleAssociationResponse interfaceInfo thisSTA SA
  | reassociationResponse interfaceInfo thisSTA SA =>
    cw80211AssembleReassociationResponse interfaceInfo thisSTA SA
  | associationResponseAC MACAddr BSSID capabilityBit staAID suppRate SA =>
    cw80211AssembleAssociationResponseAC MACAddr BSSID capabilityBit staAID suppRate SA
  | reassociationResponseAC MACAddr BSSID capabilityBit staAID suppRate SA =>
    cw80211AssembleReassociationResponseAC MACAddr BSSID capabilityBit staAID suppRate SA

/-- The bytes that an element with further rates takes. -/
def extLength (extSupportedRates : List UInt8) : Nat :=
  if 0 < extSupportedRates.length then 2 + min 8 extSupportedRates.length else 0

/-- There are rates, and not more than there is room for. -/
def Fits : Answer → Prop
  | probeResponse _ request => request.supportedRates ≠ [] ∧
      min 32 request.supportedRates.length + extLength request.extSupportedRates ≤ 17
  | authResponse _ _ => True
  | associationResponse _ thisSTA _ => thisSTA.supportedRates ≠ []
  | reassociationResponse _ thisSTA _ => thisSTA.supportedRates ≠ [] ∧
      min 8 thisSTA.supportedRates.length + extLength thisSTA.extSupportedRates ≤ 13
  | associationResponseAC _ _ _ _ suppRate _ => suppRate.length ≤ 9
  | reassociationResponseAC _ _ _ _ suppRate _ => suppRate ≠ [] ∧ suppRate.length ≤ 9

theorem complete_of_rates {size : Nat} {head : MessageM Unit} {tail : MessageM Bool}
    {fixed elements : List UInt8} {rates : List UInt8} {few : Prop} (stores : Stores head fixed)
    (room : fixed.length ≤ size) (fills : rates ≠ [] → Fills tail elements true)
    (gives_up : rates = [] → ∃ given, Fills tail given false)
    (fits : fixed.length + elements.length ≤ size ↔ few) :
    Complete (buildFrame size (head >>= fun _ => tail)) ↔ rates ≠ [] ∧ few := by
  by_cases empty : rates = []
  · obtain ⟨given, fills⟩ := gives_up empty
    exact iff_of_false (incomplete stores fills room) fun both => both.1 empty
  · rw [complete_iff stores (fills empty) room, fits]
    exact ⟨fun few => ⟨empty, few⟩, And.right⟩

theorem length_extElement (extSupportedRates : List UInt8) :
    (extElement extSupportedRates).length = extLength extSupportedRates := by
  by_cases nonempty : 0 < extSupportedRates.length
  · rw [extElement, extLength, if_pos nonempty, if_pos nonempty, length_element, List.length_take]
    rfl
  · rw [extElement, extLength, if_neg nonempty, if_neg nonempty]
    rfl

theorem complete_iff_fits (answer : Answer) : Complete answer.assemble ↔ answer.Fits := by
  cases answer with
  | probeResponse interfaceInfo request =>
    refine complete_of_rates (stores_probeFixed interfaceInfo request.SA) ?_
      (fun nonempty => fills_probeElements interfaceInfo.SSID nonempty)
      (fun empty => ⟨_, fills_probeNoRates interfaceInfo.SSID empty⟩) ?_
    · rw [length_probeFixedBytes]
      omega
    · rw [length_probeFixedBytes]
      simp only [probeElements, closingElements, List.length_append, length_element, probeRates,
        List.length_map, List.length_take, length_extElement, mgmtFrameFixedLenProbeResp,
        mgmtFrameIEFixedLen, cw80211MaxSuppRates, wtpNl80211BitrateNum, List.length_cons,
        List.length_nil]
      omega
  | authResponse addrAP SA =>
    refine iff_of_true ?_ trivial
    refine (complete_iff (stores_authFixed addrAP SA) (fills_pure true) ?_).mpr ?_
    · rw [length_authFixedBytes]
    · rw [length_authFixedBytes]
      exact le_refl _
  | associationResponse interfaceInfo thisSTA SA =>
    have always : Complete (cw80211AssembleAssociationResponse interfaceInfo thisSTA SA) ↔
        thisSTA.supportedRates ≠ [] ∧ True := by
      refine complete_of_rates (stores_associationFixed wlanFCStypeAssocResp SA
        interfaceInfo.MACaddr interfaceInfo.BSSID thisSTA.capabilityBit thisSTA.staAID) ?_
        fills_stationRates (fun empty => ⟨_, fills_stationNoRates empty⟩) ?_
      · rw [length_associationFixedBytes]
        omega
      · rw [length_associationFixedBytes]
        simp only [stationElements, List.length_append, length_element, markedRates,
          List.length_map, List.length_take, length_extElement, extLength,
          mgmtFrameFixedLenAssociation, mgmtFrameIEFixedLen, cw80211MaxSuppRates, iff_true]
        split <;> omega
    rw [and_true] at always
    exact always
  | reassociationResponse interfaceInfo thisSTA SA =>
    refine complete_of_rates (stores_associationFixed wlanFCStypeReassocResp SA
      interfaceInfo.MACaddr interfaceInfo.BSSID thisSTA.capabilityBit thisSTA.staAID) ?_
      fills_stationRates (fun empty => ⟨_, fills_stationNoRates empty⟩) ?_
    · rw [length_associationFixedBytes]
      omega
    · rw [length_associationFixedBytes]
      simp only [stationElements, List.length_append, length_element, markedRates, List.length_map,
        List.length_take, length_extElement, mgmtFrameFixedLenAssociation, mgmtFrameIEFixedLen,
        cw80211MaxSuppRates]
      omega
  | associationResponseAC MACAddr BSSID capabilityBit staAID suppRate SA =>
    have stores := stores_associationFixed wlanFCStypeAssocResp SA MACAddr BSSID capabilityBit staAID
    have room : (associationFixedBytes wlanFCStypeAssocResp SA MACAddr BSSID capabilityBit
        staAID).length ≤ associationResponseACLen := by
      rw [length_associationFixedBytes, associationResponseACLen]
      omega
    by_cases nonempty : 0 < suppRate.length
    · have fills := fills_rates ieTypeSuppRates (List.ne_nil_of_length_pos nonempty)
      have fits := complete_iff stores fills room
      rw [length_associationFixedBytes, length_element] at fits
      simp only [assemble, cw80211AssembleAssociationResponseAC, if_pos nonempty]
      refine fits.trans ?_
      simp only [Fits, associationResponseACLen, mgmtFrameFixedLenAssociation, mgmtFrameIEFixedLen,
        cw80211MaxSuppRates]
      omega
    · have fits := complete_iff stores (fills_pure true) room
      rw [length_associationFixedBytes, List.length_nil] at fits
      simp only [assemble, cw80211AssembleAssociationResponseAC, if_neg nonempty]
      refine fits.trans ?_
      simp only [Fits, associationResponseACLen]
      omega
  | reassociationResponseAC MACAddr BSSID capabilityBit staAID suppRate SA =>
    refine complete_of_rates (stores_associationFixed wlanFCStypeReassocResp SA MACAddr BSSID
      capabilityBit staAID) ?_ (fills_rates ieTypeSuppRates) ?_ ?_
    · rw [length_associationFixedBytes, associationResponseACLen]
      omega
    · intro empty
      subst empty
      exact ⟨_, fills_noRates ieTypeSuppRates⟩
    · rw [length_associationFixedBytes, length_element, associationResponseACLen]
      simp only [mgmtFrameFixedLenAssociation, mgmtFrameIEFixedLen, cw80211MaxSuppRates]
      omega

end Answer

/-! ## What the receiver reads -/

theorem reads_store (value : Nat) :
    Reads loadShort (ByteOrder.store 2 value) (ByteOrder.load (ByteOrder.store 2 value)) none := by
  have inside : ByteOrder.store 2 value ≠ [] := by
    apply List.ne_nil_of_length_pos
    rw [length_store]
    exact Nat.two_pos
  have read := reads_rawBytes inside
  rw [length_store] at read
  exact read.map ByteOrder.load

theorem load_store {value : Nat} (small : value < 65536) :
    ByteOrder.load (ByteOrder.store 2 value) = value := by
  rw [ByteOrder.load, ByteOrder.store, List.reverse_reverse]
  exact BigEndian.decode_encode_of_lt small

/-- An element of the type that is looked for is read where it is short enough. -/
theorem reads_element (kind : IEKind) {value : List UInt8} (nonempty : value ≠ [])
    (short : value.length < 128) : Reads kind.parse (element kind.type value) (some value) none := by
  intro message rest here
  have run := kind.parse_follows message
  have length : (UInt8.ofNat value.length).toNat = value.length := by
    rw [UInt8.toNat_ofNat']
    omega
  have nonzero : UInt8.ofNat value.length ≠ 0 := by
    intro zero
    rw [zero] at length
    exact nonempty (List.eq_nil_of_length_eq_zero length.symm)
  have small : UInt8.ofNat value.length < 128 := by
    rw [UInt8.lt_iff_toNat_lt, length]
    exact short
  have ahead : message.ahead = kind.type :: .ofNat value.length :: (value ++ rest) := here
  rw [ahead] at run
  simp only [IEKind.read, ne_eq, not_true_eq_false, if_false, if_neg nonzero, if_pos small, length,
    List.length_append, if_pos (Nat.le_add_right _ _), List.take_left] at run
  rw [run, length_element]
  rfl

/-- What the receiver makes of the answer to an association. -/
def answeredWith (stype : Nat) (DA SA BSSID : EthAddr) (capabilityBit : Nat) (staAID : BitVec 16)
    (rates : List UInt8) : CWFrameAssociationResponse where
  frameControl := ByteOrder.load (ByteOrder.store 2 (ieee80211FC wlanFCTypeMgmt stype).toNat)
  duration := ByteOrder.load (ByteOrder.store 2 (htons 0))
  DA := DA.bytes
  SA := SA.bytes
  BSSID := BSSID.bytes
  seqCtrl := ByteOrder.load [0, 0]
  capabilityBit := ByteOrder.load (ByteOrder.store 2 capabilityBit)
  statusCode := ByteOrder.load (ByteOrder.store 2 0)
  assID := ByteOrder.load (ByteOrder.store 2 (assIDField staAID).toNat)
  supportedRates := rates

theorem reads_answer (stype : Nat) (DA SA BSSID : EthAddr) (capabilityBit : Nat)
    (staAID : BitVec 16) {rates : List UInt8} (nonempty : rates ≠ []) (short : rates.length < 128) :
    Reads cw80211ParseAssociationResponse
      (associationFixedBytes stype DA SA BSSID capabilityBit staAID ++ element ieTypeSuppRates rates)
      (some (answeredWith stype DA SA BSSID capabilityBit staAID rates)) none := by
  have header : Reads parseMgmtHeader (mgmtHeaderBytes stype DA SA BSSID) _ none :=
    (reads_store _).andThen ((reads_store _).andThen ((reads_addr DA).andThen
      ((reads_addr SA).andThen ((reads_addr BSSID).andThen
        ((reads_short 0 0).andReturn (reads_pure _))))))
  have elements := reads_element .suppRates nonempty short
  rw [associationFixedBytes, List.append_assoc, List.append_assoc, List.append_assoc]
  exact header.andThen ((reads_store _).andThen ((reads_store _).andThen ((reads_store _).andThen
    (elements.andReturn (reads_pure _)))))

/-! ## What an answer says -/

/-- What an answer to an association is built from. -/
structure Association where
  DA : EthAddr
  SA : EthAddr
  BSSID : EthAddr
  staAID : BitVec 16
  rates : List UInt8
  deriving DecidableEq, Repr

/-- A frame is returned from which its receiver reads success and what the frame was built
    from. -/
def Informs (result : Except Failure (Option CWProtocolMessage)) (association : Association) : Prop :=
  ∃ bytes room, result = .ok (some (filled bytes room)) ∧
    ∃ response after, cw80211ParseAssociationResponse.run ⟨bytes, 0, none⟩ =
        .ok (some response) after ∧
      response.statusCode = 0 ∧ response.assID = association.staAID.toNat ∧
        response.DA = association.DA.bytes ∧ response.SA = association.SA.bytes ∧
          response.BSSID = association.BSSID.bytes ∧
            response.supportedRates = association.rates

/-- The two bits that are set in the association ID are set in it already. -/
def HighBits (staAID : BitVec 16) : Prop := assIDField staAID = staAID

/-- Not one of the rates is among those that are marked as basic. -/
def Unmarked (rates : List UInt8) : Prop := ∀ rate ∈ rates, rate ∉ [2, 4, 11, 22]

theorem markBasic_eq_iff (rate : UInt8) : markBasic rate = rate ↔ rate ∉ [2, 4, 11, 22] := by
  by_cases basic : rate = 2 ∨ rate = 4 ∨ rate = 11 ∨ rate = 22
  · rcases basic with rfl | rfl | rfl | rfl <;> decide
  · simp [markBasic, basic]

theorem markedRates_eq_iff (rates : List UInt8) :
    markedRates rates = rates ↔ rates.length ≤ cw80211MaxSuppRates ∧ Unmarked rates := by
  constructor
  · intro same
    have few : rates.length ≤ cw80211MaxSuppRates := by
      have lengths := congrArg List.length same
      simp only [markedRates, List.length_map, List.length_take] at lengths
      omega
    refine ⟨few, ?_⟩
    rw [markedRates, List.take_of_length_le few] at same
    nth_rewrite 2 [← List.map_id rates] at same
    intro rate member
    rw [← markBasic_eq_iff]
    exact List.map_inj_left.mp same rate member
  · intro kept
    obtain ⟨few, unmarked⟩ := kept
    rw [markedRates, List.take_of_length_le few]
    nth_rewrite 2 [← List.map_id rates]
    apply List.map_inj_left.mpr
    intro rate member
    exact (markBasic_eq_iff rate).mpr (unmarked rate member)

theorem informs_iff {size stype : Nat} {tail : MessageM Bool} {rest rates : List UInt8}
    (association : Association) (capabilityBit : Nat)
    (fills : Fills tail (element ieTypeSuppRates rates ++ rest) true) (nonempty : rates ≠ [])
    (short : rates.length < 128)
    (fits : 30 + (element ieTypeSuppRates rates ++ rest).length ≤ size) :
    Informs (buildFrame size (assembleAssociationFixed stype association.DA association.SA
      association.BSSID capabilityBit association.staAID >>= fun _ => tail)) association ↔
        HighBits association.staAID ∧ rates = association.rates := by
  have stores := stores_associationFixed stype association.DA association.SA association.BSSID
    capabilityBit association.staAID
  have length := length_associationFixedBytes stype association.DA association.SA
    association.BSSID capabilityBit association.staAID
  have room : (associationFixedBytes stype association.DA association.SA association.BSSID
      capabilityBit association.staAID).length + (element ieTypeSuppRates rates ++ rest).length ≤
        size := by
    rw [length]
    exact fits
  have built := buildFrame_fits stores fills room
  have read := reads_answer stype association.DA association.SA association.BSSID capabilityBit
    association.staAID nonempty short ⟨associationFixedBytes stype association.DA association.SA
      association.BSSID capabilityBit association.staAID ++ (element ieTypeSuppRates rates ++ rest),
      0, none⟩ rest (List.append_assoc ..).symm
  have success : ByteOrder.load (ByteOrder.store 2 0) = 0 := load_store (by decide)
  have field : ByteOrder.load (ByteOrder.store 2 (assIDField association.staAID).toNat) =
      (assIDField association.staAID).toNat := load_store (assIDField association.staAID).isLt
  constructor
  · intro informs
    obtain ⟨bytes, room, built', response, after, parsed, _, assID, _, _, _, kept⟩ := informs
    rw [built] at built'
    have same := congrArg CWProtocolMessage.contents (Option.some.inj (Except.ok.inj built'))
    rw [contents_filled, contents_filled] at same
    rw [← same, read] at parsed
    cases parsed
    refine ⟨?_, kept⟩
    exact BitVec.eq_of_toNat_eq (field.symm.trans assID)
  · intro both
    obtain ⟨high, same⟩ := both
    refine ⟨_, _, built, _, _, read, success, ?_, rfl, rfl, rfl, same⟩
    exact field.trans (congrArg BitVec.toNat high)

theorem Informs.complete {result : Except Failure (Option CWProtocolMessage)}
    {association : Association} (informs : Informs result association) : Complete result := by
  obtain ⟨bytes, room, built, _⟩ := informs
  exact ⟨bytes, room, built⟩

/-- Without an element behind the fixed fields there is nothing to be read where it should be. -/
theorem not_informs_fixed {size stype : Nat} (association : Association) (capabilityBit : Nat)
    (fits : 30 ≤ size) :
    ¬ Informs (buildFrame size (assembleAssociationFixed stype association.DA association.SA
      association.BSSID capabilityBit association.staAID >>= fun _ => return true)) association := by
  rintro ⟨bytes, room, built, response, after, parsed, _⟩
  have stores := stores_associationFixed stype association.DA association.SA association.BSSID
    capabilityBit association.staAID
  have length := length_associationFixedBytes stype association.DA association.SA
    association.BSSID capabilityBit association.staAID
  have enough : (associationFixedBytes stype association.DA association.SA association.BSSID
      capabilityBit association.staAID).length + ([] : List UInt8).length ≤ size := by
    rw [length]
    exact fits
  rw [buildFrame_fits stores (fills_pure true) enough] at built
  have same := congrArg CWProtocolMessage.contents (Option.some.inj (Except.ok.inj built))
  rw [contents_filled, contents_filled, List.append_nil] at same
  have shown := associationResponse_shows ⟨bytes, 0, none⟩
  have exhausted : bytes.drop 30 = [] := by
    apply List.drop_of_length_le
    rw [← same, length]
    exact le_refl _
  have outcome : behind 30 IEKind.suppRates.read bytes = none := by
    rw [behind, exhausted]
    split <;> rfl
  have ahead : CWProtocolMessage.ahead ⟨bytes, 0, none⟩ = bytes := rfl
  rw [ahead, outcome] at shown
  obtain ⟨stopped, failed⟩ := shown
  rw [failed] at parsed
  cases parsed

namespace Answer

/-- The association that an answer is about. -/
def association : Answer → Option Association
  | probeResponse _ _ => none
  | authResponse _ _ => none
  | associationResponse interfaceInfo thisSTA SA | reassociationResponse interfaceInfo thisSTA SA =>
    some ⟨SA, interfaceInfo.MACaddr, interfaceInfo.BSSID, thisSTA.staAID, thisSTA.supportedRates⟩
  | associationResponseAC MACAddr BSSID _ staAID suppRate SA
  | reassociationResponseAC MACAddr BSSID _ staAID suppRate SA =>
    some ⟨SA, MACAddr, BSSID, staAID, suppRate⟩

/-- An answer to an association informs its receiver of it. -/
def Agrees (answer : Answer) : Prop :=
  ∀ association, answer.association = some association → Informs answer.assemble association

/-- There are rates that go into one list without a change, and the association ID is one that
    does not change either. -/
def Kept : Answer → Prop
  | probeResponse _ _ => True
  | authResponse _ _ => True
  | associationResponse _ thisSTA _ | reassociationResponse _ thisSTA _ =>
    thisSTA.supportedRates ≠ [] ∧ HighBits thisSTA.staAID ∧
      thisSTA.supportedRates.length ≤ cw80211MaxSuppRates ∧ Unmarked thisSTA.supportedRates
  | associationResponseAC _ _ _ staAID suppRate _ | reassociationResponseAC _ _ _ staAID suppRate _ =>
    suppRate ≠ [] ∧ HighBits staAID

end Answer

/-- An answer of a WTP, for the size of its buffer. -/
def stationAnswer (size stype : Nat) (association : Association) (capabilityBit : Nat)
    (extSupportedRates : List UInt8) : Except Failure (Option CWProtocolMessage) :=
  buildFrame size do
    assembleAssociationFixed stype association.DA association.SA association.BSSID capabilityBit
      association.staAID
    assembleStationRates ⟨capabilityBit, association.staAID, association.rates, extSupportedRates⟩

/-- An answer of the AC. -/
def answerAC (stype : Nat) (association : Association) (capabilityBit : Nat) :
    Except Failure (Option CWProtocolMessage) :=
  buildFrame associationResponseACLen do
    assembleAssociationFixed stype association.DA association.SA association.BSSID capabilityBit
      association.staAID
    cw80211AssembleIESupportedRates association.rates

section Informs

variable {size : Nat} (stype : Nat) (association : Association) (capabilityBit : Nat)

theorem markedRates_short (rates : List UInt8) : (markedRates rates).length < 128 := by
  simp only [markedRates, List.length_map, List.length_take, cw80211MaxSuppRates]
  omega

theorem stationAnswer_informs_iff (extSupportedRates : List UInt8) (large : 30 ≤ size) :
    Informs (stationAnswer size stype association capabilityBit extSupportedRates) association ↔
      Complete (stationAnswer size stype association capabilityBit extSupportedRates) ∧
        association.rates ≠ [] ∧ HighBits association.staAID ∧
          association.rates.length ≤ cw80211MaxSuppRates ∧ Unmarked association.rates := by
  have stores := stores_associationFixed stype association.DA association.SA association.BSSID
    capabilityBit association.staAID
  have length := length_associationFixedBytes stype association.DA association.SA
    association.BSSID capabilityBit association.staAID
  have room := length.trans_le large
  let thisSTA : WTPSTAInfo :=
    ⟨capabilityBit, association.staAID, association.rates, extSupportedRates⟩
  by_cases empty : association.rates = []
  · have none : thisSTA.supportedRates = [] := empty
    have incomplete : ¬ Complete (stationAnswer size stype association capabilityBit
        extSupportedRates) := incomplete stores (fills_stationNoRates none) room
    exact iff_of_false (fun informs => incomplete informs.complete) fun both => incomplete both.1
  · have nonempty : thisSTA.supportedRates ≠ [] := empty
    have fills := fills_stationRates nonempty
    have complete : Complete (stationAnswer size stype association capabilityBit
        extSupportedRates) ↔ _ := complete_iff stores fills room
    rw [length] at complete
    constructor
    · intro informs
      have both := (informs_iff association capabilityBit fills (markedRates_ne_nil empty)
        (markedRates_short _) (complete.mp informs.complete)).mp informs
      exact ⟨informs.complete, empty, both.1, (markedRates_eq_iff _).mp both.2⟩
    · intro all
      obtain ⟨done, _, high, kept⟩ := all
      exact (informs_iff association capabilityBit fills (markedRates_ne_nil empty)
        (markedRates_short _) (complete.mp done)).mpr ⟨high, (markedRates_eq_iff _).mpr kept⟩

theorem answerAC_informs_iff :
    Informs (answerAC stype association capabilityBit) association ↔
      (association.rates ≠ [] ∧ association.rates.length ≤ 9) ∧ HighBits association.staAID := by
  have stores := stores_associationFixed stype association.DA association.SA association.BSSID
    capabilityBit association.staAID
  have length := length_associationFixedBytes stype association.DA association.SA
    association.BSSID capabilityBit association.staAID
  have room : (associationFixedBytes stype association.DA association.SA association.BSSID
      capabilityBit association.staAID).length ≤ associationResponseACLen := by
    rw [length]
    exact Nat.le_add_right 30 11
  by_cases empty : association.rates = []
  · have incomplete : ¬ Complete (answerAC stype association capabilityBit) := by
      rw [answerAC, empty]
      exact incomplete stores (fills_noRates ieTypeSuppRates) room
    exact iff_of_false (fun informs => incomplete informs.complete) fun both => both.1.1 empty
  · have fills := fills_rates ieTypeSuppRates empty
    rw [← List.append_nil (element _ _)] at fills
    have complete : Complete (answerAC stype association capabilityBit) ↔ _ :=
      complete_iff stores fills room
    have enough : 30 + (element ieTypeSuppRates association.rates ++ []).length ≤
        associationResponseACLen ↔ association.rates.length ≤ 9 := by
      rw [List.append_nil, length_element, associationResponseACLen, mgmtFrameFixedLenAssociation,
        mgmtFrameIEFixedLen, cw80211MaxSuppRates]
      omega
    rw [length] at complete
    constructor
    · intro informs
      have few := enough.mp (complete.mp informs.complete)
      have both := (informs_iff association capabilityBit fills empty (by omega)
        (enough.mpr few)).mp informs
      exact ⟨⟨empty, few⟩, both.1⟩
    · intro all
      obtain ⟨⟨_, few⟩, high⟩ := all
      exact (informs_iff association capabilityBit fills empty (by omega)
        (enough.mpr few)).mpr ⟨high, rfl⟩

end Informs

namespace Answer

theorem agrees_some {answer : Answer} {association : Association}
    (about : answer.association = some association) :
    answer.Agrees ↔ Informs answer.assemble association := by
  constructor
  · intro agrees
    exact agrees association about
  · intro informs other about'
    rw [about] at about'
    cases about'
    exact informs

theorem agrees_iff (answer : Answer) :
    answer.Agrees ↔ answer.association = none ∨ answer.Fits ∧ answer.Kept := by
  have complete := answer.complete_iff_fits
  cases answer with
  | probeResponse interfaceInfo request =>
    refine iff_of_true ?_ (.inl rfl)
    intro association about
    cases about
  | authResponse addrAP SA =>
    refine iff_of_true ?_ (.inl rfl)
    intro association about
    cases about
  | associationResponse interfaceInfo thisSTA SA =>
    rw [agrees_some rfl, ← complete]
    refine (stationAnswer_informs_iff wlanFCStypeAssocResp
      ⟨SA, interfaceInfo.MACaddr, interfaceInfo.BSSID, thisSTA.staAID, thisSTA.supportedRates⟩
      thisSTA.capabilityBit thisSTA.extSupportedRates (Nat.le_add_right 30 23)).trans ?_
    simp only [association, reduceCtorEq, false_or]
    rfl
  | reassociationResponse interfaceInfo thisSTA SA =>
    rw [agrees_some rfl, ← complete]
    refine (stationAnswer_informs_iff wlanFCStypeReassocResp
      ⟨SA, interfaceInfo.MACaddr, interfaceInfo.BSSID, thisSTA.staAID, thisSTA.supportedRates⟩
      thisSTA.capabilityBit thisSTA.extSupportedRates (Nat.le_add_right 30 15)).trans ?_
    simp only [association, reduceCtorEq, false_or]
    rfl
  | associationResponseAC MACAddr BSSID capabilityBit staAID suppRate SA =>
    rw [agrees_some rfl]
    let about : Association := ⟨SA, MACAddr, BSSID, staAID, suppRate⟩
    simp only [association, reduceCtorEq, false_or, Fits, Kept, assemble,
      cw80211AssembleAssociationResponseAC]
    by_cases nonempty : 0 < suppRate.length
    · have some := List.ne_nil_of_length_pos nonempty
      simp only [if_pos nonempty]
      refine (answerAC_informs_iff wlanFCStypeAssocResp about capabilityBit).trans ?_
      constructor
      · intro both
        exact ⟨both.1.2, some, both.2⟩
      · intro both
        exact ⟨⟨some, both.1⟩, both.2.2⟩
    · have empty := List.eq_nil_of_length_eq_zero (Nat.eq_zero_of_not_pos nonempty)
      simp only [if_neg nonempty]
      refine iff_of_false ?_ fun both => both.2.1 empty
      exact not_informs_fixed about capabilityBit (Nat.le_add_right 30 11)
  | reassociationResponseAC MACAddr BSSID capabilityBit staAID suppRate SA =>
    rw [agrees_some rfl]
    refine (answerAC_informs_iff wlanFCStypeReassocResp ⟨SA, MACAddr, BSSID, staAID, suppRate⟩
      capabilityBit).trans ?_
    simp only [association, reduceCtorEq, false_or, Fits, Kept]
    constructor
    · intro both
      exact ⟨both.1, both.1.1, both.2⟩
    · intro both
      exact ⟨both.1, both.2.2⟩

/-- The answers that fit, and the ones that say what they were built from. -/
theorem fits_and_agrees (answer : Answer) :
    (Complete answer.assemble ↔ answer.Fits) ∧
      (answer.Agrees ↔ answer.association = none ∨ answer.Fits ∧ answer.Kept) :=
  ⟨answer.complete_iff_fits, answer.agrees_iff⟩

end Answer

def someStation : EthAddr := ⟨[2, 0, 0, 0, 0, 9], rfl⟩

/-- The eight rates that stations name first and the four that are left. -/
def commonStation : WTPSTAInfo where
  capabilityBit := 1
  staAID := 1
  supportedRates := [2, 4, 11, 22, 12, 18, 24, 36]
  extSupportedRates := [48, 72, 96, 108]

def commonInterface : InterfaceInfo where
  SSID := [97, 112]
  MACaddr := someStation
  BSSID := someStation
  capabilityBit := 1

/-- The answer to the reassociation of such a station is one byte too long, and the answer to its
    association gives it another association ID and other rates. -/
theorem commonStation_not_answered :
    ¬ Complete (Answer.reassociationResponse commonInterface commonStation someStation).assemble ∧
      ¬ (Answer.associationResponse commonInterface commonStation someStation).Agrees := by
  constructor
  · rw [Answer.complete_iff_fits]
    rintro ⟨_, few⟩
    simp [commonStation, Answer.extLength] at few
  · rw [Answer.agrees_iff]
    rintro (none | kept)
    · cases none
    · exact absurd (kept.2.2.2.2 2 (by simp [commonStation])) (by simp)

end WlanController.Frames
