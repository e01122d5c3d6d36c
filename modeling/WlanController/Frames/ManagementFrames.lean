import WlanController.Frames.FrameElements

/-!
# Management frames

The frames with which a station finds an access point and becomes associated with it, and the
answers to them.  The builders allocate a buffer of a size that is put together by hand.
-/

namespace WlanController.Frames

open Protocol

def mgmtFrameFixedLenProbeResp : Nat := 36

def mgmtFrameFixedLenAuth : Nat := 30

def mgmtFrameFixedLenAssociation : Nat := 30

def mgmtFrameIEFixedLen : Nat := 2

def lenIESeqCtrl : Nat := 2

def lenIETimestamp : Nat := 8

def wlanFCTypeMgmt : Nat := 0

def wlanFCStypeAssocResp : Nat := 1

def wlanFCStypeReassocResp : Nat := 3

def wlanFCStypeProbeResp : Nat := 5

def wlanFCStypeAuth : Nat := 11

/-! ## Parsing -/

/-- The fields that all management frames begin with. -/
structure MgmtHeader where
  frameControl : Nat
  duration : Nat
  DA : List UInt8
  SA : List UInt8
  BSSID : List UInt8
  seqCtrl : Nat
  deriving DecidableEq, Repr

def parseMgmtHeader : MessageM MgmtHeader := do
  let frameControl ← cw80211ParseFrameIEControl
  let duration ← cw80211ParseFrameIEControl
  let DA ← cw80211ParseFrameIEAddr
  let SA ← cw80211ParseFrameIEAddr
  let BSSID ← cw80211ParseFrameIEAddr
  let seqCtrl ← cw80211ParseFrameIESeqCtrl
  return { frameControl, duration, DA, SA, BSSID, seqCtrl }

/-- The elements of a request. -/
structure RequestElements where
  SSID : List UInt8
  supportedRates : List UInt8
  extSupportedRates : List UInt8
  deriving DecidableEq, Repr

def parseRequestElements : MessageM (Option RequestElements) := do
  match ← cw80211ParseFrameIESSID with
  | none => return none
  | some SSID =>
    match ← cw80211ParseFrameIESupportedRates with
    | none => return none
    | some supportedRates =>
      let extSupportedRates ← cw80211ParseFrameIEExtendedSupportedRates
      return some { SSID, supportedRates, extSupportedRates := extSupportedRates.getD [] }

structure CWFrameProbeRequest extends MgmtHeader, RequestElements
  deriving DecidableEq, Repr

def cw80211ParseProbeRequest : MessageM (Option CWFrameProbeRequest) := do
  let hdr ← parseMgmtHeader
  let elements ← parseRequestElements
  return elements.map fun elements => { toMgmtHeader := hdr, toRequestElements := elements }

structure CWFrameAssociationRequest extends MgmtHeader, RequestElements where
  capabilityBit : Nat
  listenInterval : Nat
  deriving DecidableEq, Repr

def cw80211ParseAssociationRequest : MessageM (Option CWFrameAssociationRequest) := do
  let hdr ← parseMgmtHeader
  let capabilityBit ← loadShort
  let listenInterval ← loadShort
  let elements ← parseRequestElements
  return elements.map fun elements =>
    { toMgmtHeader := hdr, toRequestElements := elements, capabilityBit, listenInterval }

structure CWFrameAssociationResponse extends MgmtHeader where
  capabilityBit : Nat
  statusCode : Nat
  assID : Nat
  supportedRates : List UInt8
  deriving DecidableEq, Repr

def cw80211ParseAssociationResponse : MessageM (Option CWFrameAssociationResponse) := do
  let hdr ← parseMgmtHeader
  let capabilityBit ← loadShort
  let statusCode ← loadShort
  let assID ← loadShort
  let rates ← cw80211ParseFrameIESupportedRates
  return rates.map fun supportedRates =>
    { toMgmtHeader := hdr, capabilityBit, statusCode, assID, supportedRates }

/-! ### What the parsers make of a frame -/

/-- The outcome for the elements of a request. -/
def readRequestElements : List UInt8 → Option (Option RequestElements × Nat) :=
  andThen IEKind.SSID.read fun
    | none => fun _ => some (none, 0)
    | some SSID => andThen IEKind.suppRates.read fun
      | none => fun _ => some (none, 0)
      | some supportedRates => andThen IEKind.extSuppRates.read fun extSupportedRates _ =>
        some (some { SSID, supportedRates, extSupportedRates := extSupportedRates.getD [] }, 0)

theorem requestElements_follows : Follows parseRequestElements readRequestElements := by
  apply (IEKind.parse_follows .SSID).bind
  intro SSID
  cases SSID with
  | none => exact follows_pure none
  | some SSID =>
    apply (IEKind.parse_follows .suppRates).bind
    intro supportedRates
    cases supportedRates with
    | none => exact follows_pure none
    | some supportedRates =>
      apply (IEKind.parse_follows .extSuppRates).bind
      intro extSupportedRates
      exact follows_pure _

/-- The outcome behind `count` bytes of fixed fields. -/
def behind {α : Type} (count : Nat) (outcome : List UInt8 → Option (α × Nat)) (bytes : List UInt8) :
    Option (α × Nat) :=
  if count ≤ bytes.length then
    (outcome (bytes.drop count)).map fun result => (result.1, count + result.2)
  else none

/-- The program has this outcome, but for what only the fixed fields show. -/
def Shows {β ε : Type} (program : MessageM (Option β)) (outcome : List UInt8 → Option (Option ε × Nat))
    (view : β → ε) : Prop :=
  ∀ message : CWProtocolMessage,
    match outcome message.ahead with
    | none => ∃ after, program.run message = .error (.outOfBounds .receiveBuffer) after
    | some (result, moved) =>
      ∃ value, program.run message = .ok value (message.advance moved) ∧ value.map view = result

section Shows

variable {α β ε : Type} {count count' : Nat} {outcome : List UInt8 → Option (Option ε × Nat)}
  {view : β → ε}

theorem behind_behind (outcome : List UInt8 → Option (α × Nat)) :
    behind count (behind count' outcome) = behind (count + count') outcome := by
  funext bytes
  by_cases room : count + count' ≤ bytes.length
  · have first : count ≤ bytes.length := by omega
    have second : count' ≤ (bytes.drop count).length := by
      rw [List.length_drop]
      omega
    simp only [behind, if_pos room, if_pos first, if_pos second, List.drop_drop, Option.map_map]
    congr 1
    funext result
    simp only [Function.comp_apply, Nat.add_assoc]
  · by_cases first : count ≤ bytes.length
    · have second : ¬ count' ≤ (bytes.drop count).length := by
        rw [List.length_drop]
        omega
      simp only [behind, if_neg room, if_pos first, if_neg second, Option.map_none]
    · simp only [behind, if_neg room, if_neg first]

theorem Follows.shows {elements : MessageM (Option ε)} (follows : Follows elements outcome)
    {build : ε → β} (keeps : ∀ result, view (build result) = result) :
    Shows (do return (← elements).map build) outcome view := by
  intro message
  have run := follows message
  cases read : outcome message.ahead with
  | none =>
    rw [read] at run
    obtain ⟨after, run⟩ := run
    simp only [EStateM.run_bind, run]
    exact ⟨after, rfl⟩
  | some result =>
    rw [read] at run
    simp only [EStateM.run_bind, run]
    refine ⟨result.1.map build, rfl, ?_⟩
    cases result.1 with
    | none => rfl
    | some value => exact congrArg some (keeps value)

theorem Takes.shows {first : MessageM α} {next : α → MessageM (Option β)}
    (takes : Takes first count) (rest : ∀ value, Shows (next value) outcome view) :
    Shows (first >>= next) (behind count outcome) view := by
  intro message
  obtain ⟨value, follows⟩ := takes
  have run := follows message
  by_cases room : count ≤ message.ahead.length
  · rw [taking, if_pos room] at run
    have run' := rest (value message.ahead) (message.advance count)
    rw [ahead_advance] at run'
    rw [behind, if_pos room]
    cases read : outcome (message.ahead.drop count) with
    | none =>
      rw [read] at run'
      simp only [Option.map_none, EStateM.run_bind, run]
      exact run'
    | some result =>
      rw [read] at run'
      simp only [Option.map_some, EStateM.run_bind, run, ← advance_advance]
      exact run'
  · rw [taking, if_neg room] at run
    obtain ⟨after, run⟩ := run
    rw [behind, if_neg room]
    simp only [EStateM.run_bind, run]
    exact ⟨after, rfl⟩

end Shows

theorem takes_mgmtHeader : Takes parseMgmtHeader 24 :=
  takes_short.bind fun _ => takes_short.bind fun _ => takes_addr.bind fun _ =>
    takes_addr.bind fun _ => takes_addr.bind fun _ => takes_short.bind fun _ => takes_pure _

theorem probeRequest_shows : Shows cw80211ParseProbeRequest (behind 24 readRequestElements)
    CWFrameProbeRequest.toRequestElements :=
  takes_mgmtHeader.shows fun _ => requestElements_follows.shows fun _ => rfl

theorem associationRequest_shows : Shows cw80211ParseAssociationRequest
    (behind 28 readRequestElements) CWFrameAssociationRequest.toRequestElements := by
  have shown : Shows cw80211ParseAssociationRequest
      (behind 24 (behind 2 (behind 2 readRequestElements)))
      CWFrameAssociationRequest.toRequestElements :=
    takes_mgmtHeader.shows fun _ => takes_short.shows fun _ => takes_short.shows fun _ =>
      requestElements_follows.shows fun _ => rfl
  rwa [behind_behind, behind_behind] at shown

theorem associationResponse_shows : Shows cw80211ParseAssociationResponse
    (behind 30 IEKind.suppRates.read) CWFrameAssociationResponse.supportedRates := by
  have shown : Shows cw80211ParseAssociationResponse
      (behind 24 (behind 2 (behind 2 (behind 2 IEKind.suppRates.read))))
      CWFrameAssociationResponse.supportedRates :=
    takes_mgmtHeader.shows fun _ => takes_short.shows fun _ => takes_short.shows fun _ =>
      takes_short.shows fun _ => (IEKind.parse_follows .suppRates).shows fun _ => rfl
  rwa [behind_behind, behind_behind, behind_behind] at shown

/-! ## Building -/

/-- The buffer is allocated and zeroed; `none` stands for `NULL`. -/
def buildFrame (size : Nat) (program : MessageM Bool) : Except Failure (Option CWProtocolMessage) :=
  match program.run (cwCreateProtocolMessage size) with
  | .ok true message => .ok (some message)
  | .ok false _ => .ok none
  | .error failure _ => .error failure

def assembleMgmtHeader (stype : Nat) (DA SA BSSID : EthAddr) : MessageM Unit := do
  cw80211AssembleIEFrameControl wlanFCTypeMgmt stype
  cw80211AssembleIEDuration 0
  cw80211AssembleIEAddr (some DA.bytes)
  cw80211AssembleIEAddr (some SA.bytes)
  cw80211AssembleIEAddr (some BSSID.bytes)
  moveOn lenIESeqCtrl

def cw80211AssembleIEBeaconInterval (value : Nat) : MessageM Unit := storeShort (htons value)

def cw80211AssembleIECapability (value : Nat) : MessageM Unit := storeShort value

def cw80211AssembleIEAuthAlgoNum (value : Nat) : MessageM Unit := storeShort value

def cw80211AssembleIEAuthTransNum (value : Nat) : MessageM Unit := storeShort value

def cw80211AssembleIEStatusCode (value : Nat) : MessageM Unit := storeShort value

/-- The association ID with its two highest bits set. -/
def assIDField (value : BitVec 16) : BitVec 16 := putBit (putBit value 14 true) 15 true

def cw80211AssembleIEAssID (value : BitVec 16) : MessageM Unit := storeShort (assIDField value).toNat

/-- The rates that are marked as basic ones. -/
def markBasic (rate : UInt8) : UInt8 :=
  if rate = 2 ∨ rate = 4 ∨ rate = 11 ∨ rate = 22 then rate + 128 else rate

structure InterfaceInfo where
  SSID : List UInt8
  MACaddr : EthAddr
  BSSID : EthAddr
  capabilityBit : Nat
  deriving DecidableEq, Repr

/-- What a probe request says about the station that sent it. -/
structure ProbingStation where
  SA : EthAddr
  supportedRates : List UInt8
  extSupportedRates : List UInt8
  deriving DecidableEq, Repr

def assembleProbeFixed (interfaceInfo : InterfaceInfo) (SA : EthAddr) : MessageM Unit := do
  assembleMgmtHeader wlanFCStypeProbeResp SA interfaceInfo.MACaddr interfaceInfo.BSSID
  moveOn lenIETimestamp
  cw80211AssembleIEBeaconInterval 100
  cw80211AssembleIECapability interfaceInfo.capabilityBit

def assembleProbeElements (SSID : List UInt8) (request : ProbingStation) : MessageM Bool := do
  cw80211AssembleIESSID SSID
  let suppRate := (request.supportedRates.take wtpNl80211BitrateNum).map markBasic
  if !(← cw80211AssembleIESupportedRates suppRate) then return false
  if 0 < request.extSupportedRates.length then
    let extSuppRate := request.extSupportedRates.take (min wtpNl80211BitrateNum cw80211MaxSuppRates)
    if !(← cw80211AssembleIEExtendedSupportedRates extSuppRate) then return false
  cw80211AssembleIEDSSS 1
  cw80211AssembleIEERP 4
  return true

def cw80211AssembleProbeResponse (interfaceInfo : InterfaceInfo) (request : ProbingStation) :
    Except Failure (Option CWProtocolMessage) :=
  buildFrame (mgmtFrameFixedLenProbeResp + mgmtFrameIEFixedLen * 3 + interfaceInfo.SSID.length +
      cw80211MaxSuppRates * 2 + 1 + 1 + 3) do
    assembleProbeFixed interfaceInfo request.SA
    assembleProbeElements interfaceInfo.SSID request

def assembleAuthFixed (addrAP SA : EthAddr) : MessageM Unit := do
  assembleMgmtHeader wlanFCStypeAuth SA addrAP addrAP
  cw80211AssembleIEAuthAlgoNum 0
  cw80211AssembleIEAuthTransNum 2
  cw80211AssembleIEStatusCode 0

def cw80211AssembleAuthResponse (addrAP SA : EthAddr) : Except Failure (Option CWProtocolMessage) :=
  buildFrame mgmtFrameFixedLenAuth do
    assembleAuthFixed addrAP SA
    return true

structure WTPSTAInfo where
  capabilityBit : Nat
  staAID : BitVec 16
  supportedRates : List UInt8
  extSupportedRates : List UInt8
  deriving DecidableEq, Repr

def assembleAssociationFixed (stype : Nat) (DA SA BSSID : EthAddr) (capabilityBit : Nat)
    (staAID : BitVec 16) : MessageM Unit := do
  assembleMgmtHeader stype DA SA BSSID
  cw80211AssembleIECapability capabilityBit
  cw80211AssembleIEStatusCode 0
  cw80211AssembleIEAssID staAID

def assembleStationRates (thisSTA : WTPSTAInfo) : MessageM Bool := do
  let most := min wtpNl80211BitrateNum cw80211MaxSuppRates
  if !(← cw80211AssembleIESupportedRates ((thisSTA.supportedRates.take most).map markBasic)) then
    return false
  if 0 < thisSTA.extSupportedRates.length then
    if !(← cw80211AssembleIEExtendedSupportedRates (thisSTA.extSupportedRates.take most)) then
      return false
  return true

def cw80211AssembleAssociationResponse (interfaceInfo : InterfaceInfo) (thisSTA : WTPSTAInfo)
    (SA : EthAddr) : Except Failure (Option CWProtocolMessage) :=
  buildFrame (mgmtFrameFixedLenAssociation + mgmtFrameIEFixedLen * 3 + 2 * cw80211MaxSuppRates + 1) do
    assembleAssociationFixed wlanFCStypeAssocResp SA interfaceInfo.MACaddr interfaceInfo.BSSID
      thisSTA.capabilityBit thisSTA.staAID
    assembleStationRates thisSTA

def cw80211AssembleReassociationResponse (interfaceInfo : InterfaceInfo) (thisSTA : WTPSTAInfo)
    (SA : EthAddr) : Except Failure (Option CWProtocolMessage) :=
  buildFrame (mgmtFrameFixedLenAssociation + mgmtFrameIEFixedLen * 3 + cw80211MaxSuppRates + 1) do
    assembleAssociationFixed wlanFCStypeReassocResp SA interfaceInfo.MACaddr interfaceInfo.BSSID
      thisSTA.capabilityBit thisSTA.staAID
    assembleStationRates thisSTA

/-- The buffer of the AC's answers has room for one list of rates. -/
def associationResponseACLen : Nat :=
  mgmtFrameFixedLenAssociation + mgmtFrameIEFixedLen + cw80211MaxSuppRates + 1

def cw80211AssembleAssociationResponseAC (MACAddr BSSID : EthAddr) (capabilityBit : Nat)
    (staAID : BitVec 16) (suppRate : List UInt8) (SA : EthAddr) :
    Except Failure (Option CWProtocolMessage) :=
  buildFrame associationResponseACLen do
    assembleAssociationFixed wlanFCStypeAssocResp SA MACAddr BSSID capabilityBit staAID
    if 0 < suppRate.length then cw80211AssembleIESupportedRates suppRate else return true

/-- Without the check that there are any rates. -/
def cw80211AssembleReassociationResponseAC (MACAddr BSSID : EthAddr) (capabilityBit : Nat)
    (staAID : BitVec 16) (suppRate : List UInt8) (SA : EthAddr) :
    Except Failure (Option CWProtocolMessage) :=
  buildFrame associationResponseACLen do
    assembleAssociationFixed wlanFCStypeReassocResp SA MACAddr BSSID capabilityBit staAID
    cw80211AssembleIESupportedRates suppRate

end WlanController.Frames
