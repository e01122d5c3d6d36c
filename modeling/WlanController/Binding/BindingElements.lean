import WlanController.Elements.ElementSequence
import WlanController.Radios.StationMessage

/-!
# The elements of the IEEE 802.11 binding

The AC configures the radios of a WTP through QoS values, of which there are four profiles, and
through OFDM values.  A member that is 255 stands for the value that is in use.

The `int` members are given by the bits of them that are sent.
-/

namespace WlanController.Binding

open Protocol Elements
open Radios (cwAssembleMsgElem cwAssembleMsgElem_eq)

def numQosProfiles : Nat := 4

def unusedQosValue : Nat := 255

def unusedOFDMValue : Nat := 255

def ofdmControlType : Nat := 1033

def wtpQosType : Nat := 1045

def wtpMultidomainCapabilityType : Nat := 1032

def ofdmControlLength : Nat := 8

def bindingMinElemType : Nat := 1024

def bindingMaxElemType : Nat := 2047

def cwBindingCheckType (elemType : Nat) : Bool :=
  bindingMinElemType ≤ elemType && elemType ≤ bindingMaxElemType

structure WTPQosValues where
  queueDepth : UInt8
  cwMin : UInt16
  cwMax : UInt16
  AIFS : UInt8
  dot1PTag : UInt8
  DSCPTag : UInt8
  deriving DecidableEq, Repr

/-- One for each profile. -/
structure QosProfiles where
  profiles : List WTPQosValues
  length_profiles : profiles.length = numQosProfiles
  deriving DecidableEq

structure OFDMControlValues where
  currentChan : UInt32
  BandSupport : UInt8
  TIThreshold : UInt32
  deriving DecidableEq, Repr

/-! ## Values that are in use -/

/-- What is in use takes the place of the members that are unused. -/
def WTPQosValues.merge (values inUse : WTPQosValues) : WTPQosValues :=
  { values with
    cwMin := if values.cwMin.toNat = unusedQosValue then inUse.cwMin else values.cwMin
    cwMax := if values.cwMax.toNat = unusedQosValue then inUse.cwMax else values.cwMax
    AIFS := if values.AIFS.toNat = unusedQosValue then inUse.AIFS else values.AIFS }

def cwMergeQosValues (qosValues inUse : QosProfiles) : QosProfiles where
  profiles := List.zipWith WTPQosValues.merge qosValues.profiles inUse.profiles
  length_profiles := by
    rw [List.length_zipWith, qosValues.length_profiles, inUse.length_profiles, Nat.min_self]

/-- `inUse` is what the object with the QoS values in use reads as. -/
def cwMergeOFDMValues (ofdmValues inUse : OFDMControlValues) : OFDMControlValues where
  currentChan := if ofdmValues.currentChan.toNat = unusedOFDMValue then inUse.currentChan
    else ofdmValues.currentChan
  BandSupport := if ofdmValues.BandSupport.toNat = unusedOFDMValue then inUse.BandSupport
    else ofdmValues.BandSupport
  TIThreshold := if ofdmValues.TIThreshold.toNat = unusedOFDMValue then inUse.TIThreshold
    else ofdmValues.TIThreshold

theorem WTPQosValues.merge_merge (values inUse : WTPQosValues) :
    (values.merge inUse).merge inUse = values.merge inUse := by
  simp only [merge, WTPQosValues.mk.injEq, true_and]
  refine ⟨?_, ?_, ?_⟩ <;> split <;> simp_all

/-- Values that have been merged stay as they are. -/
theorem cwMergeQosValues_idem (qosValues inUse : QosProfiles) :
    cwMergeQosValues (cwMergeQosValues qosValues inUse) inUse = cwMergeQosValues qosValues inUse := by
  simp only [cwMergeQosValues, QosProfiles.mk.injEq]
  generalize qosValues.profiles = values
  generalize inUse.profiles = used
  induction values generalizing used with
  | nil => simp
  | cons first values inductionHypothesis =>
    cases used with
    | nil => simp
    | cons use used => simp [WTPQosValues.merge_merge, inductionHypothesis]

/-! ## The AC assembles -/

def WTPQosValues.store (values : WTPQosValues) : MessageM Unit := do
  cwProtocolStore8 values.queueDepth.toNat
  cwProtocolStore16 values.cwMin.toNat
  cwProtocolStore16 values.cwMax.toNat
  cwProtocolStore8 values.AIFS.toNat
  cwProtocolStore8 values.dot1PTag.toNat
  cwProtocolStore8 values.DSCPTag.toNat

/-- The element behind the merge of the values. -/
def assembleWTPQoS (radioID : UInt8) (tagPackets : Nat) (qosValues : QosProfiles) :
    Except Failure CWProtocolMessage := do
  let msgPtr ← assembleInto (2 + 32) do
    cwProtocolStore8 radioID.toNat
    cwProtocolStore8 tagPackets
    qosValues.profiles.forM WTPQosValues.store
  cwAssembleMsgElem msgPtr wtpQosType

/-- The element, and the values of the session afterwards. -/
def cwAssembleWTPQoS (radioID : UInt8) (tagPackets : Nat) (inUse qosValues : QosProfiles) :
    Except Failure CWProtocolMessage × QosProfiles :=
  let merged := cwMergeQosValues qosValues inUse
  (assembleWTPQoS radioID tagPackets merged, merged)

def OFDMControlValues.store (values : OFDMControlValues) : MessageM Unit := do
  cwProtocolStore32 values.currentChan.toNat
  cwProtocolStore8 values.BandSupport.toNat
  cwProtocolStore32 values.TIThreshold.toNat

def cwAssembleWTPOFDM (radioID : UInt8) (inUse ofdmValues : OFDMControlValues) :
    Except Failure CWProtocolMessage := do
  let msgPtr ← assembleInto ofdmControlLength do
    cwProtocolStore8 radioID.toNat
    (cwMergeOFDMValues ofdmValues inUse).store
  cwAssembleMsgElem msgPtr ofdmControlType

def cwAssembleMsgElemACWTPMultiDomainCapability (radioID : UInt8)
    (firstChannel numChannels maxTxPower : UInt16) : Except Failure CWProtocolMessage := do
  let msgPtr ← assembleInto 8 do
    cwProtocolStore8 radioID.toNat
    cwProtocolStore8 0
    cwProtocolStore16 firstChannel.toNat
    cwProtocolStore16 numChannels.toNat
    cwProtocolStore16 maxTxPower.toNat
  cwAssembleMsgElem msgPtr wtpMultidomainCapabilityType

/-! ## The WTP retrieves -/

structure RadioQosValues where
  radioID : UInt8
  qosValues : List WTPQosValues
  deriving DecidableEq, Repr

structure RadioOFDMValues where
  radioID : UInt8
  radioOFDMValues : OFDMControlValues
  deriving DecidableEq, Repr

def WTPQosValues.retrieve : MessageM WTPQosValues := do
  let queueDepth ← cwProtocolRetrieve8
  let cwMin ← cwProtocolRetrieve16
  let cwMax ← cwProtocolRetrieve16
  let AIFS ← cwProtocolRetrieve8
  let dot1PTag ← cwProtocolRetrieve8
  let DSCPTag ← cwProtocolRetrieve8
  return ⟨.ofNat queueDepth, .ofNat cwMin, .ofNat cwMax, .ofNat AIFS, .ofNat dot1PTag, .ofNat DSCPTag⟩

/-- The loop `for(i=0; i<NUM_QOS_PROFILES; i++)`. -/
def retrieveProfiles : (rounds : Nat) → MessageM (List WTPQosValues)
  | 0 => return []
  | rounds + 1 => do
    let first ← WTPQosValues.retrieve
    let rest ← retrieveProfiles rounds
    return first :: rest

/-- `CWParseWTPQoS` between the start and the end of the element. -/
def retrieveWTPQoS : MessageM RadioQosValues := do
  let radioID ← cwProtocolRetrieve8
  let _tagPackets ← cwProtocolRetrieve8
  let qosValues ← retrieveProfiles numQosProfiles
  return ⟨.ofNat radioID, qosValues⟩

/-- `CWParseWTPOFDM` between the start and the end of the element. -/
def retrieveWTPOFDM : MessageM RadioOFDMValues := do
  let radioID ← cwProtocolRetrieve8
  let currentChan ← cwProtocolRetrieve32
  let BandSupport ← cwProtocolRetrieve8
  let TIThreshold ← cwProtocolRetrieve32
  return ⟨.ofNat radioID, ⟨.ofNat currentChan, .ofNat BandSupport, .ofNat TIThreshold⟩⟩

/-! ## Bytes -/

def WTPQosValues.bytes (values : WTPQosValues) : List UInt8 :=
  BigEndian.encode 1 values.queueDepth.toNat ++ (BigEndian.encode 2 values.cwMin.toNat ++
    (BigEndian.encode 2 values.cwMax.toNat ++ (BigEndian.encode 1 values.AIFS.toNat ++
      (BigEndian.encode 1 values.dot1PTag.toNat ++ BigEndian.encode 1 values.DSCPTag.toNat))))

@[simp] theorem WTPQosValues.length_bytes (values : WTPQosValues) : values.bytes.length = 8 := by
  simp [bytes]

def qosBody (radioID : UInt8) (tagPackets : Nat) (profiles : List WTPQosValues) : List UInt8 :=
  BigEndian.encode 1 radioID.toNat ++ (BigEndian.encode 1 tagPackets ++
    profiles.flatMap WTPQosValues.bytes)

theorem length_qosBody (radioID : UInt8) (tagPackets : Nat) (qosValues : QosProfiles) :
    (qosBody radioID tagPackets qosValues.profiles).length = 34 := by
  have each : (qosValues.profiles.flatMap WTPQosValues.bytes).length =
      8 * qosValues.profiles.length := by
    generalize qosValues.profiles = profiles
    induction profiles with
    | nil => rfl
    | cons first profiles inductionHypothesis =>
      rw [List.flatMap_cons, List.length_append, inductionHypothesis, WTPQosValues.length_bytes,
        List.length_cons]
      omega
  simp only [qosBody, List.length_append, BigEndian.length_encode, each, qosValues.length_profiles,
    numQosProfiles]

def multiDomainBody (radioID : UInt8) (firstChannel numChannels maxTxPower : UInt16) : List UInt8 :=
  BigEndian.encode 1 radioID.toNat ++ (BigEndian.encode 1 0 ++
    (BigEndian.encode 2 firstChannel.toNat ++ (BigEndian.encode 2 numChannels.toNat ++
      BigEndian.encode 2 maxTxPower.toNat)))

@[simp] theorem length_multiDomainBody (radioID : UInt8)
    (firstChannel numChannels maxTxPower : UInt16) :
    (multiDomainBody radioID firstChannel numChannels maxTxPower).length = 8 := by
  simp [multiDomainBody]

theorem WTPQosValues.stores (values : WTPQosValues) : Stores values.store values.bytes :=
  (stores_store8 _).bind ((stores_store16 _).bind ((stores_store16 _).bind ((stores_store8 _).bind
    ((stores_store8 _).bind (stores_store8 _)))))

theorem stores_profiles (profiles : List WTPQosValues) :
    Stores (profiles.forM WTPQosValues.store) (profiles.flatMap WTPQosValues.bytes) := by
  induction profiles with
  | nil => exact stores_pure
  | cons first profiles inductionHypothesis => exact first.stores.bind inductionHypothesis

theorem assembleWTPQoS_eq (radioID : UInt8) (tagPackets : Nat) (qosValues : QosProfiles) :
    assembleWTPQoS radioID tagPackets qosValues =
      .ok (filled (elementBytes wtpQosType (qosBody radioID tagPackets qosValues.profiles)) 2) := by
  have stores := (stores_store8 radioID.toNat).bind ((stores_store8 tagPackets).bind
    (stores_profiles qosValues.profiles))
  rw [assembleWTPQoS, assembleInto_stores stores (length_qosBody radioID tagPackets qosValues).symm,
    ok_bind]
  exact cwAssembleMsgElem_eq _ _

theorem cwAssembleMsgElemACWTPMultiDomainCapability_eq (radioID : UInt8)
    (firstChannel numChannels maxTxPower : UInt16) :
    cwAssembleMsgElemACWTPMultiDomainCapability radioID firstChannel numChannels maxTxPower =
      .ok (filled (elementBytes wtpMultidomainCapabilityType
        (multiDomainBody radioID firstChannel numChannels maxTxPower)) 2) := by
  have stores := (stores_store8 radioID.toNat).bind ((stores_store8 0).bind
    ((stores_store16 firstChannel.toNat).bind ((stores_store16 numChannels.toNat).bind
      (stores_store16 maxTxPower.toNat))))
  rw [cwAssembleMsgElemACWTPMultiDomainCapability, assembleInto_stores stores (by simp), ok_bind]
  exact cwAssembleMsgElem_eq _ _

/-- Ten bytes are stored into a buffer of eight. -/
theorem cwAssembleWTPOFDM_fails (radioID : UInt8) (inUse ofdmValues : OFDMControlValues)
    (element : CWProtocolMessage) :
    cwAssembleWTPOFDM radioID inUse ofdmValues ≠ .ok element := by
  have fills : Fills (do
      cwProtocolStore8 radioID.toNat
      (cwMergeOFDMValues ofdmValues inUse).store) (1 + (4 + (1 + 4))) :=
    (fills_store8 _).bind ((fills_rawBytes _).bind ((fills_store8 _).bind (fills_rawBytes _)))
  intro assembled
  rw [cwAssembleWTPOFDM] at assembled
  cases body : assembleInto ofdmControlLength (do
      cwProtocolStore8 radioID.toNat
      (cwMergeOFDMValues ofdmValues inUse).store) with
  | error failure =>
    rw [body] at assembled
    cases assembled
  | ok message =>
    have room := fills.le_size body
    simp [ofdmControlLength] at room

/-! ## What the WTP reads -/

theorem WTPQosValues.reads (values : WTPQosValues) :
    Reads WTPQosValues.retrieve values.bytes values none := by
  have parts : Reads WTPQosValues.retrieve values.bytes
      ⟨.ofNat values.queueDepth.toNat, .ofNat values.cwMin.toNat, .ofNat values.cwMax.toNat,
        .ofNat values.AIFS.toNat, .ofNat values.dot1PTag.toNat, .ofNat values.DSCPTag.toNat⟩ none :=
    (reads_retrieve8 values.queueDepth.toNat_lt).andThen
      ((reads_retrieve16 values.cwMin.toNat_lt).andThen
        ((reads_retrieve16 values.cwMax.toNat_lt).andThen
          ((reads_retrieve8 values.AIFS.toNat_lt).andThen
            ((reads_retrieve8 values.dot1PTag.toNat_lt).andThen
              ((reads_retrieve8 values.DSCPTag.toNat_lt).andReturn (reads_pure _))))))
  simpa using parts

theorem reads_profiles (profiles : List WTPQosValues) :
    Reads (retrieveProfiles profiles.length) (profiles.flatMap WTPQosValues.bytes) profiles none := by
  induction profiles with
  | nil => exact reads_pure []
  | cons first profiles inductionHypothesis =>
    exact first.reads.andThen (inductionHypothesis.andReturn (reads_pure _))

theorem reads_WTPQoS (radioID : UInt8) {tagPackets : Nat} (small : tagPackets < 256)
    (qosValues : QosProfiles) :
    Reads retrieveWTPQoS (qosBody radioID tagPackets qosValues.profiles)
      ⟨radioID, qosValues.profiles⟩ none := by
  have profiles := reads_profiles qosValues.profiles
  rw [qosValues.length_profiles] at profiles
  have parts : Reads retrieveWTPQoS (qosBody radioID tagPackets qosValues.profiles)
      ⟨.ofNat radioID.toNat, qosValues.profiles⟩ none :=
    (reads_retrieve8 radioID.toNat_lt).andThen
      ((reads_retrieve8 small).andThen (profiles.andReturn (reads_pure _)))
  simpa using parts

end WlanController.Binding
