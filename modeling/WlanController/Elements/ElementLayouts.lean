import WlanController.Elements.ElementWalk
import WlanController.Elements.WTPDescriptor
import WlanController.Protocol.TransportHeader
import WlanController.Radios.StationConfiguration

/-!
# The layouts of headers and elements

The parts that the requests of a WTP have in common: the two headers in front of the elements,
and the elements by which a WTP describes itself.
-/

namespace WlanController.Elements

open Protocol Radios

/-! ## Vendor information -/

def tlvHeaderLayout : Layout Nat := do
  let _type ← Layout.number 2
  Layout.number 2

def vendorHeaderLayout : Layout Nat := do
  let _vendorID ← Layout.number 4
  tlvHeaderLayout

def tlvLayout (turn : List UInt8 → List UInt8) (vendorID : Nat) : Layout VendorInfoValues := do
  let type ← Layout.number 2
  let length ← Layout.number 2
  let value ← Layout.raw length
  return { vendorIdentifier := .ofNat vendorID, type := .ofNat type, value := turn value }

def vendorInfoLayout (turn : List UInt8 → List UInt8) : Layout VendorInfoValues := do
  let vendorID ← Layout.number 4
  tlvLayout turn vendorID

theorem spans_tlvHeader : Spans retrieveTLVHeader tlvHeaderLayout :=
  spans_retrieve16.bind fun _ => spans_retrieve16

theorem spans_vendorHeader : Spans retrieveVendorHeader vendorHeaderLayout :=
  spans_retrieve32.bind fun _ => spans_tlvHeader

theorem spans_tlv (turn : List UInt8 → List UInt8) (vendorID : Nat) :
    Spans (retrieveTLV turn vendorID) (tlvLayout turn vendorID) :=
  spans_retrieve16.bind fun _ => spans_retrieve16.bind fun length =>
    (spans_rawBytes length).bind fun _ => spans_pure _

theorem spans_vendorInfo (turn : List UInt8 → List UInt8) :
    Spans (retrieveVendorInfo turn) (vendorInfoLayout turn) :=
  spans_retrieve32.bind fun vendorID => spans_tlv turn vendorID

theorem heads_tlv (turn : List UInt8 → List UInt8) (vendorID : Nat) :
    Heads tlvHeaderLayout (tlvLayout turn vendorID) where
  positive bytes offset := by
    rw [tlvHeaderLayout, Layout.size_bind_ok Layout.value_number]
    simp
  announces bytes offset := by
    refine ⟨numberAt bytes (offset + 2) 2, _, rfl, rfl, ?_⟩
    change 2 + (2 + (numberAt bytes (offset + 2) 2 + 0)) = 2 + 2 + numberAt bytes (offset + 2) 2
    omega

theorem heads_vendorInfo (turn : List UInt8 → List UInt8) :
    Heads vendorHeaderLayout (vendorInfoLayout turn) where
  positive bytes offset := by
    rw [vendorHeaderLayout, Layout.size_bind_ok Layout.value_number]
    simp
  announces bytes offset := by
    refine ⟨numberAt bytes (offset + 4 + 2) 2, _, rfl, rfl, ?_⟩
    change 4 + (2 + (2 + (numberAt bytes (offset + 4 + 2) 2 + 0))) =
      4 + (2 + 2) + numberAt bytes (offset + 4 + 2) 2
    omega

/-! ## Board data and descriptor -/

/-- The body of `CWParseWTPBoardData`. -/
def boardDataFields (len oldOffset : Nat) : MessageM (List VendorInfoValues) := do
  let vendorID ← cwProtocolRetrieve32
  cwParseRecords retrieveTLVHeader (retrieveTLV turnCharToInt vendorID) oldOffset len

theorem cwParseWTPBoardData_eq (len : Nat) :
    cwParseWTPBoardData len = cwParseMessageElementFrom len (boardDataFields len) := rfl

def boardDataLayout (len : Nat) : Layout (List VendorInfoValues) := do
  let oldOffset ← Layout.here
  let vendorID ← Layout.number 4
  tlvHeaderLayout.records (tlvLayout turnCharToInt vendorID) oldOffset len

theorem spans_boardData (len : Nat) :
    Spans (do boardDataFields len (← get).offset) (boardDataLayout len) :=
  Spans.from fun oldOffset => spans_retrieve32.bind fun vendorID =>
    spans_parseRecords spans_tlvHeader (spans_tlv _ vendorID) (heads_tlv _ vendorID) oldOffset len

/-- The body of `CWParseWTPDescriptor`. -/
def descriptorFields (len oldOffset : Nat) : MessageM CWWTPDescriptor := do
  let maxRadios ← cwProtocolRetrieve8
  let radiosInUse ← cwProtocolRetrieve8
  let countenc ← cwProtocolRetrieve8
  let encCapabilities ← retrieveEncCapabilities countenc none
  let vendorInfos ← cwParseRecords retrieveVendorHeader (retrieveVendorInfo turnChar) oldOffset len
  return { maxRadios, radiosInUse, encCapabilities, vendorInfos }

theorem cwParseWTPDescriptor_eq (len : Nat) :
    cwParseWTPDescriptor len = cwParseMessageElementFrom len (descriptorFields len) := rfl

def encCapabilitiesLayout : (countenc : Nat) → Option Nat → Layout (Option Nat)
  | 0, encCapabilities => return encCapabilities
  | countenc + 1, encCapabilities => do
    if (← Layout.number 1) = 1 then
      encCapabilitiesLayout countenc (some (← Layout.number 2))
    else encCapabilitiesLayout countenc encCapabilities

def descriptorLayout (len : Nat) : Layout CWWTPDescriptor := do
  let oldOffset ← Layout.here
  let maxRadios ← Layout.number 1
  let radiosInUse ← Layout.number 1
  let countenc ← Layout.number 1
  let encCapabilities ← encCapabilitiesLayout countenc none
  let vendorInfos ← vendorHeaderLayout.records (vendorInfoLayout turnChar) oldOffset len
  return { maxRadios, radiosInUse, encCapabilities, vendorInfos }

theorem spans_encCapabilities (countenc : Nat) (encCapabilities : Option Nat) :
    Spans (retrieveEncCapabilities countenc encCapabilities)
      (encCapabilitiesLayout countenc encCapabilities) := by
  induction countenc generalizing encCapabilities with
  | zero => exact spans_pure encCapabilities
  | succ countenc inductionHypothesis =>
    apply spans_retrieve8.bind
    intro binding
    apply Spans.ite
    · intro _
      exact spans_retrieve16.bind fun capabilities => inductionHypothesis (some capabilities)
    · intro _
      exact inductionHypothesis encCapabilities

theorem spans_descriptor (len : Nat) :
    Spans (do descriptorFields len (← get).offset) (descriptorLayout len) := by
  apply Spans.from
  intro oldOffset
  apply spans_retrieve8.bind
  intro maxRadios
  apply spans_retrieve8.bind
  intro radiosInUse
  apply spans_retrieve8.bind
  intro countenc
  apply (spans_encCapabilities countenc none).bind
  intro encCapabilities
  apply (spans_parseRecords spans_vendorHeader (spans_vendorInfo turnChar)
    (heads_vendorInfo turnChar) oldOffset len).bind
  intro vendorInfos
  exact spans_pure _

/-! ## Radio information -/

/-- The body of `CWParseWTPRadioInformation`: the number of the radio and its standards, with
    three bytes between them. -/
def retrieveRadioInformation : MessageM (Nat × Nat) := do
  let radioID ← cwProtocolRetrieve8
  let _ ← cwProtocolRetrieve8
  let _ ← cwProtocolRetrieve8
  let _ ← cwProtocolRetrieve8
  let phyStandardValue ← cwProtocolRetrieve8
  return (radioID, phyStandardValue)

def radioInformationLayout : Layout (Nat × Nat) := do
  let radioID ← Layout.number 1
  let _ ← Layout.number 1
  let _ ← Layout.number 1
  let _ ← Layout.number 1
  let phyStandardValue ← Layout.number 1
  return (radioID, phyStandardValue)

theorem spans_radioInformation : Spans retrieveRadioInformation radioInformationLayout :=
  spans_retrieve8.bind fun _ => spans_retrieve8.bind fun _ => spans_retrieve8.bind fun _ =>
    spans_retrieve8.bind fun _ => spans_retrieve8.bind fun _ => spans_pure _

/-! ## Headers -/

def controlHeaderLayout : Layout CWControlHeaderValues := do
  let messageTypeValue ← Layout.number 4
  let seqNum ← Layout.number 1
  let msgElemsLen ← Layout.number 2
  let _flags ← Layout.number 1
  return ⟨.ofNat messageTypeValue, .ofNat seqNum, .ofNat msgElemsLen⟩

theorem spans_controlHeader : Spans cwParseControlHeader controlHeaderLayout :=
  spans_retrieve32.bind fun _ => spans_retrieve8.bind fun _ => spans_retrieve16.bind fun _ =>
    spans_retrieve8.bind fun _ => spans_pure _

end WlanController.Elements
