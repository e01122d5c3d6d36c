import WlanController.Elements.MessageElement
import WlanController.Elements.VendorInfos

/-!
# The AC descriptor

The AC describes itself with four counters, its security settings and a list of vendor
information.  Assembler and parser are two programs; they agree on every descriptor whose
body is short enough for its length to be announced.
-/

namespace WlanController.Elements

open Protocol Radios

def acDescriptorType : Nat := 1

/-- The members of the record that the element carries. -/
structure CWACInfoValues where
  stations : Nat
  limit : Nat
  activeWTPs : Nat
  maxWTPs : Nat
  security : Nat
  RMACField : Nat
  DTLSPolicy : Nat
  vendorInfos : List VendorInfoValues
  deriving DecidableEq, Repr

/-- The numbers have room in their fields. -/
structure CWACInfoValues.FitsFields (values : CWACInfoValues) : Prop where
  stations : values.stations < 65536
  limit : values.limit < 65536
  activeWTPs : values.activeWTPs < 65536
  maxWTPs : values.maxWTPs < 65536
  security : values.security < 256
  RMACField : values.RMACField < 256
  DTLSPolicy : values.DTLSPolicy < 256

/-- The size of the body: its fixed part and eight bytes and a value for each piece of vendor
    information. -/
def CWACInfoValues.size (values : CWACInfoValues) : Nat :=
  recordsSize 8 values.vendorInfos + 12

def cwAssembleMsgElemACDescriptor (values : CWACInfoValues) : Except Failure CWProtocolMessage := do
  let msgPtr ← assembleInto values.size do
    cwProtocolStore16 values.stations
    cwProtocolStore16 values.limit
    cwProtocolStore16 values.activeWTPs
    cwProtocolStore16 values.maxWTPs
    cwProtocolStore8 values.security
    cwProtocolStore8 values.RMACField
    cwProtocolStore8 0
    cwProtocolStore8 values.DTLSPolicy
    values.vendorInfos.forM (storeVendorInfo turnInt)
  cwAssembleMsgElem msgPtr acDescriptorType

def cwParseACDescriptor (len : Nat) : MessageM CWACInfoValues :=
  cwParseMessageElementFrom len fun oldOffset => do
    let stations ← cwProtocolRetrieve16
    let limit ← cwProtocolRetrieve16
    let activeWTPs ← cwProtocolRetrieve16
    let maxWTPs ← cwProtocolRetrieve16
    let security ← cwProtocolRetrieve8
    let RMACField ← cwProtocolRetrieve8
    let _ ← cwProtocolRetrieve8
    let DTLSPolicy ← cwProtocolRetrieve8
    let vendorInfos ← cwParseRecords retrieveVendorHeader (retrieveVendorInfo turnInt) oldOffset len
    return { stations, limit, activeWTPs, maxWTPs, security, RMACField, DTLSPolicy, vendorInfos }

/-! ## The bytes of a descriptor -/

namespace CWACInfoValues

def body (values : CWACInfoValues) : List UInt8 :=
  BigEndian.encode 2 values.stations ++ (BigEndian.encode 2 values.limit ++
    (BigEndian.encode 2 values.activeWTPs ++ (BigEndian.encode 2 values.maxWTPs ++
      (BigEndian.encode 1 values.security ++ (BigEndian.encode 1 values.RMACField ++
        (BigEndian.encode 1 0 ++ (BigEndian.encode 1 values.DTLSPolicy ++
          vendorBytes turnInt values.vendorInfos)))))))

theorem length_body (values : CWACInfoValues) : values.body.length = values.size := by
  simp only [body, List.length_append, BigEndian.length_encode, length_vendorBytes length_turnInt,
    size]
  omega

end CWACInfoValues

theorem cwAssembleMsgElemACDescriptor_eq (values : CWACInfoValues) :
    cwAssembleMsgElemACDescriptor values =
      .ok (filled (elementBytes acDescriptorType values.body) 2) := by
  have stores := (stores_store16 values.stations).bind ((stores_store16 values.limit).bind
    ((stores_store16 values.activeWTPs).bind ((stores_store16 values.maxWTPs).bind
      ((stores_store8 values.security).bind ((stores_store8 values.RMACField).bind
        ((stores_store8 0).bind ((stores_store8 values.DTLSPolicy).bind
          (stores_forM (stores_vendorInfo turnInt) values.vendorInfos))))))))
  rw [cwAssembleMsgElemACDescriptor, assembleInto_stores stores values.length_body.symm, ok_bind]
  exact cwAssembleMsgElem_eq values.body acDescriptorType

/-- Turned around twice, the vendor information is what it was. -/
theorem received_turnInt (infos : List VendorInfoValues) :
    (infos.map fun info => info.received turnInt info.vendorIdentifier (turnInt info.value)) =
      infos := by
  simp [VendorInfoValues.received, turnInt_turnInt]

theorem readsFrom_acDescriptor {values : CWACInfoValues} (fits : values.FitsFields)
    (short : values.size < 65536) (start : Nat) :
    ReadsFrom start (cwParseACDescriptor values.size) values.body values := by
  have small : recordsSize 8 values.vendorInfos < 65536 := by
    simp only [CWACInfoValues.size] at short
    omega
  have vendorInfos : ∀ behind, behind = start + 12 → ReadsFrom behind (do
      let vendorInfos ← cwParseRecords retrieveVendorHeader (retrieveVendorInfo turnInt) start
        values.size
      return { values with vendorInfos }) (vendorBytes turnInt values.vendorInfos) values := by
    intro behind fixed
    have ends : behind + recordsSize 8 values.vendorInfos = start + values.size := by
      simp only [CWACInfoValues.size]
      omega
    have read := (readsFrom_vendorInfos length_turnInt turnInt small
      (fixed ▸ Nat.le_add_right start 12) ends).map fun vendorInfos =>
        ({ values with vendorInfos } : CWACInfoValues)
    rw [received_turnInt] at read
    rw [bind_pure_comp]
    exact read
  apply ReadsFrom.messageElementFrom _ values.length_body
  apply ((reads_retrieve16 fits.stations).from _).bind
  apply ((reads_retrieve16 fits.limit).from _).bind
  apply ((reads_retrieve16 fits.activeWTPs).from _).bind
  apply ((reads_retrieve16 fits.maxWTPs).from _).bind
  apply ((reads_retrieve8 fits.security).from _).bind
  apply ((reads_retrieve8 fits.RMACField).from _).bind
  apply ((reads_retrieve8 (by omega)).from _).bind
  apply ((reads_retrieve8 fits.DTLSPolicy).from _).bind
  apply vendorInfos
  simp only [BigEndian.length_encode]

/-! ## When a descriptor arrives -/

/-- A descriptor whose numbers fit their fields arrives as it is exactly when the length of
    its body fits the sixteen bits that announce it. -/
theorem acDescriptor_arrives_iff {values : CWACInfoValues} (fits : values.FitsFields) :
    Arrives (cwAssembleMsgElemACDescriptor values) acDescriptorType cwParseACDescriptor values ↔
      values.size < 65536 := by
  have reads : values.body.length < 65536 → ∀ start,
      ReadsFrom start (cwParseACDescriptor values.body.length) values.body values := by
    rw [values.length_body]
    exact readsFrom_acDescriptor fits
  have arrives : Arrives (cwAssembleMsgElemACDescriptor values) acDescriptorType
      cwParseACDescriptor values ↔ values.body.length < 65536 ∧ values = values :=
    arrives_iff (by simp [acDescriptorType]) (cwAssembleMsgElemACDescriptor_eq values)
      (fun len => ⟨_, rfl⟩) reads
  rw [arrives, values.length_body]
  simp

/-- What the AC says of itself: a hardware and a software version of four bytes each. -/
def ownDescriptor : CWACInfoValues where
  stations := 2
  limit := 2000
  activeWTPs := 3
  maxWTPs := 100
  security := 4
  RMACField := 2
  DTLSPolicy := 4
  vendorInfos := [⟨65432, 4, [0x40, 0xE2, 0x01, 0x00]⟩, ⟨65432, 5, [0x3B, 0x30, 0x00, 0x00]⟩]

theorem ownDescriptor_fits : ownDescriptor.FitsFields := by
  constructor <;> simp [ownDescriptor]

theorem ownDescriptor_arrives :
    Arrives (cwAssembleMsgElemACDescriptor ownDescriptor) acDescriptorType cwParseACDescriptor
      ownDescriptor :=
  (acDescriptor_arrives_iff ownDescriptor_fits).mpr (by
    simp [ownDescriptor, CWACInfoValues.size, recordsSize])

/-- A descriptor with one value of so many zeros. -/
def zerosDescriptor (count : Nat) : CWACInfoValues :=
  { ownDescriptor with vendorInfos := [⟨65432, 4, List.replicate count 0⟩] }

theorem zerosDescriptor_fits (count : Nat) : (zerosDescriptor count).FitsFields := by
  constructor <;> simp [zerosDescriptor, ownDescriptor]

theorem size_zerosDescriptor (count : Nat) : (zerosDescriptor count).size = 20 + count := by
  simp only [zerosDescriptor, CWACInfoValues.size, recordsSize, List.map_cons, List.map_nil,
    List.sum_cons, List.sum_nil, List.length_replicate]
  omega

/-- With 65516 zeros the body has 65536 bytes, which are announced as none. -/
theorem zerosDescriptor_does_not_arrive :
    (zerosDescriptor 65516).FitsFields ∧
      ¬ Arrives (cwAssembleMsgElemACDescriptor (zerosDescriptor 65516)) acDescriptorType
        cwParseACDescriptor (zerosDescriptor 65516) := by
  refine ⟨zerosDescriptor_fits 65516, fun arrives => ?_⟩
  obtain ⟨element, same, read⟩ := arrives
  rw [cwAssembleMsgElemACDescriptor_eq] at same
  cases same
  rw [contents_filled] at read
  have short := length_lt_of_reads (by simp [acDescriptorType]) (fun len => ⟨_, rfl⟩) read
  rw [CWACInfoValues.length_body, size_zerosDescriptor] at short
  omega

end WlanController.Elements
