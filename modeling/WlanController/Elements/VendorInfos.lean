import Mathlib.Algebra.Order.BigOperators.Group.List
import WlanController.Foundation.ByteOrder
import WlanController.Protocol.CountedRecords
import WlanController.Radios.StationMessage

/-!
# Vendor information

The descriptors of the AC and of a WTP and the board data of a WTP end in a list of vendor
information.  Each piece has a type, a length and so many bytes, of which exactly four are
taken for an integer: its bytes are turned around before they are sent and after they were
received.
-/

namespace WlanController.Elements

open Protocol Radios

/-- `CWWTPVendorInfoValues` and `CWACVendorInfoValues`, where `length` bytes lie at `valuePtr`.
    The two differ in the type of `valuePtr`, a `char *` or an `int *`.  A `type` is one of a
    few small numbers or what was read from 16 bits. -/
structure VendorInfoValues where
  vendorIdentifier : UInt32
  type : UInt16
  value : List UInt8
  deriving DecidableEq, Repr

namespace VendorInfoValues

/-- The type and the length of a record. -/
def tlvHeader (info : VendorInfoValues) : List UInt8 :=
  BigEndian.encode 2 info.type.toNat ++ BigEndian.encode 2 info.value.length

/-- The header in an element that gives the vendor with each record. -/
def vendorHeader (info : VendorInfoValues) : List UInt8 :=
  BigEndian.encode 4 info.vendorIdentifier.toNat ++ info.tlvHeader

@[simp] theorem length_tlvHeader (info : VendorInfoValues) : info.tlvHeader.length = 4 := by
  simp [tlvHeader]

@[simp] theorem length_vendorHeader (info : VendorInfoValues) : info.vendorHeader.length = 8 := by
  simp [vendorHeader]

end VendorInfoValues

/-! ## Values of four bytes -/

/-- `*valuePtr = htonl(*valuePtr)` where `valuePtr` is an `int *`. -/
def turnInt (value : List UInt8) : List UInt8 :=
  if value.length = 4 then ByteOrder.store 4 (ByteOrder.htonl (ByteOrder.load value)) else value

/-- `*valuePtr = htonl(*valuePtr)` where `valuePtr` is a `char *`: the first byte is turned
    around as an `int`, and what is left of that is one byte. -/
def turnChar : List UInt8 → List UInt8
  | [first, second, third, fourth] =>
      [UInt8.ofNat (ByteOrder.htonl (ByteOrder.charToInt first)), second, third, fourth]
  | value => value

/-- `*(int *)valuePtr = ntohl(*valuePtr)`: the first byte is turned around as an `int`, which
    fills all four. -/
def turnCharToInt : List UInt8 → List UInt8
  | [first, _, _, _] => ByteOrder.store 4 (ByteOrder.ntohl (ByteOrder.charToInt first))
  | value => value

@[simp] theorem length_turnInt (value : List UInt8) : (turnInt value).length = value.length := by
  unfold turnInt
  split
  next four => simp [ByteOrder.store, four]
  next => rfl

/-- Turned around on both sides, a value arrives as it was sent. -/
theorem turnInt_turnInt (value : List UInt8) : turnInt (turnInt value) = value := by
  by_cases four : value.length = 4
  · have turned : turnInt value = value.reverse := by
      rw [turnInt, if_pos four, ByteOrder.store_htonl_load four]
    rw [turned, turnInt, if_pos (by rw [List.length_reverse, four]),
      ByteOrder.store_htonl_load (by rw [List.length_reverse, four]), List.reverse_reverse]
  · simp [turnInt, four]

/-- A value of four bytes, or one of another length. -/
theorem four_or_other (value : List UInt8) :
    (∃ first second third fourth, value = [first, second, third, fourth]) ∨ value.length ≠ 4 := by
  match value with
  | [] | [_] | [_, _] | [_, _, _] => exact .inr (by simp)
  | [first, second, third, fourth] => exact .inl ⟨first, second, third, fourth, rfl⟩
  | _ :: _ :: _ :: _ :: _ :: _ => exact .inr (by simp)

@[simp] theorem turnChar_of_other {value : List UInt8} (other : value.length ≠ 4) :
    turnChar value = value := by
  unfold turnChar
  split
  next => exact absurd rfl other
  next => rfl

@[simp] theorem turnCharToInt_of_other {value : List UInt8} (other : value.length ≠ 4) :
    turnCharToInt value = value := by
  unfold turnCharToInt
  split
  next => exact absurd rfl other
  next => rfl

/-- Of a value of four bytes the first is replaced by its sign. -/
theorem turnChar_four (first second third fourth : UInt8) :
    turnChar [first, second, third, fourth] =
      [ByteOrder.signByte first, second, third, fourth] := by
  rw [turnChar, ByteOrder.ofNat_htonl_charToInt]

theorem turnCharToInt_four (first second third fourth : UInt8) :
    turnCharToInt [first, second, third, fourth] =
      [ByteOrder.signByte first, ByteOrder.signByte first, ByteOrder.signByte first, first] := by
  rw [turnCharToInt, ByteOrder.ntohl_eq_htonl, ByteOrder.store_htonl, ByteOrder.encode_charToInt]

@[simp] theorem length_turnChar (value : List UInt8) : (turnChar value).length = value.length := by
  obtain ⟨first, second, third, fourth, rfl⟩ | other := four_or_other value
  · rw [turnChar_four]
    rfl
  · rw [turnChar_of_other other]

/-! ## Records on the wire -/

/-- A type, a length and a value. -/
def storeTLV (turn : List UInt8 → List UInt8) (info : VendorInfoValues) : MessageM Unit := do
  cwProtocolStore16 info.type.toNat
  cwProtocolStore16 info.value.length
  cwProtocolStoreRawBytes (turn info.value)

/-- A record that starts with its vendor. -/
def storeVendorInfo (turn : List UInt8 → List UInt8) (info : VendorInfoValues) : MessageM Unit := do
  cwProtocolStore32 info.vendorIdentifier.toNat
  storeTLV turn info

/-- The type of a record is read and dropped, its length is kept. -/
def retrieveTLVHeader : MessageM Nat := do
  let _ ← cwProtocolRetrieve16
  cwProtocolRetrieve16

def retrieveVendorHeader : MessageM Nat := do
  let _ ← cwProtocolRetrieve32
  retrieveTLVHeader

def retrieveTLV (turn : List UInt8 → List UInt8) (vendorID : Nat) : MessageM VendorInfoValues := do
  let type ← cwProtocolRetrieve16
  let length ← cwProtocolRetrieve16
  let value ← cwProtocolRetrieveRawBytes length
  return { vendorIdentifier := .ofNat vendorID, type := .ofNat type, value := turn value }

def retrieveVendorInfo (turn : List UInt8 → List UInt8) : MessageM VendorInfoValues := do
  let vendorID ← cwProtocolRetrieve32
  retrieveTLV turn vendorID

theorem stores_tlv (turn : List UInt8 → List UInt8) (info : VendorInfoValues) :
    Stores (storeTLV turn info) (info.tlvHeader ++ turn info.value) := by
  rw [VendorInfoValues.tlvHeader, List.append_assoc]
  exact (stores_store16 _).bind ((stores_store16 _).bind (stores_rawBytes _))

theorem stores_vendorInfo (turn : List UInt8 → List UInt8) (info : VendorInfoValues) :
    Stores (storeVendorInfo turn info) (info.vendorHeader ++ turn info.value) := by
  rw [VendorInfoValues.vendorHeader, List.append_assoc]
  exact (stores_store32 _).bind (stores_tlv turn info)

theorem stores_forM {ρ : Type} {store : ρ → MessageM Unit} {bytes : ρ → List UInt8}
    (stores : ∀ r, Stores (store r) (bytes r)) (records : List ρ) :
    Stores (records.forM store) (records.flatMap bytes) := by
  induction records with
  | nil => exact stores_pure
  | cons r records inductionHypothesis =>
    rw [List.flatMap_cons]
    exact (stores r).bind inductionHypothesis

theorem reads_tlvHeader {info : VendorInfoValues} (short : info.value.length < 65536) :
    Reads retrieveTLVHeader info.tlvHeader info.value.length none :=
  (reads_retrieve16 info.type.toNat_lt).andThen (reads_retrieve16 short)

theorem reads_vendorHeader {info : VendorInfoValues} (short : info.value.length < 65536) :
    Reads retrieveVendorHeader info.vendorHeader info.value.length none :=
  (reads_retrieve32 info.vendorIdentifier.toNat_lt).andThen (reads_tlvHeader short)

/-- What the AC or the WTP makes of a record whose value was sent as `sent`. -/
def VendorInfoValues.received (turn : List UInt8 → List UInt8) (vendorID : UInt32)
    (info : VendorInfoValues) (sent : List UInt8) : VendorInfoValues :=
  { vendorIdentifier := vendorID, type := info.type, value := turn sent }

theorem reads_tlv (turn : List UInt8 → List UInt8) (vendorID : UInt32) {info : VendorInfoValues}
    (short : info.value.length < 65536) {sent : List UInt8} (length : sent.length = info.value.length)
    (start : Nat) :
    ReadsFrom start (retrieveTLV turn vendorID.toNat) (info.tlvHeader ++ sent)
      (info.received turn vendorID sent) := by
  have value : ∀ start, ReadsFrom start (do
      let value ← cwProtocolRetrieveRawBytes info.value.length
      return ⟨.ofNat vendorID.toNat, .ofNat info.type.toNat, turn value⟩) sent
      (info.received turn vendorID sent) := by
    intro start
    have raw := (readsFrom_rawBytes start sent).map (info.received turn vendorID)
    rw [length] at raw
    rw [UInt32.ofNat_toNat, UInt16.ofNat_toNat, bind_pure_comp]
    exact raw
  rw [VendorInfoValues.tlvHeader, List.append_assoc]
  exact ((reads_retrieve16 info.type.toNat_lt).from _).bind
    (((reads_retrieve16 short).from _).bind (value _))

theorem reads_vendorInfo (turn : List UInt8 → List UInt8) {info : VendorInfoValues}
    (short : info.value.length < 65536) {sent : List UInt8} (length : sent.length = info.value.length)
    (start : Nat) :
    ReadsFrom start (retrieveVendorInfo turn) (info.vendorHeader ++ sent)
      (info.received turn info.vendorIdentifier sent) := by
  have both := ((reads_retrieve32 info.vendorIdentifier.toNat_lt).from start).bind
    (reads_tlv turn info.vendorIdentifier short length _)
  rwa [← List.append_assoc] at both

/-! ## Lists of records -/

/-- The bytes of a list of records, each with so many bytes in front of its value. -/
def recordsSize (header : Nat) (infos : List VendorInfoValues) : Nat :=
  (infos.map fun info => header + info.value.length).sum

theorem length_value_le (header : Nat) {infos : List VendorInfoValues} {info : VendorInfoValues}
    (member : info ∈ infos) : info.value.length ≤ recordsSize header infos := by
  have listed := List.mem_map_of_mem (f := fun info => header + info.value.length) member
  have part := List.single_le_sum (fun _ _ => Nat.zero_le _) _ listed
  exact Nat.le_of_add_left_le part

def tlvBytes (turn : List UInt8 → List UInt8) (infos : List VendorInfoValues) : List UInt8 :=
  recordBytes VendorInfoValues.tlvHeader (fun info => turn info.value) infos

def vendorBytes (turn : List UInt8 → List UInt8) (infos : List VendorInfoValues) : List UInt8 :=
  recordBytes VendorInfoValues.vendorHeader (fun info => turn info.value) infos

section Lists

variable {turn : List UInt8 → List UInt8} (same : ∀ value, (turn value).length = value.length)
include same

theorem length_tlvBytes (infos : List VendorInfoValues) :
    (tlvBytes turn infos).length = recordsSize 4 infos := by
  simp [tlvBytes, recordBytes, recordsSize, List.length_flatMap, same]

theorem length_vendorBytes (infos : List VendorInfoValues) :
    (vendorBytes turn infos).length = recordsSize 8 infos := by
  simp [vendorBytes, recordBytes, recordsSize, List.length_flatMap, same]

/-- Records of one vendor that end where the element does. -/
theorem readsFrom_tlvs (turn' : List UInt8 → List UInt8) (vendorID : UInt32)
    {infos : List VendorInfoValues} (short : recordsSize 4 infos < 65536)
    {oldOffset len start : Nat} (begins : oldOffset ≤ start)
    (ends : start + recordsSize 4 infos = oldOffset + len) :
    ReadsFrom start
      (cwParseRecords retrieveTLVHeader (retrieveTLV turn' vendorID.toNat) oldOffset len)
      (tlvBytes turn infos) (infos.map fun info => info.received turn' vendorID (turn info.value)) := by
  have short' : ∀ info ∈ infos, info.value.length < 65536 := fun info member =>
    Nat.lt_of_le_of_lt (length_value_le 4 member) short
  rw [← length_tlvBytes same] at ends
  apply readsFrom_parseRecords infos ?headers ?records ?inside begins ends
  case headers =>
    intro info member start
    rw [same]
    exact (reads_tlvHeader (short' info member)).from start
  case records =>
    intro info member start
    exact reads_tlv turn' vendorID (short' info member) (same _) start
  case inside =>
    intro info _
    simp [VendorInfoValues.tlvHeader, BigEndian.encode]

/-- Records that name their vendors. -/
theorem readsFrom_vendorInfos (turn' : List UInt8 → List UInt8) {infos : List VendorInfoValues}
    (short : recordsSize 8 infos < 65536) {oldOffset len start : Nat} (begins : oldOffset ≤ start)
    (ends : start + recordsSize 8 infos = oldOffset + len) :
    ReadsFrom start (cwParseRecords retrieveVendorHeader (retrieveVendorInfo turn') oldOffset len)
      (vendorBytes turn infos)
      (infos.map fun info => info.received turn' info.vendorIdentifier (turn info.value)) := by
  have short' : ∀ info ∈ infos, info.value.length < 65536 := fun info member =>
    Nat.lt_of_le_of_lt (length_value_le 8 member) short
  rw [← length_vendorBytes same] at ends
  apply readsFrom_parseRecords infos ?headers ?records ?inside begins ends
  case headers =>
    intro info member start
    rw [same]
    exact (reads_vendorHeader (short' info member)).from start
  case records =>
    intro info member start
    exact reads_vendorInfo turn' (short' info member) (same _) start
  case inside =>
    intro info _
    simp [VendorInfoValues.vendorHeader, BigEndian.encode]

end Lists

end WlanController.Elements
