import WlanController.Elements.MessageElement
import WlanController.Elements.VendorInfos

/-!
# The board data and the descriptor of a WTP

Both end in vendor information, with values at a `char *` on either side.  A value of four
bytes is turned around through that pointer, so only its first byte is read, and the sender
puts the sign of that byte in its place.  The parser of the descriptor does the same again;
the parser of the board data fills all four bytes with it.

The board data names one vendor for all of its records, the one of the first.
-/

namespace WlanController.Elements

open Protocol Radios

def wtpBoardDataType : Nat := 38

def wtpDescriptorType : Nat := 39

/-! ## Board data -/

/-- `none` stands for the access to `vendorInfos[0]` of an empty array. -/
def cwAssembleMsgElemWTPBoardData (infos : List VendorInfoValues) :
    Option (Except Failure CWProtocolMessage) :=
  infos.head?.map fun first => do
    let msgPtr ← assembleInto (4 + recordsSize 4 infos) do
      cwProtocolStore32 first.vendorIdentifier.toNat
      infos.forM (storeTLV turnChar)
    cwAssembleMsgElem msgPtr wtpBoardDataType

def cwParseWTPBoardData (len : Nat) : MessageM (List VendorInfoValues) :=
  cwParseMessageElementFrom len fun oldOffset => do
    let vendorID ← cwProtocolRetrieve32
    cwParseRecords retrieveTLVHeader (retrieveTLV turnCharToInt vendorID) oldOffset len

/-! ## The descriptor -/

/-- `encCapabilities` is `none` where it is not assigned. -/
structure CWWTPDescriptor where
  maxRadios : Nat
  radiosInUse : Nat
  encCapabilities : Option Nat
  vendorInfos : List VendorInfoValues
  deriving DecidableEq, Repr

/-- What the WTP describes itself with: the counts of its radios, its encryption capabilities
    and the vendor information. -/
structure WTPDescription where
  maxRadios : Nat
  radiosInUse : Nat
  encCapabilities : Nat
  vendorInfos : List VendorInfoValues

def WTPDescription.descriptor (description : WTPDescription) : CWWTPDescriptor where
  maxRadios := description.maxRadios
  radiosInUse := description.radiosInUse
  encCapabilities := some description.encCapabilities
  vendorInfos := description.vendorInfos

def cwAssembleMsgElemWTPDescriptor (description : WTPDescription) :
    Except Failure CWProtocolMessage := do
  let msgPtr ← assembleInto (4 + recordsSize 8 description.vendorInfos + 2) do
    cwProtocolStore8 description.maxRadios
    cwProtocolStore8 description.radiosInUse
    cwProtocolStore8 1
    cwProtocolStore8 1
    cwProtocolStore16 description.encCapabilities
    description.vendorInfos.forM (storeVendorInfo turnChar)
  cwAssembleMsgElem msgPtr wtpDescriptorType

/-- The loop over the encryption capabilities: those of the IEEE 802.11 binding are kept, the
    numbers of other bindings are passed over without their capabilities. -/
def retrieveEncCapabilities : (countenc : Nat) → Option Nat → MessageM (Option Nat)
  | 0, encCapabilities => return encCapabilities
  | countenc + 1, encCapabilities => do
    if (← cwProtocolRetrieve8) = 1 then
      retrieveEncCapabilities countenc (some (← cwProtocolRetrieve16))
    else retrieveEncCapabilities countenc encCapabilities

def cwParseWTPDescriptor (len : Nat) : MessageM CWWTPDescriptor :=
  cwParseMessageElementFrom len fun oldOffset => do
    let maxRadios ← cwProtocolRetrieve8
    let radiosInUse ← cwProtocolRetrieve8
    let countenc ← cwProtocolRetrieve8
    let encCapabilities ← retrieveEncCapabilities countenc none
    let vendorInfos ← cwParseRecords retrieveVendorHeader (retrieveVendorInfo turnChar) oldOffset len
    return { maxRadios, radiosInUse, encCapabilities, vendorInfos }

/-! ## Their bytes -/

def boardDataBody (first : VendorInfoValues) (infos : List VendorInfoValues) : List UInt8 :=
  BigEndian.encode 4 first.vendorIdentifier.toNat ++ tlvBytes turnChar infos

def WTPDescription.body (description : WTPDescription) : List UInt8 :=
  BigEndian.encode 1 description.maxRadios ++ (BigEndian.encode 1 description.radiosInUse ++
    (BigEndian.encode 1 1 ++ (BigEndian.encode 1 1 ++
      (BigEndian.encode 2 description.encCapabilities ++
        vendorBytes turnChar description.vendorInfos))))

theorem length_boardDataBody (first : VendorInfoValues) (infos : List VendorInfoValues) :
    (boardDataBody first infos).length = 4 + recordsSize 4 infos := by
  rw [boardDataBody, List.length_append, BigEndian.length_encode, length_tlvBytes length_turnChar]

theorem WTPDescription.length_body (description : WTPDescription) :
    description.body.length = 4 + recordsSize 8 description.vendorInfos + 2 := by
  simp only [body, List.length_append, BigEndian.length_encode, length_vendorBytes length_turnChar]
  omega

theorem cwAssembleMsgElemWTPBoardData_cons (first : VendorInfoValues)
    (infos : List VendorInfoValues) :
    cwAssembleMsgElemWTPBoardData (first :: infos) =
      some (.ok (filled (elementBytes wtpBoardDataType (boardDataBody first (first :: infos))) 2)) := by
  have stores := (stores_store32 first.vendorIdentifier.toNat).bind
    (stores_forM (stores_tlv turnChar) (first :: infos))
  have length := (length_boardDataBody first (first :: infos)).symm
  rw [cwAssembleMsgElemWTPBoardData, List.head?_cons, Option.map_some,
    assembleInto_stores stores length, ok_bind]
  exact congrArg some (cwAssembleMsgElem_eq _ _)

theorem cwAssembleMsgElemWTPDescriptor_eq (description : WTPDescription) :
    cwAssembleMsgElemWTPDescriptor description =
      .ok (filled (elementBytes wtpDescriptorType description.body) 2) := by
  have stores := (stores_store8 description.maxRadios).bind
    ((stores_store8 description.radiosInUse).bind ((stores_store8 1).bind ((stores_store8 1).bind
      ((stores_store16 description.encCapabilities).bind
        (stores_forM (stores_vendorInfo turnChar) description.vendorInfos)))))
  rw [cwAssembleMsgElemWTPDescriptor, assembleInto_stores stores description.length_body.symm,
    ok_bind]
  exact cwAssembleMsgElem_eq _ _

/-! ## What the AC reads -/

/-- The board data as the AC gets them. -/
def receivedBoardData (first : VendorInfoValues) (infos : List VendorInfoValues) :
    List VendorInfoValues :=
  infos.map fun info => info.received turnCharToInt first.vendorIdentifier (turnChar info.value)

theorem readsFrom_boardData (first : VendorInfoValues) (infos : List VendorInfoValues)
    (short : (boardDataBody first infos).length < 65536) (start : Nat) :
    ReadsFrom start (cwParseWTPBoardData (boardDataBody first infos).length)
      (boardDataBody first infos) (receivedBoardData first infos) := by
  rw [length_boardDataBody] at short ⊢
  apply ReadsFrom.messageElementFrom _ (length_boardDataBody first infos)
  apply ((reads_retrieve32 first.vendorIdentifier.toNat_lt).from _).bind
  rw [BigEndian.length_encode]
  exact readsFrom_tlvs length_turnChar turnCharToInt first.vendorIdentifier (by omega)
    (Nat.le_add_right start 4) (by omega)

/-- The descriptor as the AC gets it. -/
def WTPDescription.received (description : WTPDescription) : CWWTPDescriptor where
  maxRadios := description.maxRadios % 256
  radiosInUse := description.radiosInUse % 256
  encCapabilities := some (description.encCapabilities % 65536)
  vendorInfos := description.vendorInfos.map fun info =>
    info.received turnChar info.vendorIdentifier (turnChar info.value)

/-- A number of any size is read as what its bytes have room for. -/
theorem reads_retrieve8_mod (value : Nat) :
    Reads cwProtocolRetrieve8 (BigEndian.encode 1 value) (value % 256) none := by
  have read := reads_retrieve8 (Nat.mod_lt value (by omega : 256 > 0))
  rwa [show (256 : Nat) = 256 ^ 1 from rfl, encode_mod] at read

theorem reads_retrieve16_mod (value : Nat) :
    Reads cwProtocolRetrieve16 (BigEndian.encode 2 value) (value % 65536) none := by
  have read := reads_retrieve16 (Nat.mod_lt value (by omega : 65536 > 0))
  rwa [show (65536 : Nat) = 256 ^ 2 from rfl, encode_mod] at read

theorem reads_encCapabilities (encCapabilities : Nat) :
    Reads (retrieveEncCapabilities 1 none)
      (BigEndian.encode 1 1 ++ BigEndian.encode 2 encCapabilities)
      (some (encCapabilities % 65536)) none :=
  (reads_retrieve8 (by omega)).andThen ((reads_retrieve16_mod encCapabilities).map some)

theorem readsFrom_wtpDescriptor (description : WTPDescription)
    (short : description.body.length < 65536) (start : Nat) :
    ReadsFrom start (cwParseWTPDescriptor description.body.length) description.body
      description.received := by
  rw [description.length_body] at short ⊢
  apply ReadsFrom.messageElementFrom _ description.length_body
  apply ((reads_retrieve8_mod description.maxRadios).from _).bind
  apply ((reads_retrieve8_mod description.radiosInUse).from _).bind
  apply ((reads_retrieve8 (by omega : 1 < 256)).from _).bind
  rw [← List.append_assoc]
  apply ((reads_encCapabilities description.encCapabilities).from _).bind
  rw [bind_pure_comp]
  apply ReadsFrom.map
  apply readsFrom_vendorInfos length_turnChar turnChar (by omega)
  · simp only [BigEndian.length_encode, List.length_append]
    omega
  · simp only [BigEndian.length_encode, List.length_append]
    omega

/-! ## What arrives unaltered -/

/-- A value of four bytes survives being read through a `char *` twice if its first byte is
    all sign. -/
def SignFirst (value : List UInt8) : Prop :=
  value.length = 4 → value.head? = some 0 ∨ value.head? = some 255

/-- It survives being filled with its sign if it is nothing else. -/
def SignOnly (value : List UInt8) : Prop :=
  value.length = 4 → value = List.replicate 4 0 ∨ value = List.replicate 4 255

theorem turnChar_turnChar_iff (value : List UInt8) :
    turnChar (turnChar value) = value ↔ SignFirst value := by
  obtain ⟨first, second, third, fourth, rfl⟩ | other := four_or_other value
  · rw [turnChar_four, turnChar_four, ByteOrder.signByte_signByte]
    simp [SignFirst, ByteOrder.signByte_eq_self_iff]
  · simp [SignFirst, other]

theorem turnCharToInt_turnChar_iff (value : List UInt8) :
    turnCharToInt (turnChar value) = value ↔ SignOnly value := by
  obtain ⟨first, second, third, fourth, rfl⟩ | other := four_or_other value
  · rw [turnChar_four, turnCharToInt_four, ByteOrder.signByte_signByte]
    have sign := ByteOrder.signByte_eq_self_iff first
    constructor
    · intro same
      simp only [List.cons.injEq, and_true] at same
      obtain ⟨byte, second_eq, third_eq, fourth_eq⟩ := same
      rw [byte] at second_eq third_eq fourth_eq
      subst second_eq third_eq fourth_eq
      intro _
      cases sign.mp byte with
      | inl zero => exact .inl (by rw [zero]; rfl)
      | inr ones => exact .inr (by rw [ones]; rfl)
    · intro only
      cases only rfl with
      | inl zeros =>
        cases zeros
        rfl
      | inr ones =>
        cases ones
        rfl
  · simp [SignOnly, other]

/-- The two elements with what they are assembled from. -/
inductive WTPElement where
  | boardData (infos : List VendorInfoValues)
  | descriptor (description : WTPDescription)

/-- The AC reads what the WTP has assembled, up to the end of the element. -/
def WTPElement.RoundTrips : WTPElement → Prop
  | boardData infos =>
      ∃ assembled, cwAssembleMsgElemWTPBoardData infos = some assembled ∧
        Arrives assembled wtpBoardDataType cwParseWTPBoardData infos
  | descriptor description =>
      Arrives (cwAssembleMsgElemWTPDescriptor description) wtpDescriptorType cwParseWTPDescriptor
        description.descriptor

/-- There are board data, all of one vendor, whose values of four bytes are nothing but sign,
    and their length can be announced. -/
structure BoardDataKept (infos : List VendorInfoValues) : Prop where
  some : infos ≠ []
  oneVendor : ∀ info ∈ infos, ∀ other ∈ infos, info.vendorIdentifier = other.vendorIdentifier
  signs : ∀ info ∈ infos, SignOnly info.value
  short : 4 + recordsSize 4 infos < 65536

/-- The numbers of a descriptor fit their fields, its values of four bytes start with a byte
    that is all sign, and its length can be announced. -/
structure WTPDescription.Kept (description : WTPDescription) : Prop where
  maxRadios : description.maxRadios < 256
  radiosInUse : description.radiosInUse < 256
  encCapabilities : description.encCapabilities < 65536
  signs : ∀ info ∈ description.vendorInfos, SignFirst info.value
  short : 6 + recordsSize 8 description.vendorInfos < 65536

def WTPElement.Kept : WTPElement → Prop
  | boardData infos => BoardDataKept infos
  | descriptor description => description.Kept

theorem map_eq_self_iff {α : Type} {f : α → α} {values : List α} :
    values.map f = values ↔ ∀ value ∈ values, f value = value := by
  have same := List.map_inj_left (l := values) (f := f) (g := id)
  rwa [List.map_id] at same

/-- A record is received as it was sent if its vendor and its value are. -/
theorem received_eq_iff (turn : List UInt8 → List UInt8) (vendorID : UInt32)
    (info : VendorInfoValues) (sent : List UInt8) :
    info.received turn vendorID sent = info ↔
      vendorID = info.vendorIdentifier ∧ turn sent = info.value := by
  cases info
  simp [VendorInfoValues.received]

theorem receivedBoardData_eq_iff (first : VendorInfoValues) (infos : List VendorInfoValues) :
    receivedBoardData first infos = infos ↔
      ∀ info ∈ infos, first.vendorIdentifier = info.vendorIdentifier ∧ SignOnly info.value := by
  rw [receivedBoardData, map_eq_self_iff]
  simp only [received_eq_iff, turnCharToInt_turnChar_iff]

theorem boardData_roundTrips_iff (infos : List VendorInfoValues) :
    (WTPElement.boardData infos).RoundTrips ↔ BoardDataKept infos := by
  cases infos with
  | nil =>
    -- the first record of none is looked at
    constructor
    · rintro ⟨assembled, same, _⟩
      cases same
    · intro kept
      exact absurd rfl kept.some
  | cons first infos =>
    have arrives : Arrives (.ok (filled (elementBytes wtpBoardDataType
        (boardDataBody first (first :: infos))) 2)) wtpBoardDataType cwParseWTPBoardData
          (first :: infos) ↔ (boardDataBody first (first :: infos)).length < 65536 ∧
            receivedBoardData first (first :: infos) = first :: infos :=
      arrives_iff (by simp [wtpBoardDataType]) rfl (fun len => ⟨_, rfl⟩)
        (readsFrom_boardData first (first :: infos))
    rw [length_boardDataBody, receivedBoardData_eq_iff] at arrives
    simp only [WTPElement.RoundTrips, cwAssembleMsgElemWTPBoardData_cons, Option.some.injEq,
      exists_eq_left', arrives]
    constructor
    · rintro ⟨short, kept⟩
      refine ⟨by simp, ?_, fun info member => (kept info member).2, short⟩
      intro info member other member'
      rw [← (kept info member).1, ← (kept other member').1]
    · intro kept
      refine ⟨kept.short, fun info member => ⟨?_, kept.signs info member⟩⟩
      exact kept.oneVendor first List.mem_cons_self info member

theorem received_eq_descriptor_iff (description : WTPDescription) :
    description.received = description.descriptor ↔
      description.maxRadios < 256 ∧ description.radiosInUse < 256 ∧
        description.encCapabilities < 65536 ∧
          ∀ info ∈ description.vendorInfos, SignFirst info.value := by
  have kept (value bound : Nat) (positive : 0 < bound) : value % bound = value ↔ value < bound :=
    ⟨fun same => same ▸ Nat.mod_lt value positive, Nat.mod_eq_of_lt⟩
  simp only [WTPDescription.received, WTPDescription.descriptor, CWWTPDescriptor.mk.injEq,
    Option.some.injEq, map_eq_self_iff, received_eq_iff, turnChar_turnChar_iff, true_and]
  rw [kept _ 256 (by omega), kept _ 256 (by omega), kept _ 65536 (by omega)]

theorem descriptor_roundTrips_iff (description : WTPDescription) :
    (WTPElement.descriptor description).RoundTrips ↔ description.Kept := by
  have arrives : Arrives (cwAssembleMsgElemWTPDescriptor description) wtpDescriptorType
      cwParseWTPDescriptor description.descriptor ↔
        description.body.length < 65536 ∧ description.received = description.descriptor :=
    arrives_iff (by simp [wtpDescriptorType]) (cwAssembleMsgElemWTPDescriptor_eq description)
      (fun len => ⟨_, rfl⟩) (readsFrom_wtpDescriptor description)
  rw [description.length_body, received_eq_descriptor_iff] at arrives
  rw [WTPElement.RoundTrips, arrives]
  constructor
  · rintro ⟨short, maxRadios, radiosInUse, encCapabilities, signs⟩
    exact ⟨maxRadios, radiosInUse, encCapabilities, signs, by omega⟩
  · intro kept
    have short := kept.short
    exact ⟨by omega, kept.maxRadios, kept.radiosInUse, kept.encCapabilities, kept.signs⟩

/-- The board data and the descriptor of a WTP arrive exactly where the short cut through a
    `char *` does no harm. -/
theorem wtpElement_roundTrips_iff (element : WTPElement) : element.RoundTrips ↔ element.Kept := by
  cases element with
  | boardData infos => exact boardData_roundTrips_iff infos
  | descriptor description => exact descriptor_roundTrips_iff description

/-- The model number 123456 of a WTP, an integer of four bytes, starts with the byte 64. -/
def modelNumber : VendorInfoValues := ⟨23456, 0, [0x40, 0xE2, 0x01, 0x00]⟩

theorem modelNumber_not_roundTrips :
    ¬ (WTPElement.boardData [modelNumber]).RoundTrips ∧
      ¬ (WTPElement.descriptor ⟨1, 1, 0, [modelNumber]⟩).RoundTrips := by
  rw [boardData_roundTrips_iff, descriptor_roundTrips_iff]
  constructor
  · intro kept
    have only := kept.signs modelNumber (by simp)
    simp [SignOnly, modelNumber] at only
  · intro kept
    have first := kept.signs modelNumber (by simp)
    simp [SignFirst, modelNumber] at first

end WlanController.Elements
