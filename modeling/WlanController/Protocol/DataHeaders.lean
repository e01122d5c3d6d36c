import WlanController.Protocol.PacketBytes
import WlanController.Protocol.TransportHeaderRoundTrip

/-!
# The headers of data packets

On the data channel the parser infers the kind of a packet from the T, W and K bits.  What
comes out of a header that `CWAssembleDataMessage` wrote is given here for each of its forms:
one that is read back, one with two optional parts, which is refused, and that of a
keep-alive packet.
-/

namespace WlanController.Protocol

/-! ## Programs that refuse what is ahead -/

/-- With `bytes` at the cursor the program raises an error. -/
def Refuses {α : Type} (program : MessageM α) (bytes : List UInt8) : Prop :=
  ∀ message rest, message.msg.drop message.offset = bytes ++ rest →
    ∃ failure left, program.run message = .error failure left

section Refuses

variable {α β : Type} {first : MessageM α} {next : α → MessageM β} {bytes bytes' : List UInt8}
  {value : α}

theorem refuses_errorRaise_bind (code : CWErrorCode) (text : Option String) (next : α → MessageM β) :
    Refuses (cwErrorRaise code text >>= next) [] := by
  intro message rest _
  exact ⟨.raised code text, message, rfl⟩

theorem Refuses.longer (refuses : Refuses first bytes) (more : List UInt8) :
    Refuses first (bytes ++ more) := by
  intro message rest ahead
  rw [List.append_assoc] at ahead
  exact refuses message _ ahead

theorem Refuses.bind (refuses : Refuses first bytes) (next : α → MessageM β) :
    Refuses (first >>= next) bytes := by
  intro message rest ahead
  obtain ⟨failure, left, refused⟩ := refuses message rest ahead
  refine ⟨failure, left, ?_⟩
  rw [EStateM.run_bind, refused]

theorem Refuses.map (refuses : Refuses first bytes) (f : α → β) : Refuses (f <$> first) bytes := by
  rw [← bind_pure_comp]
  exact refuses.bind _

/-- What comes before is read, and then the program gives up. -/
theorem Reads.thenRefuses {assigned : Option CWDataMsgType} (reads : Reads first bytes value assigned)
    (refuses : Refuses (next value) bytes') : Refuses (first >>= next) (bytes ++ bytes') := by
  intro message rest ahead
  rw [List.append_assoc] at ahead
  have behind : message.msg.drop (message.offset + bytes.length) = bytes' ++ rest := by
    rw [← List.drop_drop, ahead, List.drop_left]
  rw [EStateM.run_bind, reads message _ ahead]
  exact refuses _ rest behind

end Refuses

/-! ## The kind of a packet -/

/-- The kind the T flag stands for. -/
def frameKind (type : Nat) : CWDataMsgType :=
  if type = 0 then .ieee8023Frame else .ieee80211Frame

/-- With binding information the T flag is set, and the parser takes it for the kind whatever
    the data rate says. -/
theorem reads_dataOptions (gRADIO_MAC : EthAddr) (values : CWProtocolTransportHeaderValues)
    (apart : ¬ (radioMacPresent gRADIO_MAC ∧ values.bindingValuesPtr.isSome))
    (RadioMAC : Option EthAddr) :
    Reads
      (parseHeaderOptions true (transportHeaderHLEN gRADIO_MAC values.bindingValuesPtr) 0
        (transportHeaderT values) (if values.bindingValuesPtr.isSome then 1 else 0)
        (if radioMacPresent gRADIO_MAC then 1 else 0) RadioMAC)
      (radioMacBytes gRADIO_MAC ++ bindingBytes values.bindingValuesPtr)
      ⟨values.bindingValuesPtr.map receivedBinding, true, receivedRadioMAC gRADIO_MAC RadioMAC⟩
      (some (frameKind (transportHeaderT values))) := by
  cases binding : values.bindingValuesPtr with
  | none =>
    simp only [bindingBytes, List.append_nil]
    exact reads_dataHeaderOptions (reads_dataKind_plain (transportHeaderT values)) gRADIO_MAC RadioMAC
  | some bindingValues =>
    have absent : ¬ radioMacPresent gRADIO_MAC := fun present =>
      apart ⟨present, by rw [binding]; rfl⟩
    have native : transportHeaderT values = 1 := by simp [transportHeaderT, binding]
    have noBytes : radioMacBytes gRADIO_MAC = [] := by
      rw [radioMacBytes, if_neg absent]
    have parts := reads_dataHeaderOptions (reads_dataKind_binding bindingValues) gRADIO_MAC RadioMAC
    rw [noBytes, List.append_nil] at parts
    rw [native, noBytes, List.nil_append]
    exact parts

theorem reads_dataHeader (gRADIO_MAC : EthAddr) {values : CWProtocolTransportHeaderValues}
    (representable : Representable values)
    (apart : ¬ (radioMacPresent gRADIO_MAC ∧ values.bindingValuesPtr.isSome))
    (RadioMAC : Option EthAddr) :
    Reads (cwParseTransportHeader true RadioMAC) (transportHeaderBytes gRADIO_MAC values)
      ⟨receivedValues values (transportHeaderT values) 0
          (values.bindingValuesPtr.map receivedBinding),
        true, receivedRadioMAC gRADIO_MAC RadioMAC⟩
      (some (frameKind (transportHeaderT values))) :=
  reads_transportHeader (firstWord_assembled gRADIO_MAC representable _)
    (secondWord_assembled representable _ _ _) (reads_dataOptions gRADIO_MAC values apart RadioMAC)
    rfl (transportHeader_accepted _ _)

/-! ## Two optional parts -/

/-- The length byte of a radio MAC address, read as that of binding information. -/
theorem radioMac_length_field (address : EthAddr) :
    ∃ number < 4294967296,
      BigEndian.encode 1 6 ++ address.bytes.take 3 = BigEndian.encode 4 number ∧
      (cwGetField32 (BitVec.ofNat 32 number) cwTransportHeaderLength).toNat = 6 := by
  have three : (address.bytes.take 3).length = 3 := by simp [ethALen]
  have size : (BigEndian.encode 1 6 ++ address.bytes.take 3).length = 4 := by simp [ethALen]
  have value : BigEndian.decode (BigEndian.encode 1 6 ++ address.bytes.take 3) =
      6 * 256 ^ 3 + BigEndian.decode (address.bytes.take 3) := by
    have head : BigEndian.encode 1 6 = [6] := rfl
    rw [head, List.singleton_append, BigEndian.decode, three]
    rfl
  have rest := BigEndian.decode_lt (address.bytes.take 3)
  have small := BigEndian.decode_lt (BigEndian.encode 1 6 ++ address.bytes.take 3)
  rw [three] at rest
  rw [size] at small
  refine ⟨_, small, ?_, ?_⟩
  · have encoded := BigEndian.encode_decode (BigEndian.encode 1 6 ++ address.bytes.take 3)
    rw [size] at encoded
    exact encoded.symm
  · rw [cwGetField32_eq_get, BitField.get, BitField.toNat_mask_and _ (by decide)]
    rw [BitVec.toNat_ushiftRight, BitVec.toNat_ofNat, Nat.shiftRight_eq_div_pow, value]
    simp only [cwTransportHeaderLength]
    omega

/-- The address is written first and the binding information is looked for first. -/
theorem refuses_dataHeader {gRADIO_MAC : EthAddr} (present : radioMacPresent gRADIO_MAC)
    {values : CWProtocolTransportHeaderValues} (representable : Representable values)
    (bound : values.bindingValuesPtr.isSome) (RadioMAC : Option EthAddr) :
    Refuses (cwParseTransportHeader true RadioMAC) (transportHeaderBytes gRADIO_MAC values) := by
  have first := firstWord_assembled gRADIO_MAC representable none
  have native : transportHeaderT values = 1 := by rw [transportHeaderT, if_pos bound]
  have version := first.version.signed (by decide)
  have typeField := first.type.signed (by decide)
  have wirelessField := first.wireless.signed (by decide)
  have keepAliveField := first.keepAlive.signed (by decide)
  have word : BitVec.ofNat 32 (transportHeaderFirstWord gRADIO_MAC values).toNat =
      transportHeaderFirstWord gRADIO_MAC values := by simp
  have kindRefused : Refuses (parseDataKind 0 1 1)
      (radioMacBytes gRADIO_MAC ++ bindingBytes values.bindingValuesPtr) := by
    obtain ⟨number, small, bytes, field⟩ := radioMac_length_field gRADIO_MAC
    have split : radioMacBytes gRADIO_MAC = BigEndian.encode 4 number ++
        (gRADIO_MAC.bytes.drop 3 ++ BigEndian.encode 1 0) := by
      rw [radioMacBytes, if_pos present, ← bytes, List.append_assoc]
      congr 1
      rw [← List.append_assoc, List.take_append_drop]
    have bindingRefused : Refuses cwParseTransportHeaderBinding (BigEndian.encode 4 number ++ []) := by
      rw [cwParseTransportHeaderBinding]
      refine (reads_retrieve32 small).thenRefuses ?_
      have wrong : (cwGetField32 (BitVec.ofNat 32 number) cwTransportHeaderLength).toNat ≠
          cwBindingDataLength := by
        rw [field]
        decide
      simp only [if_pos wrong]
      exact refuses_errorRaise_bind _ _ _
    rw [List.append_nil] at bindingRefused
    rw [split, List.append_assoc]
    refine Refuses.longer ?_ _
    simp only [parseDataKind, ne_eq, not_true_eq_false, if_false, one_ne_zero]
    refine Refuses.bind ?_ _
    simp only [parseOptionalBinding, ne_eq, one_ne_zero, not_false_eq_true, if_true]
    exact bindingRefused.map some
  rw [transportHeaderBytes, fixedBytes, List.append_assoc, cwParseTransportHeader]
  refine (reads_word _).thenRefuses ?_
  simp only [word, version, ne_eq, not_true_eq_false, if_false]
  refine (reads_word _).thenRefuses ?_
  simp only [receivedValues] at typeField keepAliveField
  rw [native] at typeField
  rw [if_pos bound] at wirelessField
  simp only [typeField, wirelessField, keepAliveField, parseHeaderOptions, if_true]
  exact (kindRefused.bind _).bind _

/-! ## Offsets beyond the field -/

/-- A fragment offset is sent modulo its thirteen bits. -/
theorem secondWord_fragmentOffset_mod (values : CWProtocolTransportHeaderValues) :
    transportHeaderSecondWord { values with fragmentOffset := values.fragmentOffset % 8192 } =
      transportHeaderSecondWord values := by
  have field (word : BitVec 32) : cwSetField32 word cwTransportHeaderFragmentOffset
      (BitVec.ofNat 32 (values.fragmentOffset % 8192)) =
      cwSetField32 word cwTransportHeaderFragmentOffset (BitVec.ofNat 32 values.fragmentOffset) :=
    BitField.put_ofNat_mod word 16 13 values.fragmentOffset
  simp only [transportHeaderSecondWord, cwSetFields32, List.foldl_cons, field]

/-- The values as far as the header has room for them. -/
def CWProtocolTransportHeaderValues.sent (values : CWProtocolTransportHeaderValues) :
    CWProtocolTransportHeaderValues :=
  { values with
    fragmentID := values.fragmentID % 65536
    fragmentOffset := values.fragmentOffset % 8192 }

theorem secondWord_sent (values : CWProtocolTransportHeaderValues) :
    transportHeaderSecondWord values.sent = transportHeaderSecondWord values :=
  (secondWord_fragmentOffset_mod { values with fragmentID := values.fragmentID % 65536 }).trans
    (secondWord_fragmentID_mod values)

theorem transportHeaderBytes_sent (gRADIO_MAC : EthAddr) (values : CWProtocolTransportHeaderValues) :
    transportHeaderBytes gRADIO_MAC values.sent = transportHeaderBytes gRADIO_MAC values := by
  rw [transportHeaderBytes, secondWord_sent]
  rfl

theorem keepAliveHeaderBytes_sent (values : CWProtocolTransportHeaderValues) (keepAlive : Nat) :
    keepAliveHeaderBytes values.sent keepAlive = keepAliveHeaderBytes values keepAlive := by
  rw [keepAliveHeaderBytes, secondWord_sent]
  rfl

theorem representable_sent {values : CWProtocolTransportHeaderValues} (isFragment : values.isFragment < 2)
    (last : values.last < 2) : Representable values.sent where
  isFragment := isFragment
  last := last
  fragmentID := Nat.mod_lt _ (by decide)
  fragmentOffset := Nat.mod_lt _ (by decide)

end WlanController.Protocol
