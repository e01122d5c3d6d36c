import WlanController.Protocol.TransportHeader

/-!
# Transport headers read back as they were written

What the assemblers store is given as a byte string and what the parser makes of
these bytes as the values of the two fixed words and of the parts behind them.
-/

namespace WlanController.Protocol

open BitField (Field)

/-! ## Fields of a word -/

theorem cwSetFields32_eq_pack (entries : List (Field × BitVec 32)) :
    cwSetFields32 entries = BitField.pack entries := rfl

theorem cwGetField32_eq_get (word : BitVec 32) (field : Field) :
    cwGetField32 word field = BitField.get word field.start field.len := rfl

theorem cwGetField32Signed_eq_get (word : BitVec 32) {field : Field}
    (fits : field.start + field.len ≤ 32) :
    cwGetField32Signed word field = BitField.get word field.start field.len :=
  BitField.mask_and_sshiftRight word fits

/-- The word reads as `value` at the field. -/
def HasField (word : BitVec 32) (field : Field) (value : Nat) : Prop :=
  (BitField.get word field.start field.len).toNat = value

theorem hasField_setFields {entries : List (Field × BitVec 32)} {field : Field} {value : Nat}
    (layout : BitField.Layout 32 (entries.map Prod.fst)) (member : (field, BitVec.ofNat 32 value) ∈ entries)
    (small : value < 2 ^ field.len) : HasField (cwSetFields32 entries) field value := by
  rw [HasField, cwSetFields32_eq_pack, BitField.toNat_get_pack layout member, Nat.mod_eq_of_lt small]

theorem HasField.signed {word : BitVec 32} {field : Field} {value : Nat}
    (reads : HasField word field value) (fits : field.start + field.len ≤ 32) :
    (cwGetField32Signed word field).toNat = value := by
  rw [cwGetField32Signed_eq_get word fits]
  exact reads

def firstWordFields : List Field :=
  [cwTransportHeaderVersion, cwTransportHeaderType, cwTransportHeaderHLEN, cwTransportHeaderRID,
    cwTransportHeaderWBID, cwTransportHeaderT, cwTransportHeaderF, cwTransportHeaderL,
    cwTransportHeaderW, cwTransportHeaderM, cwTransportHeaderK, cwTransportHeaderFlags]

theorem firstWord_layout : BitField.Layout 32 firstWordFields := by decide

theorem secondWord_layout : BitField.Layout 32
    [cwTransportHeaderFragmentID, cwTransportHeaderFragmentOffset, cwTransportHeaderReserved] := by
  decide

theorem bindingFirstWord_layout : BitField.Layout 32
    [cwTransportHeaderLength, cwTransportHeaderRSSI, cwTransportHeaderSNR,
      cwTransportHeaderDataRate1] := by
  decide

/-- What the parser finds in the first word of a header. -/
structure FirstWord (word : BitVec 32) (values : CWProtocolTransportHeaderValues)
    (hlen wireless mac : Nat) : Prop where
  version : HasField word cwTransportHeaderVersion cwProtocolVersion
  payloadType : HasField word cwTransportHeaderType values.payloadType
  hlen : HasField word cwTransportHeaderHLEN hlen
  type : HasField word cwTransportHeaderT values.type
  isFragment : HasField word cwTransportHeaderF values.isFragment
  last : HasField word cwTransportHeaderL values.last
  wireless : HasField word cwTransportHeaderW wireless
  mac : HasField word cwTransportHeaderM mac
  keepAlive : HasField word cwTransportHeaderK values.keepAlive

structure SecondWord (word : BitVec 32) (values : CWProtocolTransportHeaderValues) : Prop where
  fragmentID : HasField word cwTransportHeaderFragmentID values.fragmentID
  fragmentOffset : HasField word cwTransportHeaderFragmentOffset values.fragmentOffset

/-- The values an assembler can represent: flags of one bit, a 16-bit fragment ID and
    a 13-bit fragment offset. -/
structure Representable (values : CWProtocolTransportHeaderValues) : Prop where
  isFragment : values.isFragment < 2
  last : values.last < 2
  fragmentID : values.fragmentID < 65536
  fragmentOffset : values.fragmentOffset < 8192

/-- The values as the receiver gets them, apart from the binding information: the
    payload type is one bit of information, and the T and K flags are the assembler's. -/
def receivedValues (values : CWProtocolTransportHeaderValues) (type keepAlive : Nat)
    (bindingValuesPtr : Option CWBindingTransportHeaderValues) : CWProtocolTransportHeaderValues :=
  { values with
    payloadType := if values.payloadType = cwPacketPlain then 0 else 1
    type, keepAlive, bindingValuesPtr }

theorem transportHeaderHLEN_lt (gRADIO_MAC : EthAddr)
    (bindingValuesPtr : Option CWBindingTransportHeaderValues) :
    transportHeaderHLEN gRADIO_MAC bindingValuesPtr < 32 := by
  unfold transportHeaderHLEN cwBindingHLEN
  split <;> split <;> decide

theorem transportHeaderT_lt (values : CWProtocolTransportHeaderValues) :
    transportHeaderT values < 2 := by
  unfold transportHeaderT
  repeat' split
  all_goals decide

theorem receivedType_lt (values : CWProtocolTransportHeaderValues) :
    (if values.payloadType = cwPacketPlain then 0 else 1) < 16 := by
  split <;> decide

theorem flag_lt (set : Prop) [Decidable set] : (if set then 1 else 0) < 2 := by
  split <;> decide

theorem firstWord_assembled (gRADIO_MAC : EthAddr) {values : CWProtocolTransportHeaderValues}
    (representable : Representable values)
    (bindingValuesPtr : Option CWBindingTransportHeaderValues) :
    FirstWord (transportHeaderFirstWord gRADIO_MAC values)
      (receivedValues values (transportHeaderT values) 0 bindingValuesPtr)
      (transportHeaderHLEN gRADIO_MAC values.bindingValuesPtr)
      (if values.bindingValuesPtr.isSome then 1 else 0)
      (if radioMacPresent gRADIO_MAC then 1 else 0) where
  version := hasField_setFields firstWord_layout (by simp) (by decide)
  payloadType := hasField_setFields firstWord_layout (by simp [receivedValues]) (receivedType_lt _)
  hlen := hasField_setFields firstWord_layout (by simp) (transportHeaderHLEN_lt _ _)
  type := hasField_setFields firstWord_layout (by simp [receivedValues]) (transportHeaderT_lt values)
  isFragment :=
    hasField_setFields firstWord_layout (by simp [receivedValues]) representable.isFragment
  last := hasField_setFields firstWord_layout (by simp [receivedValues]) representable.last
  wireless := hasField_setFields firstWord_layout (by simp) (flag_lt _)
  mac := hasField_setFields firstWord_layout (by simp) (flag_lt _)
  keepAlive := hasField_setFields firstWord_layout (by simp [receivedValues]) (Nat.two_pow_pos _)

theorem firstWord_keepAlive {values : CWProtocolTransportHeaderValues}
    (representable : Representable values) {keepAlive : Nat} (flag : keepAlive < 2) :
    FirstWord (keepAliveFirstWord values keepAlive) (receivedValues values 0 keepAlive none) 2 0 0
    where
  version := hasField_setFields firstWord_layout (by simp) (by decide)
  payloadType := hasField_setFields firstWord_layout (by simp [receivedValues]) (receivedType_lt _)
  hlen := hasField_setFields firstWord_layout (by simp) (by decide)
  type := hasField_setFields firstWord_layout (by simp [receivedValues]) (Nat.two_pow_pos _)
  isFragment :=
    hasField_setFields firstWord_layout (by simp [receivedValues]) representable.isFragment
  last := hasField_setFields firstWord_layout (by simp [receivedValues]) representable.last
  wireless := hasField_setFields firstWord_layout (by simp) (by decide)
  mac := hasField_setFields firstWord_layout (by simp) (by decide)
  keepAlive := hasField_setFields firstWord_layout (by simp [receivedValues]) flag

theorem secondWord_assembled {values : CWProtocolTransportHeaderValues}
    (representable : Representable values) (type keepAlive : Nat)
    (bindingValuesPtr : Option CWBindingTransportHeaderValues) :
    SecondWord (transportHeaderSecondWord values)
      (receivedValues values type keepAlive bindingValuesPtr) where
  fragmentID :=
    hasField_setFields secondWord_layout (by simp [receivedValues]) representable.fragmentID
  fragmentOffset :=
    hasField_setFields secondWord_layout (by simp [receivedValues]) representable.fragmentOffset

/-! ## The bytes of a header -/

def fixedBytes (firstWord secondWord : BitVec 32) : List UInt8 :=
  BigEndian.encode 4 firstWord.toNat ++ BigEndian.encode 4 secondWord.toNat

def radioMacBytes (gRADIO_MAC : EthAddr) : List UInt8 :=
  if radioMacPresent gRADIO_MAC then
    BigEndian.encode 1 6 ++ (gRADIO_MAC.bytes ++ BigEndian.encode 1 0)
  else []

def bindingBytes : Option CWBindingTransportHeaderValues → List UInt8
  | some values => fixedBytes (bindingFirstWord values) (bindingSecondWord values)
  | none => []

def transportHeaderBytes (gRADIO_MAC : EthAddr) (values : CWProtocolTransportHeaderValues) :
    List UInt8 :=
  fixedBytes (transportHeaderFirstWord gRADIO_MAC values) (transportHeaderSecondWord values) ++
    (radioMacBytes gRADIO_MAC ++ bindingBytes values.bindingValuesPtr)

def keepAliveHeaderBytes (values : CWProtocolTransportHeaderValues) (keepAlive : Nat) :
    List UInt8 :=
  fixedBytes (keepAliveFirstWord values keepAlive) (transportHeaderSecondWord values)

/-- A fragment identifier is sent modulo its sixteen bits. -/
theorem secondWord_fragmentID_mod (values : CWProtocolTransportHeaderValues) :
    transportHeaderSecondWord { values with fragmentID := values.fragmentID % 65536 } =
      transportHeaderSecondWord values := by
  have field : cwSetField32 0 cwTransportHeaderFragmentID
      (BitVec.ofNat 32 (values.fragmentID % 65536)) =
      cwSetField32 0 cwTransportHeaderFragmentID (BitVec.ofNat 32 values.fragmentID) :=
    BitField.put_ofNat_mod (0 : BitVec 32) 0 16 values.fragmentID
  simp only [transportHeaderSecondWord, cwSetFields32, List.foldl_cons, field]

theorem transportHeaderBytes_fragmentID_mod (gRADIO_MAC : EthAddr)
    (values : CWProtocolTransportHeaderValues) :
    transportHeaderBytes gRADIO_MAC { values with fragmentID := values.fragmentID % 65536 } =
      transportHeaderBytes gRADIO_MAC values := by
  rw [transportHeaderBytes, secondWord_fragmentID_mod]
  rfl

@[simp] theorem length_fixedBytes (firstWord secondWord : BitVec 32) :
    (fixedBytes firstWord secondWord).length = 8 := by
  simp [fixedBytes]

@[simp] theorem length_radioMacBytes (gRADIO_MAC : EthAddr) :
    (radioMacBytes gRADIO_MAC).length = if radioMacPresent gRADIO_MAC then 8 else 0 := by
  unfold radioMacBytes
  split <;> simp [ethALen]

@[simp] theorem length_bindingBytes (bindingValuesPtr : Option CWBindingTransportHeaderValues) :
    (bindingBytes bindingValuesPtr).length = if bindingValuesPtr.isSome then 8 else 0 := by
  cases bindingValuesPtr <;> simp [bindingBytes]

theorem length_transportHeaderBytes (gRADIO_MAC : EthAddr)
    (values : CWProtocolTransportHeaderValues) :
    (transportHeaderBytes gRADIO_MAC values).length =
      transportHeaderHLEN gRADIO_MAC values.bindingValuesPtr * 4 := by
  simp only [transportHeaderBytes, List.length_append, length_fixedBytes, length_radioMacBytes,
    length_bindingBytes, transportHeaderHLEN, cwBindingHLEN]
  split <;> split <;> rfl

@[simp] theorem length_keepAliveHeaderBytes (values : CWProtocolTransportHeaderValues)
    (keepAlive : Nat) : (keepAliveHeaderBytes values keepAlive).length = 8 :=
  length_fixedBytes _ _

theorem assembleInto_stores {program : MessageM Unit} {bytes : List UInt8}
    (stores : Stores program bytes) {size : Nat} (exact : size = bytes.length) :
    assembleInto size program = .ok (filled bytes 0) := by
  rw [assembleInto, stores.run_create exact]

theorem stores_binding (bindingValuesPtr : Option CWBindingTransportHeaderValues) :
    Stores
      (match bindingValuesPtr with
        | some bindingValues => cwAssembleTransportHeaderBinding bindingValues
        | none => pure ())
      (bindingBytes bindingValuesPtr) := by
  cases bindingValuesPtr with
  | none => exact stores_pure
  | some bindingValues => exact (stores_store32 _).bind (stores_store32 _)

/-- The assembler stores the header bytes into a message of exactly their length. -/
theorem cwAssembleTransportHeader_eq (gRADIO_MAC : EthAddr)
    (values : CWProtocolTransportHeaderValues) :
    cwAssembleTransportHeader gRADIO_MAC values =
      .ok (filled (transportHeaderBytes gRADIO_MAC values) 0) := by
  apply assembleInto_stores
  · rw [transportHeaderBytes, fixedBytes, List.append_assoc]
    refine (stores_store32 _).bind ((stores_store32 _).bind ?_)
    have bindingPart := stores_binding values.bindingValuesPtr
    by_cases present : radioMacPresent gRADIO_MAC
    · simp only [radioMacBytes, if_pos present, List.append_assoc]
      exact (stores_store8 6).bind ((stores_rawBytes _).bind ((stores_store8 0).bind bindingPart))
    · simp only [radioMacBytes, if_neg present, List.nil_append]
      exact bindingPart
  · rw [length_transportHeaderBytes]
    simp only [transportHeaderHLEN, cwBindingHLEN, gMaxCAPWAPHeaderSizeBinding]
    split <;> split <;> rfl

theorem cwAssembleTransportHeaderKeepAliveData_eq (values : CWProtocolTransportHeaderValues)
    (keepAlive : Nat) :
    cwAssembleTransportHeaderKeepAliveData values keepAlive =
      .ok (filled (keepAliveHeaderBytes values keepAlive) 0) :=
  assembleInto_stores ((stores_store32 _).bind (stores_store32 _)) (length_fixedBytes _ _).symm

/-! ## Parsing the bytes of a header -/

theorem reads_word (word : BitVec 32) :
    Reads cwProtocolRetrieve32 (BigEndian.encode 4 word.toNat) word.toNat none :=
  reads_retrieve32 word.isLt

theorem reads_setDataMsgType (dataMsgType : CWDataMsgType) :
    Reads (setDataMsgType dataMsgType) [] () (some dataMsgType) := by
  intro message rest _
  rfl

/-- The two fixed words lead to the values they hold and to the parts behind them. -/
theorem reads_transportHeader {firstWord secondWord : BitVec 32}
    {values : CWProtocolTransportHeaderValues} {hlen wireless mac : Nat}
    (first : FirstWord firstWord values hlen wireless mac) (second : SecondWord secondWord values)
    {dataFlag : Bool} {RadioMAC : Option EthAddr} {optionBytes : List UInt8}
    {options : HeaderOptions} {assigned : Option CWDataMsgType}
    (parts : Reads
      (parseHeaderOptions dataFlag hlen values.keepAlive values.type wireless mac RadioMAC)
      optionBytes options assigned)
    (binding : options.bindingValuesPtr = values.bindingValuesPtr)
    (accepted : hlen = 2 ∨ hlen = 4 ∧ wireless = 1 ∨ mac ≠ 0) :
    Reads (cwParseTransportHeader dataFlag RadioMAC)
      (fixedBytes firstWord secondWord ++ optionBytes)
      ⟨values, options.dataFlag, options.radioMAC⟩ assigned := by
  have word : BitVec.ofNat 32 firstWord.toNat = firstWord := by simp
  have word' : BitVec.ofNat 32 secondWord.toNat = secondWord := by simp
  have version := first.version.signed (by decide)
  have payloadTypeField := first.payloadType.signed (by decide)
  have hlenField := first.hlen.signed (by decide)
  have typeField := first.type.signed (by decide)
  have isFragmentField := first.isFragment.signed (by decide)
  have lastField := first.last.signed (by decide)
  have wirelessField := first.wireless.signed (by decide)
  have macField := first.mac.signed (by decide)
  have keepAliveField := first.keepAlive.signed (by decide)
  have fragmentIDField := second.fragmentID.signed (by decide)
  have fragmentOffsetField := second.fragmentOffset.signed (by decide)
  rw [fixedBytes, List.append_assoc, cwParseTransportHeader]
  refine (reads_word firstWord).andThen ?_
  simp only [word, version, payloadTypeField, hlenField, typeField, isFragmentField, lastField,
    wirelessField, macField, keepAliveField, ne_eq, not_true_eq_false, if_false]
  refine (reads_word secondWord).andThen ?_
  refine parts.andReturn ?_
  simp only [word', fragmentIDField, fragmentOffsetField, if_neg (not_not.mpr accepted), binding]
  exact reads_pure _

/-! ## The parts behind the fixed words -/

theorem bytes_ne_nil (address : EthAddr) : address.bytes ++ BigEndian.encode 1 0 ≠ [] := by
  intro empty
  have lengths := congrArg List.length empty
  simp [ethALen] at lengths

/-- A radio MAC address goes to the caller's address, if there is one. -/
theorem reads_radioMac {gRADIO_MAC : EthAddr} (present : radioMacPresent gRADIO_MAC)
    (RadioMAC : Option EthAddr) :
    Reads (cwParseTransportHeaderMACAddress RadioMAC) (radioMacBytes gRADIO_MAC)
      (RadioMAC.map fun _ => gRADIO_MAC) none := by
  have seven : (gRADIO_MAC.bytes ++ BigEndian.encode 1 0).length = 7 := by simp [ethALen]
  have raw := reads_rawBytes (bytes_ne_nil gRADIO_MAC)
  rw [seven] at raw
  rw [radioMacBytes, if_pos present, cwParseTransportHeaderMACAddress]
  refine (reads_retrieve8 (by decide)).andThen (raw.andReturn ?_)
  cases RadioMAC with
  | none => exact reads_pure _
  | some address =>
    have prefixed : (gRADIO_MAC.bytes ++ BigEndian.encode 1 0).take 6 = gRADIO_MAC.bytes :=
      List.take_left' gRADIO_MAC.length_bytes
    simp only [prefixed, EthAddr.overwrite_all]
    exact reads_pure _

/-- The binding information as the receiver gets it: of the data rate, the byte that
    travels in the first word. -/
def receivedBinding (values : CWBindingTransportHeaderValues) : CWBindingTransportHeaderValues :=
  { values with dataRate := (BitField.mask 32 8 &&& values.dataRate.sshiftRight 8) <<< 8 }

/-- The message type that the data rate and the SNR announce. -/
def bindingDataMsgType (values : CWBindingTransportHeaderValues) : Option CWDataMsgType :=
  let highByte := BitField.mask 32 8 &&& values.dataRate.sshiftRight 8
  if highByte = 255 then if values.SNR = 1 then some .freqStats else some .stats
  else if highByte = 0 then some .frame else none

/-- The receiver looks for the low byte of the data rate where the sender pads. -/
theorem bindingSecondWord_dataRate1 (values : CWBindingTransportHeaderValues) :
    cwGetField32 (bindingSecondWord values) cwTransportHeaderDataRate1 = 0#32 := by
  have padded : bindingSecondWord values =
      BitField.put 0 cwTransportHeaderDataRate2.start cwTransportHeaderDataRate2.len
        (values.dataRate &&& 0x000000FF#32) := by
    rw [bindingSecondWord, cwSetFields32_eq_pack]
    exact BitField.put_zero _ _ _
  rw [cwGetField32_eq_get, padded,
    BitField.get_put_of_disjoint _ _ (by decide) (by decide) (by decide)]
  exact BitField.get_zero _ _

theorem bindingFirstWord_dataRate1 (values : CWBindingTransportHeaderValues) :
    cwGetField32 (bindingFirstWord values) cwTransportHeaderDataRate1 =
      BitField.mask 32 8 &&& values.dataRate.sshiftRight 8 :=
  BitField.get_packInto_of_mem _ 0
    (fun entry member => bindingFirstWord_layout.inside entry.1 (List.mem_map_of_mem member))
    (List.pairwise_map.mp bindingFirstWord_layout.apart) (BitField.get_zero _ _)
    (by simp)

theorem reads_binding (values : CWBindingTransportHeaderValues) :
    Reads cwParseTransportHeaderBinding (bindingBytes (some values)) (receivedBinding values)
      (bindingDataMsgType values) := by
  have word : BitVec.ofNat 32 (bindingFirstWord values).toNat = bindingFirstWord values := by simp
  have word' : BitVec.ofNat 32 (bindingSecondWord values).toNat = bindingSecondWord values := by
    simp
  have length : (cwGetField32 (bindingFirstWord values) cwTransportHeaderLength).toNat =
      cwBindingDataLength :=
    hasField_setFields bindingFirstWord_layout (by simp) (by decide)
  have RSSI : (cwGetField32 (bindingFirstWord values) cwTransportHeaderRSSI).toNat =
      values.RSSI.toNat :=
    hasField_setFields bindingFirstWord_layout (by simp) values.RSSI.toNat_lt
  have SNR : (cwGetField32 (bindingFirstWord values) cwTransportHeaderSNR).toNat =
      values.SNR.toNat :=
    hasField_setFields bindingFirstWord_layout (by simp) values.SNR.toNat_lt
  rw [bindingBytes, fixedBytes, cwParseTransportHeaderBinding]
  refine (reads_word _).andThen ?_
  simp only [word, length, ne_eq, not_true_eq_false, if_false, RSSI, SNR, UInt8.ofNat_toNat,
    bindingFirstWord_dataRate1]
  rw [← List.append_nil (BigEndian.encode 4 _)]
  refine (reads_word _).andThen ?_
  simp only [word', bindingSecondWord_dataRate1, BitVec.or_zero, bindingDataMsgType]
  split
  · split
    · exact (reads_setDataMsgType _).andReturn (reads_pure _)
    · exact (reads_setDataMsgType _).andReturn (reads_pure _)
  · split
    · exact (reads_setDataMsgType _).andReturn (reads_pure _)
    · exact reads_pure _

end WlanController.Protocol
