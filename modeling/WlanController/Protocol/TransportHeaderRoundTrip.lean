import WlanController.Protocol.TransportHeaderCodec

/-!
# The transport header round trip

Writer and reader place the radio MAC address and the binding information by
separate code.  Here the two are put together, for headers that carry at most one
of them.
-/

namespace WlanController.Protocol

/-! ## The optional parts -/

/-- What becomes of the caller's address. -/
def receivedRadioMAC (gRADIO_MAC : EthAddr) (RadioMAC : Option EthAddr) : Option EthAddr :=
  if radioMacPresent gRADIO_MAC then RadioMAC.map fun _ => gRADIO_MAC else RadioMAC

theorem receivedRadioMAC_of_absent {gRADIO_MAC : EthAddr}
    (absent : ¬ radioMacPresent gRADIO_MAC) (RadioMAC : Option EthAddr) :
    receivedRadioMAC gRADIO_MAC RadioMAC = RadioMAC :=
  if_neg absent

theorem reads_optionalRadioMac (gRADIO_MAC : EthAddr) (RadioMAC : Option EthAddr) :
    Reads (parseOptionalRadioMAC (if radioMacPresent gRADIO_MAC then 1 else 0) RadioMAC)
      (radioMacBytes gRADIO_MAC) (receivedRadioMAC gRADIO_MAC RadioMAC) none := by
  by_cases present : radioMacPresent gRADIO_MAC
  · simp only [parseOptionalRadioMAC, if_pos present, receivedRadioMAC, ne_eq, one_ne_zero,
      not_false_eq_true, if_true]
    exact reads_radioMac present RadioMAC
  · simp only [parseOptionalRadioMAC, if_neg present, receivedRadioMAC, radioMacBytes, ne_eq,
      not_true_eq_false, if_false]
    exact reads_pure RadioMAC

theorem reads_dataKind_binding (values : CWBindingTransportHeaderValues) :
    Reads (parseDataKind 0 1 1) (bindingBytes (some values)) (some (receivedBinding values))
      (some .ieee80211Frame) := by
  have bindingPart : Reads (parseOptionalBinding 1) (bindingBytes (some values))
      (some (receivedBinding values)) (bindingDataMsgType values) :=
    (reads_binding values).map some
  simp only [parseDataKind, ne_eq, not_true_eq_false, if_false, one_ne_zero]
  -- the frame type is assigned last, over what the data rate announced
  refine bindingPart.overruled ?_
  exact (reads_setDataMsgType .ieee80211Frame).andReturn (reads_pure _)

theorem reads_dataKind_plain (type : Nat) :
    Reads (parseDataKind 0 type 0) [] none
      (some (if type = 0 then .ieee8023Frame else .ieee80211Frame)) := by
  by_cases ethernet : type = 0
  · simp only [parseDataKind, ethernet, ne_eq, not_true_eq_false, if_false, if_true]
    exact (reads_setDataMsgType _).andReturn (reads_pure none)
  · simp only [parseDataKind, ethernet, ne_eq, not_true_eq_false, if_false]
    exact (reads_pure none).andThen ((reads_setDataMsgType _).andReturn (reads_pure none))

theorem reads_dataKind_keepAlive (type optionalWireless : Nat) {length : Nat}
    (small : length < 65536) :
    Reads (parseDataKind 1 type optionalWireless) (BigEndian.encode 2 length) none
      (some .keepAlive) := by
  simp only [parseDataKind, ne_eq, one_ne_zero, not_false_eq_true, if_true]
  exact (reads_setDataMsgType _).before ((reads_retrieve16 small).andReturn (reads_pure none))

theorem reads_dataHeaderOptions {keepAlive type optionalWireless : Nat} {kindBytes : List UInt8}
    {bindingValuesPtr : Option CWBindingTransportHeaderValues} {assigned : Option CWDataMsgType}
    (kind : Reads (parseDataKind keepAlive type optionalWireless) kindBytes bindingValuesPtr assigned)
    (gRADIO_MAC : EthAddr) (RadioMAC : Option EthAddr) :
    Reads
      (parseDataHeaderOptions keepAlive type optionalWireless
        (if radioMacPresent gRADIO_MAC then 1 else 0) RadioMAC)
      (kindBytes ++ radioMacBytes gRADIO_MAC)
      ⟨bindingValuesPtr, true, receivedRadioMAC gRADIO_MAC RadioMAC⟩ assigned :=
  kind.before ((reads_optionalRadioMac gRADIO_MAC RadioMAC).andReturn (reads_pure _))

theorem reads_controlOptions_binding (values : CWBindingTransportHeaderValues) (m : Nat)
    (RadioMAC : Option EthAddr) :
    Reads (parseControlHeaderOptions 4 1 m RadioMAC) (bindingBytes (some values))
      ⟨some (receivedBinding values), true, RadioMAC⟩ (bindingDataMsgType values) :=
  (reads_binding values).andReturn (reads_pure _)

theorem reads_controlOptions_plain (gRADIO_MAC : EthAddr) (hlen : Nat) (RadioMAC : Option EthAddr) :
    Reads
      (parseControlHeaderOptions hlen 0 (if radioMacPresent gRADIO_MAC then 1 else 0) RadioMAC)
      (radioMacBytes gRADIO_MAC) ⟨none, false, receivedRadioMAC gRADIO_MAC RadioMAC⟩ none := by
  have unmarked : ¬ (hlen = 4 ∧ 0 = 1) := by omega
  simp only [parseControlHeaderOptions, if_neg unmarked]
  exact (reads_optionalRadioMac gRADIO_MAC RadioMAC).andReturn (reads_pure _)

/-- The parts of a header that is no keep-alive, read in the order they were written. -/
theorem reads_headerOptions (gRADIO_MAC : EthAddr) (values : CWProtocolTransportHeaderValues)
    (apart : ¬ (radioMacPresent gRADIO_MAC ∧ values.bindingValuesPtr.isSome))
    (dataFlag : Bool) (RadioMAC : Option EthAddr) :
    ∃ assigned, Reads
      (parseHeaderOptions dataFlag (transportHeaderHLEN gRADIO_MAC values.bindingValuesPtr) 0
        (transportHeaderT values) (if values.bindingValuesPtr.isSome then 1 else 0)
        (if radioMacPresent gRADIO_MAC then 1 else 0) RadioMAC)
      (radioMacBytes gRADIO_MAC ++ bindingBytes values.bindingValuesPtr)
      ⟨values.bindingValuesPtr.map receivedBinding, dataFlag || values.bindingValuesPtr.isSome,
        receivedRadioMAC gRADIO_MAC RadioMAC⟩
      assigned := by
  cases binding : values.bindingValuesPtr with
  | none =>
    simp only [bindingBytes, List.append_nil, Option.map_none, Option.isSome_none, Bool.or_false,
      Bool.false_eq_true, if_false]
    cases dataFlag with
    | true =>
      have parts := reads_dataHeaderOptions (reads_dataKind_plain (transportHeaderT values))
        gRADIO_MAC RadioMAC
      exact ⟨_, parts⟩
    | false =>
      have parts := reads_controlOptions_plain gRADIO_MAC (transportHeaderHLEN gRADIO_MAC none)
        RadioMAC
      exact ⟨_, parts⟩
  | some bindingValues =>
    have absent : ¬ radioMacPresent gRADIO_MAC := fun present =>
      apart ⟨present, by rw [binding]; rfl⟩
    have native : transportHeaderT values = 1 := by simp [transportHeaderT, binding]
    have noBytes : radioMacBytes gRADIO_MAC = [] := by
      rw [radioMacBytes, if_neg absent]
    rw [noBytes, List.nil_append]
    simp only [Option.map_some, Option.isSome_some, Bool.or_true, if_true, native, if_neg absent,
      receivedRadioMAC_of_absent absent]
    cases dataFlag with
    | true =>
      have parts := reads_dataHeaderOptions (reads_dataKind_binding bindingValues) gRADIO_MAC RadioMAC
      rw [noBytes, List.append_nil, if_neg absent, receivedRadioMAC_of_absent absent] at parts
      exact ⟨_, parts⟩
    | false =>
      have hlen : transportHeaderHLEN gRADIO_MAC (some bindingValues) = 4 := by
        simp [transportHeaderHLEN, absent, cwBindingHLEN]
      rw [hlen]
      exact ⟨_, reads_controlOptions_binding bindingValues 0 RadioMAC⟩

/-! ## Whole headers -/

theorem transportHeader_accepted (gRADIO_MAC : EthAddr)
    (bindingValuesPtr : Option CWBindingTransportHeaderValues) :
    transportHeaderHLEN gRADIO_MAC bindingValuesPtr = 2 ∨
      transportHeaderHLEN gRADIO_MAC bindingValuesPtr = 4 ∧
        (if bindingValuesPtr.isSome then 1 else 0) = 1 ∨
      (if radioMacPresent gRADIO_MAC then 1 else 0) ≠ 0 := by
  unfold transportHeaderHLEN cwBindingHLEN
  split <;> split <;> simp

theorem reads_assembledHeader (gRADIO_MAC : EthAddr) {values : CWProtocolTransportHeaderValues}
    (representable : Representable values)
    (apart : ¬ (radioMacPresent gRADIO_MAC ∧ values.bindingValuesPtr.isSome))
    (dataFlag : Bool) (RadioMAC : Option EthAddr) :
    ∃ assigned, Reads (cwParseTransportHeader dataFlag RadioMAC)
      (transportHeaderBytes gRADIO_MAC values)
      ⟨receivedValues values (transportHeaderT values) 0
          (values.bindingValuesPtr.map receivedBinding),
        dataFlag || values.bindingValuesPtr.isSome, receivedRadioMAC gRADIO_MAC RadioMAC⟩
      assigned := by
  obtain ⟨assigned, parts⟩ := reads_headerOptions gRADIO_MAC values apart dataFlag RadioMAC
  exact ⟨assigned, reads_transportHeader (firstWord_assembled gRADIO_MAC representable _)
    (secondWord_assembled representable _ _ _) parts rfl (transportHeader_accepted _ _)⟩

theorem reads_keepAliveHeader {values : CWProtocolTransportHeaderValues}
    (representable : Representable values) (RadioMAC : Option EthAddr) :
    Reads (cwParseTransportHeader false RadioMAC) (keepAliveHeaderBytes values 1)
      ⟨receivedValues values 0 1 none, false, RadioMAC⟩ none := by
  have whole := reads_transportHeader (firstWord_keepAlive representable (by decide))
    (secondWord_assembled representable 0 1 none)
    (show Reads (parseHeaderOptions false 2 1 0 0 0 RadioMAC) [] ⟨none, false, RadioMAC⟩ none from
      (reads_pure RadioMAC).andReturn (reads_pure _))
    rfl (.inl rfl)
  rwa [List.append_nil] at whole

/-- On the data channel the parser also takes the length the sender stores between the
    keep-alive header and the frame. -/
theorem reads_keepAliveHeader_data {values : CWProtocolTransportHeaderValues}
    (representable : Representable values) (RadioMAC : Option EthAddr) {length : Nat}
    (small : length < 65536) :
    Reads (cwParseTransportHeader true RadioMAC)
      (keepAliveHeaderBytes values 1 ++ BigEndian.encode 2 length)
      ⟨receivedValues values 0 1 none, true, RadioMAC⟩ (some .keepAlive) :=
  reads_transportHeader (firstWord_keepAlive representable (by decide))
    (secondWord_assembled representable 0 1 none)
    (show Reads (parseHeaderOptions true 2 1 0 0 0 RadioMAC) _ ⟨none, true, RadioMAC⟩ _ from
      (reads_dataKind_keepAlive 0 0 small).andReturn
        ((reads_pure RadioMAC).andReturn (reads_pure _)))
    rfl (.inl rfl)

/-! ## The round trip -/

/-- The binding information survives up to the low byte of the data rate. -/
def SameBinding (sent received : Option CWBindingTransportHeaderValues) : Prop :=
  Option.Rel
    (fun sent received => received.RSSI = sent.RSSI ∧ received.SNR = sent.SNR ∧
      received.dataRate.extractLsb' 8 8 = sent.dataRate.extractLsb' 8 8)
    sent received

/-- The received values are those sent, with the T and K flags the assembler chose. -/
structure SameHeader (sent : CWProtocolTransportHeaderValues) (type keepAlive : Nat)
    (received : CWProtocolTransportHeaderValues) : Prop where
  payloadType : received.payloadType = sent.payloadType
  type : received.type = type
  isFragment : received.isFragment = sent.isFragment
  last : received.last = sent.last
  fragmentID : received.fragmentID = sent.fragmentID
  fragmentOffset : received.fragmentOffset = sent.fragmentOffset
  keepAlive : received.keepAlive = keepAlive
  binding : SameBinding sent.bindingValuesPtr received.bindingValuesPtr

/-- The assembled header, with the bytes `behind` after it, is parsed back; the parser
    leaves the cursor at `consumed` and the caller's address as `radioMAC`. -/
def ParsesBack (assembled : Except Failure CWProtocolMessage) (behind : List UInt8)
    (dataFlag : Bool) (RadioMAC : Option EthAddr) (sent : CWProtocolTransportHeaderValues)
    (type keepAlive consumed : Nat) (radioMAC : Option EthAddr) : Prop :=
  ∃ header parsed message,
    assembled = .ok header ∧
    (cwParseTransportHeader dataFlag RadioMAC).run ⟨header.contents ++ behind, 0, none⟩ =
      .ok parsed message ∧
    SameHeader sent type keepAlive parsed.values ∧
    message.offset = consumed ∧ parsed.radioMAC = radioMAC

theorem sameBinding_received (bindingValuesPtr : Option CWBindingTransportHeaderValues) :
    SameBinding bindingValuesPtr (bindingValuesPtr.map receivedBinding) := by
  cases bindingValuesPtr with
  | none => exact .none
  | some values =>
    refine .some ⟨rfl, rfl, ?_⟩
    apply BitVec.eq_of_getLsbD_eq
    intro i inByte
    have word : 8 + i < 32 := by omega
    have byte : 8 + i - 8 = i := by omega
    have notBelow : ¬ 8 + i < 8 := by omega
    have inWord : i < 32 := by omega
    simp only [receivedBinding, BitVec.getLsbD_extractLsb', BitVec.getLsbD_shiftLeft,
      BitVec.getLsbD_and, BitField.getLsbD_mask, BitVec.getLsbD_sshiftRight, inByte, word, byte,
      notBelow, inWord]
    simp [inWord]

theorem sameHeader_received {values : CWProtocolTransportHeaderValues}
    (payloadType : values.payloadType < 2) (type keepAlive : Nat)
    {received : Option CWBindingTransportHeaderValues}
    (binding : SameBinding values.bindingValuesPtr received) :
    SameHeader values type keepAlive (receivedValues values type keepAlive received) where
  payloadType := by
    by_cases plain : values.payloadType = cwPacketPlain
    · rw [receivedValues, if_pos plain, plain]
      rfl
    · have crypted : values.payloadType = 1 := by
        simp only [cwPacketPlain] at plain
        omega
      rw [receivedValues, if_neg plain, crypted]
  type := rfl
  isFragment := rfl
  last := rfl
  fragmentID := rfl
  fragmentOffset := rfl
  keepAlive := rfl
  binding := binding

/-- A reading of the stored bytes is a reading of the header behind which they stand. -/
theorem Reads.parsesBack {assembled : Except Failure CWProtocolMessage} {bytes : List UInt8}
    (stored : assembled = .ok (filled bytes 0)) {dataFlag : Bool} {RadioMAC : Option EthAddr}
    {more : List UInt8} {parsed : ParsedTransportHeader} {assigned : Option CWDataMsgType}
    (reads : Reads (cwParseTransportHeader dataFlag RadioMAC) (bytes ++ more) parsed assigned)
    {sent : CWProtocolTransportHeaderValues} {type keepAlive consumed : Nat}
    (same : SameHeader sent type keepAlive parsed.values)
    (length : (bytes ++ more).length = consumed) (payload : List UInt8) :
    ParsesBack assembled (more ++ payload) dataFlag RadioMAC sent type keepAlive consumed
      parsed.radioMAC := by
  have run := reads ⟨bytes ++ (more ++ payload), 0, none⟩ payload (by simp)
  rw [← contents_filled bytes 0] at run
  refine ⟨filled bytes 0, parsed, _, stored, run, same, ?_, rfl⟩
  rw [contents_filled, Nat.zero_add]
  exact length

/-- The case where nothing stands between the header and the payload. -/
theorem Reads.parsesBack_nil {assembled : Except Failure CWProtocolMessage} {bytes : List UInt8}
    (stored : assembled = .ok (filled bytes 0)) {dataFlag : Bool} {RadioMAC : Option EthAddr}
    {parsed : ParsedTransportHeader} {assigned : Option CWDataMsgType}
    (reads : Reads (cwParseTransportHeader dataFlag RadioMAC) bytes parsed assigned)
    {sent : CWProtocolTransportHeaderValues} {type keepAlive consumed : Nat}
    (same : SameHeader sent type keepAlive parsed.values) (length : bytes.length = consumed)
    (payload : List UInt8) :
    ParsesBack assembled payload dataFlag RadioMAC sent type keepAlive consumed
      parsed.radioMAC := by
  rw [← List.append_nil bytes] at reads length
  exact reads.parsesBack stored same length payload

/-- Every header with at most one optional part comes back as it was sent and is
    consumed up to the payload; a keep-alive header on the data channel is consumed
    together with the length stored behind it. -/
theorem cwParseTransportHeader_parses_back (values : CWProtocolTransportHeaderValues)
    (representable : Representable values) (payloadType : values.payloadType < 2)
    (RadioMAC : Option EthAddr) (payload : List UInt8) :
    (∀ gRADIO_MAC dataFlag, ¬ (radioMacPresent gRADIO_MAC ∧ values.bindingValuesPtr.isSome) →
      ParsesBack (cwAssembleTransportHeader gRADIO_MAC values) payload dataFlag RadioMAC values
        (transportHeaderT values) 0 (transportHeaderHLEN gRADIO_MAC values.bindingValuesPtr * 4)
        (receivedRadioMAC gRADIO_MAC RadioMAC)) ∧
    (values.bindingValuesPtr = none →
      ParsesBack (cwAssembleTransportHeaderKeepAliveData values 1) payload false RadioMAC values
        0 1 (2 * 4) RadioMAC ∧
      ∀ length < 65536,
        ParsesBack (cwAssembleTransportHeaderKeepAliveData values 1)
          (BigEndian.encode 2 length ++ payload) true RadioMAC values 0 1 (2 * 4 + 2) RadioMAC) := by
  refine ⟨fun gRADIO_MAC dataFlag apart => ?_, fun unbound => ⟨?_, fun length small => ?_⟩⟩
  · obtain ⟨assigned, reads⟩ :=
      reads_assembledHeader gRADIO_MAC representable apart dataFlag RadioMAC
    exact reads.parsesBack_nil (cwAssembleTransportHeader_eq gRADIO_MAC values)
      (sameHeader_received payloadType _ _ (sameBinding_received _))
      (length_transportHeaderBytes gRADIO_MAC values) payload
  · have same : SameBinding values.bindingValuesPtr none := unbound ▸ .none
    exact (reads_keepAliveHeader representable RadioMAC).parsesBack_nil
      (cwAssembleTransportHeaderKeepAliveData_eq values 1)
      (sameHeader_received payloadType 0 1 same) (length_keepAliveHeaderBytes values 1) payload
  · have same : SameBinding values.bindingValuesPtr none := unbound ▸ .none
    exact (reads_keepAliveHeader_data representable RadioMAC small).parsesBack
      (cwAssembleTransportHeaderKeepAliveData_eq values 1)
      (sameHeader_received payloadType 0 1 same) (by simp) payload

/-- The first fragment of a plain message, sent without optional parts. -/
def firstFragmentValues : CWProtocolTransportHeaderValues where
  payloadType := cwPacketPlain
  type := 0
  isFragment := 1
  last := 0
  fragmentID := 7
  fragmentOffset := 0
  keepAlive := 0
  bindingValuesPtr := none

theorem representable_firstFragmentValues : Representable firstFragmentValues where
  isFragment := by decide
  last := by decide
  fragmentID := by decide
  fragmentOffset := by decide

theorem firstFragmentValues_parse_back :
    ParsesBack (cwAssembleTransportHeader ⟨[0, 1, 2, 3, 4, 5], rfl⟩ firstFragmentValues) [9, 9]
      true (some ⟨[0, 0, 0, 0, 0, 0], rfl⟩) firstFragmentValues 0 0 16
      (some ⟨[0, 1, 2, 3, 4, 5], rfl⟩) :=
  (cwParseTransportHeader_parses_back firstFragmentValues representable_firstFragmentValues
    (by decide) _ [9, 9]).1 ⟨[0, 1, 2, 3, 4, 5], rfl⟩ true (by decide)

/-- On the data channel a keep-alive header is not consumed as `HLEN * 4` bytes. -/
theorem keepAlive_not_parses_back :
    ¬ ParsesBack (cwAssembleTransportHeaderKeepAliveData firstFragmentValues 1)
      (BigEndian.encode 2 22) true none firstFragmentValues 0 1 (2 * 4) none := by
  rintro ⟨header, parsed, message, stored, run, -, consumed, -⟩
  have reads := reads_keepAliveHeader_data representable_firstFragmentValues none
    (show 22 < 65536 by decide)
  rw [cwAssembleTransportHeaderKeepAliveData_eq] at stored
  cases stored
  rw [contents_filled, reads _ [] (by simp)] at run
  cases run
  -- eight bytes of header and two of length
  simp at consumed

end WlanController.Protocol
