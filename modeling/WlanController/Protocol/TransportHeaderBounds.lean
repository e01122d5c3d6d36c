import WlanController.Protocol.Fragment

/-!
# The parser stays inside the receive buffer

No header makes the parser read more than `maxTransportHeaderSize` bytes, which every
receive buffer has, however short the packet is.
-/

namespace WlanController.Protocol

/-- Failures that are no access outside a message. -/
def Failure.InBounds (failure : Failure) : Prop :=
  failure ≠ .outOfBounds .message ∧ failure ≠ .outOfBounds .receiveBuffer

/-- With `count` bytes ahead the program stays inside the message and reads no more. -/
def ReadsAtMost {α : Type} (count : Nat) (program : MessageM α) : Prop :=
  ∀ message, message.offset + count ≤ message.msg.length →
    match program.run message with
    | .ok _ message' => message'.msg = message.msg ∧ message'.offset ≤ message.offset + count
    | .error failure _ => failure.InBounds

namespace ReadsAtMost

theorem value {α : Type} (value : α) (count : Nat) : ReadsAtMost count (pure value) := by
  intro message _
  exact ⟨rfl, Nat.le_add_right _ _⟩

theorem errorRaise {α : Type} (code : CWErrorCode) (text : Option String) (count : Nat) :
    ReadsAtMost count (cwErrorRaise code text : MessageM α) := by
  intro message _
  exact ⟨nofun, nofun⟩

/-- Nothing behind a raised error is executed. -/
theorem errorRaise_bind {α β : Type} (code : CWErrorCode) (text : Option String)
    (next : α → MessageM β) (count : Nat) :
    ReadsAtMost count (cwErrorRaise code text >>= next) := by
  intro message _
  exact ⟨nofun, nofun⟩

theorem bind {α β : Type} {first : MessageM α} {next : α → MessageM β} {count count' : Nat}
    (head : ReadsAtMost count first) (tail : ∀ value, ReadsAtMost count' (next value)) :
    ReadsAtMost (count + count') (first >>= next) := by
  intro message room
  have start := head message (by omega)
  rw [EStateM.run_bind]
  cases run : first.run message with
  | error failure message' =>
    rw [run] at start
    exact start
  | ok value message' =>
    rw [run] at start
    obtain ⟨same, offset⟩ := start
    have rest := tail value message' (by rw [same]; omega)
    simp only
    cases run' : (next value).run message' with
    | error failure message'' =>
      rw [run'] at rest
      exact rest
    | ok value' message'' =>
      rw [run'] at rest
      exact ⟨rest.1.trans same, rest.2.trans (by omega)⟩

theorem mono {α : Type} {program : MessageM α} {count count' : Nat} (more : count ≤ count')
    (reads : ReadsAtMost count program) : ReadsAtMost count' program := by
  intro message room
  have start := reads message (by omega)
  cases run : program.run message with
  | error failure message' =>
    rw [run] at start
    exact start
  | ok value message' =>
    rw [run] at start
    exact ⟨start.1, start.2.trans (by omega)⟩

theorem map {α β : Type} {program : MessageM α} {count : Nat} (reads : ReadsAtMost count program)
    (f : α → β) : ReadsAtMost count (f <$> program) := by
  rw [← bind_pure_comp]
  exact reads.bind fun value => .value (f value) 0

theorem retrieveRawBytes (len : Nat) : ReadsAtMost len (cwProtocolRetrieveRawBytes len) := by
  intro message room
  simp only [cwProtocolRetrieveRawBytes, EStateM.run, if_pos room]
  exact ⟨trivial, Nat.le_refl _⟩

theorem setDataMsgType (dataMsgType : CWDataMsgType) (count : Nat) :
    ReadsAtMost count (Protocol.setDataMsgType dataMsgType) := by
  intro message _
  exact ⟨rfl, Nat.le_add_right _ _⟩

theorem ite {α : Type} {condition : Prop} [Decidable condition] {program program' : MessageM α}
    {count : Nat} (reads : ReadsAtMost count program) (reads' : ReadsAtMost count program') :
    ReadsAtMost count (if condition then program else program') := by
  split
  · exact reads
  · exact reads'

end ReadsAtMost

/-! ## The parts of the parser -/

theorem readsAtMost_retrieve32 : ReadsAtMost 4 cwProtocolRetrieve32 :=
  (ReadsAtMost.retrieveRawBytes 4).map _

theorem readsAtMost_binding : ReadsAtMost (4 + 4) cwParseTransportHeaderBinding := by
  unfold cwParseTransportHeaderBinding
  refine readsAtMost_retrieve32.bind fun first => ?_
  dsimp only
  refine .ite (.errorRaise_bind _ _ _ 4) ?_
  change ReadsAtMost (4 + 0) _
  refine readsAtMost_retrieve32.bind fun second => ?_
  refine .ite (.ite ?_ ?_) (.ite ?_ ?_)
  · exact (ReadsAtMost.setDataMsgType _ 0).bind fun _ => .value _ 0
  · exact (ReadsAtMost.setDataMsgType _ 0).bind fun _ => .value _ 0
  · exact (ReadsAtMost.setDataMsgType _ 0).bind fun _ => .value _ 0
  · exact .value _ 0

theorem readsAtMost_macAddress (RadioMAC : Option EthAddr) :
    ReadsAtMost (1 + (7 + 0)) (cwParseTransportHeaderMACAddress RadioMAC) := by
  unfold cwParseTransportHeaderMACAddress
  refine ((ReadsAtMost.retrieveRawBytes 1).map _).bind fun macLen => ?_
  refine (ReadsAtMost.retrieveRawBytes 7).bind fun bytes => ?_
  cases RadioMAC with
  | none => exact .value _ 0
  | some address =>
    refine .ite ?_ (.value _ 0)
    intro message _
    exact ⟨nofun, nofun⟩

theorem readsAtMost_optionalBinding (optionalWireless : Nat) :
    ReadsAtMost 8 (parseOptionalBinding optionalWireless) :=
  .ite (readsAtMost_binding.map _) (.value _ 8)

theorem readsAtMost_dataKind (keepAlive type optionalWireless : Nat) :
    ReadsAtMost 8 (parseDataKind keepAlive type optionalWireless) := by
  unfold parseDataKind
  refine .ite ?keepAlive (.ite (.ite (readsAtMost_binding.map _) ?ethernet) ?native)
  case keepAlive =>
    have length := ((ReadsAtMost.retrieveRawBytes 2).map BigEndian.decode).mono (show 2 ≤ 8 by omega)
    exact (ReadsAtMost.setDataMsgType _ 0).bind fun _ => length.bind fun _ => .value _ 0
  case ethernet =>
    exact (ReadsAtMost.setDataMsgType _ 8).bind fun _ => .value _ 0
  case native =>
    exact (readsAtMost_optionalBinding optionalWireless).bind fun _ =>
      (ReadsAtMost.setDataMsgType _ 0).bind fun _ => .value _ 0

theorem readsAtMost_optionalRadioMAC (m : Nat) (RadioMAC : Option EthAddr) :
    ReadsAtMost 8 (parseOptionalRadioMAC m RadioMAC) :=
  .ite (readsAtMost_macAddress RadioMAC) (.value _ 8)

theorem readsAtMost_headerOptions (dataFlag : Bool)
    (transport4BytesLen keepAlive type optionalWireless m : Nat) (RadioMAC : Option EthAddr) :
    ReadsAtMost 16
      (parseHeaderOptions dataFlag transport4BytesLen keepAlive type optionalWireless m
        RadioMAC) := by
  refine .ite ?_ (.ite ?_ ?_)
  · exact (readsAtMost_dataKind _ _ _).bind fun _ =>
      (readsAtMost_optionalRadioMAC m RadioMAC).bind fun _ => .value _ 0
  · exact (readsAtMost_binding.bind fun _ => .value _ 8)
  · exact (readsAtMost_optionalRadioMAC m RadioMAC).bind fun _ => .value _ 8

theorem cwParseTransportHeader_readsAtMost (dataFlag : Bool) (RadioMAC : Option EthAddr) :
    ReadsAtMost maxTransportHeaderSize (cwParseTransportHeader dataFlag RadioMAC) := by
  unfold cwParseTransportHeader
  change ReadsAtMost (4 + (4 + (16 + 0))) _
  refine readsAtMost_retrieve32.bind fun first => ?_
  refine .ite (.errorRaise_bind _ _ _ _) ?_
  refine readsAtMost_retrieve32.bind fun second => ?_
  refine (readsAtMost_headerOptions _ _ _ _ _ _ _).bind fun options => ?_
  exact .ite (.errorRaise_bind _ _ _ 0) (.value _ 0)

/-- Parsing the header of a packet fails in bounds if it fails. -/
theorem parseHeader_inBounds (packet : Packet) (dataFlag : Bool) (RadioMAC : Option EthAddr)
    {failure : Failure} {message : CWProtocolMessage}
    (failed : (cwParseTransportHeader dataFlag RadioMAC).run ⟨packet.buf, 0, none⟩ =
      .error failure message) : failure.InBounds := by
  have reads := cwParseTransportHeader_readsAtMost dataFlag RadioMAC ⟨packet.buf, 0, none⟩ (by
    rw [Nat.zero_add]
    exact packet.room)
  rw [failed] at reads
  exact reads

end WlanController.Protocol
