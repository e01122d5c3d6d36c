import WlanController.Vendor.VendorPayloads

/-!
# What answers a vendor payload

The WTP sends a result code and behind it the response of the UCI or the type of the message
that answers one of the firmware update, with the version of the WTP if that is what was asked
for.  The AC goes through the elements of the message and checks at the end that they fill it.
-/

namespace WlanController.Vendor

open Protocol Elements
open Radios (cwAssembleMsgElem cwAssembleMsgElem_eq)

def resultCodeType : Nat := 33

def resultCodeWithPayloadType : Nat := 58

/-- What the WTP answers with.  Only a version response has a version. -/
inductive AnswerPayload where
  | uci (response : Option CString)
  | wum (type major minor revision : UInt8)

/-- What the AC has of it: of a firmware update the bytes. -/
inductive ReceivedPayload where
  | uci (payload : Option CString)
  | wum (payload : Option (List UInt8))

/-- What is stored in front of either payload. -/
def assembleResultWithPayload (code : UInt32) (vendorPayloadType payloadSize : Nat)
    (storePayload : MessageM Unit) : Except Failure CWProtocolMessage := do
  let msgPtr ← assembleInto (12 + payloadSize) do
    cwProtocolStore32 code.toNat
    cwProtocolStore16 vendorSpecPayload
    cwProtocolStore16 vendorPayloadType
    cwProtocolStore32 payloadSize
    storePayload
  cwAssembleMsgElem msgPtr resultCodeWithPayloadType

def cwAssembleVendorMsgElemResultCodeWithPayload (code : UInt32) :
    AnswerPayload → Except Failure CWProtocolMessage
  | .uci none => assembleResultWithPayload code vendorSpecPayloadUCI 0 (return ())
  | .uci (some response) =>
    assembleResultWithPayload code vendorSpecPayloadUCI response.strlen
      (cwProtocolStoreRawBytes response.chars)
  | .wum type major minor revision =>
    if type = wtpVersionResponse then
      assembleResultWithPayload code vendorSpecPayloadWUM 4 do
        cwProtocolStore8 type.toNat
        cwProtocolStore8 major.toNat
        cwProtocolStore8 minor.toNat
        cwProtocolStore8 revision.toNat
    else assembleResultWithPayload code vendorSpecPayloadWUM 1 (cwProtocolStore8 type.toNat)

/-- `*resultCode` and `*vendValues`. -/
structure UpdateResponse where
  resultCode : Option Nat
  vendValues : Option ReceivedPayload

def unrecognized : String := "Unrecognized Message Element in Configuration Update Response"

def parseResultCodeWithPayload : MessageM (Nat × ReceivedPayload) := do
  let resultCode ← cwProtocolRetrieve32
  if (← cwProtocolRetrieve16) ≠ vendorSpecPayload then
    cwErrorRaise .invalidFormat (some unrecognized)
  let vendorPayloadType ← cwProtocolRetrieve16
  if vendorPayloadType = vendorSpecPayloadUCI then
    let payloadSize := asInt (← cwProtocolRetrieve32)
    return (resultCode, .uci (← retrieveString payloadSize))
  else if vendorPayloadType = vendorSpecPayloadWUM then
    let payloadSize := asInt (← cwProtocolRetrieve32)
    if payloadSize ≤ 0 then cwErrorRaise .invalidFormat (some unrecognized)
    return (resultCode, .wum (← retrieveBytes payloadSize))
  else cwErrorRaise .invalidFormat (some unrecognized)

/-- The length of the element is not looked at. -/
def parseUpdateResponseElement (elemType _elemLen : Nat) : ParserM UpdateResponse Unit := do
  if elemType = resultCodeType then
    let resultCode ← reading cwProtocolRetrieve32
    assigning fun values => { values with resultCode := some resultCode }
  else if elemType = resultCodeWithPayloadType then
    let (resultCode, vendValues) ← reading parseResultCodeWithPayload
    assigning fun _ => ⟨some resultCode, some vendValues⟩
  else refusing .invalidFormat (some unrecognized)

def cwParseConfigurationUpdateResponseMessage (len : Nat) : ParserM UpdateResponse Unit := do
  let offsetTillMessages := (← get).message.offset
  cwParseElements parseUpdateResponseElement len
  if (← get).message.offset - offsetTillMessages ≠ len then
    refusing .invalidFormat (some "Garbage at the End of the Message")

namespace AnswerPayload

def payloadType : AnswerPayload → Nat
  | .uci _ => vendorSpecPayloadUCI
  | .wum .. => vendorSpecPayloadWUM

def payload : AnswerPayload → List UInt8
  | .uci response => argsBytes response
  | .wum type major minor revision =>
    type :: if type = wtpVersionResponse then [major, minor, revision] else []

def body (code : UInt32) (values : AnswerPayload) : List UInt8 :=
  BigEndian.encode 4 code.toNat ++ (BigEndian.encode 2 vendorSpecPayload ++
    (BigEndian.encode 2 values.payloadType ++ (BigEndian.encode 4 values.payload.length ++
      values.payload)))

/-- The payload as it was given. -/
def given : AnswerPayload → ReceivedPayload
  | .uci response => .uci response
  | .wum type major minor revision => .wum (some (payload (.wum type major minor revision)))

/-- The payload as it is read. -/
def received : AnswerPayload → ReceivedPayload
  | .uci response => .uci (keptString response)
  | .wum type major minor revision => .wum (some (payload (.wum type major minor revision)))

theorem length_body (code : UInt32) (values : AnswerPayload) :
    (values.body code).length = 12 + values.payload.length := by
  simp only [body, List.length_append, BigEndian.length_encode]
  omega

end AnswerPayload

theorem assembleResultWithPayload_eq (code : UInt32) (vendorPayloadType : Nat)
    {storePayload : MessageM Unit} {payload : List UInt8} (stores : Stores storePayload payload) :
    assembleResultWithPayload code vendorPayloadType payload.length storePayload =
      .ok (filled (elementBytes resultCodeWithPayloadType
        (BigEndian.encode 4 code.toNat ++ (BigEndian.encode 2 vendorSpecPayload ++
          (BigEndian.encode 2 vendorPayloadType ++
            (BigEndian.encode 4 payload.length ++ payload))))) 2) := by
  have whole := (stores_store32 code.toNat).bind
    ((stores_store16 vendorSpecPayload).bind ((stores_store16 vendorPayloadType).bind
      ((stores_store32 payload.length).bind stores)))
  have size : 12 + payload.length =
      (BigEndian.encode 4 code.toNat ++ (BigEndian.encode 2 vendorSpecPayload ++
        (BigEndian.encode 2 vendorPayloadType ++
          (BigEndian.encode 4 payload.length ++ payload)))).length := by
    simp only [List.length_append, BigEndian.length_encode]
    omega
  rw [assembleResultWithPayload, assembleInto_stores whole size, ok_bind]
  exact cwAssembleMsgElem_eq _ _

theorem cwAssembleVendorMsgElemResultCodeWithPayload_eq (code : UInt32) (values : AnswerPayload) :
    cwAssembleVendorMsgElemResultCodeWithPayload code values =
      .ok (filled (elementBytes resultCodeWithPayloadType (values.body code)) 2) := by
  cases values with
  | uci response =>
    cases response with
    | none => exact assembleResultWithPayload_eq code vendorSpecPayloadUCI stores_pure
    | some response =>
      exact assembleResultWithPayload_eq code vendorSpecPayloadUCI (stores_rawBytes response.chars)
  | wum type major minor revision =>
    rw [cwAssembleVendorMsgElemResultCodeWithPayload]
    by_cases version : type = wtpVersionResponse
    case pos =>
      have stores := (stores_store8 type.toNat).bind ((stores_store8 major.toNat).bind
        ((stores_store8 minor.toNat).bind (stores_store8 revision.toNat)))
      have bytes : AnswerPayload.payload (.wum type major minor revision) =
          BigEndian.encode 1 type.toNat ++ (BigEndian.encode 1 major.toNat ++
            (BigEndian.encode 1 minor.toNat ++ BigEndian.encode 1 revision.toNat)) := by
        simp [AnswerPayload.payload, version, BigEndian.encode]
      have assembled := assembleResultWithPayload_eq code vendorSpecPayloadWUM stores
      rw [← bytes] at assembled
      have size : (AnswerPayload.payload (.wum type major minor revision)).length = 4 := by
        simp [AnswerPayload.payload, version]
      rw [if_pos version, AnswerPayload.body]
      rw [size] at assembled ⊢
      exact assembled
    case neg =>
      have bytes : AnswerPayload.payload (.wum type major minor revision) =
          BigEndian.encode 1 type.toNat := by
        simp [AnswerPayload.payload, version, BigEndian.encode]
      have assembled :=
        assembleResultWithPayload_eq code vendorSpecPayloadWUM (stores_store8 type.toNat)
      rw [← bytes] at assembled
      have size : (AnswerPayload.payload (.wum type major minor revision)).length = 1 := by
        simp [AnswerPayload.payload, version]
      rw [if_neg version, AnswerPayload.body]
      rw [size] at assembled ⊢
      exact assembled

theorem readsFrom_resultCodeWithPayload (code : UInt32) (values : AnswerPayload)
    (short : (values.body code).length < 65536) (start : Nat) :
    ReadsFrom start parseResultCodeWithPayload (values.body code) (code.toNat, values.received) := by
  rw [AnswerPayload.length_body] at short
  have known : asInt values.payload.length = values.payload.length := asInt_of_lt (by omega)
  apply ((reads_retrieve32 code.toNat_lt).from _).bind
  apply ((reads_retrieve16 (by simp [vendorSpecPayload])).from _).bind
  rw [if_neg (not_not.mpr rfl)]
  have payloadType : values.payloadType < 65536 := by
    cases values <;> simp [AnswerPayload.payloadType, vendorSpecPayloadUCI, vendorSpecPayloadWUM]
  apply ((reads_retrieve16 payloadType).from _).bind
  cases values with
  | uci response =>
    have payload : AnswerPayload.payload (.uci response) = argsBytes response := rfl
    rw [AnswerPayload.payloadType, if_pos rfl]
    apply ((reads_retrieve32 (by omega)).from _).bind
    rw [known, payload]
    rw [payload] at short
    have read := fun start => (readsFrom_retrieveString response (by omega) start).map
      fun payload => (code.toNat, ReceivedPayload.uci payload)
    simpa [AnswerPayload.received] using read _
  | wum type major minor revision =>
    have other : ¬ vendorSpecPayloadWUM = vendorSpecPayloadUCI := by
      simp [vendorSpecPayloadWUM, vendorSpecPayloadUCI]
    have positive : ¬ ((AnswerPayload.payload (.wum type major minor revision)).length : Int) ≤ 0 := by
      simp [AnswerPayload.payload]
    have allocates : ¬ Unallocatable
        ((AnswerPayload.payload (.wum type major minor revision)).length : Int) := by
      simp only [Unallocatable]
      omega
    rw [AnswerPayload.payloadType, if_neg other, if_pos rfl]
    apply ((reads_retrieve32 (by omega)).from _).bind
    rw [known, if_neg positive, retrieveBytes, if_neg allocates]
    have read := fun start =>
      (readsFrom_rawBytes start (AnswerPayload.payload (.wum type major minor revision))).map
        fun payload => (code.toNat, ReceivedPayload.wum (some payload))
    simpa [AnswerPayload.received] using read _

/-- A message that is one element. -/
theorem run_updateResponse (code : UInt32) (values : AnswerPayload)
    (short : (values.body code).length < 65536) {s : Parsing UpdateResponse} {rest : List UInt8}
    (ahead : s.message.ahead = elementBytes resultCodeWithPayloadType (values.body code) ++ rest) :
    (cwParseConfigurationUpdateResponseMessage
        (elementBytes resultCodeWithPayloadType (values.body code)).length).run s =
      .ok () ⟨s.message.advance (elementBytes resultCodeWithPayloadType (values.body code)).length,
        ⟨some code.toNat, some values.received⟩⟩ := by
  have header := reads_formatMsgElem resultCodeWithPayloadType (values.body code).length
    (by simp [resultCodeWithPayloadType])
  have long : (elementBytes resultCodeWithPayloadType (values.body code)).length =
      (values.body code).length + 3 + 1 := by
    simp only [elementBytes, List.length_append, BigEndian.length_encode]
    omega
  have first : (reading cwParseFormatMsgElem).run s =
      .ok (resultCodeWithPayloadType, (values.body code).length % 65536)
        { s with message := s.message.advance 4 } := by
    apply run_reading_ok
    have ran := header s.message (values.body code ++ rest)
      (by simpa [elementBytes, CWProtocolMessage.ahead] using ahead)
    simpa [CWProtocolMessage.advance] using ran
  have behind : (s.message.advance 4).ahead = values.body code ++ rest := by
    have split : elementBytes resultCodeWithPayloadType (values.body code) ++ rest =
        (BigEndian.encode 2 resultCodeWithPayloadType ++
          BigEndian.encode 2 (values.body code).length) ++ (values.body code ++ rest) := by
      simp [elementBytes]
    rw [ahead_advance, ahead, split]
    exact List.drop_left' (by simp)
  have inside : (s.message.advance 4).Valid := by
    have room := congrArg List.length ahead
    rw [length_ahead, List.length_append, long] at room
    simp only [CWProtocolMessage.Valid, CWProtocolMessage.advance]
    omega
  have second : (reading parseResultCodeWithPayload).run
      ({ s with message := s.message.advance 4 } : Parsing UpdateResponse) =
      .ok (code.toNat, values.received)
        { s with message := (s.message.advance 4).advance (values.body code).length } :=
    run_reading_ok (readsFrom_resultCodeWithPayload code values short _ _ rest inside rfl behind)
  have other : ¬ resultCodeWithPayloadType = resultCodeType := by
    simp [resultCodeWithPayloadType, resultCodeType]
  -- the one round of the loop
  have element : (parseElement parseUpdateResponseElement).run s =
      .ok () ⟨(s.message.advance 4).advance (values.body code).length,
        ⟨some code.toNat, some values.received⟩⟩ := by
    simp only [parseElement, EStateM.run_bind, first, parseUpdateResponseElement, if_neg other,
      if_true, second]
    rfl
  have whole : (s.message.advance 4).advance (values.body code).length =
      s.message.advance ((values.body code).length + 3 + 1) := by
    rw [advance_advance]
    congr 1
    omega
  have gone : (s.message.advance ((values.body code).length + 3 + 1)).offset - s.message.offset =
      (values.body code).length + 3 + 1 := by
    rw [advance_offset]
    omega
  have loop : (cwParseElements parseUpdateResponseElement ((values.body code).length + 3 + 1)).run s =
      .ok () ⟨s.message.advance ((values.body code).length + 3 + 1),
        ⟨some code.toNat, some values.received⟩⟩ := by
    simp only [cwParseElements, parseElements, EStateM.run_bind, EStateM.run_get]
    rw [if_pos (by omega)]
    simp only [EStateM.run_bind, element, EStateM.run_get, whole, gone]
    rw [if_neg (by omega)]
    rfl
  rw [long]
  simp only [cwParseConfigurationUpdateResponseMessage, EStateM.run_bind, EStateM.run_get, loop, gone]
  rw [if_neg (not_not.mpr rfl)]
  rfl

/-- The AC ends behind the message with the result code and the response it was given. -/
def AnswerArrives (code : UInt32) (values : AnswerPayload) : Prop :=
  ∃ element, cwAssembleVendorMsgElemResultCodeWithPayload code values = .ok element ∧
    ∀ (s : Parsing UpdateResponse) (rest : List UInt8), s.message.ahead = element.contents ++ rest →
      (cwParseConfigurationUpdateResponseMessage element.contents.length).run s =
        .ok () ⟨s.message.advance element.contents.length,
          ⟨some code.toNat, some values.given⟩⟩

theorem received_eq_given_iff (values : AnswerPayload) :
    values.received = values.given ↔ values ≠ .uci (some CString.empty) := by
  cases values with
  | uci response =>
    simpa [AnswerPayload.received, AnswerPayload.given] using keptString_eq_self_iff
  | wum type major minor revision => simp [AnswerPayload.received, AnswerPayload.given]

theorem answer_arrives_iff (code : UInt32) (values : AnswerPayload)
    (short : (values.body code).length < 65536) :
    AnswerArrives code values ↔ values ≠ .uci (some CString.empty) := by
  rw [← received_eq_given_iff]
  constructor
  · intro arrives
    obtain ⟨element, same, parses⟩ := arrives
    rw [cwAssembleVendorMsgElemResultCodeWithPayload_eq] at same
    cases same
    rw [contents_filled] at parses
    let s : Parsing UpdateResponse :=
      ⟨⟨elementBytes resultCodeWithPayloadType (values.body code), 0, none⟩, ⟨none, none⟩⟩
    have ahead : s.message.ahead =
        elementBytes resultCodeWithPayloadType (values.body code) ++ [] := by
      simp [s, CWProtocolMessage.ahead]
    have ran := parses s [] ahead
    rw [run_updateResponse code values short ahead] at ran
    simpa using ran
  · intro kept
    refine ⟨_, cwAssembleVendorMsgElemResultCodeWithPayload_eq code values, ?_⟩
    intro s rest ahead
    rw [contents_filled] at ahead ⊢
    rw [← kept]
    exact run_updateResponse code values short ahead

/-! ## Elements whose lengths disagree -/

/-- The program raises no error: it returns or accesses what it must not. -/
def Unraised {α : Type} (program : MessageM α) : Prop :=
  ∀ message code text after, program.run message ≠ .error (.raised code text) after

variable {α β : Type}

theorem unraised_pure (value : α) : Unraised (pure value) := by
  intro message code text after ran
  cases ran

theorem unraised_stray (object : MemoryObject) :
    Unraised (throw (.outOfBounds object) : MessageM α) := by
  intro message code text after ran
  cases ran

theorem Unraised.bind {first : MessageM α} {next : α → MessageM β} (unraised : Unraised first)
    (unraised' : ∀ value, Unraised (next value)) : Unraised (first >>= next) := by
  intro message code text after ran
  rw [EStateM.run_bind] at ran
  cases head : first.run message with
  | ok value middle =>
    rw [head] at ran
    exact unraised' value middle code text after ran
  | error failure middle =>
    rw [head] at ran
    cases ran
    exact unraised message code text after head

theorem Unraised.map {program : MessageM α} (unraised : Unraised program) (f : α → β) :
    Unraised (f <$> program) := by
  rw [← bind_pure_comp]
  exact unraised.bind fun value => unraised_pure (f value)

theorem unraised_rawBytes (len : Nat) : Unraised (cwProtocolRetrieveRawBytes len) := by
  intro message code text after ran
  simp only [EStateM.run, cwProtocolRetrieveRawBytes] at ran
  split at ran <;> cases ran

theorem unraised_number (len : Nat) :
    Unraised (BigEndian.decode <$> cwProtocolRetrieveRawBytes len) :=
  (unraised_rawBytes len).map _

theorem unraised_retrieveStr (len : Int) : Unraised (cwProtocolRetrieveStr len) := by
  rw [cwProtocolRetrieveStr]
  split
  · exact unraised_pure _
  split
  · exact unraised_stray _
  · exact (unraised_rawBytes _).bind fun _ => unraised_pure _

theorem unraised_retrieveString (len : Int) : Unraised (retrieveString len) := by
  rw [retrieveString]
  split
  · exact unraised_retrieveStr len
  · exact unraised_pure none

theorem unraised_retrieveBytes (len : Int) : Unraised (retrieveBytes len) := by
  rw [retrieveBytes]
  split
  · exact unraised_pure _
  · exact (unraised_rawBytes _).bind fun _ => unraised_pure _

theorem unraised_uciPayload : Unraised cwParseUCIPayload := by
  refine (unraised_number 1).bind fun command => (unraised_number 4).bind fun argsLen => ?_
  dsimp only
  split
  · exact (unraised_stray _).bind fun _ => (unraised_retrieveString _).bind fun _ => unraised_pure _
  · exact (unraised_retrieveString _).bind fun _ => unraised_pure _

theorem unraised_wumPayload : Unraised cwParseWUMPayload := by
  refine (unraised_number 1).bind fun type => ?_
  rw [parseWumArgs]
  split
  · exact unraised_pure _
  split
  · exact (unraised_number 1).bind fun _ => (unraised_number 1).bind fun _ =>
      (unraised_number 1).bind fun _ => (unraised_number 4).bind fun _ => unraised_pure _
  · exact (unraised_number 4).bind fun _ => (unraised_number 4).bind fun _ =>
      (unraised_retrieveBytes _).bind fun _ => unraised_pure _

/-- The payloads that say how long they are. -/
inductive SizedPayload where
  | uci (command : UInt8)
  | cupFragment (seqNum : UInt32)

def SizedPayload.type : SizedPayload → Nat
  | .uci _ => vendorSpecPayloadUCI
  | .cupFragment _ => vendorSpecPayloadWUM

/-- What stands between the type and the size. -/
def SizedPayload.fields : SizedPayload → List UInt8
  | .uci command => [command]
  | .cupFragment seqNum => wtpCupFragment :: BigEndian.encode 4 seqNum.toNat

/-- An element in a message, as far as the size of its arguments or of its fragment. -/
structure SizedElement where
  message : CWProtocolMessage
  payload : SizedPayload
  elemLen : UInt16
  size : UInt32
  rest : List UInt8
  ahead : message.ahead = BigEndian.encode 2 vendorSpecPayload ++ BigEndian.encode 2 elemLen.toNat ++
    (BigEndian.encode 2 payload.type ++ (payload.fields ++
      (BigEndian.encode 4 size.toNat ++ rest)))

namespace SizedElement

/-- The element ends where its arguments or its fragment do. -/
def Agrees (element : SizedElement) : Prop :=
  element.elemLen.toNat = 2 + element.payload.fields.length + 4 + element.size.toNat

/-- The element is refused, and nothing outside of the message is read. -/
def Refused (element : SizedElement) : Prop :=
  ∃ code text after,
    (parseFormatted cwParseVendorPayload).run element.message = .error (.raised code text) after

/-- Behind the type of a payload that is known no error is raised. -/
theorem unraised_vendorPayload (payload : SizedPayload) {message : CWProtocolMessage}
    {behind : List UInt8} (ahead : message.ahead = BigEndian.encode 2 payload.type ++ behind)
    (len : Nat) (code : CWErrorCode) (text : Option String) (after : CWProtocolMessage) :
    (cwParseVendorPayload len).run message ≠ .error (.raised code text) after := by
  have small : payload.type < 65536 := by
    cases payload <;> simp [SizedPayload.type, vendorSpecPayloadUCI, vendorSpecPayloadWUM]
  have type := reads_retrieve16 small message behind ahead
  simp only [cwParseVendorPayload, EStateM.run_bind, type]
  cases payload with
  | uci command =>
    exact (unraised_uciPayload.bind fun values => unraised_pure
      (CWProtocolVendorSpecificValues.uci values)) _ _ _ _
  | cupFragment seqNum =>
    exact (unraised_wumPayload.bind fun values => unraised_pure
      (CWProtocolVendorSpecificValues.wum values)) _ _ _ _

/-- Whatever the lengths are, the element is accepted or read past the message. -/
theorem not_refused (element : SizedElement) : ¬ element.Refused := by
  intro refused
  obtain ⟨code, text, after, ran⟩ := refused
  have header := reads_formatMsgElem vendorSpecPayload element.elemLen.toNat
    (by simp [vendorSpecPayload]) element.message _ element.ahead
  have behind := ahead_advance element.message 4
  rw [element.ahead, List.drop_left' (by simp)] at behind
  simp only [parseFormatted, EStateM.run_bind, header] at ran
  split at ran
  next values message parsed => cases ran
  next failure message parsed =>
    cases ran
    exact unraised_vendorPayload element.payload behind _ code text _ parsed

/-- An element whose lengths disagree is refused. -/
def Checked (element : SizedElement) : Prop := ¬ element.Agrees → element.Refused

theorem checked_iff (element : SizedElement) : element.Checked ↔ element.Agrees := by
  constructor
  · intro checked
    by_contra disagrees
    exact element.not_refused (checked disagrees)
  · intro agrees disagrees
    exact absurd agrees disagrees

end SizedElement

/-! ## What comes back -/

/-- The command of an element that is no longer than it can say comes back. -/
def CWVendorUciValues.Returns (values : CWVendorUciValues) : Prop :=
  values.body.length < 65536 →
    Arrives (cwAssembleWTPVendorPayloadUCI values) vendorSpecPayload cwParseVendorPayload
      (.uci values)

def CWVendorWumValues.Returns (values : CWVendorWumValues) : Prop :=
  values.Sendable → values.body.length < 65536 →
    Arrives (Prod.fst <$> cwAssembleWTPVendorPayloadWUM values) vendorSpecPayload
      cwParseVendorPayload (.wum values)

def AnswerPayload.Returns (code : UInt32) (values : AnswerPayload) : Prop :=
  (values.body code).length < 65536 → AnswerArrives code values

theorem CWVendorUciValues.returns_iff (values : CWVendorUciValues) :
    values.Returns ↔ values.commandArgs ≠ some CString.empty := by
  constructor
  · intro returns empty
    have short : values.body.length < 65536 := by
      rw [values.length_body, empty]
      simp [argsBytes, CString.empty]
    exact (uci_arrives_iff values short).mp (returns short) empty
  · intro given short
    exact (uci_arrives_iff values short).mpr given

theorem AnswerPayload.returns_iff (code : UInt32) (values : AnswerPayload) :
    values.Returns code ↔ values ≠ .uci (some CString.empty) := by
  constructor
  · intro returns empty
    have short : (values.body code).length < 65536 := by
      rw [values.length_body, empty]
      simp [AnswerPayload.payload, argsBytes, CString.empty]
    exact (answer_arrives_iff code values short).mp (returns short) empty
  · intro given short
    exact (answer_arrives_iff code values short).mpr given

/-- The payloads come back, except that a string without characters does not, and an element
    is not refused for its lengths. -/
theorem vendorPayloads_iff (uci : CWVendorUciValues) (wum : CWVendorWumValues) (code : UInt32)
    (answer : AnswerPayload) (element : SizedElement) :
    (uci.Returns ↔ uci.commandArgs ≠ some CString.empty) ∧ wum.Returns ∧
      (answer.Returns code ↔ answer ≠ .uci (some CString.empty)) ∧
      (element.Checked ↔ element.Agrees) :=
  ⟨uci.returns_iff, wum_arrives wum, answer.returns_iff code, element.checked_iff⟩

/-- An element of seven bytes with one byte of arguments, which is the byte behind it. -/
def longArguments : SizedElement where
  message := ⟨[0, 57, 0, 7, 0, 1, 1, 0, 0, 0, 1, 97], 0, none⟩
  payload := .uci 1
  elemLen := 7
  size := 1
  rest := [97]
  ahead := by simp [CWProtocolMessage.ahead, SizedPayload.type, SizedPayload.fields,
    vendorSpecPayload, vendorSpecPayloadUCI, BigEndian.encode]

/-- It is accepted, and a string without characters is lost. -/
theorem longArguments_not_checked :
    ¬ longArguments.Checked ∧ ¬ (CWVendorUciValues.mk 1 (some CString.empty)).Returns := by
  constructor
  · rw [SizedElement.checked_iff]
    simp [SizedElement.Agrees, longArguments, SizedPayload.fields]
  · rw [CWVendorUciValues.returns_iff]
    simp

end WlanController.Vendor
