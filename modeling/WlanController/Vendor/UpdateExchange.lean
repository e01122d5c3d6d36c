import WlanController.Interface.ListReading
import WlanController.Interface.StreamSafety
import WlanController.Requests.UpdatePasses
import WlanController.Vendor.UpdateTool

/-!
# A message of the update tool and its answer

The AC reads a message from the socket of the tool, sends it to the WTP in a configuration update
request, and writes what comes back with the response to the socket.  A message of the firmware
update arrives as it was sent, and its answer too.  How packets travel between the two is left out
here.
-/

namespace WlanController.Vendor

open Protocol Elements Binding Requests
open Interface (SessionTable Memory Cell Parameters Event values fill manageCommand htonl ntohl)

/-! ## The AC -/

/-- The AC when a message comes, and a WTP that has a session. -/
structure Site where
  table : SessionTable
  memory : Memory
  index : Nat
  live : Interface.Live table index

/-- The values that a session gets. -/
def Event.handedOver : Event → Option (Int × Parameters)
  | .hand index parameters => some (index, parameters)
  | .lookup _ | .fill _ _ => none

/-- The commands that are made of a message. -/
def Site.commands (site : Site) : List UInt8 → List (Int × Parameters)
  | [] => []
  | cmdMsg :: stream =>
    (manageCommand site.table site.memory cmdMsg stream).1.filterMap Event.handedOver

/-- The fields of `wumValues`. -/
def wumValues (type arguments : List Cell) : CWVendorWumValues :=
  let wumType := (values type).headD 0
  let bytes := values arguments
  if known : wumType ≠ 3 ∧ wumType ≠ 5 then .plain wumType known
  else if wumType = wtpUpdateRequest then
    .updateRequest (bytes.getD 0 0) (bytes.getD 1 0) (bytes.getD 2 0)
      (.ofNat (BigEndian.decode (bytes.drop 3)))
  else
    .cupFragment (.ofNat (BigEndian.decode (bytes.take 4)))
      (.ofNat (BigEndian.decode ((bytes.drop 4).take 4))) (some (bytes.drop 8))

/-- The one element of a configuration update request. -/
def cwProtocolAssembleConfigurationUpdateRequest (values : CWVendorWumValues) :
    Option (List UInt8) :=
  match cwAssembleWTPVendorPayloadWUM values with
  | .ok (msgPtr, _) => some msgPtr.contents
  | .error _ => none

/-- What is written to the socket of the application, and whether the session ends then.  There is
no result where the payload is shorter than it has to be. -/
def cwSaveConfigurationUpdateResponseMessage (resultCode WTPIndex : Nat) :
    ReceivedPayload → Option (List UInt8 × Bool)
  | .uci payload =>
    let bytes := argsBytes payload
    some (htonl WTPIndex ++ (htonl resultCode ++ (htonl bytes.length ++ bytes)), false)
  | .wum none => none
  | .wum (some payload) => do
    let type ← payload.head?
    let payloadSize := if type = wtpVersionResponse then 4 else 1
    if payload.length < payloadSize then none
    return (htonl WTPIndex ++ (htonl resultCode ++ (htonl payloadSize ++ payload.take payloadSize)),
      type = wtpCommitAck ∧ resultCode = 0)

/-- The AC has a response. -/
def acManageUpdateResponse (WTPIndex : Nat) (body : List UInt8) : Option (List UInt8 × Bool) :=
  match (cwParseConfigurationUpdateResponseMessage body.length).run ⟨received body, none, none⟩ with
  | .error _ _ => none
  | .ok _ s => do
    let resultCode ← s.values.resultCode
    let vendValues ← s.values.vendValues
    cwSaveConfigurationUpdateResponseMessage resultCode WTPIndex vendValues

/-! ## The WTP -/

/-- `CW_PROTOCOL_SUCCESS` and `CW_PROTOCOL_FAILURE` -/
def resultCodeOf (success : Bool) : UInt32 := if success then 0 else 3

/-- The WTP has a request of the firmware update. -/
def wtpManageUpdateRequest (s : WUMState) (free : UInt64) (body : List UInt8) :
    Option (List UInt8 × WUMState) :=
  match cwWTPManageConfigurationUpdate body with
  | .returned | .astray => none
  | .saves values =>
    match values.protocolValues with
    | some (.wum wum) => do
      let saved ← cwWTPSaveWUMValues s free wum
      match cwAssembleVendorMsgElemResultCodeWithPayload (resultCodeOf saved.success) saved.answer with
      | .error _ => none
      | .ok msgElem => return (msgElem.contents, saved.wum)
    | some (.uci _) | none => none

/-! ## A message and its answer -/

/-- What comes of a message of the tool. -/
def Site.exchange (site : Site) (free : UInt64) (msg : WUMRequest) (s : WUMState) :
    Option (WUMResponse × WUMState) :=
  match site.commands (wumSendMessage msg) with
  | [(_, .wum type arguments)] => do
    let request ← cwProtocolAssembleConfigurationUpdateRequest (wumValues type arguments)
    let responded ← wtpManageUpdateRequest s free request
    let written ← acManageUpdateResponse site.index responded.1
    return (← wumReceiveMessage written.1, responded.2)
  | _ => none

/-- The message that a tool sends for some values. -/
def toolRequest (wtpId : Int) (values : CWVendorWumValues) : WUMRequest :=
  wumRequest wtpId values.type values.args

/-- The answer that a tool gets. -/
def Saved.response (saved : Saved) (wtpId : Int) : WUMResponse :=
  ⟨wtpId, if saved.success then 0 else 3, saved.answer.payload, 0⟩

/-! ## From the tool to a session -/

/-- What a message has to be to get through: as long as an element can be, and a fragment has bytes
and a number that is not negative as an `int`. -/
structure CWVendorWumValues.Forwarded (values : CWVendorWumValues) : Prop where
  sendable : values.Sendable
  short : values.body.length < 65536
  numbered : ∀ seqNum size buf, values = .cupFragment seqNum size buf →
    seqNum.toNat < 2147483648 ∧ 0 < size.toNat

section Forwarding

variable {site : Site} {values : CWVendorWumValues}

/-- A read that the stream is long enough for. -/
theorem fill_of_le {old stream : List UInt8} (enough : old.length ≤ stream.length) :
    fill old stream = (stream.take old.length).map Cell.stream := by
  rw [fill, List.drop_eq_nil_of_le enough, List.map_nil, List.append_nil]

theorem values_stream (bytes : List UInt8) : Interface.values (bytes.map Cell.stream) = bytes := by
  simp [Interface.values, Cell.value, Function.comp_def]

theorem site_index_lt (site : Site) : site.index < site.table.gWTPs.length := by
  obtain ⟨_, session, found, _⟩ := site.live
  exact (List.getElem?_eq_some_iff.mp found).1

theorem site_isNotFree (site : Site) :
    Interface.isNotFree site.table site.memory site.index = true := by
  obtain ⟨_, session, found, live⟩ := site.live
  rw [Interface.isNotFree, if_pos (Int.natCast_nonneg _), found]
  exact live

theorem handed_setValues (site : Site) (parameters : Parameters) :
    (Interface.setValues site.table site.memory site.index parameters).filterMap Event.handedOver =
      [((site.index : Int), parameters)] := by
  have known : (site.index : Int) ≠ -1 := by omega
  rw [Interface.setValues, if_neg known]
  rfl

theorem htonl_natCast {number : Nat} (small : number < 4294967296) :
    htonl number = BigEndian.encode 4 number := by
  rw [htonl, BitVec.ofInt_natCast, BitVec.toNat_ofNat, Nat.mod_eq_of_lt small]

theorem ntohl_encode {number : Nat} (small : number < 2147483648) :
    ntohl (BigEndian.encode 4 number) = number := by
  rw [← htonl_natCast (by omega)]
  exact Interface.ntohl_htonl (by omega)

theorem encode_byte (byte : UInt8) : BigEndian.encode 1 byte.toNat = [byte] := by
  simp [BigEndian.encode]

/-- What is behind two numbers. -/
theorem drop_numbers (first second : Nat) (bytes : List UInt8) :
    (BigEndian.encode 4 first ++ (BigEndian.encode 4 second ++ bytes)).drop 8 = bytes := by
  rw [← List.append_assoc]
  exact List.drop_left' (by simp)

/-- How a session gets a message that is in the stream behind the number of its WTP. -/
theorem handed_wum (forwarded : values.Forwarded) {commandBuffer : List UInt8}
    (read : commandBuffer.length = 5) :
    (Interface.wum site.table site.memory commandBuffer site.index
        (values.type :: values.args)).1.filterMap Event.handedOver =
      [((site.index : Int), .wum [.stream values.type] (values.args.map Cell.stream))] := by
  have typeRead (type : UInt8) (rest : List UInt8) :
      fill [site.memory.wumType] (type :: rest) = [.stream type] :=
    fill_of_le (by simp)
  cases values with
  | updateRequest major minor revision packSize =>
    have arguments : fill (commandBuffer ++ [0, 0])
        (CWVendorWumValues.updateRequest major minor revision packSize).args =
          (CWVendorWumValues.updateRequest major minor revision packSize).args.map Cell.stream := by
      rw [fill_of_le (by simp [CWVendorWumValues.args, read]), List.take_of_length_le]
      simp [CWVendorWumValues.args, read]
    simp only [Interface.wum, typeRead]
    simp only [CWVendorWumValues.type, wtpUpdateRequest, Interface.values, List.map_cons, List.map_nil,
      Cell.value, List.headD_cons, Interface.wumUpdate, List.drop_succ_cons, List.drop_zero, arguments,
      List.filterMap_cons, Event.handedOver, handed_setValues]
  | cupFragment seqNum size buf =>
    obtain ⟨bytes, same, length⟩ := forwarded.sendable
    subst same
    obtain ⟨small, positive⟩ := forwarded.numbered seqNum size (some bytes) rfl
    have short := forwarded.short
    have args : (CWVendorWumValues.cupFragment seqNum size (some bytes)).args =
        BigEndian.encode 4 seqNum.toNat ++ (BigEndian.encode 4 size.toNat ++ bytes) := rfl
    have long : (CWVendorWumValues.cupFragment seqNum size (some bytes)).body.length =
        11 + size.toNat := by
      simp [CWVendorWumValues.body, args, length]
      omega
    -- The two numbers fill the command buffer, and the bytes of the fragment stay on the socket.
    have numbers : fill (commandBuffer ++ [0, 0, 0])
        (BigEndian.encode 4 seqNum.toNat ++ (BigEndian.encode 4 size.toNat ++ bytes)) =
          (BigEndian.encode 4 seqNum.toNat ++ BigEndian.encode 4 size.toNat).map Cell.stream := by
      have eight : (commandBuffer ++ [0, 0, 0]).length = 8 := by simp [read]
      have front : ((BigEndian.encode 4 seqNum.toNat ++
          (BigEndian.encode 4 size.toNat ++ bytes)).take 8) =
            BigEndian.encode 4 seqNum.toNat ++ BigEndian.encode 4 size.toNat := by
        rw [← List.append_assoc]
        exact List.take_left' (by simp)
      have enough : (commandBuffer ++ [0, 0, 0]).length ≤ (BigEndian.encode 4 seqNum.toNat ++
          (BigEndian.encode 4 size.toNat ++ bytes)).length := by
        simp only [eight, List.length_append, BigEndian.length_encode]
        omega
      rw [fill_of_le enough, eight, front]
    have first : ((BigEndian.encode 4 seqNum.toNat ++ BigEndian.encode 4 size.toNat).map
        Cell.stream).take 4 = (BigEndian.encode 4 seqNum.toNat).map Cell.stream := by
      rw [List.map_append, List.take_left' (by simp)]
    have second : ((BigEndian.encode 4 seqNum.toNat ++ BigEndian.encode 4 size.toNat).map
        Cell.stream).drop 4 = (BigEndian.encode 4 size.toNat).map Cell.stream := by
      rw [List.map_append, List.drop_left' (by simp)]
    have fragment : fill (List.replicate size.toNat 0) bytes = bytes.map Cell.stream := by
      rw [fill_of_le (by simp [length]), List.take_of_length_le (by simp [length])]
    -- Read as signed the numbers are the same, so the AC does not refuse them.
    have accepted : ¬ ((seqNum.toNat : Int) < 0 ∨ (size.toNat : Int) ≤ 0) := by omega
    have kind : Interface.wum site.table site.memory commandBuffer site.index
        (wtpCupFragment :: (CWVendorWumValues.cupFragment seqNum size (some bytes)).args) =
          (.fill 1 1 :: (Interface.wumFragment site.table site.memory commandBuffer
            [.stream wtpCupFragment] site.index
            (CWVendorWumValues.cupFragment seqNum size (some bytes)).args).1,
            (Interface.wumFragment site.table site.memory commandBuffer [.stream wtpCupFragment]
              site.index (CWVendorWumValues.cupFragment seqNum size (some bytes)).args).2) := by
      simp only [Interface.wum, typeRead]
      rfl
    simp only [CWVendorWumValues.type]
    rw [kind, args]
    simp only [Interface.wumFragment, numbers, first, second, values_stream,
      drop_numbers,
      ntohl_encode small, ntohl_encode (show size.toNat < 2147483648 by omega), if_neg accepted,
      Int.toNat_natCast, fragment, List.filterMap_cons, Event.handedOver, handed_setValues]
    simp
  | plain type other =>
    have kind : Interface.wum site.table site.memory commandBuffer site.index [type] =
        (.fill 1 1 :: Interface.setValues site.table site.memory site.index
          (.wum [.stream type] []), some []) := by
      have read : (Interface.values [Cell.stream type]).headD 0 = type := rfl
      simp only [Interface.wum, typeRead, read]
      -- The type is neither that of an update request nor that of a fragment.
      split
      · exact absurd rfl other.1
      · exact absurd rfl other.2
      · rfl
    simp only [CWVendorWumValues.type, CWVendorWumValues.args]
    rw [kind]
    simp only [List.filterMap_cons, Event.handedOver, handed_setValues, List.map_nil]

theorem commands_eq (forwarded : values.Forwarded) :
    site.commands (wumSendMessage (toolRequest site.index values)) =
      [((site.index : Int), .wum [.stream values.type] (values.args.map Cell.stream))] := by
  have below := site_index_lt site
  have size := site.table.size
  have long : (htonl site.index).length = 4 := Interface.length_htonl
  have buffer : Interface.values (fill (List.replicate 5 0)
      (msgElementTypeVendorWUM :: (htonl site.index ++ (values.type :: values.args)))) =
        msgElementTypeVendorWUM :: htonl site.index := by
    rw [fill_of_le (by simp [long]), values_stream]
    simp [long]
  have rest : (msgElementTypeVendorWUM :: (htonl site.index ++ (values.type :: values.args))).drop 5 =
      values.type :: values.args := by
    simp [long]
  have number : ntohl (htonl site.index) = site.index := Interface.ntohl_htonl (by omega)
  have inside : (site.index : Int) < site.table.gWTPs.length := by omega
  have handed := @handed_wum site values forwarded (msgElementTypeVendorWUM :: htonl site.index)
    (by simp [long])
  simp only [Site.commands, wumSendMessage, toolRequest, wumRequest, confUpdateMsg, manageCommand,
    Interface.confUpdate, buffer, rest, List.drop_succ_cons, List.drop_zero, number, if_pos inside,
    site_isNotFree, if_true]
  simp only [Interface.manageElement, msgElementTypeVendorWUM, List.headD_cons, List.filterMap_cons,
    Event.handedOver]
  exact handed

theorem decode_number (number : UInt32) :
    UInt32.ofNat (BigEndian.decode (BigEndian.encode 4 number.toNat)) = number := by
  have small : number.toNat < 256 ^ 4 := number.toNat_lt
  rw [BigEndian.decode_encode_of_lt small, UInt32.ofNat_toNat]

theorem wumValues_eq (forwarded : values.Forwarded) :
    wumValues [.stream values.type] (values.args.map Cell.stream) = values := by
  have type : (Interface.values [.stream values.type]).headD 0 = values.type := rfl
  simp only [wumValues, type, values_stream]
  cases values with
  | updateRequest major minor revision packSize =>
    have known : ¬ (wtpUpdateRequest ≠ 3 ∧ wtpUpdateRequest ≠ 5) := by simp [wtpUpdateRequest]
    refine (dif_neg known).trans ((if_pos rfl).trans ?_)
    simp [CWVendorWumValues.args, decode_number]
  | cupFragment seqNum size buf =>
    obtain ⟨bytes, same, length⟩ := forwarded.sendable
    subst same
    have known : ¬ (wtpCupFragment ≠ 3 ∧ wtpCupFragment ≠ 5) := by simp [wtpCupFragment]
    have other : ¬ wtpCupFragment = wtpUpdateRequest := by simp [wtpCupFragment, wtpUpdateRequest]
    refine (dif_neg known).trans ((if_neg other).trans ?_)
    simp [CWVendorWumValues.args, decode_number, drop_numbers]
  | plain type other => exact dif_pos other

end Forwarding

/-! ## From the AC to the WTP -/

theorem cwProtocolAssembleConfigurationUpdateRequest_eq {values : CWVendorWumValues}
    (forwarded : values.Forwarded) :
    cwProtocolAssembleConfigurationUpdateRequest values =
      some (elementBytes vendorSpecPayload values.body) := by
  rw [cwProtocolAssembleConfigurationUpdateRequest,
    cwAssembleWTPVendorPayloadWUM_eq values forwarded.sendable forwarded.short]
  simp [contents_filled]

theorem manage_vendor {e : WireElement} (vendor : IsVendor e)
    {record : CWProtocolVendorSpecificValues}
    (reads : ReadsWhole (cwParseVendorPayload e.body.length) e.body record) :
    ∃ values, cwWTPManageConfigurationUpdate e.bytes = .saves values ∧
      values.protocolValues = some record := by
  have known : ∀ e' ∈ [e], Recognised e' := by
    intro e' member
    rw [List.mem_singleton.mp member]
    exact .inr vendor
  obtain ⟨message, ran⟩ := vendorMessage_single vendor reads
  have found : (recognised [e]).vendorMsgElemFound = true :=
    (vendorFound_iff [e]).mpr ⟨e, List.mem_singleton_self e, vendor⟩
  have noBinding : (recognised [e]).bindingMsgElemFound = false := by
    rw [Bool.eq_false_iff]
    intro found
    obtain ⟨e', member, binding⟩ := (bindingFound_iff [e]).mp found
    rw [List.mem_singleton.mp member] at binding
    exact vendor_not_binding vendor binding
  have single : e.bytes = [e].flatMap WireElement.bytes := by simp
  have parsed : parseFound [e] = .ok () ⟨(received ([e].flatMap WireElement.bytes)).advance
      ([e].flatMap WireElement.bytes).length, { recognised [e] with
        updateRequestType := some (lastType [e])
        protocolValues := some record }⟩ := by
    rw [parseFound, EStateM.run_bind, foundVendor_ok found ran]
    exact foundBinding_none noBinding
  rw [single, manage_eq known, parsed]
  exact ⟨_, rfl, rfl⟩

theorem readsWhole_vendor {values : CWVendorWumValues} (forwarded : values.Forwarded) :
    ReadsWhole (cwParseVendorPayload values.body.length) values.body (.wum values) := by
  have read := readsFrom_wumPayload values forwarded.sendable forwarded.short 0 (received values.body)
    [] (valid_received _) rfl (ahead_received _)
  exact read

/-- What the WTP saves is what the tool has sent. -/
theorem manages_forwarded {values : CWVendorWumValues} (forwarded : values.Forwarded) :
    ∃ request, cwWTPManageConfigurationUpdate (elementBytes vendorSpecPayload values.body) =
      .saves request ∧ request.protocolValues = some (.wum values) := by
  have small : (UInt16.ofNat vendorSpecPayload).toNat = vendorSpecPayload := rfl
  exact @manage_vendor ⟨.ofNat vendorSpecPayload, values.body, forwarded.short⟩ small _
    (readsWhole_vendor forwarded)

/-! ## From the WTP to the tool -/

theorem resultCodeOf_toNat (success : Bool) :
    (resultCodeOf success).toNat = if success then 0 else 3 := by
  cases success <;> rfl

theorem wumReceiveMessage_append {wtpId code : Nat} {payload : List UInt8}
    (number : wtpId < 2147483648) (small : code < 2147483648) (positive : 0 < payload.length)
    (short : payload.length < 2147483648) :
    wumReceiveMessage (htonl wtpId ++ (htonl code ++ (htonl payload.length ++ payload))) =
      some ⟨wtpId, code, payload, 0⟩ := by
  have first := @Interface.read32_append wtpId (by omega)
    (htonl code ++ (htonl payload.length ++ payload))
  have second := @Interface.read32_append code (by omega) (htonl payload.length ++ payload)
  have third := @Interface.read32_append payload.length (by omega) payload
  have last := Interface.readn_append payload []
  rw [List.append_nil] at last
  have some_ : (0 : Int) < payload.length := by omega
  simp only [wumReceiveMessage, first, second, third, Option.bind_eq_bind, Option.bind_some,
    if_pos some_, Int.toNat_natCast, last]
  rfl

theorem length_payload (type major minor revision : UInt8) :
    (AnswerPayload.payload (.wum type major minor revision)).length =
      if type = wtpVersionResponse then 4 else 1 := by
  by_cases version : type = wtpVersionResponse <;> simp [AnswerPayload.payload, version]

theorem length_payload_bounds (type major minor revision : UInt8) :
    0 < (AnswerPayload.payload (.wum type major minor revision)).length ∧
      (AnswerPayload.payload (.wum type major minor revision)).length ≤ 4 := by
  rw [length_payload]
  split <;> omega

/-- What the AC writes to the socket is all of the payload. -/
theorem cwSaveConfigurationUpdateResponseMessage_eq (code index : Nat)
    (type major minor revision : UInt8) :
    cwSaveConfigurationUpdateResponseMessage code index
        (.wum (some (AnswerPayload.payload (.wum type major minor revision)))) =
      some (htonl index ++ (htonl code ++
        (htonl (AnswerPayload.payload (.wum type major minor revision)).length ++
          AnswerPayload.payload (.wum type major minor revision))),
        decide (type = wtpCommitAck ∧ code = 0)) := by
  have head : (AnswerPayload.payload (.wum type major minor revision)).head? = some type := rfl
  simp only [cwSaveConfigurationUpdateResponseMessage, head, Option.bind_eq_bind, Option.bind_some,
    ← length_payload type major minor revision, if_neg (Nat.lt_irrefl _), List.take_length]
  rfl

/-- The AC writes what the WTP has answered, and the tool reads it. -/
theorem acManageUpdateResponse_eq {index : Nat} (inside : index < 2147483648) (success : Bool)
    (type major minor revision : UInt8) :
    ∃ stream close,
      acManageUpdateResponse index (elementBytes resultCodeWithPayloadType
        (AnswerPayload.body (resultCodeOf success) (.wum type major minor revision))) =
          some (stream, close) ∧
      wumReceiveMessage stream = some ⟨index, if success then 0 else 3,
        AnswerPayload.payload (.wum type major minor revision), 0⟩ := by
  have bounds := length_payload_bounds type major minor revision
  have short : (AnswerPayload.body (resultCodeOf success)
      (.wum type major minor revision)).length < 65536 := by
    rw [AnswerPayload.length_body]
    omega
  have ran := @run_updateResponse (resultCodeOf success) (.wum type major minor revision) short
    ⟨received (elementBytes resultCodeWithPayloadType
      (AnswerPayload.body (resultCodeOf success) (.wum type major minor revision))), none, none⟩ []
    (by simp [ahead_received])
  have saved := cwSaveConfigurationUpdateResponseMessage_eq (resultCodeOf success).toNat index type
    major minor revision
  have answered : acManageUpdateResponse index (elementBytes resultCodeWithPayloadType
      (AnswerPayload.body (resultCodeOf success) (.wum type major minor revision))) =
        cwSaveConfigurationUpdateResponseMessage (resultCodeOf success).toNat index
          (.wum (some (AnswerPayload.payload (.wum type major minor revision)))) := by
    rw [acManageUpdateResponse, ran]
    simp only [AnswerPayload.received, Option.bind_eq_bind, Option.bind_some]
  have small : (resultCodeOf success).toNat < 2147483648 := by
    rw [resultCodeOf_toNat]
    split <;> omega
  have read := wumReceiveMessage_append inside small bounds.1 (by omega)
  have code : ((resultCodeOf success).toNat : Int) = if success then 0 else 3 := by
    cases success <;> rfl
  refine ⟨_, _, answered.trans saved, ?_⟩
  rw [read, code]

theorem saved_answer {s : WUMState} {free : UInt64} {values : CWVendorWumValues} {saved : Saved}
    (saves : cwWTPSaveWUMValues s free values = some saved) :
    ∃ type major minor revision, saved.answer = .wum type major minor revision := by
  cases values with
  | updateRequest major minor revision packSize =>
    simp only [cwWTPSaveWUMValues] at saves
    split at saves
    · cases saves
      exact ⟨_, _, _, _, rfl⟩
    · split at saves
      · cases saves
        exact ⟨_, _, _, _, rfl⟩
      · split at saves <;> cases saves <;> exact ⟨_, _, _, _, rfl⟩
  | cupFragment seqNum size buf =>
    obtain ⟨stored, _, same⟩ := Option.bind_eq_some_iff.mp saves
    cases same
    exact ⟨_, _, _, _, rfl⟩
  | plain type other =>
    simp only [cwWTPSaveWUMValues] at saves
    split at saves
    · cases saves
      exact ⟨_, _, _, _, rfl⟩
    · split at saves
      · cases saves
        exact ⟨_, _, _, _, rfl⟩
      · split at saves <;> cases saves <;> exact ⟨_, _, _, _, rfl⟩

/-! ## There and back -/

theorem wtpManageUpdateRequest_eq (s : WUMState) (free : UInt64) {values : CWVendorWumValues}
    (forwarded : values.Forwarded) :
    wtpManageUpdateRequest s free (elementBytes vendorSpecPayload values.body) =
      (cwWTPSaveWUMValues s free values).map fun saved =>
        (elementBytes resultCodeWithPayloadType (saved.answer.body (resultCodeOf saved.success)),
          saved.wum) := by
  obtain ⟨request, manages, read⟩ := manages_forwarded forwarded
  simp only [wtpManageUpdateRequest, manages, read]
  cases cwWTPSaveWUMValues s free values with
  | none => rfl
  | some saved =>
    simp only [Option.bind_eq_bind, Option.bind_some, contents_filled, Option.map_some,
      cwAssembleVendorMsgElemResultCodeWithPayload_eq, Option.pure_def]

/-- A message that gets through does to the WTP what its values do, and the tool gets the answer
to it. -/
theorem Site.exchange_eq (site : Site) (free : UInt64) (s : WUMState) {values : CWVendorWumValues}
    (forwarded : values.Forwarded) :
    site.exchange free (toolRequest site.index values) s =
      (cwWTPSaveWUMValues s free values).map fun saved =>
        (saved.response site.index, saved.wum) := by
  have below := site_index_lt site
  have size := site.table.size
  rw [Site.exchange, commands_eq forwarded]
  simp only [wumValues_eq forwarded, cwProtocolAssembleConfigurationUpdateRequest_eq forwarded,
    Option.bind_eq_bind, Option.bind_some]
  rw [wtpManageUpdateRequest_eq s free forwarded]
  cases saves : cwWTPSaveWUMValues s free values with
  | none => simp only [Option.map_none, Option.bind_none]
  | some saved =>
    obtain ⟨type, major, minor, revision, answer⟩ := saved_answer saves
    have inside : site.index < 2147483648 := by omega
    obtain ⟨stream, close, answered, received⟩ := acManageUpdateResponse_eq inside saved.success type
      major minor revision
    rw [Option.map_some, Option.bind_some, answer, answered, Option.bind_some, received,
      Option.bind_some, Option.map_some, Saved.response, answer, Option.pure_def]

end WlanController.Vendor
