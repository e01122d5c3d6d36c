import WlanController.Requests.VendorMessage

/-!
# The two passes over an update request

The loop that counts and the loop that fills agree about a configuration update request if what is
filled was allocated, and if every element has left one record that is made of its bytes.  As the
last element alone decides what is allocated, and as there is one record of vendor payloads and one
of OFDM values, they agree about few requests.
-/

namespace WlanController.Requests

open Protocol Elements Vendor Binding

/-! ## What the loops are for -/

instance (e : WireElement) : Decidable (IsQos e) := inferInstanceAs (Decidable (_ = _))

instance (e : WireElement) : Decidable (IsOfdm e) := inferInstanceAs (Decidable (_ = _))

namespace ConfigurationUpdateValues

def qosRecords (values : ConfigurationUpdateValues) : List RadioQosValues :=
  (values.bindingValues.map UpdateValues.qosRecords).getD []

def ofdmRecords (values : ConfigurationUpdateValues) : List RadioOFDMValues :=
  (values.bindingValues.map UpdateValues.ofdmRecords).getD []

/-- There is one record for each element that is recognised, of the bytes of the element, and the
    reported type is that of an element. -/
structure StoresOnce (values : ConfigurationUpdateValues) (elements : List WireElement) : Prop where
  vendor : List.Forall₂ (fun e record => ReadsWhole (cwParseVendorPayload e.body.length) e.body record)
    (elements.filter fun e => IsVendor e) values.protocolValues.toList
  qos : List.Forall₂ (fun e record => ReadsWhole retrieveWTPQoS e.body record)
    (elements.filter fun e => IsQos e) values.qosRecords
  ofdm : List.Forall₂ (fun e record => ReadsWhole retrieveWTPOFDM e.body record)
    (elements.filter fun e => IsOfdm e) values.ofdmRecords
  reported : ∃ e ∈ elements, values.updateRequestType = some e.type.toNat

end ConfigurationUpdateValues

/-- The loops agree: nothing is accessed that was not allocated, what is saved is one record of each
    element, and nothing is saved of a request that is refused. -/
def PassesAgree (body : List UInt8) : Prop :=
  match cwWTPManageConfigurationUpdate body with
  | .saves values =>
      ∃ elements : List WireElement, body = elements.flatMap WireElement.bytes ∧
        values.StoresOnce elements
  | .returned => True
  | .astray => False

/-! ## When they agree -/

/-- The first loop skips what it recognises. -/
def recognitionTreatment : Treats Unit := fun _ _ elemType elemLen state =>
  if cwBindingCheckType elemType ∨ elemType = vendorSpecPayload then .skipped elemLen state
  else .refused state

def recognitionWalk (body : List UInt8) : Walk Unit := ⟨body, 0, body.length, recognitionTreatment⟩

/-- The first loop comes, inside the request, to an element of another type, or its last element
    announces more than there is. -/
def RefusedAtOnce (body : List UInt8) : Prop :=
  (recognitionWalk body).Contained ⟨0, ()⟩ ∧
    ((∃ p, (recognitionWalk body).RefusedAt ⟨0, ()⟩ p) ∨
      ∃ p, (recognitionWalk body).Ends ⟨0, ()⟩ p ∧ p.offset ≠ body.length)

/-- Which elements both loops store once. -/
inductive Storable : List WireElement → Prop where
  | qos {elements : List WireElement} (inhabited : elements ≠ [])
      (each : ∀ e ∈ elements, IsQos e ∧ e.body.length = qosLength) : Storable elements
  | ofdm {e : WireElement} (type : IsOfdm e) (length : e.body.length = ofdmLength) : Storable [e]
  | vendor {e : WireElement} (type : IsVendor e) (payload : WholePayload e.body) : Storable [e]

/-- The request is refused at once, its elements are stored one by one, or its last element is a
    vendor payload and there is one that is refused. -/
def PassesTogether (body : List UInt8) : Prop :=
  RefusedAtOnce body ∨
    ∃ elements : List WireElement, body = elements.flatMap WireElement.bytes ∧
      (Storable elements ∨ (∀ e ∈ elements, Recognised e) ∧
        lastType elements = vendorSpecPayload ∧ PayloadRefused body)

/-! ## Behind the first loop -/

section Found

variable {len : Nat} {s : Parsing ConfigurationUpdateValues}

theorem foundVendor_none (none : s.values.vendorMsgElemFound = false) :
    (parseFoundVendor len).run s = .ok () s := by
  simp only [parseFoundVendor, EStateM.run_bind, EStateM.run_get, none, Bool.false_eq_true, if_false]
  rfl

theorem foundVendor_ok (found : s.values.vendorMsgElemFound = true) {after : Parsing VendorValues}
    (ran : (cwParseVendorMessage len).run ⟨received s.message.msg, .initial⟩ = .ok () after) :
    (parseFoundVendor len).run s = .ok () { s with values := { s.values with
      updateRequestType := some s.values.GlobalElementType
      protocolValues := after.values.vendPtr.getD none } } := by
  rw [EStateM.run] at ran
  simp only [parseFoundVendor, EStateM.run_bind, EStateM.run_get, found, if_true, reportType,
    assigning, EStateM.run_modify]
  simp only [calling, EStateM.run, ran]

theorem foundVendor_error (found : s.values.vendorMsgElemFound = true) {stop : Stop}
    {after : Parsing VendorValues}
    (ran : (cwParseVendorMessage len).run ⟨received s.message.msg, .initial⟩ = .error stop after) :
    ∃ after', (parseFoundVendor len).run s = .error stop after' := by
  rw [EStateM.run] at ran
  simp only [parseFoundVendor, EStateM.run_bind, EStateM.run_get, found, if_true, reportType,
    assigning, EStateM.run_modify]
  simp only [calling, EStateM.run, ran]
  exact ⟨_, rfl⟩

theorem foundBinding_none (none : s.values.bindingMsgElemFound = false) :
    (parseFoundBinding len).run s = .ok () s := by
  simp only [parseFoundBinding, EStateM.run_bind, EStateM.run_get, none, Bool.false_eq_true, if_false]
  rfl

theorem foundBinding_ok (found : s.values.bindingMsgElemFound = true) {after : Parsing UpdateValues}
    (ran : (cwBindingParseConfigurationUpdateRequest len).run ⟨received s.message.msg, .initial⟩ =
      .ok () after) :
    (parseFoundBinding len).run s = .ok () { s with values := { s.values with
      updateRequestType := some s.values.GlobalElementType
      bindingValues := some after.values } } := by
  rw [EStateM.run] at ran
  simp only [parseFoundBinding, EStateM.run_bind, EStateM.run_get, found, if_true, reportType,
    assigning, EStateM.run_modify]
  simp only [calling, EStateM.run, ran]

theorem foundBinding_error (found : s.values.bindingMsgElemFound = true) {stop : Stop}
    {after : Parsing UpdateValues}
    (ran : (cwBindingParseConfigurationUpdateRequest len).run ⟨received s.message.msg, .initial⟩ =
      .error stop after) :
    ∃ after', (parseFoundBinding len).run s = .error stop after' := by
  rw [EStateM.run] at ran
  simp only [parseFoundBinding, EStateM.run_bind, EStateM.run_get, found, if_true, reportType,
    assigning, EStateM.run_modify]
  simp only [calling, EStateM.run, ran]
  exact ⟨_, rfl⟩

end Found

section Outcome

theorem of_astray {result : EStateM.Result Stop (Parsing ConfigurationUpdateValues) Unit}
    (astray : Treatment.Astray result) : UpdateOutcome.of result = .astray := by
  obtain ⟨stop, after, same, other⟩ := astray
  rw [same]
  cases stop with
  | failed failure =>
    cases failure with
    | raised code text => exact absurd rfl (other code text)
    | outOfBounds object => rfl
  | overrun => rfl
  | unfinished => rfl

/-- What is left behind the first loop. -/
def parseFound (elements : List WireElement) :
    EStateM.Result Stop (Parsing ConfigurationUpdateValues) Unit :=
  (do
    parseFoundVendor (elements.flatMap WireElement.bytes).length
    parseFoundBinding (elements.flatMap WireElement.bytes).length).run
      ⟨(received (elements.flatMap WireElement.bytes)).advance
        (elements.flatMap WireElement.bytes).length, recognised elements⟩

theorem manage_eq {elements : List WireElement} (known : ∀ e ∈ elements, Recognised e) :
    cwWTPManageConfigurationUpdate (elements.flatMap WireElement.bytes) =
      .of (parseFound elements) := by
  rw [cwWTPManageConfigurationUpdate, run_recognition known]
  rfl

theorem vendorFound_iff (elements : List WireElement) :
    (recognised elements).vendorMsgElemFound = true ↔ ∃ e ∈ elements, IsVendor e := by
  simp [recognised, IsVendor]

theorem bindingFound_iff (elements : List WireElement) :
    (recognised elements).bindingMsgElemFound = true ↔
      ∃ e ∈ elements, cwBindingCheckType e.type.toNat := by
  simp [recognised]

theorem vendor_not_binding {e : WireElement} (vendor : IsVendor e) :
    ¬ cwBindingCheckType e.type.toNat := by
  have type : e.type.toNat = vendorSpecPayload := vendor
  rw [type]
  decide

theorem qos_binding {e : WireElement} (qos : IsQos e) : cwBindingCheckType e.type.toNat := by
  have type : e.type.toNat = wtpQosType := qos
  rw [type]
  rfl

theorem ofdm_binding {e : WireElement} (ofdm : IsOfdm e) : cwBindingCheckType e.type.toNat := by
  have type : e.type.toNat = ofdmControlType := ofdm
  rw [type]
  rfl

/-- Elements of the binding alone. -/
theorem parseFound_binding {elements : List WireElement} (inhabited : elements ≠ [])
    (binding : ∀ e ∈ elements, cwBindingCheckType e.type.toNat) {filled : UpdateValues}
    (passed : updatePass elements = some filled) :
    ∃ message, parseFound elements = .ok () ⟨message, { recognised elements with
      updateRequestType := some (lastType elements)
      bindingValues := some filled }⟩ := by
  have noVendor : (recognised elements).vendorMsgElemFound = false := by
    rw [Bool.eq_false_iff]
    intro found
    obtain ⟨e, member, vendor⟩ := (vendorFound_iff elements).mp found
    exact vendor_not_binding vendor (binding e member)
  have found : (recognised elements).bindingMsgElemFound = true := by
    obtain ⟨e, member, _⟩ := exists_lastType inhabited
    exact (bindingFound_iff elements).mpr ⟨e, member, binding e member⟩
  obtain ⟨message, ran⟩ := run_updatePass passed
  refine ⟨(received (elements.flatMap WireElement.bytes)).advance
    (elements.flatMap WireElement.bytes).length, ?_⟩
  rw [parseFound, EStateM.run_bind, foundVendor_none noVendor]
  exact foundBinding_ok (s := ⟨(received (elements.flatMap WireElement.bytes)).advance
    (elements.flatMap WireElement.bytes).length, recognised elements⟩) found ran

/-- What is left astray by the elements of the binding. -/
theorem parseFound_astray_binding {elements : List WireElement} {s : Parsing ConfigurationUpdateValues}
    (vendor : (parseFoundVendor (elements.flatMap WireElement.bytes).length).run
      ⟨(received (elements.flatMap WireElement.bytes)).advance
        (elements.flatMap WireElement.bytes).length, recognised elements⟩ = .ok () s)
    (same : s.message.msg = elements.flatMap WireElement.bytes)
    (found : s.values.bindingMsgElemFound = true) (failed : updatePass elements = none) :
    Treatment.Astray (parseFound elements) := by
  obtain ⟨stop, after, ran, other⟩ := astray_updatePass failed
  rw [← same] at ran
  obtain ⟨after', ran'⟩ := foundBinding_error found ran
  refine ⟨stop, after', ?_, other⟩
  rw [parseFound, EStateM.run_bind, vendor]
  rw [← same]
  exact ran'

/-! ## Requests of elements that are stored -/

theorem filter_eq_nil {elements : List WireElement} {Kind : WireElement → Prop} [DecidablePred Kind]
    (none : ∀ e ∈ elements, ¬ Kind e) : (elements.filter fun e => Kind e) = [] := by
  rw [List.filter_eq_nil_iff]
  intro e member
  simpa using none e member

theorem filter_eq_self {elements : List WireElement} {Kind : WireElement → Prop} [DecidablePred Kind]
    (all : ∀ e ∈ elements, Kind e) : (elements.filter fun e => Kind e) = elements := by
  rw [List.filter_eq_self]
  intro e member
  simpa using all e member

theorem agree_qos {elements : List WireElement} (inhabited : elements ≠ [])
    (each : ∀ e ∈ elements, IsQos e ∧ e.body.length = qosLength) :
    PassesAgree (elements.flatMap WireElement.bytes) := by
  have only (e : WireElement) (member : e ∈ elements) : IsQos e := (each e member).1
  have binding (e : WireElement) (member : e ∈ elements) : cwBindingCheckType e.type.toNat :=
    qos_binding (only e member)
  have notOfdm (e : WireElement) (member : e ∈ elements) : ¬ IsOfdm e := by
    intro ofdm
    have type : e.type.toNat = wtpQosType := only e member
    rw [IsOfdm, type] at ofdm
    exact absurd ofdm (by decide)
  obtain ⟨filled, passed⟩ := exists_updatePass_qosElements inhabited each
  have records := updatePass_qosElements inhabited only passed
  have noOfdm : filled.ofdmBindingPtr = none := by
    obtain ⟨e, member, type⟩ := exists_lastType inhabited
    cases updatePass_spec passed with
    | inl qos => exact qos.2.1
    | inr others =>
      cases others with
      | inl ofdm => exact absurd (ofdm.2.2 e member (binding e member)) (notOfdm e member)
      | inr none => exact absurd (binding e member) (none e member)
  obtain ⟨message, ran⟩ := parseFound_binding inhabited binding passed
  rw [PassesAgree, manage_eq fun e member => .inl (binding e member), ran]
  refine ⟨elements, rfl, ?_, ?_, ?_, ?_⟩
  · rw [filter_eq_nil fun e member vendor => vendor_not_binding vendor (binding e member)]
    exact .nil
  · rw [filter_eq_self only]
    exact records.imp fun e record => readsWhole_of_wholeValue fixedSize_qos.alike
  · rw [filter_eq_nil notOfdm]
    show List.Forall₂ _ [] filled.ofdmRecords
    rw [UpdateValues.ofdmRecords, noOfdm]
    exact .nil
  · obtain ⟨e, member, type⟩ := exists_lastType inhabited
    exact ⟨e, member, by rw [type]⟩

theorem agree_ofdm {e : WireElement} (ofdm : IsOfdm e) (length : e.body.length = ofdmLength) :
    PassesAgree ([e].flatMap WireElement.bytes) := by
  have type : e.type.toNat = ofdmControlType := ofdm
  have notQos : ¬ IsQos e := by
    rw [IsQos, type]
    decide
  obtain ⟨record, whole⟩ := Option.isSome_iff_exists.mp
    ((fixedSize_ofdm.wholeValue_isSome_iff e.body).mpr length)
  have passed := updatePass_ofdmElement ofdm
  rw [whole] at passed
  have binding : ∀ e' ∈ [e], cwBindingCheckType e'.type.toNat := by
    simpa using ofdm_binding ofdm
  obtain ⟨message, ran⟩ := parseFound_binding (List.cons_ne_nil e []) binding passed
  rw [PassesAgree, manage_eq fun e member => .inl (binding e member), ran]
  refine ⟨[e], rfl, ?_, ?_, ?_, e, List.mem_singleton_self e, rfl⟩
  · rw [filter_eq_nil fun e member vendor => vendor_not_binding vendor (binding e member)]
    exact .nil
  · rw [filter_eq_nil (by simpa using notQos)]
    exact .nil
  · rw [filter_eq_self (by simpa using ofdm)]
    exact .cons (readsWhole_of_wholeValue fixedSize_ofdm.alike whole) .nil

theorem agree_vendor {e : WireElement} (vendor : IsVendor e) (payload : WholePayload e.body) :
    PassesAgree ([e].flatMap WireElement.bytes) := by
  have type : e.type.toNat = vendorSpecPayload := vendor
  have known : ∀ e' ∈ [e], Recognised e' := by
    intro e' member
    rw [List.mem_singleton.mp member]
    exact .inr vendor
  obtain ⟨record, reads⟩ := (exists_readsWhole_iff e.body.length e.body).mpr payload
  obtain ⟨message, ran⟩ := vendorMessage_single vendor reads
  have found : (recognised [e]).vendorMsgElemFound = true :=
    (vendorFound_iff [e]).mpr ⟨e, List.mem_singleton_self e, vendor⟩
  have noBinding : (recognised [e]).bindingMsgElemFound = false := by
    rw [Bool.eq_false_iff]
    intro found
    obtain ⟨e', member, binding⟩ := (bindingFound_iff [e]).mp found
    rw [List.mem_singleton.mp member] at binding
    exact vendor_not_binding vendor binding
  have parsed : ∃ message, parseFound [e] = .ok () ⟨message, { recognised [e] with
      updateRequestType := some (lastType [e])
      protocolValues := some record }⟩ := by
    refine ⟨(received ([e].flatMap WireElement.bytes)).advance
      ([e].flatMap WireElement.bytes).length, ?_⟩
    rw [parseFound, EStateM.run_bind, foundVendor_ok found ran]
    exact foundBinding_none noBinding
  obtain ⟨message', ran'⟩ := parsed
  rw [PassesAgree, manage_eq known, ran']
  refine ⟨[e], rfl, ?_, ?_, ?_, e, List.mem_singleton_self e, rfl⟩
  · rw [filter_eq_self (by simpa using vendor)]
    exact .cons reads .nil
  · rw [filter_eq_nil (by simp [IsQos, type, vendorSpecPayload, wtpQosType])]
    exact .nil
  · rw [filter_eq_nil (by simp [IsOfdm, type, vendorSpecPayload, ofdmControlType])]
    exact .nil

/-! ## Requests that are refused -/

theorem recognition_conforms :
    Conforms recogniseUpdateElement recognitionTreatment fun _ => () := by
  intro elemType elemLen s valid
  rw [recogniseUpdateElement, recognitionTreatment]
  by_cases binding : cwBindingCheckType elemType
  · rw [if_pos binding, if_pos (.inl binding)]
    constructor
    · exact fun _ _ => ⟨_, rfl, rfl, rfl, rfl⟩
    · exact fun _ refused => absurd trivial refused
    · exact fun outside => absurd ⟨valid, trivial⟩ outside
  rw [if_neg binding]
  by_cases vendor : elemType = vendorSpecPayload
  · rw [if_pos vendor, if_pos (.inr vendor)]
    constructor
    · exact fun _ _ => ⟨_, rfl, rfl, rfl, rfl⟩
    · exact fun _ refused => absurd trivial refused
    · exact fun outside => absurd ⟨valid, trivial⟩ outside
  · rw [if_neg vendor, if_neg (not_or_intro binding vendor)]
    constructor
    · exact fun _ accepted => accepted.elim
    · exact fun _ _ => ⟨_, _, _, rfl, rfl⟩
    · exact fun outside => absurd ⟨valid, trivial⟩ outside

theorem skips_recognise : Skips recogniseUpdateElement := by
  intro elemType elemLen s s' ran
  rw [recogniseUpdateElement] at ran
  split at ran
  next binding =>
    cases ran
    rfl
  next notBinding =>
    split at ran
    next vendor =>
      cases ran
      rfl
    next other => cases ran

/-- What the first loop leaves of a request. -/
theorem recognition_cases (body : List UInt8) :
    (RefusedAtOnce body ∧ cwWTPManageConfigurationUpdate body = .returned) ∨
      (¬ RefusedAtOnce body ∧ cwWTPManageConfigurationUpdate body = .astray) ∨
        ¬ RefusedAtOnce body ∧ ∃ elements : List WireElement,
          body = elements.flatMap WireElement.bytes ∧ ∀ e ∈ elements, Recognised e := by
  have follows := Walk.cwParseElements_follows recognitionTreatment recognition_conforms body.length
    ⟨received body, .initial⟩ (recognitionWalk body) ⟨0, ()⟩ rfl rfl
  by_cases contained : (recognitionWalk body).Contained ⟨0, ()⟩
  case neg =>
    obtain ⟨stop, after, ran, other⟩ := follows.2 contained
    have astray : Treatment.Astray ((cwParseConfigurationUpdateRequest body.length).run
        ⟨received body, .initial⟩) := by
      refine ⟨stop, after, ?_, other⟩
      rw [cwParseConfigurationUpdateRequest, EStateM.run_bind, ran]
    exact .inr (.inl ⟨fun refused => contained refused.1, of_astray astray⟩)
  case pos =>
    cases follows.1 contained with
    | inr raised =>
      obtain ⟨p, code, text, after, refused, ran, _⟩ := raised
      refine .inl ⟨⟨contained, .inl ⟨p, refused⟩⟩, ?_⟩
      rw [cwWTPManageConfigurationUpdate, cwParseConfigurationUpdateRequest, EStateM.run_bind, ran]
      rfl
    | inl returned =>
      obtain ⟨p, after, ends, ran, bytes, offset, _⟩ := returned
      by_cases whole : p.offset = body.length
      case neg =>
        refine .inl ⟨⟨contained, .inr ⟨p, ends, whole⟩⟩, ?_⟩
        have garbage : after.message.offset ≠ after.message.msg.length := by
          rw [offset, bytes]
          exact whole
        rw [cwWTPManageConfigurationUpdate, cwParseConfigurationUpdateRequest, EStateM.run_bind, ran]
        simp only [expectingEnd, EStateM.run_bind, EStateM.run_get, if_pos garbage]
        rfl
      case pos =>
        have last : after.message.offset = after.message.msg.length := by
          rw [offset, bytes]
          exact whole
        have notRefused : ¬ RefusedAtOnce body := by
          intro refused
          cases refused.2 with
          | inl refusedAt =>
            obtain ⟨p', refusedAt⟩ := refusedAt
            exact ends.not_refusedAt refusedAt
          | inr garbage =>
            obtain ⟨p', ends', short⟩ := garbage
            rw [← ends.unique ends'] at short
            exact short whole
        obtain ⟨elements, rfl⟩ := elements_of_ok skips_recognise ran last
        refine .inr (.inr ⟨notRefused, elements, rfl, ?_⟩)
        by_contra unknown
        simp only [not_forall] at unknown
        obtain ⟨e, member, other⟩ := unknown
        -- the loop would have ended with the element
        obtain ⟨stop, after', ran'⟩ := parseElements_of_stops (fun e values => recognise e values)
          takes_recognise stops_recognise (elements.flatMap WireElement.bytes).length 0 elements
          ((elements.flatMap WireElement.bytes).length + 1)
          ⟨received (elements.flatMap WireElement.bytes), .initial⟩ [] (valid_received _)
          (ahead_received _) (Nat.le_refl _) (Nat.zero_add _)
          (fun e _ => bytes_ne_nil_of_header WireElement.header_le e)
          (recognises_none elements ⟨e, member, other⟩ _)
        simp only [cwParseElements, EStateM.run_bind, EStateM.run_get] at ran
        rw [show (received (elements.flatMap WireElement.bytes)).offset = 0 from rfl, ran'] at ran
        cases ran

theorem agree_refusedAtOnce {body : List UInt8} (refused : RefusedAtOnce body) :
    PassesAgree body := by
  rw [PassesAgree]
  cases recognition_cases body with
  | inl returned =>
    rw [returned.2]
    trivial
  | inr others =>
    cases others with
    | inl astray => exact absurd refused astray.1
    | inr known => exact absurd refused known.1

/-- A payload that is refused behind which there is another one. -/
theorem agree_payloadRefused {elements : List WireElement} (known : ∀ e ∈ elements, Recognised e)
    (last : lastType elements = vendorSpecPayload)
    (refused : PayloadRefused (elements.flatMap WireElement.bytes)) :
    PassesAgree (elements.flatMap WireElement.bytes) := by
  have inhabited : elements ≠ [] := by
    intro empty
    rw [empty] at last
    exact absurd last (by decide)
  have found : (recognised elements).vendorMsgElemFound = true := by
    obtain ⟨e, member, type⟩ := exists_lastType inhabited
    exact (vendorFound_iff elements).mpr ⟨e, member, type.trans last⟩
  obtain ⟨code, text, after, ran⟩ := raised_vendorMessage last refused
  obtain ⟨after', ran'⟩ := foundVendor_error (s :=
    ⟨(received (elements.flatMap WireElement.bytes)).advance
      (elements.flatMap WireElement.bytes).length, recognised elements⟩) found ran
  have returned : parseFound elements = .error (.failed (.raised code text)) after' := by
    rw [parseFound, EStateM.run_bind, ran']
  rw [PassesAgree, manage_eq known, returned]
  trivial

theorem agree_of_together {body : List UInt8} (together : PassesTogether body) :
    PassesAgree body := by
  cases together with
  | inl refused => exact agree_refusedAtOnce refused
  | inr elements =>
    obtain ⟨elements, rfl, stored⟩ := elements
    cases stored with
    | inr refused => exact agree_payloadRefused refused.1 refused.2.1 refused.2.2
    | inl storable =>
      cases storable with
      | qos inhabited each => exact agree_qos inhabited each
      | ofdm type length => exact agree_ofdm type length
      | vendor type payload => exact agree_vendor type payload

/-! ## Requests about which they disagree -/

/-- What is saved is found among the elements of the request alone. -/
theorem stores_of_agree {elements : List WireElement} {values : ConfigurationUpdateValues}
    (agree : PassesAgree (elements.flatMap WireElement.bytes))
    (saves : cwWTPManageConfigurationUpdate (elements.flatMap WireElement.bytes) = .saves values) :
    values.StoresOnce elements := by
  rw [PassesAgree, saves] at agree
  obtain ⟨elements', same, stored⟩ := agree
  rw [WireElement.flatMap_bytes_injective same]
  exact stored

theorem not_agree_of_astray {elements : List WireElement} (known : ∀ e ∈ elements, Recognised e)
    (astray : Treatment.Astray (parseFound elements)) :
    ¬ PassesAgree (elements.flatMap WireElement.bytes) := by
  rw [PassesAgree, manage_eq known, of_astray astray]
  exact id

/-- One record is of one element. -/
theorem eq_singleton_of_forall₂ {α : Type} {Stored : WireElement → α → Prop}
    {elements : List WireElement} {record : Option α} (inhabited : elements ≠ [])
    (stored : List.Forall₂ Stored elements record.toList) :
    ∃ e value, elements = [e] ∧ record = some value ∧ Stored e value := by
  cases record with
  | none =>
    cases stored
    exact absurd rfl inhabited
  | some value =>
    cases stored with
    | cons here rest =>
      cases rest
      exact ⟨_, value, rfl, rfl, here⟩

theorem exists_stored_of_forall₂ {α : Type} {Stored : WireElement → α → Prop}
    {elements : List WireElement} {records : List α} (stored : List.Forall₂ Stored elements records)
    {e : WireElement} (member : e ∈ elements) : ∃ value, Stored e value := by
  induction stored with
  | nil => cases member
  | cons here rest inductionHypothesis =>
    cases member with
    | head => exact ⟨_, here⟩
    | tail _ later => exact inductionHypothesis later

theorem storable_of_binding {elements : List WireElement}
    (binding : ∀ e ∈ elements, cwBindingCheckType e.type.toNat)
    (agree : PassesAgree (elements.flatMap WireElement.bytes)) : Storable elements := by
  have known (e : WireElement) (member : e ∈ elements) : Recognised e := .inl (binding e member)
  have noVendor : (recognised elements).vendorMsgElemFound = false := by
    rw [Bool.eq_false_iff]
    intro found
    obtain ⟨e, member, vendor⟩ := (vendorFound_iff elements).mp found
    exact vendor_not_binding vendor (binding e member)
  by_cases inhabited : elements ≠ []
  case neg =>
    -- nothing is reported of a request without elements
    rw [not_not] at inhabited
    subst inhabited
    have stored := stores_of_agree agree (manage_eq known)
    obtain ⟨e, member, _⟩ := stored.reported
    cases member
  case pos =>
    cases passed : updatePass elements with
    | none =>
      have found : (recognised elements).bindingMsgElemFound = true := by
        obtain ⟨e, member, _⟩ := exists_lastType inhabited
        exact (bindingFound_iff elements).mpr ⟨e, member, binding e member⟩
      have astray := parseFound_astray_binding (foundVendor_none noVendor) rfl found passed
      exact absurd agree (not_agree_of_astray known astray)
    | some filled =>
      obtain ⟨message, ran⟩ := parseFound_binding inhabited binding passed
      have saves := manage_eq known
      rw [ran] at saves
      have stored := stores_of_agree agree saves
      cases updatePass_spec passed with
      | inl qos =>
        have only (e : WireElement) (member : e ∈ elements) : IsQos e :=
          qos.2.2 e member (binding e member)
        have records := updatePass_qosElements inhabited only passed
        apply Storable.qos inhabited
        intro e member
        obtain ⟨record, whole⟩ := exists_stored_of_forall₂ records member
        refine ⟨only e member, ?_⟩
        rw [← fixedSize_qos.wholeValue_isSome_iff, whole]
        rfl
      | inr others =>
        cases others with
        | inr none =>
          obtain ⟨e, member, _⟩ := exists_lastType inhabited
          exact absurd (binding e member) (none e member)
        | inl ofdm =>
          have only (e : WireElement) (member : e ∈ elements) : IsOfdm e :=
            ofdm.2.2 e member (binding e member)
          have records := stored.ofdm
          rw [filter_eq_self only] at records
          obtain ⟨e, record, rfl, _, reads⟩ := eq_singleton_of_forall₂ inhabited
            (show List.Forall₂ _ elements (filled.ofdmBindingPtr.getD Option.none).toList from records)
          apply Storable.ofdm (only e (List.mem_singleton_self e))
          rw [← fixedSize_ofdm.wholeValue_isSome_iff, wholeValue_of_readsWhole reads]
          rfl

/-- What is left of a request with vendor payloads. -/
theorem parseFound_vendor_error {elements : List WireElement} (vendor : ∃ e ∈ elements, IsVendor e)
    (astray : Treatment.Astray ((cwParseVendorMessage (elements.flatMap WireElement.bytes).length).run
      ⟨received (elements.flatMap WireElement.bytes), .initial⟩)) :
    Treatment.Astray (parseFound elements) := by
  obtain ⟨stop, after, ran, other⟩ := astray
  have found := (vendorFound_iff elements).mpr vendor
  obtain ⟨after', ran'⟩ := foundVendor_error (s :=
    ⟨(received (elements.flatMap WireElement.bytes)).advance
      (elements.flatMap WireElement.bytes).length, recognised elements⟩) found ran
  refine ⟨stop, after', ?_, other⟩
  rw [parseFound, EStateM.run_bind, ran']

/-- Where the last element is a payload, nothing is allocated for the elements of the binding. -/
theorem updatePass_lastVendor {elements : List WireElement}
    (last : lastType elements = vendorSpecPayload)
    (binding : ∃ e ∈ elements, cwBindingCheckType e.type.toNat) : updatePass elements = none := by
  cases passed : updatePass elements with
  | none => rfl
  | some filled =>
    cases updatePass_spec passed with
    | inl qos =>
      rw [qos.1] at last
      exact absurd last (by decide)
    | inr others =>
      cases others with
      | inl ofdm =>
        rw [ofdm.1] at last
        exact absurd last (by decide)
      | inr none =>
        obtain ⟨e, member, isBinding⟩ := binding
        exact absurd isBinding (none e member)

theorem together_of_vendor {elements : List WireElement} (known : ∀ e ∈ elements, Recognised e)
    (vendor : ∃ e ∈ elements, IsVendor e)
    (agree : PassesAgree (elements.flatMap WireElement.bytes)) :
    Storable elements ∨
      lastType elements = vendorSpecPayload ∧ PayloadRefused (elements.flatMap WireElement.bytes) := by
  have found := (vendorFound_iff elements).mpr vendor
  have notAstray := fun astray => not_agree_of_astray known astray agree
  by_cases last : lastType elements = vendorSpecPayload
  case neg =>
    exact absurd (parseFound_vendor_error vendor (astray_vendorMessage vendor last)) notAstray
  case pos =>
    cases vendorMessage_cases last rfl with
    | inl astray => exact absurd (parseFound_vendor_error vendor astray) notAstray
    | inr others =>
      cases others with
      | inr refused => exact .inr ⟨last, refused⟩
      | inl returned =>
        obtain ⟨after, ran⟩ := returned
        have vendorPart := foundVendor_ok (s :=
          ⟨(received (elements.flatMap WireElement.bytes)).advance
            (elements.flatMap WireElement.bytes).length, recognised elements⟩) found ran
        by_cases binding : ∃ e ∈ elements, cwBindingCheckType e.type.toNat
        case pos =>
          have astray := parseFound_astray_binding vendorPart rfl
            ((bindingFound_iff elements).mpr binding) (updatePass_lastVendor last binding)
          exact absurd astray notAstray
        case neg =>
          have noBinding : (recognised elements).bindingMsgElemFound = false := by
            rw [Bool.eq_false_iff]
            exact fun found => binding ((bindingFound_iff elements).mp found)
          have only (e : WireElement) (member : e ∈ elements) : IsVendor e := by
            cases known e member with
            | inl isBinding => exact absurd ⟨e, member, isBinding⟩ binding
            | inr isVendor => exact isVendor
          have saves := manage_eq known
          rw [parseFound, EStateM.run_bind, vendorPart] at saves
          simp only at saves
          rw [foundBinding_none noBinding] at saves
          have stored := (stores_of_agree agree saves).vendor
          rw [filter_eq_self only] at stored
          have inhabited : elements ≠ [] := by
            obtain ⟨e, member, _⟩ := vendor
            exact List.ne_nil_of_mem member
          obtain ⟨e, record, rfl, _, reads⟩ := eq_singleton_of_forall₂ inhabited stored
          have payload := (exists_readsWhole_iff e.body.length e.body).mp ⟨record, reads⟩
          exact .inl (.vendor (only e (List.mem_singleton_self e)) payload)

theorem together_of_agree {body : List UInt8} (agree : PassesAgree body) : PassesTogether body := by
  cases recognition_cases body with
  | inl refused => exact .inl refused.1
  | inr others =>
    cases others with
    | inl astray =>
      rw [PassesAgree, astray.2] at agree
      exact agree.elim
    | inr recognition =>
      obtain ⟨_, elements, rfl, known⟩ := recognition
      refine .inr ⟨elements, rfl, ?_⟩
      by_cases vendor : ∃ e ∈ elements, IsVendor e
      case pos =>
        cases together_of_vendor known vendor agree with
        | inl storable => exact .inl storable
        | inr refused => exact .inr ⟨known, refused.1, refused.2⟩
      case neg =>
        have binding (e : WireElement) (member : e ∈ elements) :
            cwBindingCheckType e.type.toNat := by
          cases known e member with
          | inl isBinding => exact isBinding
          | inr isVendor => exact absurd ⟨e, member, isVendor⟩ vendor
        exact .inl (storable_of_binding binding agree)

end Outcome

end WlanController.Requests
