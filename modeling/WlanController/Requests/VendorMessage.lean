import WlanController.Requests.ConfigurationUpdate

/-!
# The vendor payloads of an update request

The parser of the vendor payloads allocates one record if the last element is a payload, and every
payload is read into that record.
-/

namespace WlanController.Requests

open Protocol Elements Vendor Binding

def IsVendor (e : WireElement) : Prop := e.type.toNat = vendorSpecPayload

instance (e : WireElement) : Decidable (IsVendor e) := inferInstanceAs (Decidable (_ = _))

/-- The loop that fills, with whether there is something to fill. -/
def vendorTreatment : Treats Bool := fun bytes offset elemType elemLen state =>
  if elemType = vendorSpecPayload then
    { payloadTreatment (fun _ state => state) bytes offset state with
      fits := state ∧ PayloadAllocatable bytes offset }
  else .skipped elemLen state

def vendorWalk (body : List UInt8) : Walk Bool := ⟨body, 0, body.length, vendorTreatment⟩

/-- The loop over the vendor payloads comes, inside the request, to a payload of an unknown type. -/
def PayloadRefused (body : List UInt8) : Prop :=
  (vendorWalk body).Contained ⟨0, true⟩ ∧ ∃ p, (vendorWalk body).RefusedAt ⟨0, true⟩ p

/-- The payload is as long as the body. -/
structure WholePayload (body : List UInt8) : Prop where
  allocatable : PayloadAllocatable body 0
  known : (vendorPayloadLayout.value body 0).isOk
  whole : vendorPayloadLayout.size body 0 = body.length

/-! ## The loop over the payloads -/

section VendorPass

/-- There is something to fill. -/
def VendorValues.isSet (values : VendorValues) : Bool := values.vendPtr.isSome

theorem vendor_conforms : Conforms fillVendorElement vendorTreatment VendorValues.isSet := by
  intro elemType elemLen s valid
  rw [fillVendorElement, vendorTreatment]
  by_cases vendor : elemType = vendorSpecPayload
  · rw [if_pos vendor, if_pos vendor]
    simp only [EStateM.run_bind, EStateM.run_get]
    cases set : s.values.vendPtr with
    | none =>
      apply Treatment.describes_overrun
      intro fits
      rw [VendorValues.isSet, set] at fits
      cases fits.1
    | some pointer =>
      have isSet : s.values.isSet = true := by rw [VendorValues.isSet, set]; rfl
      have noted (value : CWProtocolVendorSpecificValues) :
          (⟨s.values.GlobalElemType, some (some value)⟩ : VendorValues).isSet = s.values.isSet :=
        isSet.symm
      have described : (payloadTreatment (fun _ state => state) s.message.msg s.message.offset
          s.values.isSet).Describes VendorValues.isSet s ((do
            let value ← reading (cwParseVendorPayload elemLen)
            assigning fun values : VendorValues =>
              { values with vendPtr := some (some value) }).run s) :=
        describes_vendorPayload elemLen valid noted
      exact described.congr rfl rfl (and_iff_right isSet) Iff.rfl rfl
  · rw [if_neg vendor, if_neg vendor]
    exact Treatment.describes_skipping elemLen valid

/-- What the first loop makes of an element. -/
def countVendor (e : WireElement) (values : VendorValues) : Option VendorValues :=
  some { values with GlobalElemType := e.type.toNat }

theorem takes_countVendor (e : WireElement) (values values' : VendorValues)
    (counts : countVendor e values = some values') :
    Takes countVendorElement e.bytes values values' := by
  cases counts
  apply e.takes_skipping
  intro message
  rfl

theorem counts_vendor (elements : List WireElement) (values : VendorValues) :
    elements.foldlM (fun values e => countVendor e values) values =
      some { values with
        GlobalElemType := (elements.getLast?.map fun e => e.type.toNat).getD values.GlobalElemType } := by
  induction elements generalizing values with
  | nil => rfl
  | cons e elements inductionHypothesis =>
    have here : countVendor e values = some { values with GlobalElemType := e.type.toNat } := rfl
    rw [List.foldlM_cons, here, Option.bind_eq_bind, Option.bind_some, inductionHypothesis,
      List.getLast?_cons]
    cases elements.getLast? <;> rfl

/-- What is allocated for the elements. -/
def vendorAllocated (elements : List WireElement) : VendorValues :=
  (VendorValues.mk (lastType elements) none).allocated

/-- The loop that fills is what is left of the parser. -/
theorem run_vendorMessage (elements : List WireElement) :
    (cwParseVendorMessage (elements.flatMap WireElement.bytes).length).run
        ⟨received (elements.flatMap WireElement.bytes), .initial⟩ =
      (cwParseElements fillVendorElement (elements.flatMap WireElement.bytes).length).run
        ⟨received (elements.flatMap WireElement.bytes), vendorAllocated elements⟩ := by
  have allocates (message : CWProtocolMessage) :
      (assigning VendorValues.allocated).run ⟨message, ⟨lastType elements, none⟩⟩ =
        .ok () ⟨message, vendorAllocated elements⟩ := rfl
  exact run_parsingTwice _ takes_countVendor WireElement.header_le elements
    (counts_vendor elements .initial) allocates

/-- What the second loop makes of an element when nothing was allocated. -/
def fillUnset (e : WireElement) (values : VendorValues) : Option VendorValues :=
  if e.type.toNat = vendorSpecPayload then none else some values

theorem takes_fillUnset (e : WireElement) (values values' : VendorValues)
    (taken : fillUnset e values = some values') :
    Takes fillVendorElement e.bytes values values' ∧ values' = values := by
  rw [fillUnset] at taken
  split at taken
  next vendor => cases taken
  next other =>
    cases taken
    refine ⟨e.takes_skipping fun message => ?_, rfl⟩
    rw [fillVendorElement, if_neg other]
    rfl

theorem astrays_fillUnset (e : WireElement) (values : VendorValues) (unset : values.vendPtr = none)
    (taken : fillUnset e values = none) : Astrays fillVendorElement e.bytes values := by
  rw [fillUnset] at taken
  split at taken
  next vendor =>
    apply astrays_of_body e.type.toNat_lt e.short
    intro s rest _ _ same
    rw [fillVendorElement, if_pos vendor]
    simp only [EStateM.run_bind, EStateM.run_get, same, unset]
    exact ⟨.overrun, _, rfl, nofun⟩
  next other => cases taken

theorem fillsUnset_none (elements : List WireElement) (vendor : ∃ e ∈ elements, IsVendor e)
    (values : VendorValues) :
    elements.foldlM (fun values e => fillUnset e values) values = none := by
  induction elements with
  | nil =>
    obtain ⟨e, member, _⟩ := vendor
    cases member
  | cons e elements inductionHypothesis =>
    rw [List.foldlM_cons, Option.bind_eq_bind, Option.bind_eq_none_iff]
    intro values' taken
    rw [(takes_fillUnset e values values' taken).2]
    obtain ⟨e', member, isVendor⟩ := vendor
    cases member with
    | tail _ later => exact inductionHypothesis ⟨e', later, isVendor⟩
    | head =>
      have type : e.type.toNat = vendorSpecPayload := isVendor
      rw [fillUnset, if_pos type] at taken
      cases taken

/-- Nothing was allocated for a payload if the last element is another one. -/
theorem astray_vendorMessage {elements : List WireElement} (vendor : ∃ e ∈ elements, IsVendor e)
    (last : lastType elements ≠ vendorSpecPayload) :
    Treatment.Astray ((cwParseVendorMessage (elements.flatMap WireElement.bytes).length).run
      ⟨received (elements.flatMap WireElement.bytes), .initial⟩) := by
  have unset : (vendorAllocated elements).vendPtr = none := by
    rw [vendorAllocated, VendorValues.allocated, if_neg last]
  rw [run_vendorMessage]
  apply astray_elements (fun values => values.vendPtr = none) ?_ astrays_fillUnset
    WireElement.header_le elements unset (fillsUnset_none elements vendor _)
  intro e values values' none taken
  obtain ⟨takes, rfl⟩ := takes_fillUnset e values values' taken
  exact ⟨takes, none⟩

/-- The type of the last element is that of an element. -/
theorem exists_lastType {elements : List WireElement} (inhabited : elements ≠ []) :
    ∃ e ∈ elements, e.type.toNat = lastType elements := by
  refine ⟨elements.getLast inhabited, List.getLast_mem inhabited, ?_⟩
  rw [lastType, List.getLast?_eq_some_getLast inhabited]
  rfl

/-- How the loop over the payloads ends where something was allocated. -/
theorem vendorMessage_cases {elements : List WireElement}
    (last : lastType elements = vendorSpecPayload) {result : EStateM.Result Stop (Parsing VendorValues) Unit}
    (ran : (cwParseVendorMessage (elements.flatMap WireElement.bytes).length).run
      ⟨received (elements.flatMap WireElement.bytes), .initial⟩ = result) :
    Treatment.Astray result ∨ (∃ after, result = .ok () after) ∨
      PayloadRefused (elements.flatMap WireElement.bytes) := by
  have allocated : (vendorAllocated elements).isSet = true := by
    rw [vendorAllocated, VendorValues.allocated, if_pos last]
    rfl
  rw [run_vendorMessage] at ran
  have follows := Walk.cwParseElements_follows vendorTreatment vendor_conforms
    (elements.flatMap WireElement.bytes).length
    ⟨received (elements.flatMap WireElement.bytes), vendorAllocated elements⟩
    (vendorWalk (elements.flatMap WireElement.bytes)) ⟨0, true⟩ rfl
    (by rw [Walk.placeOf, allocated]; rfl)
  rw [ran] at follows
  by_cases contained : (vendorWalk (elements.flatMap WireElement.bytes)).Contained ⟨0, true⟩
  · cases follows.1 contained with
    | inl returned =>
      obtain ⟨_, after, _, same, _⟩ := returned
      exact .inr (.inl ⟨after, same⟩)
    | inr raised =>
      obtain ⟨p, _, _, _, refused, _⟩ := raised
      exact .inr (.inr ⟨contained, p, refused⟩)
  · exact .inl (follows.2 contained)

/-- A payload that is refused. -/
theorem raised_vendorMessage {elements : List WireElement}
    (last : lastType elements = vendorSpecPayload)
    (refused : PayloadRefused (elements.flatMap WireElement.bytes)) :
    ∃ code text after, (cwParseVendorMessage (elements.flatMap WireElement.bytes).length).run
      ⟨received (elements.flatMap WireElement.bytes), .initial⟩ =
        .error (.failed (.raised code text)) after := by
  have allocated : (vendorAllocated elements).isSet = true := by
    rw [vendorAllocated, VendorValues.allocated, if_pos last]
    rfl
  have follows := Walk.cwParseElements_follows vendorTreatment vendor_conforms
    (elements.flatMap WireElement.bytes).length
    ⟨received (elements.flatMap WireElement.bytes), vendorAllocated elements⟩
    (vendorWalk (elements.flatMap WireElement.bytes)) ⟨0, true⟩ rfl
    (by rw [Walk.placeOf, allocated]; rfl)
  rw [run_vendorMessage]
  obtain ⟨contained, p, refusedAt⟩ := refused
  cases follows.1 contained with
  | inl returned =>
    obtain ⟨p', _, ends, _⟩ := returned
    exact absurd refusedAt ends.not_refusedAt
  | inr raised =>
    obtain ⟨_, code, text, after, _, ran, _⟩ := raised
    exact ⟨code, text, after, ran⟩

/-- A body is read whole if it is what its payload says. -/
theorem exists_readsWhole_iff (len : Nat) (body : List UInt8) :
    (∃ record, ReadsWhole (cwParseVendorPayload len) body record) ↔ WholePayload body := by
  constructor
  · rintro ⟨record, reads⟩
    rw [ReadsWhole] at reads
    have allocatable : PayloadAllocatable (received body).msg (received body).offset := by
      by_contra large
      obtain ⟨object, after, ran⟩ := cwParseVendorPayload_leaves len large
      rw [ran] at reads
      cases reads
    rw [cwParseVendorPayload_eq len allocatable] at reads
    cases spans_allocatedVendor (received body) with
    | inr strayed =>
      obtain ⟨_, after, ran⟩ := strayed
      rw [ran] at reads
      cases reads
    | inl returned =>
      obtain ⟨_, fetches⟩ := returned
      cases value : vendorPayloadLayout.value (received body).msg (received body).offset with
      | error refusal =>
        rw [value] at fetches
        obtain ⟨after, ran⟩ := fetches
        rw [ran] at reads
        cases reads
      | ok got =>
        rw [value] at fetches
        obtain ⟨after, _, moved, ran⟩ := fetches
        rw [ran] at reads
        cases reads
        refine ⟨allocatable, ?_, ?_⟩
        · rw [show vendorPayloadLayout.value body 0 = .ok record from value]
          rfl
        · exact (Nat.add_left_cancel moved).symm
  · intro whole
    have inside : (received body).offset + vendorPayloadLayout.span (received body) ≤
        (received body).msg.length :=
      Nat.le_of_eq ((Nat.zero_add _).trans whole.whole)
    have fetches := spans_allocatedVendor.inside inside
    cases value : vendorPayloadLayout.value (received body).msg (received body).offset with
    | error refusal =>
      have known := whole.known
      rw [show vendorPayloadLayout.value body 0 = .error refusal from value] at known
      cases known
    | ok got =>
      rw [value] at fetches
      obtain ⟨after, _, moved, ran⟩ := fetches
      rw [← cwParseVendorPayload_eq len (show PayloadAllocatable (received body).msg
        (received body).offset from whole.allocatable)] at ran
      obtain ⟨bytes, _, behind, _⟩ :=
        (readsAlike_vendorPayload len).readsWhole (valid_received body) ran
      have length : bytes.length = body.length := by
        have offset := congrArg CWProtocolMessage.offset behind
        rw [moved, advance_offset] at offset
        exact (Nat.add_left_cancel offset).symm.trans whole.whole
      exact ⟨got, by rw [ReadsWhole, ran, behind, length]⟩

/-- A vendor payload that stands alone. -/
theorem vendorMessage_single {e : WireElement} (vendor : IsVendor e)
    {record : CWProtocolVendorSpecificValues}
    (reads : ReadsWhole (cwParseVendorPayload e.body.length) e.body record) :
    ∃ message, (cwParseVendorMessage ([e].flatMap WireElement.bytes).length).run
      ⟨received ([e].flatMap WireElement.bytes), .initial⟩ =
        .ok () ⟨message, ⟨vendorSpecPayload, some (some record)⟩⟩ := by
  have last : lastType [e] = vendorSpecPayload := vendor
  have allocated : vendorAllocated [e] = ⟨vendorSpecPayload, some none⟩ := by
    rw [vendorAllocated, VendorValues.allocated, last, if_pos rfl]
  have takes : Takes fillVendorElement e.bytes ⟨vendorSpecPayload, some none⟩
      ⟨vendorSpecPayload, some (some record)⟩ := by
    apply takes_of_body e.type.toNat_lt e.short
    intro s rest valid ahead same
    have type : e.type.toNat = vendorSpecPayload := vendor
    have ran := (readsAlike_vendorPayload e.body.length).readsFrom reads s.message.offset s.message
      rest valid rfl ahead
    rw [fillVendorElement, if_pos type]
    simp only [EStateM.run_bind, EStateM.run_get, same, run_reading_ok ran, assigning,
      EStateM.run_modify]
  have single : [e].flatMap WireElement.bytes = e.bytes := by simp
  rw [run_vendorMessage, allocated, single]
  exact ⟨_, run_single takes e.header_le⟩

end VendorPass

end WlanController.Requests
