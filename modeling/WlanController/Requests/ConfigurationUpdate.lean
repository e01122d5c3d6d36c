import WlanController.Binding.UpdatePass
import WlanController.Vendor.PayloadLayout

/-!
# Configuration update requests

The WTP recognises the elements of a configuration update request in a first loop.  Where there is
a vendor payload it goes through all elements twice for the payloads, and where there is an element
of the binding twice for these.  In either case it allocates what the type of the last element asks
for.
-/

namespace WlanController.Requests

open Protocol Elements Vendor Binding

/-! ## Vendor payloads -/

/-- The variables of `CWParseVendorMessage`.  `vendPtr` is `none` until it is set. -/
structure VendorValues where
  GlobalElemType : Nat
  vendPtr : Option (Option CWProtocolVendorSpecificValues)

namespace VendorValues

def initial : VendorValues := ⟨0, none⟩

def allocated (values : VendorValues) : VendorValues :=
  if values.GlobalElemType = vendorSpecPayload then { values with vendPtr := some none } else values

end VendorValues

/-- The `switch` of the first loop, whose cases are alike. -/
def countVendorElement (elemType elemLen : Nat) : ParserM VendorValues Unit := do
  assigning fun values => { values with GlobalElemType := elemType }
  skipping elemLen

/-- The `switch` of the second loop. -/
def fillVendorElement (type elemLen : Nat) : ParserM VendorValues Unit := do
  if type = vendorSpecPayload then
    match (← get).values.vendPtr with
    | none => throw .overrun
    | some _ => do
      let value ← reading (cwParseVendorPayload elemLen)
      assigning fun values => { values with vendPtr := some (some value) }
  else skipping elemLen

def cwParseVendorMessage (len : Nat) : ParserM VendorValues Unit :=
  parsingTwice countVendorElement (assigning .allocated) fillVendorElement len

/-! ## The request -/

/-- `updateRequestType` is a variable of the caller and `none` until it is assigned. -/
structure ConfigurationUpdateValues where
  GlobalElementType : Nat
  bindingMsgElemFound : Bool
  vendorMsgElemFound : Bool
  updateRequestType : Option Nat
  protocolValues : Option CWProtocolVendorSpecificValues
  bindingValues : Option UpdateValues

def ConfigurationUpdateValues.initial : ConfigurationUpdateValues where
  GlobalElementType := 0
  bindingMsgElemFound := false
  vendorMsgElemFound := false
  updateRequestType := none
  protocolValues := none
  bindingValues := none

def recogniseUpdateElement (elemType elemLen : Nat) : ParserM ConfigurationUpdateValues Unit := do
  assigning fun values => { values with GlobalElementType := elemType }
  if cwBindingCheckType elemType then
    assigning fun values => { values with bindingMsgElemFound := true }
    skipping elemLen
  else if elemType = vendorSpecPayload then
    assigning fun values => { values with vendorMsgElemFound := true }
    skipping elemLen
  else refusing .invalidFormat (some "Unrecognized Message Element")

/-- A parser with a cursor and variables of its own over the bytes of the message. -/
def calling {σ τ : Type} (program : ParserM τ Unit) (initial : τ) : ParserM σ τ := fun s =>
  match program.run ⟨received s.message.msg, initial⟩ with
  | .ok _ after => .ok after.values s
  | .error stop _ => .error stop s

def reportType : ParserM ConfigurationUpdateValues Unit :=
  assigning fun values => { values with updateRequestType := some values.GlobalElementType }

def parseFoundVendor (len : Nat) : ParserM ConfigurationUpdateValues Unit := do
  if (← get).values.vendorMsgElemFound then
    reportType
    let values ← calling (cwParseVendorMessage len) .initial
    assigning fun request => { request with protocolValues := values.vendPtr.getD none }

def parseFoundBinding (len : Nat) : ParserM ConfigurationUpdateValues Unit := do
  if (← get).values.bindingMsgElemFound then
    reportType
    let values ← calling (cwBindingParseConfigurationUpdateRequest len) .initial
    assigning fun request => { request with bindingValues := some values }

def cwParseConfigurationUpdateRequest (len : Nat) : ParserM ConfigurationUpdateValues Unit := do
  cwParseElements recogniseUpdateElement len
  expectingEnd
  parseFoundVendor len
  parseFoundBinding len

/-- What the WTP does about a request. -/
inductive UpdateOutcome where
  /-- The values are handed to `CWSaveConfigurationUpdateRequest`. -/
  | saves (values : ConfigurationUpdateValues)
  /-- `return CW_FALSE`, in front of the call that saves. -/
  | returned
  /-- Something outside of the message, of an array or of what was allocated has been accessed. -/
  | astray

def UpdateOutcome.of : EStateM.Result Stop (Parsing ConfigurationUpdateValues) Unit → UpdateOutcome
  | .ok _ s => .saves s.values
  | .error (.failed (.raised _ _)) _ => .returned
  | .error _ _ => .astray

def cwWTPManageConfigurationUpdate (body : List UInt8) : UpdateOutcome :=
  .of ((cwParseConfigurationUpdateRequest body.length).run ⟨received body, .initial⟩)

/-! ## The loops over elements -/

section Recognition

/-- The WTP does not refuse the type. -/
def Recognised (e : WireElement) : Prop :=
  cwBindingCheckType e.type.toNat ∨ e.type.toNat = vendorSpecPayload

/-- What the first loop makes of an element. -/
def recognise (e : WireElement) (values : ConfigurationUpdateValues) :
    Option ConfigurationUpdateValues :=
  if cwBindingCheckType e.type.toNat then
    some { values with GlobalElementType := e.type.toNat, bindingMsgElemFound := true }
  else if e.type.toNat = vendorSpecPayload then
    some { values with GlobalElementType := e.type.toNat, vendorMsgElemFound := true }
  else none

theorem takes_recognise (e : WireElement) (values values' : ConfigurationUpdateValues)
    (known : recognise e values = some values') :
    Takes recogniseUpdateElement e.bytes values values' := by
  apply e.takes_skipping
  intro message
  rw [recognise] at known
  rw [recogniseUpdateElement]
  split at known
  next binding =>
    cases known
    rw [if_pos binding]
    rfl
  next notBinding =>
    rw [if_neg notBinding]
    split at known
    next vendor =>
      cases known
      rw [if_pos vendor]
      rfl
    next other => cases known

/-- The first loop ends with an element that it does not recognise. -/
theorem stops_recognise (e : WireElement) (values : ConfigurationUpdateValues)
    (unknown : recognise e values = none) : Stops recogniseUpdateElement e.bytes values := by
  intro s rest msgElemsLen start rounds valid ahead _ begins inside
  rw [recognise] at unknown
  split at unknown
  next binding => cases unknown
  next notBinding =>
    split at unknown
    next vendor => cases unknown
    next other =>
      have length := e.header_le
      cases rounds with
      | zero => exact ⟨_, _, rfl⟩
      | succ rounds =>
        rw [Walk.run_parseElements_more (by omega), EStateM.run_bind,
          run_parseElement e.type.toNat_lt e.short valid ahead, recogniseUpdateElement,
          if_neg notBinding, if_neg other]
        exact ⟨_, _, rfl⟩

/-- The values behind the first loop over elements that are all recognised. -/
theorem recognises_all (elements : List WireElement) (known : ∀ e ∈ elements, Recognised e)
    (values : ConfigurationUpdateValues) :
    elements.foldlM (fun values e => recognise e values) values =
      some { values with
        GlobalElementType :=
          (elements.getLast?.map fun e => e.type.toNat).getD values.GlobalElementType
        bindingMsgElemFound := values.bindingMsgElemFound ||
          elements.any fun e => cwBindingCheckType e.type.toNat
        vendorMsgElemFound := values.vendorMsgElemFound ||
          elements.any fun e => e.type.toNat = vendorSpecPayload } := by
  induction elements generalizing values with
  | nil => simp
  | cons e elements inductionHypothesis =>
    have rest := inductionHypothesis fun e member => known e (List.mem_cons_of_mem _ member)
    have last : ((e :: elements).getLast?.map fun e => e.type.toNat).getD values.GlobalElementType =
        (elements.getLast?.map fun e => e.type.toNat).getD e.type.toNat := by
      rw [List.getLast?_cons]
      cases elements.getLast? <;> rfl
    rw [List.foldlM_cons, last]
    cases known e List.mem_cons_self with
    | inl binding =>
      have other : ¬ e.type.toNat = vendorSpecPayload := by
        intro vendor
        rw [vendor] at binding
        exact absurd binding (by decide)
      rw [recognise, if_pos binding, Option.bind_eq_bind, Option.bind_some, rest]
      simp [binding, other]
    | inr vendor =>
      have other : cwBindingCheckType vendorSpecPayload = false := rfl
      rw [recognise, vendor, other, if_neg Bool.false_ne_true, if_pos rfl, Option.bind_eq_bind,
        Option.bind_some, rest]
      simp [vendor, other]

/-- The first loop over elements one of which is not recognised. -/
theorem recognises_none (elements : List WireElement) (unknown : ∃ e ∈ elements, ¬ Recognised e)
    (values : ConfigurationUpdateValues) :
    elements.foldlM (fun values e => recognise e values) values = none := by
  induction elements generalizing values with
  | nil =>
    obtain ⟨e, member, _⟩ := unknown
    cases member
  | cons e elements inductionHypothesis =>
    rw [List.foldlM_cons, Option.bind_eq_bind, Option.bind_eq_none_iff]
    intro values' here
    obtain ⟨e', member, other⟩ := unknown
    cases member with
    | tail _ later => exact inductionHypothesis ⟨e', later, other⟩ values'
    | head =>
      exfalso
      apply other
      rw [recognise] at here
      split at here
      next binding => exact .inl binding
      next notBinding =>
        split at here
        next vendor => exact .inr vendor
        next neither => cases here

/-- What is behind the first loop over elements that are all recognised. -/
def recognised (elements : List WireElement) : ConfigurationUpdateValues :=
  { ConfigurationUpdateValues.initial with
    GlobalElementType := lastType elements
    bindingMsgElemFound := elements.any fun e => cwBindingCheckType e.type.toNat
    vendorMsgElemFound := elements.any fun e => e.type.toNat = vendorSpecPayload }

theorem run_recognition {elements : List WireElement} (known : ∀ e ∈ elements, Recognised e) :
    (cwParseConfigurationUpdateRequest (elements.flatMap WireElement.bytes).length).run
        ⟨received (elements.flatMap WireElement.bytes), .initial⟩ =
      (do
        parseFoundVendor (elements.flatMap WireElement.bytes).length
        parseFoundBinding (elements.flatMap WireElement.bytes).length).run
          ⟨(received (elements.flatMap WireElement.bytes)).advance
            (elements.flatMap WireElement.bytes).length, recognised elements⟩ := by
  have folded := recognises_all elements known .initial
  have same : (some { ConfigurationUpdateValues.initial with
        GlobalElementType :=
          (elements.getLast?.map fun e => e.type.toNat).getD
            ConfigurationUpdateValues.initial.GlobalElementType
        bindingMsgElemFound := ConfigurationUpdateValues.initial.bindingMsgElemFound ||
          elements.any fun e => cwBindingCheckType e.type.toNat
        vendorMsgElemFound := ConfigurationUpdateValues.initial.vendorMsgElemFound ||
          elements.any fun e => e.type.toNat = vendorSpecPayload }) =
      some (recognised elements) := by
    simp only [ConfigurationUpdateValues.initial, Bool.false_or]
    rfl
  rw [same] at folded
  have first := run_elements takes_recognise WireElement.header_le elements folded
  have ending : (expectingEnd : ParserM ConfigurationUpdateValues Unit).run
      ⟨(received (elements.flatMap WireElement.bytes)).advance
        (elements.flatMap WireElement.bytes).length, recognised elements⟩ = .ok () _ :=
    run_expectingEnd (Nat.zero_add _)
  rw [cwParseConfigurationUpdateRequest, EStateM.run_bind, first]
  simp only
  rw [EStateM.run_bind, ending]

end Recognition

end WlanController.Requests
