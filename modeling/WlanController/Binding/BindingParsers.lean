import WlanController.Binding.BindingElements
import WlanController.Elements.TwoPasses

/-!
# The binding's part of requests and responses

The WTP counts QoS elements, allocates an array for them and fills it.  In a configuration update
request the type of the last element decides what is allocated, and the pointer for the other kind
of values is not set.
-/

namespace WlanController.Binding

open Protocol Elements

variable {σ α : Type}

/-- A malformed element makes the program free what lies on the stack of its caller. -/
def parseOwned (len : Nat) (body : MessageM α) (assign : α → σ → σ) : ParserM σ Unit := fun s =>
  match (parseInto len body assign).run s with
  | .error (.failed (.raised _ _)) after => .error .overrun after
  | result => result

/-! ## Configuration update requests -/

/-- The variables of `CWBindingParseConfigurationUpdateRequest`.  `auxBindingPtr` and
    `ofdmBindingPtr` are `none` until they are set. -/
structure UpdateValues where
  GlobalElemType : Nat
  qosCount : Nat
  auxBindingPtr : Option (List RadioQosValues)
  ofdmBindingPtr : Option (Option RadioOFDMValues)
  deriving DecidableEq, Repr

namespace UpdateValues

def initial : UpdateValues := ⟨0, 0, none, none⟩

/-- What the records of a request hold. -/
def qosRecords (values : UpdateValues) : List RadioQosValues := values.auxBindingPtr.getD []

def ofdmRecords (values : UpdateValues) : List RadioOFDMValues :=
  (values.ofdmBindingPtr.getD none).toList

/-- The array has `qosCount` elements. -/
def allocated (values : UpdateValues) : UpdateValues :=
  if values.GlobalElemType = wtpQosType then { values with auxBindingPtr := some [] }
  else if values.GlobalElemType = ofdmControlType then { values with ofdmBindingPtr := some none }
  else values

end UpdateValues

/-- The `switch` of the first loop. -/
def countUpdateElement (elemType elemLen : Nat) : ParserM UpdateValues Unit := do
  assigning fun values => { values with GlobalElemType := elemType }
  if elemType = wtpQosType then
    assigning fun values => { values with qosCount := values.qosCount + 1 }
    skipping elemLen
  else if elemType = ofdmControlType then skipping elemLen
  -- `CW_FREE_OBJECT(valuesPtr)` frees a variable of the caller
  else if cwBindingCheckType elemType then throw .overrun
  else skipping elemLen

/-- The `switch` of the second loop. -/
def fillUpdateElement (type elemLen : Nat) : ParserM UpdateValues Unit := do
  if type = wtpQosType then
    match (← get).values.auxBindingPtr with
    | none => throw .overrun
    | some radioQosValues =>
        if radioQosValues.length < (← get).values.qosCount then
          parseOwned elemLen retrieveWTPQoS fun record values =>
            { values with auxBindingPtr := some (radioQosValues ++ [record]) }
        else throw .overrun
  else if type = ofdmControlType then
    match (← get).values.ofdmBindingPtr with
    | none => throw .overrun
    | some _ =>
        parseOwned elemLen retrieveWTPOFDM fun record values =>
          { values with ofdmBindingPtr := some (some record) }
  else skipping elemLen

def cwBindingParseConfigurationUpdateRequest (len : Nat) : ParserM UpdateValues Unit :=
  parsingTwice countUpdateElement (assigning .allocated) fillUpdateElement len

/-! ## Configure responses -/

structure ResponseValues where
  qosCount : Nat
  radioQosValues : List RadioQosValues
  deriving DecidableEq, Repr

def ResponseValues.initial : ResponseValues := ⟨0, []⟩

def countResponseElement (elemType elemLen : Nat) : ParserM ResponseValues Unit := do
  if elemType = wtpQosType then
    assigning fun values => { values with qosCount := values.qosCount + 1 }
    skipping elemLen
  else if elemType = wtpMultidomainCapabilityType then skipping elemLen
  else if cwBindingCheckType elemType then throw .overrun
  else skipping elemLen

def fillResponseElement (type elemLen : Nat) : ParserM ResponseValues Unit := do
  if type = wtpQosType then
    let index := (← get).values.radioQosValues.length
    if index < (← get).values.qosCount then
      parseOwned elemLen retrieveWTPQoS fun record values =>
        { values with radioQosValues := values.radioQosValues ++ [record] }
    else throw .overrun
  else skipping elemLen

def cwBindingParseConfigureResponse (len : Nat) : ParserM ResponseValues Unit :=
  parsingTwice countResponseElement (return ()) fillResponseElement len

/-! ## Elements that the parsers take -/

theorem parseOwned_of_readsFrom {body : MessageM α} {bytes rest : List UInt8} {value : α}
    {s : Parsing σ} (reads : ReadsFrom s.message.offset body bytes value) (assign : α → σ → σ)
    (valid : s.message.Valid) (ahead : s.message.ahead = bytes ++ rest) :
    (parseOwned bytes.length body assign).run s =
      .ok () ⟨s.message.advance bytes.length, assign value s.values⟩ := by
  have stored := parseInto_of_readsFrom reads assign valid ahead
  rw [EStateM.run] at stored ⊢
  rw [parseOwned, EStateM.run, stored]

/-- A QoS element of a radio, or the multi-domain capability that comes with it. -/
inductive BindingElement where
  | qos (radioID : UInt8) (qosValues : QosProfiles)
  | multiDomain (radioID : UInt8) (firstChannel numChannels maxTxPower : UInt16)

namespace BindingElement

def type : BindingElement → Nat
  | qos _ _ => wtpQosType
  | multiDomain _ _ _ _ => wtpMultidomainCapabilityType

def body : BindingElement → List UInt8
  | qos radioID qosValues => qosBody radioID 0 qosValues.profiles
  | multiDomain radioID firstChannel numChannels maxTxPower =>
      multiDomainBody radioID firstChannel numChannels maxTxPower

def bytes (element : BindingElement) : List UInt8 := elementBytes element.type element.body

def qosRecords : BindingElement → List RadioQosValues
  | qos radioID qosValues => [⟨radioID, qosValues.profiles⟩]
  | multiDomain _ _ _ _ => []

theorem type_lt (element : BindingElement) : element.type < 65536 := by
  cases element <;> simp [type, wtpQosType, wtpMultidomainCapabilityType]

theorem length_body_lt (element : BindingElement) : element.body.length < 65536 := by
  cases element with
  | qos radioID qosValues =>
    rw [body, length_qosBody]
    omega
  | multiDomain radioID firstChannel numChannels maxTxPower => simp [body]

theorem length_bytes (element : BindingElement) :
    element.bytes.length = 4 + element.body.length := by
  simp only [bytes, elementBytes, List.length_append, BigEndian.length_encode]
  omega

/-- An element that the loop skips. -/
theorem takes_skipping {element : (elemType elemLen : Nat) → ParserM σ Unit}
    (e : BindingElement) {values values' : σ}
    (skips : ∀ message : CWProtocolMessage, (element e.type e.body.length).run ⟨message, values⟩ =
      .ok () ⟨message.advance e.body.length, values'⟩) : Takes element e.bytes values values' := by
  apply takes_of_body e.type_lt e.length_body_lt
  intro s rest _ _ same
  cases s
  cases same
  exact skips _

end BindingElement

end WlanController.Binding
