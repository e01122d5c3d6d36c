import Mathlib.Data.List.Perm.Basic
import WlanController.Elements.TwoPasses
import WlanController.Requests.JoinResponse

/-!
# The order of the elements of a join response

In front of every element the first loop forgets the lists of addresses, so that a list is kept only
where it is the last element.  Everything else that the WTP takes from a response is the same in
every order.
-/

namespace WlanController.Requests

open Protocol Radios Elements

namespace JoinResponseElement

/-- What the `switch` of the first loop does with an element. -/
def assign : JoinResponseElement → JoinResponseValues → JoinResponseValues
  | acDescriptor descriptor _ _, values => { values with descriptor := some descriptor }
  | radioInformation _ _, values => values
  | acIPv4List addresses _ _, values =>
    { values with ACIPv4List := some (addresses.map UInt32.toNat) }
  | acIPv6List addresses _ _, values =>
    { values with ACIPv6List := some (addresses.map Vector.toList) }
  | resultCode code, values => { values with code := some code.toNat }
  | acName name _, values => { values with name := some name }
  | localIPv4Address _, values => values
  | controlIPv4Address _ _, values =>
    { values with IPv4AddressesCount := values.IPv4AddressesCount + 1 }
  | controlIPv6Address _ _, values =>
    { values with IPv6AddressesCount := values.IPv6AddressesCount + 1 }
  | ecnSupport value, values => { values with ECNSupport := some value.toNat }

/-- A round of the first loop. -/
def note (values : JoinResponseValues) (element : JoinResponseElement) : JoinResponseValues :=
  element.assign (resetLists values)

def controlIPv4 : JoinResponseElement → Option (Nat × Nat)
  | controlIPv4Address address WTPCount => some (address.toNat, WTPCount.toNat)
  | _ => none

def controlIPv6 : JoinResponseElement → Option (List UInt8 × Nat)
  | controlIPv6Address address WTPCount => some (address.toList, WTPCount.toNat)
  | _ => none

def isList : JoinResponseElement → Bool
  | acIPv4List _ _ _ => true
  | acIPv6List _ _ _ => true
  | _ => false

/-! ## The first loop -/

theorem type_lt (element : JoinResponseElement) : element.type < 65536 := by
  cases element <;> simp [type, acDescriptorType, wtpRadioInformationType, acIPv4ListType,
    acIPv6ListType, Vendor.resultCodeType, acNameType, localIPv4AddressType,
    cwControlIPv4AddressType, cwControlIPv6AddressType, ecnSupportType]

theorem length_ipv4List (addresses : List UInt32) :
    (addresses.flatMap fun address => BigEndian.encode 4 address.toNat).length =
      4 * addresses.length := by
  induction addresses with
  | nil => rfl
  | cons address addresses inductionHypothesis =>
    simp only [List.flatMap_cons, List.length_append, BigEndian.length_encode, List.length_cons,
      inductionHypothesis]
    omega

theorem length_ipv6List (addresses : List (Vector UInt8 16)) :
    (addresses.flatMap Vector.toList).length = 16 * addresses.length := by
  induction addresses with
  | nil => rfl
  | cons address addresses inductionHypothesis =>
    simp only [List.flatMap_cons, List.length_append, Vector.length_toList, List.length_cons,
      inductionHypothesis]
    omega

theorem length_body_lt (element : JoinResponseElement) : element.body.length < 65536 := by
  cases element with
  | acDescriptor values fits short =>
    rw [body, values.length_body]
    exact short
  | acIPv4List addresses inhabited short =>
    rw [body, length_ipv4List]
    exact short
  | acIPv6List addresses inhabited short =>
    rw [body, length_ipv6List]
    exact short
  | acName name short => exact short
  | radioInformation radioID phyStandardValue => simp [body, radioInformationBytes]
  | resultCode code => simp [body]
  | localIPv4Address address => simp [body]
  | controlIPv4Address address WTPCount => simp [body]
  | controlIPv6Address address WTPCount => simp [body]
  | ecnSupport value => simp [body]

theorem header_le (element : JoinResponseElement) : 4 ≤ element.bytes.length := by
  simp only [bytes, Elements.elementBytes, List.length_append, BigEndian.length_encode]
  omega

end JoinResponseElement

/-- A list of records that have no length in front of them. -/
theorem readsFrom_bareRecords {α ρ : Type} {record : MessageM α} {bytes : ρ → List UInt8}
    {parsed : ρ → α} (reads : ∀ r start, ReadsFrom start record (bytes r) (parsed r))
    (records : List ρ) (start : Nat) :
    ReadsFrom start (readRecords record records.length) (records.flatMap bytes)
      (records.map parsed) := by
  have read : ReadsFrom start (readRecords record records.length)
      (recordBytes bytes (fun _ => []) records) (records.map parsed) := by
    apply readsFrom_readRecords
    intro r _ start
    rw [List.append_nil]
    exact reads r start
  simpa [recordBytes] using read

theorem readsFrom_ipv4List (addresses : List UInt32) (start : Nat) :
    ReadsFrom start (readRecords cwProtocolRetrieve32 addresses.length)
      (addresses.flatMap fun address => BigEndian.encode 4 address.toNat)
      (addresses.map UInt32.toNat) :=
  readsFrom_bareRecords (fun address => (reads_retrieve32 address.toNat_lt).from) addresses start

theorem readsFrom_vector (address : Vector UInt8 16) (start : Nat) :
    ReadsFrom start (cwProtocolRetrieveRawBytes 16) address.toList address.toList := by
  have read := readsFrom_rawBytes start address.toList
  rwa [address.length_toList] at read

theorem readsFrom_ipv6List (addresses : List (Vector UInt8 16)) (start : Nat) :
    ReadsFrom start (readRecords (cwProtocolRetrieveRawBytes 16) addresses.length)
      (addresses.flatMap Vector.toList) (addresses.map Vector.toList) :=
  readsFrom_bareRecords readsFrom_vector addresses start

theorem readsFrom_controlIPv4 (address : UInt32) (WTPCount : UInt16) (start : Nat) :
    ReadsFrom start retrieveControlIPv4Address
      (BigEndian.encode 4 address.toNat ++ BigEndian.encode 2 WTPCount.toNat)
      (address.toNat, WTPCount.toNat) := by
  have reads : Reads retrieveControlIPv4Address
      (BigEndian.encode 4 address.toNat ++ BigEndian.encode 2 WTPCount.toNat)
      (address.toNat, WTPCount.toNat) none :=
    (reads_retrieve32 address.toNat_lt).andThen
      ((reads_retrieve16 WTPCount.toNat_lt).andReturn (reads_pure _))
  exact reads.from start

theorem readsFrom_controlIPv6 (address : Vector UInt8 16) (WTPCount : UInt16) (start : Nat) :
    ReadsFrom start retrieveControlIPv6Address
      (address.toList ++ BigEndian.encode 2 WTPCount.toNat) (address.toList, WTPCount.toNat) := by
  have count : Reads (do return (address.toList, ← cwProtocolRetrieve16))
      (BigEndian.encode 2 WTPCount.toNat) (address.toList, WTPCount.toNat) none :=
    (reads_retrieve16 WTPCount.toNat_lt).andReturn (reads_pure _)
  exact (readsFrom_vector address start).bind (count.from _)

theorem run_ipv4List {addresses : List UInt32} (inhabited : addresses ≠ [])
    {s : Parsing JoinResponseValues} {rest : List UInt8} (valid : s.message.Valid)
    (ahead : s.message.ahead =
      (addresses.flatMap fun address => BigEndian.encode 4 address.toNat) ++ rest) :
    (cwParseACIPv4List (4 * addresses.length)).run s =
      .ok () ⟨s.message.advance (4 * addresses.length),
        { s.values with ACIPv4List := some (addresses.map UInt32.toNat) }⟩ := by
  have positive := List.length_pos_iff.mpr inhabited
  have stored := parseInto_of_readsFrom (readsFrom_ipv4List addresses s.message.offset)
    (fun list values => { values with ACIPv4List := some list }) valid ahead
  rw [JoinResponseElement.length_ipv4List] at stored
  rw [cwParseACIPv4List, if_neg (by omega), Nat.mul_div_cancel_left _ (by omega)]
  exact stored

theorem run_ipv6List {addresses : List (Vector UInt8 16)} (inhabited : addresses ≠ [])
    {s : Parsing JoinResponseValues} {rest : List UInt8} (valid : s.message.Valid)
    (ahead : s.message.ahead = addresses.flatMap Vector.toList ++ rest) :
    (cwParseACIPv6List (16 * addresses.length)).run s =
      .ok () ⟨s.message.advance (16 * addresses.length),
        { s.values with ACIPv6List := some (addresses.map Vector.toList) }⟩ := by
  have positive := List.length_pos_iff.mpr inhabited
  have stored := parseInto_of_readsFrom (readsFrom_ipv6List addresses s.message.offset)
    (fun list values => { values with ACIPv6List := some list }) valid ahead
  rw [JoinResponseElement.length_ipv6List] at stored
  rw [cwParseACIPv6List, if_neg (by omega), Nat.mul_div_cancel_left _ (by omega)]
  exact stored

theorem takes_note (element : JoinResponseElement) (values : JoinResponseValues) :
    Takes parseJoinElement element.bytes values (JoinResponseElement.note values element) := by
  apply takes_of_body element.type_lt element.length_body_lt
  intro s rest valid ahead same
  subst same
  cases element with
  | acDescriptor descriptor fits short =>
    have read := readsFrom_acDescriptor fits short s.message.offset s.message rest valid rfl ahead
    rw [← descriptor.length_body] at read
    have ran := run_reading_ok (s := { s with values := resetLists s.values }) read
    show (do
      assigning resetLists
      let descriptor ← reading (cwParseACDescriptor descriptor.body.length)
      assigning fun values : JoinResponseValues => { values with descriptor := some descriptor }
      : ParserM JoinResponseValues Unit).run s = _
    simp only [EStateM.run_bind, assigning, EStateM.run_modify, ran]
    rfl
  | radioInformation radioID phyStandardValue =>
    have read := (reads_radioInformation radioID phyStandardValue).from s.message.offset s.message
      rest valid rfl ahead
    have ran := run_reading_ok (s := { s with values := resetLists s.values }) read
    show (do
      assigning resetLists
      let _ ← reading retrieveRadioInformation
      return () : ParserM JoinResponseValues Unit).run s = _
    simp only [EStateM.run_bind, assigning, EStateM.run_modify, ran]
    rfl
  | acIPv4List addresses inhabited short =>
    have ran := run_ipv4List (s := { s with values := resetLists s.values }) inhabited valid ahead
    rw [JoinResponseElement.body, JoinResponseElement.length_ipv4List]
    exact ran
  | acIPv6List addresses inhabited short =>
    have ran := run_ipv6List (s := { s with values := resetLists s.values }) inhabited valid ahead
    rw [JoinResponseElement.body, JoinResponseElement.length_ipv6List]
    exact ran
  | resultCode code =>
    exact parseInto_of_readsFrom (s := { s with values := resetLists s.values })
      ((reads_retrieve32 code.toNat_lt).from _) _ valid ahead
  | acName name short =>
    exact parseInto_of_readsFrom (s := { s with values := resetLists s.values })
      (readsFrom_rawBytes _ name) _ valid ahead
  | localIPv4Address address => rfl
  | controlIPv4Address address WTPCount => rfl
  | controlIPv6Address address WTPCount => rfl
  | ecnSupport value =>
    exact parseInto_of_readsFrom (s := { s with values := resetLists s.values })
      ((reads_retrieve8 value.toNat_lt).from _) _ valid ahead

/-! ## The second loop -/

namespace JoinResponseElement

/-- A round of the second loop. -/
def place (values : JoinResponseValues) (element : JoinResponseElement) : JoinResponseValues :=
  { values with
    IPv4Addresses := values.IPv4Addresses ++ element.controlIPv4.toList
    IPv6Addresses := values.IPv6Addresses ++ element.controlIPv6.toList }

/-- There is an entry left for what the element holds. -/
def Room (element : JoinResponseElement) (values : JoinResponseValues) : Prop :=
  values.IPv4Addresses.length + element.controlIPv4.toList.length ≤ values.IPv4AddressesCount ∧
    values.IPv6Addresses.length + element.controlIPv6.toList.length ≤ values.IPv6AddressesCount

instance (element : JoinResponseElement) (values : JoinResponseValues) :
    Decidable (element.Room values) :=
  inferInstanceAs (Decidable (_ ∧ _))

end JoinResponseElement

theorem takes_place (element : JoinResponseElement) (values : JoinResponseValues)
    (room : element.Room values) :
    Takes parseJoinAddresses element.bytes values (JoinResponseElement.place values element) := by
  apply takes_of_body element.type_lt element.length_body_lt
  intro s rest valid ahead same
  subst same
  cases element with
  | controlIPv4Address address WTPCount =>
    have inside : s.values.IPv4Addresses.length < s.values.IPv4AddressesCount := room.1
    have stored := parseInto_of_readsFrom
      (readsFrom_controlIPv4 address WTPCount s.message.offset)
      (fun entry values => { values with IPv4Addresses := values.IPv4Addresses ++ [entry] })
      valid ahead
    show (do
      if (← get).values.IPv4Addresses.length < (← get).values.IPv4AddressesCount then
        parseInto _ retrieveControlIPv4Address fun entry values =>
          { values with IPv4Addresses := values.IPv4Addresses ++ [entry] }
      else throw .overrun : ParserM JoinResponseValues Unit).run s = _
    simp only [EStateM.run_bind, EStateM.run_get, if_pos inside]
    rw [JoinResponseElement.body, stored]
    simp [JoinResponseElement.place, JoinResponseElement.controlIPv4,
      JoinResponseElement.controlIPv6]
  | controlIPv6Address address WTPCount =>
    have inside : s.values.IPv6Addresses.length < s.values.IPv6AddressesCount := room.2
    have stored := parseInto_of_readsFrom
      (readsFrom_controlIPv6 address WTPCount s.message.offset)
      (fun entry values => { values with IPv6Addresses := values.IPv6Addresses ++ [entry] })
      valid ahead
    show (do
      if (← get).values.IPv6Addresses.length < (← get).values.IPv6AddressesCount then
        parseInto _ retrieveControlIPv6Address fun entry values =>
          { values with IPv6Addresses := values.IPv6Addresses ++ [entry] }
      else throw .overrun : ParserM JoinResponseValues Unit).run s = _
    simp only [EStateM.run_bind, EStateM.run_get, if_pos inside]
    rw [JoinResponseElement.body, stored]
    simp [JoinResponseElement.place, JoinResponseElement.controlIPv4,
      JoinResponseElement.controlIPv6]
  | acDescriptor | radioInformation | acIPv4List | acIPv6List | resultCode | acName
  | localIPv4Address | ecnSupport =>
    simp [parseJoinAddresses, JoinResponseElement.place, JoinResponseElement.controlIPv4,
      JoinResponseElement.controlIPv6]
    rfl

/-! ## A response as a whole -/

namespace JoinResponseElement

/-- What the two loops make of the values. -/
def valuesOf (elements : List JoinResponseElement) : JoinResponseValues :=
  elements.foldl place (elements.foldl note .initial)

theorem foldlM_note (elements : List JoinResponseElement) (values : JoinResponseValues) :
    elements.foldlM (fun values element => some (note values element)) values =
      some (elements.foldl note values) := by
  induction elements generalizing values with
  | nil => rfl
  | cons element elements inductionHypothesis =>
    exact inductionHypothesis (note values element)

theorem filterMap_cons_eq {α β : Type} (f : α → Option β) (a : α) (as : List α) :
    (a :: as).filterMap f = (f a).toList ++ as.filterMap f := by
  cases known : f a <;> simp [known]

/-- An address is counted, and nothing is put in the arrays. -/
theorem count_note (values : JoinResponseValues) (element : JoinResponseElement) :
    (note values element).IPv4AddressesCount =
        values.IPv4AddressesCount + element.controlIPv4.toList.length ∧
      (note values element).IPv6AddressesCount =
        values.IPv6AddressesCount + element.controlIPv6.toList.length ∧
      (note values element).IPv4Addresses = values.IPv4Addresses ∧
      (note values element).IPv6Addresses = values.IPv6Addresses := by
  cases element <;> exact ⟨rfl, rfl, rfl, rfl⟩

/-- The first loop counts the addresses. -/
theorem counts_note (elements : List JoinResponseElement) (values : JoinResponseValues) :
    (elements.foldl note values).IPv4AddressesCount =
        values.IPv4AddressesCount + (elements.filterMap controlIPv4).length ∧
      (elements.foldl note values).IPv6AddressesCount =
        values.IPv6AddressesCount + (elements.filterMap controlIPv6).length ∧
      (elements.foldl note values).IPv4Addresses = values.IPv4Addresses ∧
      (elements.foldl note values).IPv6Addresses = values.IPv6Addresses := by
  induction elements generalizing values with
  | nil => exact ⟨rfl, rfl, rfl, rfl⟩
  | cons element elements inductionHypothesis =>
    obtain ⟨count4, count6, addresses4, addresses6⟩ := inductionHypothesis (note values element)
    obtain ⟨here4, here6, same4, same6⟩ := count_note values element
    rw [List.foldl_cons, count4, count6, addresses4, addresses6, here4, here6, same4, same6,
      filterMap_cons_eq, filterMap_cons_eq, List.length_append, List.length_append,
      Nat.add_assoc, Nat.add_assoc]
    exact ⟨rfl, rfl, rfl, rfl⟩

/-- The second loop puts the addresses behind one another. -/
theorem foldl_place (elements : List JoinResponseElement) (values : JoinResponseValues) :
    elements.foldl place values =
      { values with
        IPv4Addresses := values.IPv4Addresses ++ elements.filterMap controlIPv4
        IPv6Addresses := values.IPv6Addresses ++ elements.filterMap controlIPv6 } := by
  induction elements generalizing values with
  | nil => simp
  | cons element elements inductionHypothesis =>
    rw [List.foldl_cons, inductionHypothesis, filterMap_cons_eq, filterMap_cons_eq]
    simp only [place, List.append_assoc]

/-- There is room for as many addresses as have been counted. -/
theorem foldlM_place (elements : List JoinResponseElement) (values : JoinResponseValues)
    (room4 : values.IPv4Addresses.length + (elements.filterMap controlIPv4).length ≤
      values.IPv4AddressesCount)
    (room6 : values.IPv6Addresses.length + (elements.filterMap controlIPv6).length ≤
      values.IPv6AddressesCount) :
    elements.foldlM (fun values element =>
        if element.Room values then some (place values element) else none) values =
      some (elements.foldl place values) := by
  induction elements generalizing values with
  | nil => rfl
  | cons element elements inductionHypothesis =>
    rw [filterMap_cons_eq, List.length_append] at room4 room6
    have room : element.Room values := by
      simp only [Room]
      omega
    rw [List.foldlM_cons, if_pos room, List.foldl_cons]
    apply inductionHypothesis (place values element)
    · simp only [place, List.length_append]
      omega
    · simp only [place, List.length_append]
      omega

end JoinResponseElement

/-- A response is accepted whatever the order of its elements. -/
theorem joinResponseValues_eq (seqNum : UInt8) (elements : List JoinResponseElement)
    (fits : (elements.flatMap JoinResponseElement.bytes).length < 65533) :
    joinResponseValues seqNum.toNat (joinResponseBytes seqNum elements) =
      some (JoinResponseElement.valuesOf elements) := by
  obtain ⟨controlVal, type, sequence, announced, header⟩ := run_controlHeader
    (.ofNat cwMsgTypeValueJoinResponse) seqNum (elements.flatMap JoinResponseElement.bytes) fits
  have expected : controlVal.messageTypeValue.toNat = cwMsgTypeValueJoinResponse := by
    rw [type]
    rfl
  have eight := length_controlHeaderBytes ⟨.ofNat cwMsgTypeValueJoinResponse, seqNum,
    .ofNat (elements.flatMap JoinResponseElement.bytes).length⟩
  have read := run_reading_ok (s := ⟨⟨joinResponseBytes seqNum elements, 0, none⟩,
    JoinResponseValues.initial⟩) header
  have counts := JoinResponseElement.counts_note elements .initial
  have noted := JoinResponseElement.foldlM_note elements .initial
  have placed := JoinResponseElement.foldlM_place elements
    (elements.foldl JoinResponseElement.note .initial)
    (by rw [counts.1, counts.2.2.1]; exact le_rfl) (by rw [counts.2.1, counts.2.2.2]; exact le_rfl)
  have first := run_behindHeader (fun e values values' same => by
    cases same
    exact takes_note e values) JoinResponseElement.header_le eight elements noted
  have second := run_behindHeader (fun e values values' same => by
    obtain ⟨room, same⟩ := Option.ite_none_right_eq_some.mp same
    cases same
    exact takes_place e values room) JoinResponseElement.header_le eight elements placed
  have ended := run_expectingEnd (s := ⟨(⟨joinResponseBytes seqNum elements, 8, none⟩ :
    CWProtocolMessage).advance (elements.flatMap JoinResponseElement.bytes).length,
      elements.foldl JoinResponseElement.note .initial⟩) (by
        rw [advance_offset, joinResponseBytes]
        show _ = (controlHeaderBytes _ ++ _).length
        rw [List.length_append, eight])
  -- the second loop starts where the first did
  have back : { (⟨joinResponseBytes seqNum elements, 8, none⟩ : CWProtocolMessage).advance
      (elements.flatMap JoinResponseElement.bytes).length with offset := 8 } =
      (⟨joinResponseBytes seqNum elements, 8, none⟩ : CWProtocolMessage) := rfl
  rw [joinResponseValues, cwParseJoinResponseMessage]
  simp only [EStateM.run_bind, joinResponseBytes] at read first second ended back ⊢
  simp only [read, expected, sequence, ne_eq, not_true_eq_false, if_false, EStateM.run_get,
    announced, cwParseElements, EStateM.run_bind, first, ended, EStateM.run_modify, back, second,
    JoinResponseElement.valuesOf]

/-! ## Orders -/

/-- The same values, with the control addresses in any order. -/
structure JoinResponseValues.Agree (values values' : JoinResponseValues) : Prop where
  code : values.code = values'.code
  descriptor : values.descriptor = values'.descriptor
  name : values.name = values'.name
  ECNSupport : values.ECNSupport = values'.ECNSupport
  ACIPv4List : values.ACIPv4List = values'.ACIPv4List
  ACIPv6List : values.ACIPv6List = values'.ACIPv6List
  IPv4Addresses : values.IPv4Addresses.Perm values'.IPv4Addresses
  IPv6Addresses : values.IPv6Addresses.Perm values'.IPv6Addresses

/-- In every order of the elements the response is accepted with the same values, and the same is
saved. -/
def JoinResponse.OrderIndependent (response : JoinResponse) : Prop :=
  ∀ (seqNum : UInt8) (elements : List JoinResponseElement), elements.Perm response.elements →
    ∃ values values',
      joinResponseValues seqNum.toNat (joinResponseBytes seqNum response.elements) = some values ∧
      joinResponseValues seqNum.toNat (joinResponseBytes seqNum elements) = some values' ∧
      values.Agree values' ∧
      ∀ gACInfoPtr : ACInfo, cwSaveJoinResponseMessage gACInfoPtr values =
        cwSaveJoinResponseMessage gACInfoPtr values'

namespace JoinResponseElement

theorem length_of_perm {elements elements' : List JoinResponseElement}
    (perm : elements.Perm elements') :
    (elements.flatMap bytes).length = (elements'.flatMap bytes).length :=
  (perm.flatMap_right bytes).length_eq

/-- The first loop is the same for two elements of different types in either order, if neither is a
list. -/
theorem note_comm {first second : JoinResponseElement} (values : JoinResponseValues)
    (other : first.type ≠ second.type) (plain : first.isList = false)
    (plain' : second.isList = false) :
    note (note values first) second = note (note values second) first := by
  cases first with
  | acIPv4List | acIPv6List => cases plain
  | acDescriptor | radioInformation | resultCode | acName | localIPv4Address | controlIPv4Address
  | controlIPv6Address | ecnSupport =>
    cases second with
    | acIPv4List | acIPv6List => cases plain'
    | acDescriptor | radioInformation | resultCode | acName | localIPv4Address | controlIPv4Address
    | controlIPv6Address | ecnSupport => first | rfl | exact absurd rfl other

/-- Of the elements that there may be more of none takes the place of another. -/
theorem note_comm_repeatable {first second : JoinResponseElement} (values : JoinResponseValues)
    (same : first.type = second.type) (repeated : first.repeatable = true) :
    note (note values first) second = note (note values second) first := by
  cases first with
  | radioInformation => cases second <;> first | rfl | cases same
  | controlIPv4Address => cases second <;> first | rfl | cases same
  | controlIPv6Address => cases second <;> first | rfl | cases same
  | acDescriptor | acIPv4List | acIPv6List | resultCode | acName | localIPv4Address
  | ecnSupport => cases repeated

theorem repeatable_eq (element : JoinResponseElement) :
    element.repeatable = (element.type == wtpRadioInformationType ||
      element.type == cwControlIPv4AddressType || element.type == cwControlIPv6AddressType) := by
  cases element <;> rfl

/-- Two elements of one type are one element, or there may be more of them. -/
theorem eq_or_repeatable {elements : List JoinResponseElement}
    (once : ((elements.filter fun element => !element.repeatable).map type).Nodup)
    {first second : JoinResponseElement} (mem : first ∈ elements) (mem' : second ∈ elements)
    (same : first.type = second.type) : first = second ∨ first.repeatable = true := by
  cases repeated : first.repeatable with
  | true => exact Or.inr rfl
  | false =>
    have repeated' : second.repeatable = false := by
      rw [repeatable_eq, ← same, ← repeatable_eq]
      exact repeated
    apply Or.inl
    apply List.inj_on_of_nodup_map once _ _ same
    · simp [mem, repeated]
    · simp [mem', repeated']

theorem foldl_note_perm {elements elements' : List JoinResponseElement}
    (once : ((elements.filter fun element => !element.repeatable).map type).Nodup)
    (plain : ∀ element ∈ elements, element.isList = false) (perm : elements.Perm elements')
    (values : JoinResponseValues) : elements.foldl note values = elements'.foldl note values := by
  apply perm.foldl_eq'
  intro first mem second mem' values
  by_cases same : first.type = second.type
  · cases eq_or_repeatable once mem mem' same with
    | inl equal => rw [equal]
    | inr repeated => exact note_comm_repeatable values same repeated
  · exact note_comm values same (plain first mem) (plain second mem')

/-- What is in front of the last element does not leave a list of another type. -/
theorem lists_note (values : JoinResponseValues) (element : JoinResponseElement) :
    (element.type ≠ acIPv4ListType → (note values element).ACIPv4List = some []) ∧
      (element.type ≠ acIPv6ListType → (note values element).ACIPv6List = some []) := by
  cases element with
  | acIPv4List => exact ⟨fun other => absurd rfl other, fun _ => rfl⟩
  | acIPv6List => exact ⟨fun _ => rfl, fun other => absurd rfl other⟩
  | acDescriptor | radioInformation | resultCode | acName | localIPv4Address | controlIPv4Address
  | controlIPv6Address | ecnSupport => exact ⟨fun _ => rfl, fun _ => rfl⟩

/-- The values of a list have its addresses if it is the last element. -/
theorem lists_note_list (values : JoinResponseValues) {element : JoinResponseElement}
    (list : element.isList = true) :
    (element.type = acIPv4ListType ∧ (note values element).ACIPv4List ≠ some []) ∨
      (element.type = acIPv6ListType ∧ (note values element).ACIPv6List ≠ some []) := by
  cases element with
  | acIPv4List addresses inhabited short =>
    exact Or.inl ⟨rfl, by simpa [note, assign] using inhabited⟩
  | acIPv6List addresses inhabited short =>
    exact Or.inr ⟨rfl, by simpa [note, assign] using inhabited⟩
  | acDescriptor | radioInformation | resultCode | acName | localIPv4Address | controlIPv4Address
  | controlIPv6Address | ecnSupport => cases list

/-- Both lists are those behind the last element. -/
theorem lists_valuesOf (elements : List JoinResponseElement) (last : JoinResponseElement) :
    ∃ values, (valuesOf (elements ++ [last])).ACIPv4List = (note values last).ACIPv4List ∧
      (valuesOf (elements ++ [last])).ACIPv6List = (note values last).ACIPv6List := by
  rw [valuesOf, foldl_place, List.foldl_append]
  exact ⟨_, rfl, rfl⟩

/-- Another element than a list has another type. -/
theorem type_ne {elements init : List JoinResponseElement} {list last : JoinResponseElement}
    (once : ((elements.filter fun element => !element.repeatable).map type).Nodup)
    (perm : (list :: (init ++ [last])).Perm elements) (isList : list.isList = true) :
    last.type ≠ list.type := by
  intro same
  have single : list.repeatable = false := by
    cases list with
    | acIPv4List | acIPv6List => rfl
    | acDescriptor | radioInformation | resultCode | acName | localIPv4Address
    | controlIPv4Address | controlIPv6Address | ecnSupport => cases isList
  have single' : last.repeatable = false := by
    rw [repeatable_eq, same, ← repeatable_eq]
    exact single
  have nodup := ((perm.filter fun element => !element.repeatable).map type).nodup_iff.mpr once
  simp [single, single', same] at nodup

theorem agree_refl (values : JoinResponseValues) : values.Agree values :=
  ⟨rfl, rfl, rfl, rfl, rfl, rfl, List.Perm.refl _, List.Perm.refl _⟩

/-- Without a list, the order only shows in the order of the control addresses. -/
theorem agree_valuesOf {elements elements' : List JoinResponseElement}
    (once : ((elements.filter fun element => !element.repeatable).map type).Nodup)
    (plain : ∀ element ∈ elements, element.isList = false) (perm : elements.Perm elements') :
    (valuesOf elements).Agree (valuesOf elements') := by
  rw [valuesOf, valuesOf, foldl_place, foldl_place, foldl_note_perm once plain perm]
  exact ⟨rfl, rfl, rfl, rfl, rfl, rfl, (perm.filterMap _).append_left _,
    (perm.filterMap _).append_left _⟩

end JoinResponseElement

/-- What is saved does not depend on the control addresses. -/
theorem cwSaveJoinResponseMessage_congr {values values' : JoinResponseValues}
    (agree : values.Agree values') (gACInfoPtr : ACInfo) :
    cwSaveJoinResponseMessage gACInfoPtr values = cwSaveJoinResponseMessage gACInfoPtr values' := by
  simp only [cwSaveJoinResponseMessage, agree.code, agree.descriptor, agree.name,
    agree.ACIPv4List, agree.ACIPv6List]

theorem JoinResponse.orderIndependent_of_agree {response : JoinResponse}
    (agree : ∀ elements, elements.Perm response.elements →
      (JoinResponseElement.valuesOf response.elements).Agree
        (JoinResponseElement.valuesOf elements)) : response.OrderIndependent := by
  intro seqNum elements perm
  have fits : (elements.flatMap JoinResponseElement.bytes).length < 65533 := by
    rw [JoinResponseElement.length_of_perm perm]
    exact response.fits
  exact ⟨_, _, joinResponseValues_eq seqNum _ response.fits, joinResponseValues_eq seqNum _ fits,
    agree elements perm, cwSaveJoinResponseMessage_congr (agree elements perm)⟩

theorem JoinResponse.agree_of_orderIndependent {response : JoinResponse}
    (independent : response.OrderIndependent) {elements : List JoinResponseElement}
    (perm : elements.Perm response.elements) :
    (JoinResponseElement.valuesOf response.elements).Agree
      (JoinResponseElement.valuesOf elements) := by
  have fits : (elements.flatMap JoinResponseElement.bytes).length < 65533 := by
    rw [JoinResponseElement.length_of_perm perm]
    exact response.fits
  obtain ⟨values, values', ran, ran', agree, _⟩ := independent 0 elements perm
  rw [joinResponseValues_eq 0 _ response.fits] at ran
  rw [joinResponseValues_eq 0 _ fits] at ran'
  cases ran
  cases ran'
  exact agree

/-- A list and another element make two orders with different lists. -/
theorem JoinResponse.not_orderIndependent {response : JoinResponse}
    {list : JoinResponseElement} (mem : list ∈ response.elements) (isList : list.isList = true)
    (more : 1 < response.elements.length) : ¬ response.OrderIndependent := by
  intro independent
  obtain ⟨front, back, split⟩ := List.append_of_mem mem
  -- the list at the end, and the list in front of the others
  have atEnd : (front ++ back ++ [list]).Perm response.elements := by
    rw [split, List.append_assoc]
    exact (List.perm_append_comm).append_left front
  have inFront : (list :: (front ++ back)).Perm response.elements := by
    rw [split]
    exact List.perm_middle.symm
  have others : front ++ back ≠ [] := by
    intro none
    rw [split, List.length_append, List.length_cons] at more
    have short := congrArg List.length none
    rw [List.length_append, List.length_nil] at short
    omega
  obtain ⟨init, last, ending⟩ : ∃ init last, front ++ back = init ++ [last] :=
    ⟨_, _, (List.dropLast_append_getLast others).symm⟩
  rw [ending] at atEnd inFront
  have other : last.type ≠ list.type := JoinResponseElement.type_ne response.once inFront isList
  have agree := agree_of_orderIndependent independent atEnd
  have agree' := agree_of_orderIndependent independent
    (show (list :: init ++ [last]).Perm response.elements from inFront)
  obtain ⟨values, list4, list6⟩ := JoinResponseElement.lists_valuesOf (init ++ [last]) list
  obtain ⟨values', last4, last6⟩ := JoinResponseElement.lists_valuesOf (list :: init) last
  obtain ⟨none4, none6⟩ := JoinResponseElement.lists_note values' last
  cases JoinResponseElement.lists_note_list values isList with
  | inl kept =>
    apply kept.2
    rw [← list4, ← agree.ACIPv4List, agree'.ACIPv4List, last4]
    exact none4 fun same => other (same.trans kept.1.symm)
  | inr kept =>
    apply kept.2
    rw [← list6, ← agree.ACIPv6List, agree'.ACIPv6List, last6]
    exact none6 fun same => other (same.trans kept.1.symm)

/-- The order does not matter exactly when there is no list of addresses, or nothing beside it. -/
theorem joinResponse_orderIndependent_iff (response : JoinResponse) :
    response.OrderIndependent ↔ response.elements.length ≤ 1 ∨
      ∀ element ∈ response.elements, element.isList = false := by
  constructor
  · intro independent
    by_cases more : 1 < response.elements.length
    · apply Or.inr
      intro element mem
      cases isList : element.isList with
      | false => rfl
      | true => exact absurd independent (JoinResponse.not_orderIndependent mem isList more)
    · exact Or.inl (Nat.le_of_not_lt more)
  · intro condition
    apply JoinResponse.orderIndependent_of_agree
    intro elements perm
    cases condition with
    | inl single =>
      have same : elements = response.elements := by
        cases known : response.elements with
        | nil =>
          rw [known] at perm
          exact perm.eq_nil
        | cons first others =>
          rw [known, List.length_cons] at single
          have none : others = [] := List.length_eq_zero_iff.mp (by omega)
          rw [known, none] at perm
          rw [none]
          exact perm.eq_singleton
      rw [same]
      exact JoinResponseElement.agree_refl _
    | inr plain => exact JoinResponseElement.agree_valuesOf response.once plain perm.symm

/-- A response with all that there has to be, and the address of one more AC. -/
def listedResponse : JoinResponse where
  elements := [.resultCode 0, .acDescriptor ownDescriptor ownDescriptor_fits (by
      simp [ownDescriptor, CWACInfoValues.size, recordsSize]), .acName [0x41, 0x43] (by simp),
    .ecnSupport 1, .localIPv4Address 0x0A000001, .controlIPv4Address 0x0A000001 1,
    .acIPv4List [0x0A000002] (by simp) (by simp)]
  once := by
    simp [JoinResponseElement.repeatable, JoinResponseElement.type, Vendor.resultCodeType,
      acDescriptorType, acNameType, ecnSupportType, localIPv4AddressType, acIPv4ListType]
  fits := by
    simp [JoinResponseElement.bytes, Elements.elementBytes, JoinResponseElement.body,
      CWACInfoValues.length_body, ownDescriptor, CWACInfoValues.size, recordsSize]

theorem listedResponse_not_orderIndependent : ¬ listedResponse.OrderIndependent := by
  have mem : .acIPv4List [0x0A000002] (by simp) (by simp) ∈ listedResponse.elements := by
    simp [listedResponse]
  exact JoinResponse.not_orderIndependent mem rfl (by simp [listedResponse])

end WlanController.Requests
