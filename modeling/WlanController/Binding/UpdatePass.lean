import WlanController.Binding.BindingParsers
import WlanController.Elements.ElementLayouts
import WlanController.Protocol.ReadsAlike

/-!
# The binding's elements in an update

Both loops of the binding over the elements of a configuration update request.  The values are
stored in what the type of the last element has made the program allocate, so that every element
for which nothing was allocated leads astray.
-/

namespace WlanController.Binding

open Protocol Elements

/-! ## The records of the binding -/

section FixedSize

variable {α σ : Type}

/-- A record that is not as long as announced makes the program free what it does not own. -/
theorem astray_parseOwned {program : MessageM α} {size len : Nat}
    (fixed : FixedSize program size) (other : len ≠ size) (assign : α → σ → σ) {s : Parsing σ}
    (valid : s.message.Valid) : Treatment.Astray ((parseOwned len program assign).run s) := by
  by_cases inside : s.message.offset + size ≤ s.message.msg.length
  · obtain ⟨value, ran⟩ := fixed.returns s.message inside
    have malformed := parseInto_of_ok len assign ran (advance_offset _ _)
    rw [if_neg (Ne.symm other)] at malformed
    refine ⟨.overrun, ⟨s.message.advance size, assign value s.values⟩, ?_, ?_⟩
    · rw [EStateM.run] at malformed ⊢
      rw [parseOwned, EStateM.run, malformed]
    · intro code text same
      cases same
  · obtain ⟨after, ran⟩ := fixed.leaves s.message valid (Nat.lt_of_not_le inside)
    have left := parseInto_of_error len assign ran
    refine ⟨.failed (.outOfBounds .receiveBuffer), { s with message := after }, ?_, ?_⟩
    · rw [EStateM.run] at left ⊢
      rw [parseOwned, EStateM.run, left]
    · intro code text same
      cases same

end FixedSize

def profileLayout : Layout WTPQosValues := do
  let queueDepth ← Layout.number 1
  let cwMin ← Layout.number 2
  let cwMax ← Layout.number 2
  let AIFS ← Layout.number 1
  let dot1PTag ← Layout.number 1
  let DSCPTag ← Layout.number 1
  return ⟨.ofNat queueDepth, .ofNat cwMin, .ofNat cwMax, .ofNat AIFS, .ofNat dot1PTag, .ofNat DSCPTag⟩

def profilesLayout : (rounds : Nat) → Layout (List WTPQosValues)
  | 0 => return []
  | rounds + 1 => do
    let first ← profileLayout
    let rest ← profilesLayout rounds
    return first :: rest

def qosLayout : Layout RadioQosValues := do
  let radioID ← Layout.number 1
  let _tagPackets ← Layout.number 1
  let qosValues ← profilesLayout numQosProfiles
  return ⟨.ofNat radioID, qosValues⟩

def ofdmLayout : Layout RadioOFDMValues := do
  let radioID ← Layout.number 1
  let currentChan ← Layout.number 4
  let BandSupport ← Layout.number 1
  let TIThreshold ← Layout.number 4
  return ⟨.ofNat radioID, ⟨.ofNat currentChan, .ofNat BandSupport, .ofNat TIThreshold⟩⟩

theorem spans_profile : Spans WTPQosValues.retrieve profileLayout :=
  spans_retrieve8.bind fun _ => spans_retrieve16.bind fun _ => spans_retrieve16.bind fun _ =>
    spans_retrieve8.bind fun _ => spans_retrieve8.bind fun _ => spans_retrieve8.bind fun _ =>
      spans_pure _

theorem spans_profiles (rounds : Nat) : Spans (retrieveProfiles rounds) (profilesLayout rounds) := by
  induction rounds with
  | zero => exact spans_pure []
  | succ rounds inductionHypothesis =>
    exact spans_profile.bind fun _ => inductionHypothesis.bind fun _ => spans_pure _

theorem spans_qos : Spans retrieveWTPQoS qosLayout :=
  spans_retrieve8.bind fun _ => spans_retrieve8.bind fun _ => (spans_profiles _).bind fun _ =>
    spans_pure _

theorem spans_ofdm : Spans retrieveWTPOFDM ofdmLayout :=
  spans_retrieve8.bind fun _ => spans_retrieve32.bind fun _ => spans_retrieve8.bind fun _ =>
    spans_retrieve32.bind fun _ => spans_pure _

theorem readsAlike_profile : ReadsAlike WTPQosValues.retrieve :=
  readsAlike_retrieve8.bind fun _ => readsAlike_retrieve16.bind fun _ =>
    readsAlike_retrieve16.bind fun _ => readsAlike_retrieve8.bind fun _ =>
      readsAlike_retrieve8.bind fun _ => readsAlike_retrieve8.bind fun _ => readsAlike_pure _

theorem readsAlike_profiles (rounds : Nat) : ReadsAlike (retrieveProfiles rounds) := by
  induction rounds with
  | zero => exact readsAlike_pure []
  | succ rounds inductionHypothesis =>
    exact readsAlike_profile.bind fun _ => inductionHypothesis.bind fun _ => readsAlike_pure _

def qosLength : Nat := 34

def ofdmLength : Nat := 10

theorem fixedSize_qos : FixedSize retrieveWTPQoS qosLength :=
  fixedSize_of_spans
    (readsAlike_retrieve8.bind fun _ => readsAlike_retrieve8.bind fun _ =>
      (readsAlike_profiles _).bind fun _ => readsAlike_pure _)
    spans_qos (fun _ _ => rfl) (fun _ _ => ⟨_, rfl⟩)

theorem fixedSize_ofdm : FixedSize retrieveWTPOFDM ofdmLength :=
  fixedSize_of_spans
    (readsAlike_retrieve8.bind fun _ => readsAlike_retrieve32.bind fun _ =>
      readsAlike_retrieve8.bind fun _ => readsAlike_retrieve32.bind fun _ => readsAlike_pure _)
    spans_ofdm (fun _ _ => rfl) (fun _ _ => ⟨_, rfl⟩)

/-! ## The loops over elements -/

section Update

/-- What the first loop makes of an element. -/
def countUpdate (e : WireElement) (values : UpdateValues) : Option UpdateValues :=
  if e.type.toNat = wtpQosType then
    some { values with GlobalElemType := wtpQosType, qosCount := values.qosCount + 1 }
  else if e.type.toNat = ofdmControlType then some { values with GlobalElemType := ofdmControlType }
  else if cwBindingCheckType e.type.toNat then none
  else some { values with GlobalElemType := e.type.toNat }

/-- What the second loop makes of an element. -/
def fillUpdate (e : WireElement) (values : UpdateValues) : Option UpdateValues :=
  if e.type.toNat = wtpQosType then do
    let records ← values.auxBindingPtr
    if records.length < values.qosCount then
      let record ← wholeValue retrieveWTPQoS e.body
      some { values with auxBindingPtr := some (records ++ [record]) }
    else none
  else if e.type.toNat = ofdmControlType then do
    let _ ← values.ofdmBindingPtr
    let record ← wholeValue retrieveWTPOFDM e.body
    some { values with ofdmBindingPtr := some (some record) }
  else some values

theorem takes_countUpdateElement (e : WireElement) (values values' : UpdateValues)
    (counts : countUpdate e values = some values') :
    Takes countUpdateElement e.bytes values values' := by
  apply e.takes_skipping
  intro message
  rw [countUpdate] at counts
  rw [countUpdateElement]
  split at counts
  next qos =>
    cases counts
    rw [if_pos qos, qos]
    rfl
  next notQos =>
    rw [if_neg notQos]
    split at counts
    next ofdm =>
      cases counts
      rw [if_pos ofdm, ofdm]
      rfl
    next notOfdm =>
      rw [if_neg notOfdm]
      split at counts
      next binding => cases counts
      next other =>
        cases counts
        rw [if_neg other]
        rfl

theorem astrays_countUpdateElement (e : WireElement) (values : UpdateValues)
    (counts : countUpdate e values = none) : Astrays countUpdateElement e.bytes values := by
  apply astrays_of_body e.type.toNat_lt e.short
  intro s rest _ _ _
  rw [countUpdate] at counts
  split at counts
  next qos => cases counts
  next notQos =>
    split at counts
    next ofdm => cases counts
    next notOfdm =>
      split at counts
      next binding =>
        rw [countUpdateElement, if_neg notQos, if_neg notOfdm, if_pos binding]
        exact ⟨.overrun, _, rfl, nofun⟩
      next other => cases counts

theorem takes_fillUpdateElement (e : WireElement) (values values' : UpdateValues)
    (fills : fillUpdate e values = some values') :
    Takes fillUpdateElement e.bytes values values' := by
  apply takes_of_body e.type.toNat_lt e.short
  intro s rest valid ahead same
  subst same
  rw [fillUpdate] at fills
  rw [fillUpdateElement]
  split at fills
  next qos =>
    simp only [Option.bind_eq_bind, Option.bind_eq_some_iff, Option.ite_none_right_eq_some,
      Option.some.injEq] at fills
    obtain ⟨records, aux, room, record, whole, rfl⟩ := fills
    have reads := fixedSize_qos.alike.readsFrom
      (readsWhole_of_wholeValue fixedSize_qos.alike whole) s.message.offset
    have stored := parseOwned_of_readsFrom reads
      (fun record values => { values with auxBindingPtr := some (records ++ [record]) }) valid ahead
    simp only [if_pos qos, EStateM.run_bind, EStateM.run_get, aux, if_pos room]
    exact stored
  next notQos =>
    rw [if_neg notQos]
    split at fills
    next ofdm =>
      simp only [Option.bind_eq_bind, Option.bind_eq_some_iff, Option.some.injEq] at fills
      obtain ⟨pointer, set, record, whole, rfl⟩ := fills
      have reads := fixedSize_ofdm.alike.readsFrom
        (readsWhole_of_wholeValue fixedSize_ofdm.alike whole) s.message.offset
      have stored := parseOwned_of_readsFrom reads
        (fun record values => { values with ofdmBindingPtr := some (some record) }) valid ahead
      simp only [if_pos ofdm, EStateM.run_bind, EStateM.run_get, set]
      exact stored
    next notOfdm =>
      cases fills
      rw [if_neg notOfdm]
      rfl

theorem astrays_fillUpdateElement (e : WireElement) (values : UpdateValues)
    (fills : fillUpdate e values = none) : Astrays fillUpdateElement e.bytes values := by
  apply astrays_of_body e.type.toNat_lt e.short
  intro s rest valid ahead same
  subst same
  rw [fillUpdate] at fills
  rw [fillUpdateElement]
  split at fills
  next qos =>
    simp only [if_pos qos, EStateM.run_bind, EStateM.run_get]
    cases aux : s.values.auxBindingPtr with
    | none => exact ⟨.overrun, _, rfl, nofun⟩
    | some records =>
      by_cases room : records.length < s.values.qosCount
      · simp only [aux, Option.bind_eq_bind, Option.bind_some, if_pos room,
          Option.bind_eq_none_iff] at fills
        have other : e.body.length ≠ qosLength := by
          intro same
          obtain ⟨record, whole⟩ := Option.isSome_iff_exists.mp
            ((fixedSize_qos.wholeValue_isSome_iff e.body).mpr same)
          cases fills record whole
        simp only [EStateM.run_bind, EStateM.run_get, if_pos room]
        exact astray_parseOwned fixedSize_qos other _ valid
      · simp only [EStateM.run_bind, EStateM.run_get, if_neg room]
        exact ⟨.overrun, _, rfl, nofun⟩
  next notQos =>
    rw [if_neg notQos]
    split at fills
    next ofdm =>
      simp only [if_pos ofdm, EStateM.run_bind, EStateM.run_get]
      cases set : s.values.ofdmBindingPtr with
      | none => exact ⟨.overrun, _, rfl, nofun⟩
      | some pointer =>
        simp only [set, Option.bind_eq_bind, Option.bind_some, Option.bind_eq_none_iff] at fills
        have other : e.body.length ≠ ofdmLength := by
          intro same
          obtain ⟨record, whole⟩ := Option.isSome_iff_exists.mp
            ((fixedSize_ofdm.wholeValue_isSome_iff e.body).mpr same)
          cases fills record whole
        exact astray_parseOwned fixedSize_ofdm other _ valid
    next notOfdm => cases fills

/-- What both loops make of elements, if they do not lead astray. -/
def updatePass (elements : List WireElement) : Option UpdateValues := do
  let counted ← elements.foldlM (fun values e => countUpdate e values) .initial
  elements.foldlM (fun values e => fillUpdate e values) counted.allocated

theorem run_updatePass {elements : List WireElement} {filled : UpdateValues}
    (passed : updatePass elements = some filled) :
    ∃ message, (cwBindingParseConfigurationUpdateRequest
        (elements.flatMap WireElement.bytes).length).run
      ⟨received (elements.flatMap WireElement.bytes), .initial⟩ = .ok () ⟨message, filled⟩ := by
  rw [updatePass, Option.bind_eq_bind, Option.bind_eq_some_iff] at passed
  obtain ⟨counted, counting, filling⟩ := passed
  exact parsingTwice_of_takes _ takes_countUpdateElement takes_fillUpdateElement
    WireElement.header_le elements counting (fun _ => rfl) filling

theorem astray_updatePass {elements : List WireElement} (passed : updatePass elements = none) :
    Treatment.Astray ((cwBindingParseConfigurationUpdateRequest
        (elements.flatMap WireElement.bytes).length).run
      ⟨received (elements.flatMap WireElement.bytes), .initial⟩) := by
  cases counting : elements.foldlM (fun values e => countUpdate e values) .initial with
  | none =>
    exact astray_parsingTwice _ takes_countUpdateElement astrays_countUpdateElement
      WireElement.header_le elements counting
  | some counted =>
    simp only [updatePass, counting, Option.bind_eq_bind, Option.bind_some] at passed
    have allocates (message : CWProtocolMessage) :
        (assigning UpdateValues.allocated).run ⟨message, counted⟩ =
          .ok () ⟨message, counted.allocated⟩ := rfl
    rw [cwBindingParseConfigurationUpdateRequest, run_parsingTwice _ takes_countUpdateElement
      WireElement.header_le elements counting allocates]
    exact astray_elements (fun _ => True)
      (fun e values values' _ taken => ⟨takes_fillUpdateElement e values values' taken, trivial⟩)
      (fun e values _ taken => astrays_fillUpdateElement e values taken) WireElement.header_le
      elements trivial passed

/-! ## What passes -/

def IsQos (e : WireElement) : Prop := e.type.toNat = wtpQosType

def IsOfdm (e : WireElement) : Prop := e.type.toNat = ofdmControlType

/-- The type of the last element. -/
def lastType (elements : List WireElement) : Nat :=
  (elements.getLast?.map fun e => e.type.toNat).getD 0

theorem counts_spec (elements : List WireElement) {values counted : UpdateValues}
    (counting : elements.foldlM (fun values e => countUpdate e values) values = some counted) :
    (∀ e ∈ elements, cwBindingCheckType e.type.toNat → IsQos e ∨ IsOfdm e) ∧
      counted.GlobalElemType =
        (elements.getLast?.map fun e => e.type.toNat).getD values.GlobalElemType ∧
      counted.auxBindingPtr = values.auxBindingPtr ∧
      counted.ofdmBindingPtr = values.ofdmBindingPtr := by
  induction elements generalizing values with
  | nil =>
    cases counting
    exact ⟨nofun, rfl, rfl, rfl⟩
  | cons e elements inductionHypothesis =>
    rw [List.foldlM_cons, Option.bind_eq_bind, Option.bind_eq_some_iff] at counting
    obtain ⟨middle, here, counting⟩ := counting
    obtain ⟨known, type, aux, ofdm⟩ := inductionHypothesis counting
    have kept : (cwBindingCheckType e.type.toNat → IsQos e ∨ IsOfdm e) ∧
        middle.GlobalElemType = e.type.toNat ∧ middle.auxBindingPtr = values.auxBindingPtr ∧
          middle.ofdmBindingPtr = values.ofdmBindingPtr := by
      rw [countUpdate] at here
      split at here
      next qos =>
        cases here
        exact ⟨fun _ => .inl qos, qos.symm, rfl, rfl⟩
      next notQos =>
        split at here
        next isOfdm =>
          cases here
          exact ⟨fun _ => .inr isOfdm, isOfdm.symm, rfl, rfl⟩
        next notOfdm =>
          split at here
          next binding => cases here
          next other =>
            cases here
            exact ⟨fun binding => absurd binding other, rfl, rfl, rfl⟩
    refine ⟨?_, ?_, aux.trans kept.2.2.1, ofdm.trans kept.2.2.2⟩
    · intro e' member
      cases member with
      | head => exact kept.1
      | tail _ later => exact known e' later
    · rw [type, kept.2.1, List.getLast?_cons]
      cases elements.getLast? <;> rfl

/-- The count of QoS elements that are nothing else. -/
theorem counts_qosElements (elements : List WireElement) (only : ∀ e ∈ elements, IsQos e)
    (values : UpdateValues) :
    elements.foldlM (fun values e => countUpdate e values) values =
      some { values with
        GlobalElemType := if elements = [] then values.GlobalElemType else wtpQosType
        qosCount := values.qosCount + elements.length } := by
  induction elements generalizing values with
  | nil => rfl
  | cons e elements inductionHypothesis =>
    have here : countUpdate e values =
        some { values with GlobalElemType := wtpQosType, qosCount := values.qosCount + 1 } :=
      if_pos (only e List.mem_cons_self)
    rw [List.foldlM_cons, here, Option.bind_eq_bind, Option.bind_some,
      inductionHypothesis fun e member => only e (List.mem_cons_of_mem _ member)]
    simp [Nat.add_assoc, Nat.add_comm 1]

/-- Nothing is stored for a kind of values for which nothing was allocated. -/
theorem fills_unset (elements : List WireElement) {values filled : UpdateValues}
    (filling : elements.foldlM (fun values e => fillUpdate e values) values = some filled) :
    (values.auxBindingPtr = none → filled.auxBindingPtr = none ∧ ∀ e ∈ elements, ¬ IsQos e) ∧
      (values.ofdmBindingPtr = none → filled.ofdmBindingPtr = none ∧ ∀ e ∈ elements, ¬ IsOfdm e) := by
  induction elements generalizing values with
  | nil =>
    cases filling
    exact ⟨fun unset => ⟨unset, nofun⟩, fun unset => ⟨unset, nofun⟩⟩
  | cons e elements inductionHypothesis =>
    rw [List.foldlM_cons, Option.bind_eq_bind, Option.bind_eq_some_iff] at filling
    obtain ⟨middle, here, filling⟩ := filling
    obtain ⟨aux, ofdm⟩ := inductionHypothesis filling
    rw [fillUpdate] at here
    split at here
    next qos =>
      simp only [Option.bind_eq_bind, Option.bind_eq_some_iff, Option.ite_none_right_eq_some,
        Option.some.injEq] at here
      obtain ⟨records, set, room, record, whole, rfl⟩ := here
      have notOfdm : ¬ IsOfdm e := by
        intro ofdm
        rw [IsOfdm, qos] at ofdm
        exact absurd ofdm (by decide)
      constructor
      · intro unset
        rw [set] at unset
        cases unset
      · intro unset
        obtain ⟨kept, none⟩ := ofdm unset
        exact ⟨kept, List.forall_mem_cons.mpr ⟨notOfdm, none⟩⟩
    next notQos =>
      split at here
      next isOfdm =>
        simp only [Option.bind_eq_bind, Option.bind_eq_some_iff, Option.some.injEq] at here
        obtain ⟨pointer, set, record, whole, rfl⟩ := here
        constructor
        · intro unset
          obtain ⟨kept, none⟩ := aux unset
          exact ⟨kept, List.forall_mem_cons.mpr ⟨notQos, none⟩⟩
        · intro unset
          rw [set] at unset
          cases unset
      next notOfdm =>
        cases here
        constructor
        · intro unset
          obtain ⟨kept, none⟩ := aux unset
          exact ⟨kept, List.forall_mem_cons.mpr ⟨notQos, none⟩⟩
        · intro unset
          obtain ⟨kept, none⟩ := ofdm unset
          exact ⟨kept, List.forall_mem_cons.mpr ⟨notOfdm, none⟩⟩

/-- The records of QoS elements that are nothing else. -/
theorem fills_qosElements (elements : List WireElement) (only : ∀ e ∈ elements, IsQos e)
    {values filled : UpdateValues} {records : List RadioQosValues}
    (aux : values.auxBindingPtr = some records)
    (filling : elements.foldlM (fun values e => fillUpdate e values) values = some filled) :
    filled.ofdmBindingPtr = values.ofdmBindingPtr ∧
      ∃ more, filled.auxBindingPtr = some (records ++ more) ∧
        List.Forall₂ (fun e record => wholeValue retrieveWTPQoS e.body = some record) elements
          more := by
  induction elements generalizing values records with
  | nil =>
    cases filling
    exact ⟨rfl, [], by rw [aux, List.append_nil], .nil⟩
  | cons e elements inductionHypothesis =>
    rw [List.foldlM_cons, Option.bind_eq_bind, Option.bind_eq_some_iff] at filling
    obtain ⟨middle, here, filling⟩ := filling
    have qos : e.type.toNat = wtpQosType := only e List.mem_cons_self
    rw [fillUpdate, if_pos qos, aux] at here
    simp only [Option.bind_eq_bind, Option.bind_some, Option.ite_none_right_eq_some,
      Option.bind_eq_some_iff, Option.some.injEq] at here
    obtain ⟨room, record, whole, rfl⟩ := here
    obtain ⟨ofdm, more, set, each⟩ := inductionHypothesis
      (fun e member => only e (List.mem_cons_of_mem _ member)) rfl filling
    refine ⟨ofdm, record :: more, ?_, .cons whole each⟩
    rw [set, List.append_assoc, List.singleton_append]

/-- QoS elements of the right length find room in an array that has been counted. -/
theorem exists_fills_qosElements (elements : List WireElement)
    (only : ∀ e ∈ elements, IsQos e ∧ e.body.length = qosLength) {values : UpdateValues}
    {records : List RadioQosValues} (aux : values.auxBindingPtr = some records)
    (room : records.length + elements.length ≤ values.qosCount) :
    ∃ filled, elements.foldlM (fun values e => fillUpdate e values) values = some filled := by
  induction elements generalizing values records with
  | nil => exact ⟨values, rfl⟩
  | cons e elements inductionHypothesis =>
    obtain ⟨qos, length⟩ := only e List.mem_cons_self
    obtain ⟨record, whole⟩ := Option.isSome_iff_exists.mp
      ((fixedSize_qos.wholeValue_isSome_iff e.body).mpr length)
    rw [List.length_cons] at room
    have type : e.type.toNat = wtpQosType := qos
    have here : fillUpdate e values =
        some { values with auxBindingPtr := some (records ++ [record]) } := by
      rw [fillUpdate, if_pos type, aux]
      simp only [Option.bind_eq_bind, Option.bind_some, whole]
      rw [if_pos (by omega)]
    rw [List.foldlM_cons, here, Option.bind_eq_bind, Option.bind_some]
    have more : (records ++ [record]).length + elements.length ≤ values.qosCount := by
      rw [List.length_append, List.length_singleton]
      omega
    exact inductionHypothesis (fun e member => only e (List.mem_cons_of_mem _ member)) rfl more

/-- Which elements of the binding there are, where both loops pass. -/
theorem updatePass_spec {elements : List WireElement} {filled : UpdateValues}
    (passed : updatePass elements = some filled) :
    (lastType elements = wtpQosType ∧ filled.ofdmBindingPtr = none ∧
        ∀ e ∈ elements, cwBindingCheckType e.type.toNat → IsQos e) ∨
      (lastType elements = ofdmControlType ∧ filled.auxBindingPtr = none ∧
        ∀ e ∈ elements, cwBindingCheckType e.type.toNat → IsOfdm e) ∨
      ∀ e ∈ elements, ¬ cwBindingCheckType e.type.toNat := by
  rw [updatePass, Option.bind_eq_bind, Option.bind_eq_some_iff] at passed
  obtain ⟨counted, counting, filling⟩ := passed
  obtain ⟨known, type, aux, ofdm⟩ := counts_spec elements counting
  have last : lastType elements = counted.GlobalElemType := type.symm
  have noAux : counted.auxBindingPtr = none := aux
  have noOfdm : counted.ofdmBindingPtr = none := ofdm
  obtain ⟨noQosIn, noOfdmIn⟩ := fills_unset elements filling
  by_cases qos : counted.GlobalElemType = wtpQosType
  · have allocated : counted.allocated.ofdmBindingPtr = none := by
      rw [UpdateValues.allocated, if_pos qos]
      exact noOfdm
    obtain ⟨kept, none⟩ := noOfdmIn allocated
    exact .inl ⟨last.trans qos, kept, fun e member binding =>
      (known e member binding).resolve_right (none e member)⟩
  by_cases isOfdm : counted.GlobalElemType = ofdmControlType
  · have allocated : counted.allocated.auxBindingPtr = none := by
      rw [UpdateValues.allocated, if_neg qos, if_pos isOfdm]
      exact noAux
    obtain ⟨kept, none⟩ := noQosIn allocated
    exact .inr (.inl ⟨last.trans isOfdm, kept, fun e member binding =>
      (known e member binding).resolve_left (none e member)⟩)
  · have allocated : counted.allocated = counted := by
      rw [UpdateValues.allocated, if_neg qos, if_neg isOfdm]
    have noQos := (noQosIn (allocated.symm ▸ noAux)).2
    have noOfdm := (noOfdmIn (allocated.symm ▸ noOfdm)).2
    exact .inr (.inr fun e member binding =>
      (known e member binding).elim (noQos e member) (noOfdm e member))

/-- QoS elements that are nothing else. -/
theorem updatePass_qosElements {elements : List WireElement} (inhabited : elements ≠ [])
    (only : ∀ e ∈ elements, IsQos e) {filled : UpdateValues}
    (passed : updatePass elements = some filled) :
    List.Forall₂ (fun e record => wholeValue retrieveWTPQoS e.body = some record) elements
      filled.qosRecords := by
  rw [updatePass, counts_qosElements elements only, if_neg inhabited, Option.bind_eq_bind,
    Option.bind_some] at passed
  obtain ⟨_, more, set, each⟩ := fills_qosElements elements only rfl passed
  rw [UpdateValues.qosRecords, set]
  exact each

theorem exists_updatePass_qosElements {elements : List WireElement} (inhabited : elements ≠ [])
    (only : ∀ e ∈ elements, IsQos e ∧ e.body.length = qosLength) :
    ∃ filled, updatePass elements = some filled := by
  rw [updatePass, counts_qosElements elements fun e member => (only e member).1,
    if_neg inhabited, Option.bind_eq_bind, Option.bind_some]
  exact exists_fills_qosElements elements only rfl (by simp [UpdateValues.allocated])

/-- An OFDM element that stands alone. -/
theorem updatePass_ofdmElement {e : WireElement} (ofdm : IsOfdm e) :
    updatePass [e] = (wholeValue retrieveWTPOFDM e.body).map fun record =>
      ⟨ofdmControlType, 0, none, some (some record)⟩ := by
  have isOfdm : e.type.toNat = ofdmControlType := ofdm
  have notQos : ¬ e.type.toNat = wtpQosType := by
    rw [isOfdm]
    decide
  have counted : countUpdate e .initial =
      some { UpdateValues.initial with GlobalElemType := ofdmControlType } := by
    rw [countUpdate, if_neg notQos, if_pos isOfdm]
  simp only [updatePass, List.foldlM_cons, List.foldlM_nil, counted, Option.bind_eq_bind,
    Option.bind_some, Option.pure_def, fillUpdate, if_neg notQos, if_pos isOfdm]
  cases wholeValue retrieveWTPOFDM e.body <;> rfl

end Update

end WlanController.Binding
