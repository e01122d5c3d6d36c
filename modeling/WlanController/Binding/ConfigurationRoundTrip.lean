import WlanController.Binding.BindingParsers
import WlanController.Foundation.CountedArray

/-!
# Configuration of the radios of a session

The AC assembles one QoS or OFDM element for each radio of a session into a configuration update
request, and a QoS element with a multi-domain capability for each into a configure response.  The
WTP makes records of them.

The elements of an update are written to `*msgElems[k]`, which is inside the array for the first
one alone.
-/

namespace WlanController.Binding

open Protocol Elements CountedArray

/-! ## Sessions -/

structure PhyFrequencyInfo where
  totChannels : UInt16
  /-- Frequency and power in `frequencyList[0]`, if the list is set. -/
  frequencyList : Option (UInt16 × UInt16)
  deriving DecidableEq, Repr

structure WTPPhyInfo where
  radioID : UInt8
  phyFrequencyInfo : PhyFrequencyInfo
  deriving DecidableEq, Repr

/-- An element of `radiosInfo`, with the members that the binding reads. -/
structure SessionRadio where
  radioID : UInt8
  gWTPPhyInfo : WTPPhyInfo
  deriving DecidableEq, Repr

/-- What is known of a WTP.  `bindingValues` and `bindingOFDM` are what `bindingValuesPtr` points to,
    read as the one or the other. -/
structure Session where
  radiosInfo : List SessionRadio
  qosValues : QosProfiles
  ofdmValues : OFDMControlValues
  bindingValues : QosProfiles
  bindingOFDM : OFDMControlValues

/-- Why no elements are handed on. -/
inductive Unassembled where
  /-- `return CW_FALSE`. -/
  | returned
  | failed (failure : Failure)
  /-- A pointer is followed that is not set. -/
  | unset
  deriving DecidableEq, Repr

abbrev AssemblyStep := Step CWProtocolMessage Unassembled

abbrev Assembled := Outcome CWProtocolMessage Unassembled

def made (element : Except Failure CWProtocolMessage) : AssemblyStep :=
  .element (element.mapError .failed)

/-! ## The AC assembles -/

/-- The loop over the radios.  The merged values are those of the session from then on. -/
def qosUpdateSteps (inUse : QosProfiles) : QosProfiles → List SessionRadio → List AssemblyStep
  | _, [] => []
  | qosValues, radio :: radios =>
      let (element, merged) := cwAssembleWTPQoS radio.radioID 0 inUse qosValues
      made element :: qosUpdateSteps inUse merged radios

def ofdmUpdateSteps (inUse ofdmValues : OFDMControlValues) (radios : List SessionRadio) :
    List AssemblyStep :=
  radios.map fun radio => made (cwAssembleWTPOFDM radio.radioID inUse ofdmValues)

/-- `*msgElems[k]` with the array behind `msgElems[0]`: there is nothing behind `msgElems[1]`. -/
def reachableElements (size : Nat) : Nat := min size 1

def cwBindingAssembleConfigurationUpdateRequest (session : Session) (BindingMsgElement : Nat) :
    Assembled :=
  fill (reachableElements session.radiosInfo.length) [] <|
    if BindingMsgElement = wtpQosType then
      qosUpdateSteps session.bindingValues session.qosValues session.radiosInfo
    else if BindingMsgElement = ofdmControlType then
      ofdmUpdateSteps session.bindingOFDM session.ofdmValues session.radiosInfo
    else [.giveUp .returned]

def multiDomainStep (phyInfo : WTPPhyInfo) : AssemblyStep :=
  match phyInfo.phyFrequencyInfo.frequencyList with
  | none => .giveUp .unset
  | some (frequency, maxTxPower) =>
      made (cwAssembleMsgElemACWTPMultiDomainCapability phyInfo.radioID frequency
        phyInfo.phyFrequencyInfo.totChannels maxTxPower)

def responseSteps (inUse : QosProfiles) : QosProfiles → List SessionRadio → List AssemblyStep
  | _, [] => []
  | qosValues, radio :: radios =>
      let (element, merged) := cwAssembleWTPQoS radio.gWTPPhyInfo.radioID 0 inUse qosValues
      made element :: multiDomainStep radio.gWTPPhyInfo :: responseSteps inUse merged radios

/-- With the default values for those of the session. -/
def cwBindingAssembleConfigureResponse (session : Session) (gDefaultQosValues : QosProfiles) :
    Assembled :=
  fill (session.radiosInfo.length * 2) []
    (responseSteps session.bindingValues gDefaultQosValues session.radiosInfo)

/-! ## What a message is for -/

inductive ConfigurationMessage where
  | qosUpdate
  | ofdmUpdate
  | response (gDefaultQosValues : QosProfiles)

structure BindingRecords where
  qos : List RadioQosValues
  ofdm : List RadioOFDMValues
  deriving DecidableEq, Repr

def updateRecords (bytes : List UInt8) : Option BindingRecords :=
  match (cwBindingParseConfigurationUpdateRequest bytes.length).run ⟨received bytes, .initial⟩ with
  | .ok _ s => some ⟨s.values.qosRecords, s.values.ofdmRecords⟩
  | .error _ _ => none

def responseRecords (bytes : List UInt8) : Option BindingRecords :=
  match (cwBindingParseConfigureResponse bytes.length).run ⟨received bytes, .initial⟩ with
  | .ok _ s => some ⟨s.values.radioQosValues, []⟩
  | .error _ _ => none

namespace ConfigurationMessage

def assembled (session : Session) : ConfigurationMessage → Assembled
  | qosUpdate => cwBindingAssembleConfigurationUpdateRequest session wtpQosType
  | ofdmUpdate => cwBindingAssembleConfigurationUpdateRequest session ofdmControlType
  | response gDefaultQosValues => cwBindingAssembleConfigureResponse session gDefaultQosValues

/-- How many elements the AC announces. -/
def msgElemCount (session : Session) : ConfigurationMessage → Nat
  | qosUpdate => session.radiosInfo.length
  | ofdmUpdate => session.radiosInfo.length
  | response _ => session.radiosInfo.length * 2

def records : ConfigurationMessage → List UInt8 → Option BindingRecords
  | qosUpdate => updateRecords
  | ofdmUpdate => updateRecords
  | response _ => responseRecords

/-- One record for each radio, in order. -/
def expected (session : Session) : ConfigurationMessage → BindingRecords
  | qosUpdate =>
      ⟨session.radiosInfo.map fun radio => ⟨radio.gWTPPhyInfo.radioID,
        (cwMergeQosValues session.qosValues session.bindingValues).profiles⟩, []⟩
  | ofdmUpdate =>
      ⟨[], session.radiosInfo.map fun radio => ⟨radio.gWTPPhyInfo.radioID,
        cwMergeOFDMValues session.ofdmValues session.bindingOFDM⟩⟩
  | response gDefaultQosValues =>
      ⟨session.radiosInfo.map fun radio => ⟨radio.gWTPPhyInfo.radioID,
        (cwMergeQosValues gDefaultQosValues session.bindingValues).profiles⟩, []⟩

/-- The elements stay inside their array, fill it, and the WTP makes the records of them. -/
def RoundTrips (session : Session) (message : ConfigurationMessage) : Prop :=
  ∃ elements, message.assembled session = .handedOn elements ∧
    elements.length = message.msgElemCount session ∧
    message.records (elements.flatMap CWProtocolMessage.contents) = some (message.expected session)

/-- An update has room for one element, an OFDM element is longer than its buffer, and a response
    needs the channels of every radio. -/
def Carries (session : Session) : ConfigurationMessage → Prop
  | qosUpdate => session.radiosInfo.length ≤ 1 ∧
      ∀ radio ∈ session.radiosInfo, radio.radioID = radio.gWTPPhyInfo.radioID
  | ofdmUpdate => session.radiosInfo = []
  | response _ => ∀ radio ∈ session.radiosInfo,
      radio.gWTPPhyInfo.phyFrequencyInfo.frequencyList.isSome

end ConfigurationMessage

/-! ## The WTP parses -/

section Records

/-- What the loops of an update make of an element. -/
def BindingElement.countsUpdate (values : UpdateValues) : BindingElement → Option UpdateValues
  | qos _ _ => some { values with
      GlobalElemType := wtpQosType
      qosCount := values.qosCount + 1 }
  | multiDomain _ _ _ _ => none

def BindingElement.fillsUpdate (values : UpdateValues) : BindingElement → Option UpdateValues
  | qos radioID qosValues =>
      match values.auxBindingPtr with
      | some records =>
          if records.length < values.qosCount then
            some { values with auxBindingPtr := some (records ++ [⟨radioID, qosValues.profiles⟩]) }
          else none
      | none => none
  | multiDomain _ _ _ _ => none

theorem takes_countUpdate (e : BindingElement) (values values' : UpdateValues)
    (counts : e.countsUpdate values = some values') : Takes countUpdateElement e.bytes values values' := by
  cases e with
  | multiDomain radioID firstChannel numChannels maxTxPower => cases counts
  | qos radioID qosValues =>
    cases counts
    apply BindingElement.takes_skipping
    intro message
    rfl

theorem takes_fillUpdate (e : BindingElement) (values values' : UpdateValues)
    (fills : e.fillsUpdate values = some values') : Takes fillUpdateElement e.bytes values values' := by
  cases e with
  | multiDomain radioID firstChannel numChannels maxTxPower => cases fills
  | qos radioID qosValues =>
    rw [BindingElement.fillsUpdate] at fills
    split at fills
    case h_2 => cases fills
    case h_1 records aux =>
      by_cases room : records.length < values.qosCount
      · rw [if_pos room] at fills
        cases fills
        apply takes_of_body (BindingElement.type_lt _) (BindingElement.length_body_lt _)
        intro s rest valid ahead same
        subst same
        have stored := parseOwned_of_readsFrom
          ((reads_WTPQoS radioID (by decide) qosValues).from s.message.offset)
          (fun record values => { values with auxBindingPtr := some (records ++ [record]) })
          valid ahead
        show (fillUpdateElement wtpQosType (qosBody radioID 0 qosValues.profiles).length).run s = _
        simp only [fillUpdateElement, if_pos, EStateM.run_bind, EStateM.run_get, aux, room, stored]
        rfl
      · rw [if_neg room] at fills
        cases fills

theorem counts_qos (radios : List (UInt8 × QosProfiles)) (values : UpdateValues) :
    (radios.map fun radio => BindingElement.qos radio.1 radio.2).foldlM
        (fun values e => e.countsUpdate values) values =
      some { values with
        GlobalElemType := if radios = [] then values.GlobalElemType else wtpQosType
        qosCount := values.qosCount + radios.length } := by
  induction radios generalizing values with
  | nil => rfl
  | cons radio radios inductionHypothesis =>
    have here : (BindingElement.qos radio.1 radio.2).countsUpdate values =
        some { values with GlobalElemType := wtpQosType, qosCount := values.qosCount + 1 } := rfl
    rw [List.map_cons, List.foldlM_cons, here, Option.bind_eq_bind, Option.bind_some,
      inductionHypothesis]
    simp [Nat.add_assoc, Nat.add_comm 1]

theorem fills_qos (radios : List (UInt8 × QosProfiles)) (values : UpdateValues)
    {records : List RadioQosValues} (aux : values.auxBindingPtr = some records)
    (room : records.length + radios.length ≤ values.qosCount) :
    (radios.map fun radio => BindingElement.qos radio.1 radio.2).foldlM
        (fun values e => e.fillsUpdate values) values =
      some { values with
        auxBindingPtr := some (records ++ radios.map fun radio => ⟨radio.1, radio.2.profiles⟩) } := by
  induction radios generalizing values records with
  | nil => simp [← aux]
  | cons radio radios inductionHypothesis =>
    rw [List.length_cons] at room
    have here : records.length < values.qosCount := by omega
    have filled : (BindingElement.qos radio.1 radio.2).fillsUpdate values =
        some { values with
          auxBindingPtr := some (records ++ [⟨radio.1, radio.2.profiles⟩]) } := by
      simp only [BindingElement.fillsUpdate, aux, if_pos here]
    have more : (records ++ [(⟨radio.1, radio.2.profiles⟩ : RadioQosValues)]).length +
        radios.length ≤ values.qosCount := by
      rw [List.length_append, List.length_singleton]
      omega
    have rest := inductionHypothesis { values with
      auxBindingPtr := some (records ++ [⟨radio.1, radio.2.profiles⟩]) } rfl more
    rw [List.map_cons, List.foldlM_cons, filled, Option.bind_eq_bind, Option.bind_some, rest]
    simp only [List.map_cons, List.append_assoc, List.singleton_append]

/-- Any number of QoS elements is parsed. -/
theorem updateRecords_qos (radios : List (UInt8 × QosProfiles)) :
    updateRecords ((radios.map fun radio => BindingElement.qos radio.1 radio.2).flatMap
        BindingElement.bytes) =
      some ⟨radios.map fun radio => ⟨radio.1, radio.2.profiles⟩, []⟩ := by
  have inside : ∀ e : BindingElement, 4 ≤ e.bytes.length := by
    intro e
    rw [e.length_bytes]
    omega
  have counting := counts_qos radios .initial
  cases radios with
  | nil => rfl
  | cons radio radios =>
    rw [if_neg (List.cons_ne_nil _ _)] at counting
    -- the type of the last element makes the program allocate the array
    have filling := fills_qos (radio :: radios) {
      GlobalElemType := wtpQosType
      qosCount := 0 + (radio :: radios).length
      auxBindingPtr := some []
      ofdmBindingPtr := none } rfl (by simp)
    obtain ⟨message, ran⟩ := parsingTwice_of_takes (assigning .allocated) takes_countUpdate
      takes_fillUpdate inside _ counting (fun message => rfl) filling
    rw [updateRecords, cwBindingParseConfigurationUpdateRequest, ran]
    rfl

def BindingElement.countsResponse (values : ResponseValues) :
    BindingElement → Option ResponseValues
  | qos _ _ => some { values with qosCount := values.qosCount + 1 }
  | multiDomain _ _ _ _ => some values

def BindingElement.fillsResponse (values : ResponseValues) :
    BindingElement → Option ResponseValues
  | qos radioID qosValues =>
      if values.radioQosValues.length < values.qosCount then
        some { values with
          radioQosValues := values.radioQosValues ++ [⟨radioID, qosValues.profiles⟩] }
      else none
  | multiDomain _ _ _ _ => some values

theorem takes_countResponse (e : BindingElement) (values values' : ResponseValues)
    (counts : e.countsResponse values = some values') :
    Takes countResponseElement e.bytes values values' := by
  apply BindingElement.takes_skipping
  intro message
  cases e with
  | qos radioID qosValues =>
    cases counts
    rfl
  | multiDomain radioID firstChannel numChannels maxTxPower =>
    cases counts
    rfl

theorem takes_fillResponse (e : BindingElement) (values values' : ResponseValues)
    (fills : e.fillsResponse values = some values') :
    Takes fillResponseElement e.bytes values values' := by
  cases e with
  | multiDomain radioID firstChannel numChannels maxTxPower =>
    cases fills
    apply BindingElement.takes_skipping
    intro message
    rfl
  | qos radioID qosValues =>
    by_cases room : values.radioQosValues.length < values.qosCount
    · rw [BindingElement.fillsResponse, if_pos room] at fills
      cases fills
      apply takes_of_body (BindingElement.type_lt _) (BindingElement.length_body_lt _)
      intro s rest valid ahead same
      subst same
      have stored := parseOwned_of_readsFrom
        ((reads_WTPQoS radioID (by decide) qosValues).from s.message.offset)
        (fun record values => { values with radioQosValues := values.radioQosValues ++ [record] })
        valid ahead
      show (fillResponseElement wtpQosType (qosBody radioID 0 qosValues.profiles).length).run s = _
      simp only [fillResponseElement, if_pos, EStateM.run_bind, EStateM.run_get, room, stored]
      rfl
    · rw [BindingElement.fillsResponse, if_neg room] at fills
      cases fills

theorem counts_response (elements : List BindingElement) (values : ResponseValues) :
    elements.foldlM (fun values e => e.countsResponse values) values =
      some { values with
        qosCount := values.qosCount + (elements.flatMap BindingElement.qosRecords).length } := by
  induction elements generalizing values with
  | nil => rfl
  | cons e elements inductionHypothesis =>
    rw [List.foldlM_cons, List.flatMap_cons, List.length_append]
    cases e with
    | qos radioID qosValues =>
      have here : (BindingElement.qos radioID qosValues).countsResponse values =
          some { values with qosCount := values.qosCount + 1 } := rfl
      rw [here, Option.bind_eq_bind, Option.bind_some, inductionHypothesis]
      simp only [BindingElement.qosRecords, List.length_singleton, Nat.add_assoc]
    | multiDomain radioID firstChannel numChannels maxTxPower =>
      have here : (BindingElement.multiDomain radioID firstChannel numChannels
          maxTxPower).countsResponse values = some values := rfl
      rw [here, Option.bind_eq_bind, Option.bind_some, inductionHypothesis]
      simp only [BindingElement.qosRecords, List.length_nil, Nat.zero_add]

theorem fills_response (elements : List BindingElement) (values : ResponseValues)
    (room : values.radioQosValues.length + (elements.flatMap BindingElement.qosRecords).length ≤
      values.qosCount) :
    elements.foldlM (fun values e => e.fillsResponse values) values =
      some { values with
        radioQosValues := values.radioQosValues ++ elements.flatMap BindingElement.qosRecords } := by
  induction elements generalizing values with
  | nil => simp
  | cons e elements inductionHypothesis =>
    rw [List.flatMap_cons, List.length_append] at room
    rw [List.foldlM_cons, List.flatMap_cons]
    cases e with
    | qos radioID qosValues =>
      simp only [BindingElement.qosRecords, List.length_singleton] at room
      have here : values.radioQosValues.length < values.qosCount := by omega
      have filled : (BindingElement.qos radioID qosValues).fillsResponse values =
          some { values with
            radioQosValues := values.radioQosValues ++ [⟨radioID, qosValues.profiles⟩] } := by
        simp only [BindingElement.fillsResponse, if_pos here]
      have more : (values.radioQosValues ++
          [(⟨radioID, qosValues.profiles⟩ : RadioQosValues)]).length +
            (elements.flatMap BindingElement.qosRecords).length ≤ values.qosCount := by
        rw [List.length_append, List.length_singleton]
        omega
      rw [filled, Option.bind_eq_bind, Option.bind_some, inductionHypothesis _ more]
      simp only [BindingElement.qosRecords, List.append_assoc]
    | multiDomain radioID firstChannel numChannels maxTxPower =>
      simp only [BindingElement.qosRecords, List.length_nil, Nat.zero_add] at room
      have skipped : (BindingElement.multiDomain radioID firstChannel numChannels
          maxTxPower).fillsResponse values = some values := rfl
      rw [skipped, Option.bind_eq_bind, Option.bind_some, inductionHypothesis _ room]
      simp only [BindingElement.qosRecords, List.nil_append]

theorem responseRecords_eq (elements : List BindingElement) :
    responseRecords (elements.flatMap BindingElement.bytes) =
      some ⟨elements.flatMap BindingElement.qosRecords, []⟩ := by
  have inside : ∀ e : BindingElement, 4 ≤ e.bytes.length := by
    intro e
    rw [e.length_bytes]
    omega
  have counting := counts_response elements .initial
  have filling := fills_response elements
    ⟨0 + (elements.flatMap BindingElement.qosRecords).length, []⟩ (by simp)
  obtain ⟨message, ran⟩ := parsingTwice_of_takes (return ()) takes_countResponse
    takes_fillResponse inside _ counting (fun message => rfl) filling
  rw [responseRecords, cwBindingParseConfigureResponse, ran]
  rfl

end Records

/-! ## What arrives -/

theorem made_filled {element : Except Failure CWProtocolMessage} {message : CWProtocolMessage}
    (ok : element = .ok message) : made element = .element (.ok message) := by
  rw [ok]
  rfl

def BindingElement.message (element : BindingElement) : CWProtocolMessage := filled element.bytes 2

theorem flatMap_contents (elements : List BindingElement) :
    (elements.map BindingElement.message).flatMap CWProtocolMessage.contents =
      elements.flatMap BindingElement.bytes := by
  rw [List.flatMap_map]
  simp only [BindingElement.message, contents_filled]

theorem cwAssembleWTPQoS_eq (radioID : UInt8) (inUse qosValues : QosProfiles) :
    cwAssembleWTPQoS radioID 0 inUse qosValues =
      (.ok (BindingElement.qos radioID (cwMergeQosValues qosValues inUse)).message,
        cwMergeQosValues qosValues inUse) := by
  rw [cwAssembleWTPQoS, assembleWTPQoS_eq]
  rfl

theorem qosUpdateSteps_eq (inUse qosValues : QosProfiles) (radios : List SessionRadio) :
    qosUpdateSteps inUse qosValues radios =
      ((radios.map fun radio => BindingElement.qos radio.radioID
        (cwMergeQosValues qosValues inUse)).map BindingElement.message).map
          fun message => .element (.ok message) := by
  induction radios generalizing qosValues with
  | nil => rfl
  | cons radio radios inductionHypothesis =>
    simp only [qosUpdateSteps, cwAssembleWTPQoS_eq, inductionHypothesis, cwMergeQosValues_idem]
    rfl

/-- The elements of a radio in a response, if its channels are known. -/
def responseElements (merged : QosProfiles) (phyInfo : WTPPhyInfo) : List BindingElement :=
  match phyInfo.phyFrequencyInfo.frequencyList with
  | none => []
  | some (frequency, maxTxPower) =>
      [.qos phyInfo.radioID merged, .multiDomain phyInfo.radioID frequency
        phyInfo.phyFrequencyInfo.totChannels maxTxPower]

theorem responseSteps_eq (inUse qosValues : QosProfiles) {radios : List SessionRadio}
    (known : ∀ radio ∈ radios, radio.gWTPPhyInfo.phyFrequencyInfo.frequencyList.isSome) :
    responseSteps inUse qosValues radios =
      ((radios.flatMap fun radio => responseElements (cwMergeQosValues qosValues inUse)
        radio.gWTPPhyInfo).map BindingElement.message).map fun message => .element (.ok message) := by
  induction radios generalizing qosValues with
  | nil => rfl
  | cons radio radios inductionHypothesis =>
    have rest := inductionHypothesis (cwMergeQosValues qosValues inUse)
      (fun radio member => known radio (List.mem_cons_of_mem _ member))
    obtain ⟨channels, set⟩ := Option.isSome_iff_exists.mp (known radio List.mem_cons_self)
    rw [List.flatMap_cons]
    simp only [responseSteps, cwAssembleWTPQoS_eq, rest, cwMergeQosValues_idem, multiDomainStep,
      responseElements, set, cwAssembleMsgElemACWTPMultiDomainCapability_eq]
    rfl

/-- A radio whose channels are not known ends the loop. -/
theorem not_handedOn_response (inUse qosValues : QosProfiles) {radios : List SessionRadio}
    (unknown : ∃ radio ∈ radios, radio.gWTPPhyInfo.phyFrequencyInfo.frequencyList = none)
    (room : Nat) (written elements : List CWProtocolMessage) :
    fill room written (responseSteps inUse qosValues radios) ≠ .handedOn elements := by
  induction radios generalizing room written qosValues with
  | nil =>
    obtain ⟨radio, member, _⟩ := unknown
    cases member
  | cons radio radios inductionHypothesis =>
    simp only [responseSteps, cwAssembleWTPQoS_eq, made_filled rfl]
    cases room with
    | zero =>
      intro same
      cases same
    | succ room =>
      simp only [fill, multiDomainStep]
      cases set : radio.gWTPPhyInfo.phyFrequencyInfo.frequencyList with
      | none =>
        intro same
        cases room <;> cases same
      | some channels =>
        simp only [cwAssembleMsgElemACWTPMultiDomainCapability_eq, made_filled rfl]
        cases room with
        | zero =>
          intro same
          cases same
        | succ room =>
          apply inductionHypothesis
          obtain ⟨other, member, none⟩ := unknown
          cases member with
          | head =>
            rw [set] at none
            cases none
          | tail _ later => exact ⟨other, later, none⟩

theorem flatMap_qosRecords (merged : QosProfiles) {radios : List SessionRadio}
    (known : ∀ radio ∈ radios, radio.gWTPPhyInfo.phyFrequencyInfo.frequencyList.isSome) :
    (radios.flatMap fun radio => responseElements merged radio.gWTPPhyInfo).flatMap
        BindingElement.qosRecords =
      radios.map fun radio => ⟨radio.gWTPPhyInfo.radioID, merged.profiles⟩ := by
  induction radios with
  | nil => rfl
  | cons radio radios inductionHypothesis =>
    have rest := inductionHypothesis fun radio member =>
      known radio (List.mem_cons_of_mem _ member)
    obtain ⟨channels, set⟩ := Option.isSome_iff_exists.mp (known radio List.mem_cons_self)
    rw [List.flatMap_cons, List.flatMap_append, rest, List.map_cons]
    simp only [responseElements, set, List.flatMap_cons, List.flatMap_nil,
      BindingElement.qosRecords, List.append_nil]
    rfl

theorem length_responseElements (merged : QosProfiles) {radios : List SessionRadio}
    (known : ∀ radio ∈ radios, radio.gWTPPhyInfo.phyFrequencyInfo.frequencyList.isSome) :
    (radios.flatMap fun radio => responseElements merged radio.gWTPPhyInfo).length =
      radios.length * 2 := by
  induction radios with
  | nil => rfl
  | cons radio radios inductionHypothesis =>
    have rest := inductionHypothesis fun radio member =>
      known radio (List.mem_cons_of_mem _ member)
    obtain ⟨channels, set⟩ := Option.isSome_iff_exists.mp (known radio List.mem_cons_self)
    rw [List.flatMap_cons, List.length_append, rest, List.length_cons]
    simp only [responseElements, set, List.length_cons, List.length_nil]
    omega

namespace ConfigurationMessage

theorem roundTrips_response_iff (session : Session) (gDefaultQosValues : QosProfiles) :
    (response gDefaultQosValues).RoundTrips session ↔
      (response gDefaultQosValues).Carries session := by
  constructor
  · rintro ⟨elements, assembled, _⟩ radio member
    by_contra unset
    refine not_handedOn_response session.bindingValues gDefaultQosValues
      ⟨radio, member, ?_⟩ _ _ elements assembled
    simpa using unset
  · intro known
    have known : ∀ radio ∈ session.radiosInfo,
      radio.gWTPPhyInfo.phyFrequencyInfo.frequencyList.isSome := known
    have length := length_responseElements
      (cwMergeQosValues gDefaultQosValues session.bindingValues) known
    refine ⟨(session.radiosInfo.flatMap fun radio => responseElements
      (cwMergeQosValues gDefaultQosValues session.bindingValues) radio.gWTPPhyInfo).map
        BindingElement.message, ?_, ?_, ?_⟩
    · simp only [assembled, cwBindingAssembleConfigureResponse, responseSteps_eq _ _ known,
        fill_elements, List.length_map, length, Nat.le_refl, if_true, List.nil_append]
    · rw [List.length_map, length]
      rfl
    · rw [flatMap_contents]
      simp only [records, responseRecords_eq, flatMap_qosRecords _ known, expected]

theorem roundTrips_qosUpdate_iff (session : Session) :
    qosUpdate.RoundTrips session ↔ qosUpdate.Carries session := by
  have assembled_eq : qosUpdate.assembled session =
      fill (reachableElements session.radiosInfo.length) []
        (qosUpdateSteps session.bindingValues session.qosValues session.radiosInfo) := rfl
  have parsed := updateRecords_qos (session.radiosInfo.map fun radio =>
    (radio.radioID, cwMergeQosValues session.qosValues session.bindingValues))
  rw [List.map_map, List.map_map] at parsed
  rw [qosUpdateSteps_eq, fill_elements, List.length_map, List.length_map] at assembled_eq
  by_cases single : session.radiosInfo.length ≤ 1
  · have fits : session.radiosInfo.length ≤ reachableElements session.radiosInfo.length := by
      rw [reachableElements]
      omega
    rw [if_pos fits, List.nil_append] at assembled_eq
    have same : (qosUpdate.expected session =
        ⟨session.radiosInfo.map fun radio => ⟨radio.radioID,
          (cwMergeQosValues session.qosValues session.bindingValues).profiles⟩, []⟩) ↔
        ∀ radio ∈ session.radiosInfo, radio.radioID = radio.gWTPPhyInfo.radioID := by
      simp [expected, eq_comm]
    rw [Carries, and_iff_right single, ← same]
    constructor
    · rintro ⟨elements, assembled, _, read⟩
      rw [assembled_eq] at assembled
      cases assembled
      rw [flatMap_contents] at read
      exact Option.some.inj (read.symm.trans parsed)
    · intro same
      refine ⟨_, assembled_eq, by simp [msgElemCount], ?_⟩
      rw [flatMap_contents, same]
      exact parsed
  · have full : ¬ session.radiosInfo.length ≤ reachableElements session.radiosInfo.length := by
      rw [reachableElements]
      omega
    rw [if_neg full] at assembled_eq
    refine iff_of_false ?_ fun carries => single carries.1
    rintro ⟨elements, assembled, _⟩
    rw [assembled_eq] at assembled
    cases assembled

theorem roundTrips_ofdmUpdate_iff (session : Session) :
    ofdmUpdate.RoundTrips session ↔ ofdmUpdate.Carries session := by
  have assembled_eq : ofdmUpdate.assembled session =
      fill (reachableElements session.radiosInfo.length) []
        (ofdmUpdateSteps session.bindingOFDM session.ofdmValues session.radiosInfo) := rfl
  rw [Carries]
  cases none : session.radiosInfo with
  | nil =>
    refine iff_of_true ⟨[], ?_, ?_, ?_⟩ rfl
    · rw [assembled_eq, none]
      rfl
    · rw [msgElemCount, none]
      rfl
    · rw [expected, none]
      rfl
  | cons radio radios =>
    refine iff_of_false ?_ (List.cons_ne_nil _ _)
    rintro ⟨elements, assembled, _⟩
    rw [assembled_eq, none, ofdmUpdateSteps, List.map_cons] at assembled
    cases made : cwAssembleWTPOFDM radio.radioID session.bindingOFDM session.ofdmValues with
    | ok element => exact cwAssembleWTPOFDM_fails _ _ _ _ made
    | error failure =>
      have one : reachableElements (radio :: radios).length = 1 := by
        rw [reachableElements, List.length_cons]
        omega
      rw [made, one] at assembled
      cases assembled

theorem bindingRoundTrips_iff (session : Session) (message : ConfigurationMessage) :
    message.RoundTrips session ↔ message.Carries session := by
  cases message with
  | qosUpdate => exact roundTrips_qosUpdate_iff session
  | ofdmUpdate => exact roundTrips_ofdmUpdate_iff session
  | response gDefaultQosValues => exact roundTrips_response_iff session gDefaultQosValues

end ConfigurationMessage

def qosDefaults : QosProfiles := ⟨List.replicate 4 ⟨0, 3, 10, 2, 0, 0⟩, rfl⟩

def knownRadio (radioID : UInt8) : SessionRadio := ⟨radioID, radioID, 11, some (2412, 20)⟩

/-- Two radios whose channels are known. -/
def twoRadios : Session where
  radiosInfo := [knownRadio 0, knownRadio 1]
  qosValues := qosDefaults
  ofdmValues := ⟨1, 1, 1⟩
  bindingValues := qosDefaults
  bindingOFDM := ⟨1, 1, 1⟩

theorem twoRadios_not_roundTrips :
    ¬ ∀ message : ConfigurationMessage, message.RoundTrips twoRadios := by
  intro all
  have update := (ConfigurationMessage.roundTrips_qosUpdate_iff twoRadios).mp (all .qosUpdate)
  have one : 2 ≤ 1 := update.1
  omega

end WlanController.Binding
