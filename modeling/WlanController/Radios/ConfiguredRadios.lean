import WlanController.Requests.ConfigureRequest

/-!
# The channels of the radios

The channels of a radio that a configure request reports are saved with the radio of the session
that has the same ID.  The list of frequencies is allocated for the radio at the position of the
report, and the rates are those of the radio whose ID is that position.
-/

namespace WlanController.Radios

open Requests Placement

structure PhyFrequencyInfoList where
  frequency : UInt16
  channel : UInt16
  maxTxPower : UInt16
  deriving DecidableEq, Repr

/-- The tables of a radio of the session, with `none` for what has not been assigned. -/
structure PhyInfo where
  radioID : Nat
  totChannels : Option UInt16
  /-- An array of one element. -/
  frequencyList : Option PhyFrequencyInfoList
  /-- `lenSupportedRates` rates, and one byte more. -/
  supportedRates : Option (List UInt8)
  deriving DecidableEq, Repr

/-- A radio as `CWSaveJoinRequestMessage` leaves it. -/
def joinedPhyInfo (radioID : Nat) : PhyInfo := ⟨radioID, none, none, none⟩

/-- The statements for the radio `j` that has the ID of the entry `i`: `none` for an access outside
    an array or through a pointer that was not set. -/
def storeChannels (i : Nat) (info : PhyFrequencyInfoConfigureMessage) (j : Nat)
    (radios : List PhyInfo) : Option (List PhyInfo) := do
  let radios := radios.modify j fun radio => { radio with totChannels := some info.totChannels }
  if i < radios.length then
    let radios := radios.modify i fun radio => { radio with frequencyList := some ⟨0, 0, 0⟩ }
    let frequencyList ← radios[j]?.bind PhyInfo.frequencyList
    let radios := radios.modify j fun radio =>
      { radio with
        frequencyList := some { frequencyList with
          frequency := info.firstChannel
          maxTxPower := info.maxTxPower }
        supportedRates := some info.supportedRates }
    -- the eighth rate is logged
    if 7 < info.supportedRates.length + 1 then some radios else none
  else none

/-- The loop over the radios for the entry `i`, which ends at the first with its ID. -/
def storeEntry (i : Nat) (info : PhyFrequencyInfoConfigureMessage) (radios : List PhyInfo) :
    Option (List PhyInfo) :=
  match radios.findIdx? fun radio => radio.radioID = info.radioID.toNat with
  | some j => storeChannels i info j radios
  | none => some radios

/-- The loop over the entries, from `i` on. -/
def saveChannels (values : ConfigureRequestValues) :
    (i rounds : Nat) → List PhyInfo → Option (List PhyInfo)
  | _, 0, radios => some radios
  | i, rounds + 1, radios => do
      if i < wtpRadioMax then
        let radios ← storeEntry i (values.phyFrequencyInfo i) radios
        saveChannels values (i + 1) rounds radios
      else none

/-- What becomes of the radios. -/
def cwSaveConfigureRequestMessage (values : ConfigureRequestValues) (radios : List PhyInfo) :
    Option (List PhyInfo) :=
  saveChannels values 0 values.numPhyFrequencyInfo radios

/-- A configure request is parsed and saved for a WTP that has joined with these radios. -/
def configuredRadios (seqNum : UInt8) (elements : List RadioElement) (radioIDs : List Nat) :
    Option (List PhyInfo) := do
  let values ← configureValues (configureRequest seqNum elements)
  cwSaveConfigureRequestMessage values (radioIDs.map joinedPhyInfo)

/-! ## Elements for distinct radios -/

namespace RadioElements

def domain? : RadioElement → Option MultiDomainCapability
  | .multiDomain domain => some domain
  | _ => none

def rates? : RadioElement → Option (Nat × List UInt8)
  | .supportedRates radioID rates _ _ => some (radioID.toNat, rates)
  | _ => none

def information? : RadioElement → Option (Nat × Nat)
  | .radioInformation radioID phyStandardValue => some (radioID.toNat, phyStandardValue.toNat)
  | _ => none

def domains (elements : List RadioElement) : List MultiDomainCapability :=
  elements.filterMap domain?

def rates (elements : List RadioElement) : List (Nat × List UInt8) := elements.filterMap rates?

def informations (elements : List RadioElement) : List (Nat × Nat) :=
  elements.filterMap information?

end RadioElements

open RadioElements

/-- The channels under the radio that they are for. -/
def keyedDomains (elements : List RadioElement) : List (Nat × MultiDomainCapability) :=
  (domains elements).map fun domain => (domain.radioID.toNat, domain)

/-- The elements of a configure request about the radios, one of each kind for a radio. -/
structure RadioElements where
  elements : List RadioElement
  distinct_domains : ((domains elements).map fun domain => domain.radioID.toNat).Nodup
  distinct_rates : ((rates elements).map Prod.fst).Nodup
  distinct_informations : ((informations elements).map Prod.fst).Nodup

/-- The IDs of the radios that a WTP has joined with. -/
structure JoinedRadios where
  radioIDs : List Nat
  distinct : radioIDs.Nodup

/-- The tables of a radio when every element is stored under its own radio ID. -/
def configuredRadio (elements : List RadioElement) (radioID : Nat) : PhyInfo where
  radioID := radioID
  totChannels := (lastWith (keyedDomains elements) radioID).map MultiDomainCapability.totChannels
  frequencyList := (lastWith (keyedDomains elements) radioID).map fun domain =>
    ⟨domain.firstChannel, 0, domain.maxTxPower⟩
  supportedRates := lastWith (rates elements) radioID

/-- In any order the elements lead to the tables that they are for. -/
def OrderIndependent (seqNum : UInt8) (request : RadioElements) (session : JoinedRadios) : Prop :=
  ∀ elements : List RadioElement, elements.Perm request.elements →
    configuredRadios seqNum elements session.radioIDs =
      some (session.radioIDs.map (configuredRadio request.elements))

/-! ## What is parsed -/

/-- All elements find room in their arrays. -/
structure Fits (elements : List RadioElement) : Prop where
  domains : (domains elements).length ≤ wtpRadioMax
  informations : (informations elements).length ≤ wtpRadioMax
  rates : ∀ record ∈ rates elements, record.1 < wtpRadioMax

/-- The values with the entries in the order of arrival, and the rates by radio ID. -/
def storedValues (domains : List MultiDomainCapability) (rates : List (Nat × List UInt8))
    (informations : List (Nat × Nat)) : ConfigureRequestValues :=
  { ConfigureRequestValues.initial with
    numPhyActive := informations.length
    singlePhyInfo := fun i => informations[i]?.getD (0, 0)
    numPhyFrequencyInfo := domains.length
    phyFrequencyInfo := fun i =>
      ⟨domains[i]?.getD ⟨0, 0, 0, 0⟩, (lastWith rates i).getD []⟩ }

def valuesOf (elements : List RadioElement) : ConfigureRequestValues :=
  storedValues (domains elements) (rates elements) (informations elements)

theorem fits_left {elements elements' : List RadioElement} (fits : Fits (elements ++ elements')) :
    Fits elements where
  domains := by
    have all := fits.domains
    simp only [RadioElements.domains, List.filterMap_append, List.length_append] at all ⊢
    omega
  informations := by
    have all := fits.informations
    simp only [RadioElements.informations, List.filterMap_append, List.length_append] at all ⊢
    omega
  rates := by
    intro record inside
    apply fits.rates record
    simp only [RadioElements.rates, List.filterMap_append, List.mem_append] at inside ⊢
    exact Or.inl inside

theorem fits_nil : Fits [] where
  domains := Nat.zero_le _
  informations := Nat.zero_le _
  rates := by simp [RadioElements.rates]

theorem getD_concat {α : Type} (values : List α) (value default : α) :
    (fun i => (values ++ [value])[i]?.getD default) =
      Function.update (fun i => values[i]?.getD default) values.length value := by
  apply funext
  intro i
  by_cases last : i = values.length
  · rw [last, Function.update_self]
    simp
  · rw [Function.update_of_ne last]
    by_cases inside : i < values.length
    · simp [List.getElem?_append_left inside]
    · have longer : (values ++ [value]).length ≤ i := by
        rw [List.length_append, List.length_singleton]
        omega
      simp only [List.getElem?_eq_none longer, List.getElem?_eq_none (Nat.le_of_not_lt inside)]

theorem storedValues_domain (domains : List MultiDomainCapability)
    (rates : List (Nat × List UInt8)) (informations : List (Nat × Nat))
    (domain : MultiDomainCapability) :
    storedValues (domains ++ [domain]) rates informations =
      { (storedValues domains rates informations).setDomain domains.length domain with
        numPhyFrequencyInfo := domains.length + 1 } := by
  have entries : (storedValues (domains ++ [domain]) rates informations).phyFrequencyInfo =
      ((storedValues domains rates informations).setDomain domains.length
        domain).phyFrequencyInfo := by
    apply funext
    intro i
    have here := congrFun (getD_concat domains domain ⟨0, 0, 0, 0⟩) i
    by_cases last : i = domains.length
    · simp [storedValues, ConfigureRequestValues.setDomain, last]
    · rw [Function.update_of_ne last] at here
      simp only [storedValues, ConfigureRequestValues.setDomain, Function.update_of_ne last, here]
  have counted : (domains ++ [domain]).length = domains.length + 1 := by simp
  show { storedValues (domains ++ [domain]) rates informations with
    numPhyFrequencyInfo := (domains ++ [domain]).length
    phyFrequencyInfo :=
      (storedValues (domains ++ [domain]) rates informations).phyFrequencyInfo } = _
  rw [entries, counted]
  rfl

theorem storedValues_rates (domains : List MultiDomainCapability)
    (rates : List (Nat × List UInt8)) (informations : List (Nat × Nat))
    (record : Nat × List UInt8) :
    storedValues domains (rates ++ [record]) informations =
      (storedValues domains rates informations).setRates record.1 record.2 := by
  have entries : (storedValues domains (rates ++ [record]) informations).phyFrequencyInfo =
      ((storedValues domains rates informations).setRates record.1 record.2).phyFrequencyInfo := by
    apply funext
    intro i
    by_cases here : i = record.1
    · simp [storedValues, ConfigureRequestValues.setRates, here, lastWith_append, lastWith]
    · have other : ¬ record.1 = i := fun same => here same.symm
      simp [storedValues, ConfigureRequestValues.setRates, here, other, lastWith_append, lastWith]
  show { storedValues domains (rates ++ [record]) informations with
    phyFrequencyInfo :=
      (storedValues domains (rates ++ [record]) informations).phyFrequencyInfo } = _
  rw [entries]
  rfl

theorem storedValues_information (domains : List MultiDomainCapability)
    (rates : List (Nat × List UInt8)) (informations : List (Nat × Nat)) (entry : Nat × Nat) :
    storedValues domains rates (informations ++ [entry]) =
      { (storedValues domains rates informations).setSinglePhyInfo informations.length entry with
        numPhyActive := informations.length + 1 } := by
  have counted : (informations ++ [entry]).length = informations.length + 1 := by simp
  show { storedValues domains rates informations with
    numPhyActive := (informations ++ [entry]).length
    singlePhyInfo := fun i => (informations ++ [entry])[i]?.getD (0, 0) } = _
  rw [getD_concat, counted]
  rfl

/-- An element is taken if there is room for it. -/
theorem take_of_room {elements : List RadioElement} {element : RadioElement} (room : Prop)
    [Decidable room] (fits : Fits (elements ++ [element]) ↔ room)
    (taken : element.take (valuesOf elements) =
      if room then some (valuesOf (elements ++ [element])) else none)
    (values : ConfigureRequestValues) :
    element.take (valuesOf elements) = some values ↔
      Fits (elements ++ [element]) ∧ values = valuesOf (elements ++ [element]) := by
  rw [taken, fits]
  by_cases here : room
  · simp [here, eq_comm]
  · simp [here]

/-- One element more. -/
theorem take_valuesOf (elements : List RadioElement) (element : RadioElement)
    (fits : Fits elements) (values : ConfigureRequestValues) :
    element.take (valuesOf elements) = some values ↔
      Fits (elements ++ [element]) ∧ values = valuesOf (elements ++ [element]) := by
  cases element with
  | multiDomain domain =>
    have more : domains (elements ++ [.multiDomain domain]) = domains elements ++ [domain] := by
      simp [domains, domain?]
    have rates_same : rates (elements ++ [.multiDomain domain]) = rates elements := by
      simp [rates, rates?]
    have informations_same :
        informations (elements ++ [.multiDomain domain]) = informations elements := by
      simp [informations, information?]
    apply take_of_room ((domains elements).length < wtpRadioMax)
    · constructor
      · intro all
        have count := all.domains
        rw [more, List.length_append] at count
        exact count
      · intro count
        constructor
        · rw [more, List.length_append]
          exact count
        · rw [informations_same]
          exact fits.informations
        · rw [rates_same]
          exact fits.rates
    · rw [valuesOf, valuesOf, more, rates_same, informations_same, storedValues_domain]
      rfl
  | supportedRates radioID bytes inside short =>
    have more : rates (elements ++ [.supportedRates radioID bytes inside short]) =
        rates elements ++ [(radioID.toNat, bytes)] := by
      simp [rates, rates?]
    have domains_same : domains (elements ++ [.supportedRates radioID bytes inside short]) =
        domains elements := by
      simp [domains, domain?]
    have informations_same :
        informations (elements ++ [.supportedRates radioID bytes inside short]) =
          informations elements := by
      simp [informations, information?]
    apply take_of_room (radioID.toNat < wtpRadioMax)
    · constructor
      · intro all
        exact all.rates (radioID.toNat, bytes) (by simp [more])
      · intro known
        constructor
        · rw [domains_same]
          exact fits.domains
        · rw [informations_same]
          exact fits.informations
        · intro record recorded
          rw [more, List.mem_append, List.mem_singleton] at recorded
          cases recorded with
          | inl before => exact fits.rates record before
          | inr here =>
            rw [here]
            exact known
    · rw [valuesOf, valuesOf, more, domains_same, informations_same, storedValues_rates]
      rfl
  | radioInformation radioID phyStandardValue =>
    have more : informations (elements ++ [.radioInformation radioID phyStandardValue]) =
        informations elements ++ [(radioID.toNat, phyStandardValue.toNat)] := by
      simp [informations, information?]
    have domains_same : domains (elements ++ [.radioInformation radioID phyStandardValue]) =
        domains elements := by
      simp [domains, domain?]
    have rates_same : rates (elements ++ [.radioInformation radioID phyStandardValue]) =
        rates elements := by
      simp [rates, rates?]
    apply take_of_room ((informations elements).length < wtpRadioMax)
    · constructor
      · intro all
        have count := all.informations
        rw [more, List.length_append] at count
        exact count
      · intro count
        constructor
        · rw [domains_same]
          exact fits.domains
        · rw [more, List.length_append]
          exact count
        · rw [rates_same]
          exact fits.rates
    · rw [valuesOf, valuesOf, more, domains_same, rates_same, storedValues_information]
      rfl

/-- The elements from a state on that others have led to. -/
theorem foldlM_take (elements elements' : List RadioElement) (fits : Fits elements)
    (values : ConfigureRequestValues) :
    elements'.foldlM (fun values element => element.take values) (valuesOf elements) =
        some values ↔
      Fits (elements ++ elements') ∧ values = valuesOf (elements ++ elements') := by
  induction elements' generalizing elements with
  | nil =>
    rw [List.append_nil]
    show some (valuesOf elements) = some values ↔ _
    rw [Option.some_inj, and_iff_right fits, eq_comm]
  | cons element elements' inductionHypothesis =>
    rw [List.foldlM_cons, Option.bind_eq_bind, Option.bind_eq_some_iff, List.append_cons]
    constructor
    · intro ⟨middle, taken, folded⟩
      obtain ⟨fits', same⟩ := (take_valuesOf elements element fits middle).mp taken
      rw [same] at folded
      exact (inductionHypothesis _ fits').mp folded
    · intro ⟨all, same⟩
      have fits' := fits_left all
      exact ⟨_, (take_valuesOf elements element fits _).mpr ⟨fits', rfl⟩,
        (inductionHypothesis _ fits').mpr ⟨all, same⟩⟩

theorem length_elements (elements : List RadioElement) :
    elements.length =
      (domains elements).length + (rates elements).length + (informations elements).length := by
  induction elements with
  | nil => rfl
  | cons element elements inductionHypothesis =>
    rw [List.length_cons, inductionHypothesis]
    cases element with
    | multiDomain domain =>
      simp only [domains, rates, informations, List.filterMap_cons, domain?, rates?, information?,
        List.length_cons]
      omega
    | supportedRates radioID bytes inside short =>
      simp only [domains, rates, informations, List.filterMap_cons, domain?, rates?, information?,
        List.length_cons]
      omega
    | radioInformation radioID phyStandardValue =>
      simp only [domains, rates, informations, List.filterMap_cons, domain?, rates?, information?,
        List.length_cons]
      omega

theorem length_le_of_bytes {keys : List Nat} (distinct : keys.Nodup)
    (bytes : ∀ key ∈ keys, key < 256) : keys.length ≤ 256 := by
  have inside : keys ⊆ List.range 256 := fun key mem => List.mem_range.mpr (bytes key mem)
  have length := (List.subperm_of_subset distinct inside).length_le
  rwa [List.length_range] at length

namespace RadioElements

/-- A request for distinct radios is short enough to be announced. -/
theorem length_elements_le (request : RadioElements) : request.elements.length ≤ 768 := by
  have few_domains := length_le_of_bytes request.distinct_domains (by
    intro key inside
    obtain ⟨domain, _, rfl⟩ := List.mem_map.mp inside
    exact domain.radioID.toNat_lt)
  have few_rates := length_le_of_bytes request.distinct_rates (by
    intro key inside
    obtain ⟨record, recorded, rfl⟩ := List.mem_map.mp inside
    obtain ⟨element, _, same⟩ := List.mem_filterMap.mp recorded
    cases element with
    | supportedRates radioID bytes inside short =>
      cases same
      exact radioID.toNat_lt
    | multiDomain domain => cases same
    | radioInformation radioID phyStandardValue => cases same)
  have few_informations := length_le_of_bytes request.distinct_informations (by
    intro key inside
    obtain ⟨entry, recorded, rfl⟩ := List.mem_map.mp inside
    obtain ⟨element, _, same⟩ := List.mem_filterMap.mp recorded
    cases element with
    | radioInformation radioID phyStandardValue =>
      cases same
      exact radioID.toNat_lt
    | multiDomain domain => cases same
    | supportedRates radioID bytes inside short => cases same)
  have total := Radios.length_elements request.elements
  rw [List.length_map] at few_domains few_rates few_informations
  omega

end RadioElements

/-- What the elements of a request lead to, in an order of theirs. -/
theorem configuredRadios_eq_some_iff (seqNum : UInt8) (request : RadioElements)
    {elements : List RadioElement} (perm : elements.Perm request.elements) (radioIDs : List Nat)
    (radios : List PhyInfo) :
    configuredRadios seqNum elements radioIDs = some radios ↔
      Fits elements ∧
        cwSaveConfigureRequestMessage (valuesOf elements) (radioIDs.map joinedPhyInfo) =
          some radios := by
  have length := request.length_elements_le
  rw [← perm.length_eq] at length
  rw [configuredRadios, configureValues_eq seqNum elements (by omega), Option.bind_eq_bind,
    Option.bind_eq_some_iff]
  constructor
  · intro ⟨values, folded, saved⟩
    obtain ⟨fits, same⟩ := (foldlM_take [] elements fits_nil values).mp folded
    rw [same] at saved
    exact ⟨fits, saved⟩
  · intro ⟨fits, saved⟩
    exact ⟨_, (foldlM_take [] elements fits_nil _).mpr ⟨fits, rfl⟩, saved⟩

/-! ## What is saved -/

/-- The list of frequencies of a joined radio is a pointer that was not set, except at the position
    where it is allocated. -/
theorem storeChannels_other {i j : Nat} (info : PhyFrequencyInfoConfigureMessage)
    (radioIDs : List Nat) (other : i ≠ j) :
    storeChannels i info j (radioIDs.map joinedPhyInfo) = none := by
  have unset : ∀ radio ∈ radioIDs[j]?.map joinedPhyInfo, radio.frequencyList = none := by
    intro radio inside
    obtain ⟨radioID, _, rfl⟩ := Option.map_eq_some_iff.mp inside
    rfl
  simp only [storeChannels, List.getElem?_modify, if_neg other, if_pos, List.getElem?_map]
  split
  case isFalse => rfl
  case isTrue =>
    cases here : radioIDs[j]? with
    | none => rfl
    | some radioID => rfl

theorem storeChannels_first (info : PhyFrequencyInfoConfigureMessage) (radioID : Nat)
    (radioIDs : List Nat) :
    storeChannels 0 info 0 ((radioID :: radioIDs).map joinedPhyInfo) =
      if 7 ≤ info.supportedRates.length then
        some (⟨radioID, some info.totChannels, some ⟨info.firstChannel, 0, info.maxTxPower⟩,
          some info.supportedRates⟩ :: radioIDs.map joinedPhyInfo)
      else none := by
  have logged : 7 < info.supportedRates.length + 1 ↔ 7 ≤ info.supportedRates.length :=
    Nat.lt_succ_iff
  by_cases long : 7 ≤ info.supportedRates.length
  · rw [if_pos long]
    have written := logged.mpr long
    simp [storeChannels, joinedPhyInfo, written]
  · rw [if_neg long]
    have short := mt logged.mp long
    simp [storeChannels, joinedPhyInfo, short]

/-- An entry for no radio of the session. -/
theorem storeEntry_other (i : Nat) (info : PhyFrequencyInfoConfigureMessage) (radioIDs : List Nat)
    (other : info.radioID.toNat ∉ radioIDs) :
    storeEntry i info (radioIDs.map joinedPhyInfo) = some (radioIDs.map joinedPhyInfo) := by
  have missing : (radioIDs.map joinedPhyInfo).findIdx? (fun radio =>
      radio.radioID = info.radioID.toNat) = none := by
    rw [List.findIdx?_eq_none_iff]
    intro radio mem
    obtain ⟨radioID, inside, rfl⟩ := List.mem_map.mp mem
    have different : radioID ≠ info.radioID.toNat := fun same => other (same ▸ inside)
    simp [joinedPhyInfo, different]
  rw [storeEntry, missing]

/-- An entry for a radio at another position than its own. -/
theorem storeEntry_astray (i : Nat) (info : PhyFrequencyInfoConfigureMessage)
    (radioIDs : List Nat) (known : info.radioID.toNat ∈ radioIDs)
    (elsewhere : radioIDs[i]? ≠ some info.radioID.toNat) :
    storeEntry i info (radioIDs.map joinedPhyInfo) = none := by
  rw [storeEntry]
  cases found : (radioIDs.map joinedPhyInfo).findIdx? (fun radio =>
      radio.radioID = info.radioID.toNat) with
  | none =>
    rw [List.findIdx?_eq_none_iff] at found
    have missing := found _ (List.mem_map_of_mem known)
    simp [joinedPhyInfo] at missing
  | some j =>
    apply storeChannels_other
    intro same
    subst same
    obtain ⟨inside, here, _⟩ := List.findIdx?_eq_some_iff_getElem.mp found
    rw [List.length_map] at inside
    apply elsewhere
    rw [List.getElem?_eq_getElem inside]
    simpa [joinedPhyInfo] using here

theorem storeEntry_first (info : PhyFrequencyInfoConfigureMessage) (radioIDs : List Nat) :
    storeEntry 0 info ((info.radioID.toNat :: radioIDs).map joinedPhyInfo) =
      storeChannels 0 info 0 ((info.radioID.toNat :: radioIDs).map joinedPhyInfo) := by
  simp [storeEntry, joinedPhyInfo, List.findIdx?_cons]

/-- Entries for no radio of the session change nothing. -/
theorem saveChannels_others (values : ConfigureRequestValues) (radioIDs : List Nat) :
    ∀ (rounds i : Nat), i + rounds ≤ wtpRadioMax →
      (∀ k, i ≤ k → k < i + rounds → (values.phyFrequencyInfo k).radioID.toNat ∉ radioIDs) →
        saveChannels values i rounds (radioIDs.map joinedPhyInfo) =
          some (radioIDs.map joinedPhyInfo) := by
  intro rounds
  induction rounds with
  | zero => exact fun i _ _ => rfl
  | succ rounds inductionHypothesis =>
    intro i room others
    rw [saveChannels, if_pos (by omega), storeEntry_other i _ _ (others i le_rfl (by omega))]
    exact inductionHypothesis (i + 1) (by omega) fun k from_ below =>
      others k (by omega) (by omega)

/-- The first entry for a radio of the session must be at the position of the radio. -/
theorem saveChannels_astray (values : ConfigureRequestValues) (radioIDs : List Nat) :
    ∀ (others rounds i : Nat), others < rounds →
      (∀ k, i ≤ k → k < i + others → (values.phyFrequencyInfo k).radioID.toNat ∉ radioIDs) →
      (values.phyFrequencyInfo (i + others)).radioID.toNat ∈ radioIDs →
      radioIDs[i + others]? ≠ some (values.phyFrequencyInfo (i + others)).radioID.toNat →
        saveChannels values i rounds (radioIDs.map joinedPhyInfo) = none := by
  intro others
  induction others with
  | zero =>
    intro rounds i more _ known elsewhere
    cases rounds with
    | zero => cases more
    | succ rounds =>
      rw [Nat.add_zero] at known elsewhere
      rw [saveChannels, storeEntry_astray i _ radioIDs known elsewhere]
      split
      case isTrue => rfl
      case isFalse => rfl
  | succ others inductionHypothesis =>
    intro rounds i more unknown known elsewhere
    cases rounds with
    | zero => cases more
    | succ rounds =>
      have further : i + (others + 1) = i + 1 + others := by omega
      rw [further] at known elsewhere
      rw [saveChannels, storeEntry_other i _ _ (unknown i le_rfl (by omega))]
      split
      case isTrue =>
        exact inductionHypothesis rounds (i + 1) (by omega)
          (fun k from_ below => unknown k (by omega) (by omega)) known elsewhere
      case isFalse => rfl

/-! ## Orders of the elements -/

/-- The elements about channels come first, in the order in which they are. -/
theorem perm_domains_first (elements : List RadioElement) :
    elements.Perm ((domains elements).map RadioElement.multiDomain ++
      elements.filter fun element => (domain? element).isNone) := by
  induction elements with
  | nil => exact List.Perm.refl []
  | cons element elements inductionHypothesis =>
    cases element with
    | multiDomain domain => simpa [domains, domain?] using inductionHypothesis
    | supportedRates radioID bytes inside short =>
      exact (inductionHypothesis.cons _).trans List.perm_middle.symm
    | radioInformation radioID phyStandardValue =>
      exact (inductionHypothesis.cons _).trans List.perm_middle.symm

/-- The elements about channels can arrive in any order. -/
theorem exists_order (elements : List RadioElement) {order : List MultiDomainCapability}
    (perm : order.Perm (domains elements)) :
    ∃ elements' : List RadioElement, elements'.Perm elements ∧ domains elements' = order := by
  have others : domains (elements.filter fun element => (domain? element).isNone) = [] := by
    rw [domains, List.filterMap_eq_nil_iff]
    intro element inside
    simpa using (List.mem_filter.mp inside).2
  have first : domains (order.map RadioElement.multiDomain) = order := by
    rw [domains, List.filterMap_map]
    exact List.filterMap_some
  refine ⟨_, ((perm.map RadioElement.multiDomain).append_right _).trans
    (perm_domains_first elements).symm, ?_⟩
  rw [domains, List.filterMap_append]
  show domains _ ++ domains _ = order
  rw [first, others, List.append_nil]

theorem fits_perm {elements elements' : List RadioElement} (perm : elements.Perm elements')
    (fits : Fits elements') : Fits elements where
  domains := by
    have length := (perm.filterMap domain?).length_eq
    rw [domains, length]
    exact fits.domains
  informations := by
    have length := (perm.filterMap information?).length_eq
    rw [informations, length]
    exact fits.informations
  rates := by
    intro record inside
    exact fits.rates record ((perm.filterMap rates?).mem_iff.mp inside)

/-- No element is for a radio of the session. -/
def ForOthers (elements : List RadioElement) (radioIDs : List Nat) : Prop :=
  (∀ domain ∈ domains elements, domain.radioID.toNat ∉ radioIDs) ∧
    ∀ record ∈ rates elements, record.1 ∉ radioIDs

/-- There is one report of channels, for the first radio of the session, whose rates are also those
    of the radio with the ID 0, and no rates for another radio. -/
def ForFirstRadio (elements : List RadioElement) (radioIDs : List Nat) : Prop :=
  ∃ domain bytes, domains elements = [domain] ∧
    radioIDs.head? = some domain.radioID.toNat ∧
    (0, bytes) ∈ rates elements ∧ (domain.radioID.toNat, bytes) ∈ rates elements ∧
    7 ≤ bytes.length ∧
    ∀ record ∈ rates elements, record.1 ∈ radioIDs → record.1 = domain.radioID.toNat

theorem lastWith_keyedDomains_none {elements : List RadioElement} {radioID : Nat}
    (other : ∀ domain ∈ domains elements, domain.radioID.toNat ≠ radioID) :
    lastWith (keyedDomains elements) radioID = none := by
  rw [lastWith_eq_none_iff]
  intro record inside
  obtain ⟨domain, reported, rfl⟩ := List.mem_map.mp inside
  exact other domain reported

/-- A radio without reports is as it was. -/
theorem configuredRadio_eq_joined_iff {elements : List RadioElement} {radioID : Nat}
    (other : ∀ domain ∈ domains elements, domain.radioID.toNat ≠ radioID) :
    configuredRadio elements radioID = joinedPhyInfo radioID ↔
      ∀ record ∈ rates elements, record.1 ≠ radioID := by
  rw [← lastWith_eq_none_iff, configuredRadio, lastWith_keyedDomains_none other, joinedPhyInfo]
  simp

/-- The entries that are compared with the radios. -/
theorem valuesOf_entry {elements : List RadioElement} {i : Nat} {domain : MultiDomainCapability}
    (here : (domains elements)[i]? = some domain) :
    ((valuesOf elements).phyFrequencyInfo i).toMultiDomainCapability = domain := by
  simp [valuesOf, storedValues, here]

theorem save_others {elements : List RadioElement} {radioIDs : List Nat} (fits : Fits elements)
    (others : ∀ domain ∈ domains elements, domain.radioID.toNat ∉ radioIDs) :
    cwSaveConfigureRequestMessage (valuesOf elements) (radioIDs.map joinedPhyInfo) =
      some (radioIDs.map joinedPhyInfo) := by
  apply saveChannels_others
  · rw [Nat.zero_add]
    exact fits.domains
  · intro k _ below
    have inside : k < (domains elements).length := by
      rw [Nat.zero_add] at below
      exact below
    have entry := valuesOf_entry (List.getElem?_eq_getElem inside)
    rw [entry]
    exact others _ (List.getElem_mem inside)

/-- An entry for a radio of the session behind entries for others. -/
theorem save_astray {elements : List RadioElement} {radioIDs : List Nat}
    {before rest : List MultiDomainCapability} {domain : MultiDomainCapability}
    (order : domains elements = before ++ domain :: rest)
    (others : ∀ domain ∈ before, domain.radioID.toNat ∉ radioIDs)
    (known : domain.radioID.toNat ∈ radioIDs)
    (elsewhere : radioIDs[before.length]? ≠ some domain.radioID.toNat) :
    cwSaveConfigureRequestMessage (valuesOf elements) (radioIDs.map joinedPhyInfo) = none := by
  have here : (domains elements)[before.length]? = some domain := by
    rw [order]
    simp
  have entry := valuesOf_entry here
  apply saveChannels_astray _ radioIDs before.length
  · show before.length < (domains elements).length
    rw [order, List.length_append, List.length_cons]
    omega
  · intro k _ below
    rw [Nat.zero_add] at below
    have earlier : (domains elements)[k]? = some before[k] := by
      rw [order, List.getElem?_append_left below, List.getElem?_eq_getElem below]
    rw [valuesOf_entry earlier]
    exact others _ (List.getElem_mem below)
  · rw [Nat.zero_add, entry]
    exact known
  · rw [Nat.zero_add, entry]
    exact elsewhere

/-- One entry, for the first radio of the session. -/
theorem save_first {elements : List RadioElement} {domain : MultiDomainCapability}
    (only : domains elements = [domain]) (radioIDs : List Nat) :
    cwSaveConfigureRequestMessage (valuesOf elements)
        ((domain.radioID.toNat :: radioIDs).map joinedPhyInfo) =
      if 7 ≤ ((lastWith (rates elements) 0).getD []).length then
        some (⟨domain.radioID.toNat, some domain.totChannels,
          some ⟨domain.firstChannel, 0, domain.maxTxPower⟩,
          some ((lastWith (rates elements) 0).getD [])⟩ :: radioIDs.map joinedPhyInfo)
      else none := by
  have entry : (valuesOf elements).phyFrequencyInfo 0 =
      ⟨domain, (lastWith (rates elements) 0).getD []⟩ := by
    simp [valuesOf, storedValues, only]
  have count : (valuesOf elements).numPhyFrequencyInfo = 1 := by
    simp [valuesOf, storedValues, only]
  have stored := storeEntry_first ⟨domain, (lastWith (rates elements) 0).getD []⟩ radioIDs
  rw [storeChannels_first] at stored
  rw [cwSaveConfigureRequestMessage, count, saveChannels, if_pos (by decide), entry, stored]
  split
  case isTrue => rfl
  case isFalse => rfl

/-- A radio that the entry is for, with the rates that are stored. -/
theorem configuredRadio_of_only {elements : List RadioElement} {domain : MultiDomainCapability}
    (only : domains elements = [domain]) :
    configuredRadio elements domain.radioID.toNat =
      ⟨domain.radioID.toNat, some domain.totChannels, some ⟨domain.firstChannel, 0,
        domain.maxTxPower⟩, lastWith (rates elements) domain.radioID.toNat⟩ := by
  simp [configuredRadio, keyedDomains, only, lastWith]

theorem orderIndependent_of_forOthers (seqNum : UInt8) {request : RadioElements}
    {session : JoinedRadios} (fits : Fits request.elements)
    (others : ForOthers request.elements session.radioIDs) :
    OrderIndependent seqNum request session := by
  intro elements perm
  have others' : ∀ domain ∈ domains elements, domain.radioID.toNat ∉ session.radioIDs :=
    fun domain inside => others.1 domain ((perm.filterMap domain?).mem_iff.mp inside)
  have unchanged : session.radioIDs.map (configuredRadio request.elements) =
      session.radioIDs.map joinedPhyInfo := by
    apply List.map_congr_left
    intro radioID inside
    have other : ∀ domain ∈ domains request.elements, domain.radioID.toNat ≠ radioID :=
      fun domain reported same => others.1 domain reported (same ▸ inside)
    rw [configuredRadio_eq_joined_iff other]
    exact fun record recorded same => others.2 record recorded (same ▸ inside)
  rw [unchanged, configuredRadios_eq_some_iff seqNum request perm]
  exact ⟨fits_perm perm fits, save_others (fits_perm perm fits) others'⟩

theorem orderIndependent_of_forFirstRadio (seqNum : UInt8) {request : RadioElements}
    {session : JoinedRadios} (fits : Fits request.elements)
    (first : ForFirstRadio request.elements session.radioIDs) :
    OrderIndependent seqNum request session := by
  obtain ⟨domain, bytes, only, head, zeroth, own, long, others⟩ := first
  intro elements perm
  have only' : domains elements = [domain] := by
    have reordered := perm.filterMap domain?
    rw [show request.elements.filterMap domain? = [domain] from only] at reordered
    exact List.perm_singleton.mp reordered
  have ratesOf : ∀ radioID, lastWith (rates elements) radioID =
      lastWith (rates request.elements) radioID := by
    intro radioID
    exact (lastWith_perm (perm.filterMap rates?).symm request.distinct_rates radioID).symm
  have zeroth' := (lastWith_eq_some_iff request.distinct_rates).mpr zeroth
  have own' := (lastWith_eq_some_iff request.distinct_rates).mpr own
  cases radios : session.radioIDs with
  | nil =>
    rw [radios] at head
    cases head
  | cons radioID radioIDs =>
    rw [radios] at head others
    cases head
    rw [configuredRadios_eq_some_iff seqNum request perm]
    have saved := save_first only' radioIDs
    rw [ratesOf, zeroth', Option.getD_some, if_pos long] at saved
    have tail : radioIDs.map (configuredRadio request.elements) = radioIDs.map joinedPhyInfo := by
      have distinct := session.distinct
      rw [radios, List.nodup_cons] at distinct
      apply List.map_congr_left
      intro radioID inside
      have different : domain.radioID.toNat ≠ radioID := fun same => distinct.1 (same ▸ inside)
      have other : ∀ domain' ∈ domains request.elements, domain'.radioID.toNat ≠ radioID := by
        rw [only]
        simpa using different
      rw [configuredRadio_eq_joined_iff other]
      intro record recorded same
      have named := others record recorded (List.mem_cons_of_mem _ (same ▸ inside))
      exact different (named.symm.trans same)
    rw [saved, List.map_cons, configuredRadio_of_only only, own', tail]
    exact ⟨fits_perm perm fits, rfl⟩

/-- With a report for a radio of the session, there is no other, and the radio is the first. -/
theorem only_of_orderIndependent {seqNum : UInt8} {request : RadioElements}
    {session : JoinedRadios} (independent : OrderIndependent seqNum request session)
    {domain : MultiDomainCapability} (reported : domain ∈ domains request.elements)
    (known : domain.radioID.toNat ∈ session.radioIDs) :
    domains request.elements = [domain] ∧
      session.radioIDs[0]? = some domain.radioID.toNat := by
  -- whatever order the reports come in, a report for a radio of the session is not astray
  have placed : ∀ before domain' rest,
      (before ++ domain' :: rest).Perm (domains request.elements) →
      (∀ other ∈ before, other.radioID.toNat ∉ session.radioIDs) →
      domain'.radioID.toNat ∈ session.radioIDs →
        session.radioIDs[before.length]? = some domain'.radioID.toNat := by
    intro before domain' rest perm others known'
    obtain ⟨elements, perm', order⟩ := exists_order request.elements perm
    have saved := ((configuredRadios_eq_some_iff seqNum request perm' _ _).mp
      (independent elements perm')).2
    by_contra elsewhere
    rw [save_astray order others known' elsewhere] at saved
    cases saved
  have perm := (List.perm_cons_erase reported).symm
  have first := placed [] domain _ perm (by simp) known
  refine ⟨?_, first⟩
  cases others : (domains request.elements).erase domain with
  | nil =>
    rw [others] at perm
    exact List.perm_singleton.mp perm.symm
  | cons domain' rest' =>
    rw [others] at perm
    have swapped : (domain' :: domain :: rest').Perm (domains request.elements) :=
      (List.Perm.swap domain domain' rest').trans perm
    have distinct := (perm.map fun domain => domain.radioID.toNat).nodup_iff.mpr
      request.distinct_domains
    have different : domain.radioID.toNat ≠ domain'.radioID.toNat := by
      simp only [List.map_cons, List.nodup_cons, List.mem_cons, not_or] at distinct
      exact distinct.1.1
    by_cases known' : domain'.radioID.toNat ∈ session.radioIDs
    · -- either of the two can come first
      have first' := placed [] domain' _ swapped (by simp) known'
      have same := first.symm.trans first'
      exact absurd (Option.some.inj same) different
    · -- the report for the session comes second
      have second := placed [domain'] domain _ swapped (by simpa using known') known
      obtain ⟨_, zeroth⟩ := List.getElem?_eq_some_iff.mp first
      obtain ⟨_, next⟩ := List.getElem?_eq_some_iff.mp second
      have same := session.distinct.getElem_inj_iff.mp (zeroth.trans next.symm)
      cases same

/-- The tables are the same in every order if no element is for a radio of the session, or if there
    is one report of channels, for the first radio, with the rates at the index 0. -/
theorem orderIndependent_iff (seqNum : UInt8) (request : RadioElements) (session : JoinedRadios) :
    OrderIndependent seqNum request session ↔
      Fits request.elements ∧
        (ForOthers request.elements session.radioIDs ∨
          ForFirstRadio request.elements session.radioIDs) := by
  constructor
  · intro independent
    obtain ⟨fits, saved⟩ := (configuredRadios_eq_some_iff seqNum request (List.Perm.refl _) _ _).mp
      (independent request.elements (List.Perm.refl _))
    refine ⟨fits, ?_⟩
    by_cases known : ∃ domain ∈ domains request.elements,
        domain.radioID.toNat ∈ session.radioIDs
    · right
      obtain ⟨domain, reported, known⟩ := known
      obtain ⟨only, head⟩ := only_of_orderIndependent independent reported known
      cases radios : session.radioIDs with
      | nil =>
        rw [radios] at head
        cases head
      | cons radioID radioIDs =>
        rw [radios] at head saved
        cases head
        rw [save_first only, List.map_cons, configuredRadio_of_only only] at saved
        by_cases long : 7 ≤ ((lastWith (rates request.elements) 0).getD []).length
        · rw [if_pos long, Option.some_inj, List.cons.injEq, PhyInfo.mk.injEq] at saved
          obtain ⟨⟨-, -, -, own⟩, tail⟩ := saved
          cases zeroth : lastWith (rates request.elements) 0 with
          | none =>
            rw [zeroth] at long
            exact absurd long (by decide)
          | some bytes =>
            rw [zeroth] at long own
            refine ⟨domain, bytes, only, rfl,
              (lastWith_eq_some_iff request.distinct_rates).mp zeroth,
              (lastWith_eq_some_iff request.distinct_rates).mp own.symm, long, ?_⟩
            intro record recorded inside
            by_contra different
            have later : record.1 ∈ radioIDs :=
              (List.mem_cons.mp inside).resolve_left different
            have same := List.map_inj_left.mp tail record.1 later
            have other : ∀ domain' ∈ domains request.elements,
                domain'.radioID.toNat ≠ record.1 := by
              rw [only]
              simpa using Ne.symm different
            exact (configuredRadio_eq_joined_iff other).mp same.symm record recorded rfl
        · rw [if_neg long] at saved
          cases saved
    · left
      have others : ∀ domain ∈ domains request.elements,
          domain.radioID.toNat ∉ session.radioIDs :=
        fun domain reported known' => known ⟨domain, reported, known'⟩
      rw [save_others fits others, Option.some_inj] at saved
      refine ⟨others, fun record recorded known' => ?_⟩
      have same := List.map_inj_left.mp saved record.1 known'
      have other : ∀ domain ∈ domains request.elements, domain.radioID.toNat ≠ record.1 :=
        fun domain reported same => others domain reported (same ▸ known')
      exact (configuredRadio_eq_joined_iff other).mp same.symm record recorded rfl
  · intro ⟨fits, stored⟩
    cases stored with
    | inl others => exact orderIndependent_of_forOthers seqNum fits others
    | inr first => exact orderIndependent_of_forFirstRadio seqNum fits first

/-- The channels and the rates of one radio whose ID is 1, as the only one of the session. -/
def singleRadio : RadioElements where
  elements := [.multiDomain ⟨1, 2412, 13, 20⟩,
    .supportedRates 1 [2, 4, 11, 22, 12, 18, 24, 36] (List.cons_ne_nil _ _) le_rfl]
  distinct_domains := List.nodup_singleton _
  distinct_rates := List.nodup_singleton _
  distinct_informations := List.nodup_nil

/-- The rates are looked for at the index 0, which has none. -/
theorem singleRadio_not_orderIndependent :
    ¬ ∀ seqNum request session, OrderIndependent seqNum request session := by
  intro all
  have independent := all 0 singleRadio ⟨[1], List.nodup_singleton 1⟩ singleRadio.elements
    (List.Perm.refl _)
  have saved := ((configuredRadios_eq_some_iff 0 singleRadio (List.Perm.refl _) _ _).mp
    independent).2
  have stored := save_first (show domains singleRadio.elements = [⟨1, 2412, 13, 20⟩] from rfl) []
  rw [if_neg (by decide)] at stored
  have none_saved := stored.symm.trans saved
  cases none_saved

end WlanController.Radios
