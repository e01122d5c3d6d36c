import WlanController.Elements.RadioReports
import WlanController.Foundation.Placement

/-!
# The operational states of the radios

A Change State Event Request has a record for each radio that has changed.  The search for the
radio of a record sets the result to `CW_FALSE` at every radio before the one that it is for, so
that only records for the first radio are accepted.  The states are stored all the same.
-/

namespace WlanController.Radios

open Elements Placement

/-- The members of `CWWTPRadioInfoValues` that the reports of a WTP in RUN are about. -/
structure SessionRadio where
  radioID : Nat
  operationalState : UInt8
  operationalCause : UInt8
  TxQueueLevel : UInt8
  wirelessLinkFramesPerSec : UInt16
  statistics : WTPRadioStatisticsInfo
  deriving DecidableEq, Repr

/-- A record as `CWParseWTPRadioOperationalState` fills it. -/
structure CWRadioOperationalInfoValues where
  ID : Nat
  state : UInt8
  cause : UInt8
  deriving DecidableEq, Repr

/-- What `CWSaveChangeStateEventRequestMessage` leaves. -/
structure SavedStates where
  retValue : Bool
  radiosInfo : List SessionRadio
  deriving DecidableEq, Repr

namespace SessionRadio

def setOperational (radio : SessionRadio) (state cause : UInt8) : SessionRadio :=
  { radio with operationalState := state, operationalCause := cause }

end SessionRadio

/-- The loop over the radios for one record. -/
def searchRadios (info : CWRadioOperationalInfoValues) :
    List SessionRadio → (found retValue : Bool) → SavedStates
  | [], _, retValue => ⟨retValue, []⟩
  | radio :: radios, found, retValue =>
      let found := if radio.radioID = info.ID then true else found
      let radio :=
        if radio.radioID = info.ID then radio.setOperational info.state info.cause else radio
      let retValue := if !found then false else retValue
      let rest := searchRadios info radios found retValue
      { rest with radiosInfo := radio :: rest.radiosInfo }

def cwSaveChangeStateEventRequestMessage (radioOperationalInfo : List CWRadioOperationalInfoValues)
    (radiosInfo : List SessionRadio) : SavedStates :=
  radioOperationalInfo.foldl
    (fun saved info => searchRadios info saved.radiosInfo false saved.retValue) ⟨true, radiosInfo⟩

/-! ## What is stored and what is returned -/

/-- State and cause as they are placed by radio ID. -/
def operationalSlot : Slot Nat (UInt8 × UInt8) SessionRadio where
  keyOf := SessionRadio.radioID
  put := fun value radio => radio.setOperational value.1 value.2
  keyOf_put := fun _ _ => rfl
  put_put := fun _ _ _ => rfl

namespace CWRadioOperationalInfoValues

def keyed (info : CWRadioOperationalInfoValues) : Nat × (UInt8 × UInt8) :=
  (info.ID, (info.state, info.cause))

end CWRadioOperationalInfoValues

/-- State and cause of the last record for a radio. -/
def lastOperational (infos : List CWRadioOperationalInfoValues) (radioID : Nat) :
    Option (UInt8 × UInt8) :=
  lastWith (infos.map CWRadioOperationalInfoValues.keyed) radioID

/-- A record is for the first radio, or there is none. -/
def ForFirst (radiosInfo : List SessionRadio) (info : CWRadioOperationalInfoValues) : Prop :=
  ∀ radio ∈ radiosInfo.head?, radio.radioID = info.ID

/-- Every record is for a radio of the session. -/
def AllNamed (infos : List CWRadioOperationalInfoValues) (radiosInfo : List SessionRadio) : Prop :=
  ∀ info ∈ infos, ∃ radio ∈ radiosInfo, radio.radioID = info.ID

/-- The radios with the last state and cause that is reported for each of them. -/
def reportedStates (infos : List CWRadioOperationalInfoValues) (radiosInfo : List SessionRadio) :
    List SessionRadio :=
  radiosInfo.map fun radio => operationalSlot.update (lastOperational infos radio.radioID) radio

/-- What is saved when the records are saved all or not at all. -/
def SavesStates (infos : List CWRadioOperationalInfoValues) (radiosInfo : List SessionRadio) :
    Prop :=
  let saved := cwSaveChangeStateEventRequestMessage infos radiosInfo
  (saved.retValue = true ↔ AllNamed infos radiosInfo) ∧
    (saved.retValue = true → saved.radiosInfo = reportedStates infos radiosInfo) ∧
    (saved.retValue = false → saved.radiosInfo = radiosInfo)

theorem searchRadios_radiosInfo (info : CWRadioOperationalInfoValues)
    (radios : List SessionRadio) (found retValue : Bool) :
    (searchRadios info radios found retValue).radiosInfo =
      radios.map (operationalSlot.place info.keyed) := by
  induction radios generalizing found retValue with
  | nil => rfl
  | cons radio radios inductionHypothesis =>
    simp only [searchRadios, inductionHypothesis, List.map_cons]
    rfl

theorem searchRadios_found (info : CWRadioOperationalInfoValues) (radios : List SessionRadio)
    (retValue : Bool) : (searchRadios info radios true retValue).retValue = retValue := by
  induction radios with
  | nil => rfl
  | cons radio radios inductionHypothesis => simp [searchRadios, inductionHypothesis]

/-- A result once lost stays lost. -/
theorem searchRadios_lost (info : CWRadioOperationalInfoValues) (radios : List SessionRadio)
    (found : Bool) : (searchRadios info radios found false).retValue = false := by
  induction radios generalizing found with
  | nil => rfl
  | cons radio radios inductionHypothesis => simp [searchRadios, inductionHypothesis]

/-- The flag is tested at the first radio already. -/
theorem searchRadios_retValue (info : CWRadioOperationalInfoValues) (radios : List SessionRadio)
    (retValue : Bool) :
    (searchRadios info radios false retValue).retValue = true ↔
      retValue = true ∧ ForFirst radios info := by
  cases radios with
  | nil => simp [searchRadios, ForFirst]
  | cons radio radios =>
    by_cases here : radio.radioID = info.ID
    · simp [searchRadios, ForFirst, here, searchRadios_found]
    · simp [searchRadios, ForFirst, here, searchRadios_lost]

theorem place_forFirst (radiosInfo : List SessionRadio)
    (record : Nat × (UInt8 × UInt8)) (info : CWRadioOperationalInfoValues) :
    ForFirst (radiosInfo.map (operationalSlot.place record)) info ↔ ForFirst radiosInfo info := by
  cases radiosInfo with
  | nil => rfl
  | cons radio radios =>
    have same : (operationalSlot.place record radio).radioID = radio.radioID :=
      operationalSlot.place_keyOf record radio
    simp [ForFirst, same]

/-- Every record is stored, whatever the result. -/
theorem foldl_radiosInfo (infos : List CWRadioOperationalInfoValues) (saved : SavedStates) :
    (infos.foldl (fun saved info => searchRadios info saved.radiosInfo false saved.retValue)
      saved).radiosInfo =
      operationalSlot.placeAll (infos.map CWRadioOperationalInfoValues.keyed) saved.radiosInfo := by
  induction infos generalizing saved with
  | nil => rfl
  | cons info infos inductionHypothesis =>
    rw [List.foldl_cons, inductionHypothesis, searchRadios_radiosInfo]
    rfl

theorem foldl_retValue (infos : List CWRadioOperationalInfoValues) (saved : SavedStates) :
    (infos.foldl (fun saved info => searchRadios info saved.radiosInfo false saved.retValue)
      saved).retValue = true ↔
      saved.retValue = true ∧ ∀ info ∈ infos, ForFirst saved.radiosInfo info := by
  induction infos generalizing saved with
  | nil => simp
  | cons info infos inductionHypothesis =>
    rw [List.foldl_cons, inductionHypothesis, searchRadios_retValue, searchRadios_radiosInfo,
      List.forall_mem_cons, and_assoc]
    simp only [place_forFirst]

theorem save_radiosInfo (infos : List CWRadioOperationalInfoValues)
    (radiosInfo : List SessionRadio) :
    (cwSaveChangeStateEventRequestMessage infos radiosInfo).radiosInfo =
      reportedStates infos radiosInfo := by
  rw [cwSaveChangeStateEventRequestMessage, foldl_radiosInfo, Slot.placeAll_eq]
  rfl

theorem save_retValue (infos : List CWRadioOperationalInfoValues)
    (radiosInfo : List SessionRadio) :
    (cwSaveChangeStateEventRequestMessage infos radiosInfo).retValue = true ↔
      ∀ info ∈ infos, ForFirst radiosInfo info := by
  rw [cwSaveChangeStateEventRequestMessage, foldl_retValue]
  simp

/-- A radio keeps its state if it already has the one of the last record. -/
theorem reportedStates_eq_self_iff (infos : List CWRadioOperationalInfoValues)
    (radiosInfo : List SessionRadio) :
    reportedStates infos radiosInfo = radiosInfo ↔
      ∀ radio ∈ radiosInfo, ∀ value ∈ lastOperational infos radio.radioID,
        (radio.operationalState, radio.operationalCause) = value := by
  rw [reportedStates,
    operationalSlot.map_update_eq_self_iff fun radio => lastOperational infos radio.radioID]
  apply forall₂_congr
  intro radio _
  cases lastOperational infos radio.radioID with
  | none => simp
  | some value =>
    cases value with
    | mk state cause =>
      cases radio
      simp [Slot.update, operationalSlot, SessionRadio.setOperational, eq_comm]

/-- With records for the first radio alone, they are all accepted. -/
theorem savesStates_of_forFirst {infos : List CWRadioOperationalInfoValues}
    {radio : SessionRadio} {radios : List SessionRadio}
    (all : ∀ info ∈ infos, radio.radioID = info.ID) : SavesStates infos (radio :: radios) := by
  have accepted : (cwSaveChangeStateEventRequestMessage infos (radio :: radios)).retValue = true :=
    (save_retValue infos (radio :: radios)).mpr (by simpa [ForFirst] using all)
  have named : AllNamed infos (radio :: radios) :=
    fun info inside => ⟨radio, List.mem_cons_self, all info inside⟩
  simp [SavesStates, accepted, save_radiosInfo, named]

/-- Otherwise the result is `CW_FALSE`: there must be a radio that is not known, and nothing to
    change. -/
theorem savesStates_iff_of_refused {infos : List CWRadioOperationalInfoValues}
    {radiosInfo : List SessionRadio}
    (refused : ¬ ∀ info ∈ infos, ForFirst radiosInfo info) :
    SavesStates infos radiosInfo ↔
      (∃ info ∈ infos, ∀ radio ∈ radiosInfo, radio.radioID ≠ info.ID) ∧
        ∀ radio ∈ radiosInfo, ∀ value ∈ lastOperational infos radio.radioID,
          (radio.operationalState, radio.operationalCause) = value := by
  have lost : (cwSaveChangeStateEventRequestMessage infos radiosInfo).retValue = false :=
    Bool.eq_false_iff.mpr fun accepted => refused ((save_retValue infos radiosInfo).mp accepted)
  rw [← reportedStates_eq_self_iff]
  simp [SavesStates, lost, save_radiosInfo, AllNamed]

/-- The records are saved as they should be if there is none, if all are for the first radio, or
    if one is for no radio and the others report what the radios already have. -/
theorem savesStates_iff (infos : List CWRadioOperationalInfoValues)
    (radiosInfo : List SessionRadio) :
    SavesStates infos radiosInfo ↔
      infos = [] ∨
      (∃ radio, radiosInfo.head? = some radio ∧ ∀ info ∈ infos, radio.radioID = info.ID) ∨
      (radiosInfo ≠ [] ∧
        (∃ info ∈ infos, ∀ radio ∈ radiosInfo, radio.radioID ≠ info.ID) ∧
        ∀ radio ∈ radiosInfo, ∀ value ∈ lastOperational infos radio.radioID,
          (radio.operationalState, radio.operationalCause) = value) := by
  cases radiosInfo with
  | nil =>
    -- without a radio the loop that could lose the result is not entered
    have accepted : (cwSaveChangeStateEventRequestMessage infos []).retValue = true :=
      (save_retValue infos []).mpr (by simp [ForFirst])
    simp [SavesStates, accepted, save_radiosInfo, AllNamed, reportedStates,
      List.eq_nil_iff_forall_not_mem]
  | cons radio radios =>
    by_cases all : ∀ info ∈ infos, radio.radioID = info.ID
    · apply iff_of_true (savesStates_of_forFirst all)
      right
      left
      exact ⟨radio, rfl, all⟩
    · have some : infos ≠ [] := by
        intro none
        apply all
        simp [none]
      rw [savesStates_iff_of_refused (by simpa [ForFirst] using all)]
      simp [some, all]

/-- A record for the second of two radios: it is stored, and the result is `CW_FALSE`. -/
theorem second_radio_refused :
    ¬ ∀ infos radiosInfo, SavesStates infos radiosInfo := by
  intro all
  let statistics : WTPRadioStatisticsInfo := ⟨0, 0, 0, 0, 0, 0, 0, 0, 0, 0⟩
  have saved := (all [⟨2, 1, 0⟩] [⟨1, 0, 0, 0, 0, statistics⟩, ⟨2, 0, 0, 0, 0, statistics⟩]).1.mpr
  have named : AllNamed [⟨2, 1, 0⟩]
      [⟨1, 0, 0, 0, 0, statistics⟩, ⟨2, 0, 0, 0, 0, statistics⟩] := by
    simp [AllNamed]
  have accepted := saved named
  cases accepted

end WlanController.Radios
