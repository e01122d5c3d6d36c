import WlanController.Radios.RadioStates
import WlanController.Stations.StationTree

/-!
# The statistics of the radios

A WTP Event Request has records of the traffic and records of the failures of the radios.  The
failures are stored with the radio that the record of the traffic at the same position is for.
-/

namespace WlanController.Radios

open Elements Placement Stations

structure WTPRebootStatisticsInfo where
  rebootCount : UInt16
  ACInitiatedCount : UInt16
  linkFailurerCount : UInt16
  SWFailureCount : UInt16
  HWFailuireCount : UInt16
  otherFailureCount : UInt16
  unknownFailureCount : UInt16
  lastFailureType : UInt8
  deriving DecidableEq, Repr

structure WTPOperationalStatisticsValues where
  radioID : Nat
  TxQueueLevel : UInt8
  wirelessLinkFramesPerSec : UInt16
  deriving DecidableEq, Repr

structure WTPRadioStatisticsValues where
  radioID : Nat
  WTPRadioStatistics : WTPRadioStatisticsInfo
  deriving DecidableEq, Repr

structure CWMsgElemDataDeleteStation where
  radioID : Int
  staAddr : EthAddr
  deriving DecidableEq

/-- What is saved of a WTP Event Request, with `none` for `NULL`. -/
structure CWProtocolWTPEventRequestValues where
  WTPOperationalStatistics : List WTPOperationalStatisticsValues
  WTPRadioStatistics : List WTPRadioStatisticsValues
  WTPRebootStatistics : Option WTPRebootStatisticsInfo
  WTPStaDeleteInfo : Option CWMsgElemDataDeleteStation

/-- The members of `WTPProtocolManager` that the request is about, and the tree of stations.
    Without a tree the deletion has followed a pointer to an absent child. -/
structure EventState where
  WTPRebootStatistics : Option WTPRebootStatisticsInfo
  radiosInfo : List SessionRadio
  avlTree : Option StationTree

namespace SessionRadio

def setTraffic (radio : SessionRadio) (txQueueLevel : UInt8)
    (wirelessLinkFramesPerSec : UInt16) : SessionRadio :=
  { radio with
    TxQueueLevel := txQueueLevel
    wirelessLinkFramesPerSec := wirelessLinkFramesPerSec }

def setStatistics (radio : SessionRadio) (statistics : WTPRadioStatisticsInfo) : SessionRadio :=
  { radio with statistics := statistics }

end SessionRadio

/-- The loop over the radios for a record of the traffic. -/
def storeTraffic (record : WTPOperationalStatisticsValues) (radios : List SessionRadio) :
    List SessionRadio :=
  radios.map fun radio =>
    if radio.radioID = record.radioID then
      radio.setTraffic record.TxQueueLevel record.wirelessLinkFramesPerSec
    else radio

/-- The loop over the radios for a record of the failures.  The radio is compared with
    `WTPOperationalStatistics[i]`, for which `operational` is `none` outside the array. -/
def storeStatistics (operational : Option WTPOperationalStatisticsValues)
    (record : WTPRadioStatisticsValues) : List SessionRadio → Option (List SessionRadio)
  | [] => some []
  | radio :: radios => do
      let compared ← operational
      let rest ← storeStatistics operational record radios
      if radio.radioID = compared.radioID then
        return radio.setStatistics record.WTPRadioStatistics :: rest
      else return radio :: rest

/-- The loop over `WTPRadioStatistics`, from the index `i` on. -/
def storeAllStatistics (operational : List WTPOperationalStatisticsValues) :
    (i : Nat) → List WTPRadioStatisticsValues → List SessionRadio → Option (List SessionRadio)
  | _, [], radios => some radios
  | i, record :: records, radios => do
      let radios ← storeStatistics operational[i]? record radios
      storeAllStatistics operational (i + 1) records radios

/-- `CW_TRUE` with what is left, or `none` for an access outside an array. -/
def cwSaveWTPEventRequestMessage (request : CWProtocolWTPEventRequestValues) (state : EventState) :
    Option EventState := do
  let rebootStatistics := request.WTPRebootStatistics.or state.WTPRebootStatistics
  let radios := request.WTPOperationalStatistics.foldl
    (fun radios record => storeTraffic record radios) state.radiosInfo
  let radios ←
    storeAllStatistics request.WTPOperationalStatistics 0 request.WTPRadioStatistics radios
  let avlTree :=
    match request.WTPStaDeleteInfo with
    | some info => state.avlTree.bind fun avlTree => avlDeleteNode avlTree info.staAddr info.radioID
    | none => state.avlTree
  return ⟨rebootStatistics, radios, avlTree⟩

/-! ## Where the records are placed -/

def trafficSlot : Slot Nat (UInt8 × UInt16) SessionRadio where
  keyOf := SessionRadio.radioID
  put := fun value radio => radio.setTraffic value.1 value.2
  keyOf_put := fun _ _ => rfl
  put_put := fun _ _ _ => rfl

def statisticsSlot : Slot Nat WTPRadioStatisticsInfo SessionRadio where
  keyOf := SessionRadio.radioID
  put := fun value radio => radio.setStatistics value
  keyOf_put := fun _ _ => rfl
  put_put := fun _ _ _ => rfl

namespace WTPOperationalStatisticsValues

def keyed (record : WTPOperationalStatisticsValues) : Nat × (UInt8 × UInt16) :=
  (record.radioID, (record.TxQueueLevel, record.wirelessLinkFramesPerSec))

end WTPOperationalStatisticsValues

namespace WTPRadioStatisticsValues

def keyed (record : WTPRadioStatisticsValues) : Nat × WTPRadioStatisticsInfo :=
  (record.radioID, record.WTPRadioStatistics)

end WTPRadioStatisticsValues

/-- The statistics under the radio that the record of the traffic at their position is for. -/
def besideTraffic (operational : List WTPOperationalStatisticsValues)
    (records : List WTPRadioStatisticsValues) : List (Nat × WTPRadioStatisticsInfo) :=
  List.zipWith (fun traffic record => (traffic.radioID, record.WTPRadioStatistics))
    operational records

/-- The traffic that is last reported for a radio. -/
def reportedTraffic (request : CWProtocolWTPEventRequestValues) (radioID : Nat) :
    Option (UInt8 × UInt16) :=
  lastWith (request.WTPOperationalStatistics.map WTPOperationalStatisticsValues.keyed) radioID

/-- The statistics that are last reported for a radio. -/
def reportedStatistics (request : CWProtocolWTPEventRequestValues) (radioID : Nat) :
    Option WTPRadioStatisticsInfo :=
  lastWith (request.WTPRadioStatistics.map WTPRadioStatisticsValues.keyed) radioID

/-- The radios with the reports for each of them. -/
def reportedRadios (request : CWProtocolWTPEventRequestValues) (radiosInfo : List SessionRadio) :
    List SessionRadio :=
  radiosInfo.map fun radio =>
    statisticsSlot.update (reportedStatistics request radio.radioID)
      (trafficSlot.update (reportedTraffic request radio.radioID) radio)

/-- The save accesses no array outside, and every radio has its reports afterwards. -/
def StoresReports (request : CWProtocolWTPEventRequestValues) (state : EventState) : Prop :=
  ∃ saved, cwSaveWTPEventRequestMessage request state = some saved ∧
    saved.radiosInfo = reportedRadios request state.radiosInfo

theorem foldl_storeTraffic (records : List WTPOperationalStatisticsValues)
    (radios : List SessionRadio) :
    records.foldl (fun radios record => storeTraffic record radios) radios =
      trafficSlot.placeAll (records.map WTPOperationalStatisticsValues.keyed) radios := by
  induction records generalizing radios with
  | nil => rfl
  | cons record records inductionHypothesis =>
    rw [List.foldl_cons, inductionHypothesis]
    rfl

theorem storeStatistics_some (traffic : WTPOperationalStatisticsValues)
    (record : WTPRadioStatisticsValues) (radios : List SessionRadio) :
    storeStatistics (some traffic) record radios =
      some (radios.map (statisticsSlot.place (traffic.radioID, record.WTPRadioStatistics))) := by
  induction radios with
  | nil => rfl
  | cons radio radios inductionHypothesis =>
    by_cases here : radio.radioID = traffic.radioID
    · simp [storeStatistics, inductionHypothesis, here, Slot.place, statisticsSlot]
    · simp [storeStatistics, inductionHypothesis, here, Slot.place, statisticsSlot]

theorem storeAllStatistics_nil (operational : List WTPOperationalStatisticsValues) (i : Nat)
    (records : List WTPRadioStatisticsValues) :
    storeAllStatistics operational i records [] = some [] := by
  induction records generalizing i with
  | nil => rfl
  | cons record records inductionHypothesis =>
    rw [storeAllStatistics, storeStatistics]
    exact inductionHypothesis (i + 1)

/-- The statistics of the positions from `i` on, if there are enough records of the traffic. -/
theorem storeAllStatistics_eq (operational : List WTPOperationalStatisticsValues) (i : Nat)
    (records : List WTPRadioStatisticsValues) (radios : List SessionRadio)
    (enough : i + records.length ≤ operational.length) :
    storeAllStatistics operational i records radios =
      some (statisticsSlot.placeAll (besideTraffic (operational.drop i) records) radios) := by
  induction records generalizing i radios with
  | nil => simp [storeAllStatistics, besideTraffic, Slot.placeAll]
  | cons record records inductionHypothesis =>
    rw [List.length_cons] at enough
    have inside : i < operational.length := by omega
    rw [storeAllStatistics, List.getElem?_eq_getElem inside, storeStatistics_some,
      Option.bind_eq_bind, Option.bind_some, inductionHypothesis (i + 1) _ (by omega),
      List.drop_eq_getElem_cons inside]
    rfl

/-- With a radio, the first position without a record of the traffic is outside the array. -/
theorem storeAllStatistics_outside (operational : List WTPOperationalStatisticsValues) (i : Nat)
    (records : List WTPRadioStatisticsValues) (radio : SessionRadio) (radios : List SessionRadio)
    (few : operational.length < i + records.length) (inside : i ≤ operational.length) :
    storeAllStatistics operational i records (radio :: radios) = none := by
  induction records generalizing i radio radios with
  | nil =>
    rw [List.length_nil] at few
    omega
  | cons record records inductionHypothesis =>
    rw [List.length_cons] at few
    by_cases last : i = operational.length
    · simp [storeAllStatistics, last, storeStatistics]
    · have before : i < operational.length := by omega
      rw [storeAllStatistics, List.getElem?_eq_getElem before, storeStatistics_some]
      exact inductionHypothesis (i + 1) _ _ (by omega) before

/-- The radios that a save without an access outside leaves. -/
theorem save_eq_some_iff (request : CWProtocolWTPEventRequestValues) (state : EventState)
    (radios : List SessionRadio) :
    (∃ saved, cwSaveWTPEventRequestMessage request state = some saved ∧
      saved.radiosInfo = radios) ↔
      storeAllStatistics request.WTPOperationalStatistics 0 request.WTPRadioStatistics
        (trafficSlot.placeAll
          (request.WTPOperationalStatistics.map WTPOperationalStatisticsValues.keyed)
          state.radiosInfo) = some radios := by
  rw [cwSaveWTPEventRequestMessage, foldl_storeTraffic]
  cases storeAllStatistics request.WTPOperationalStatistics 0 request.WTPRadioStatistics
    (trafficSlot.placeAll
      (request.WTPOperationalStatistics.map WTPOperationalStatisticsValues.keyed)
      state.radiosInfo) with
  | none => simp
  | some stored => simp

/-- The failures do not overwrite the traffic. -/
theorem update_statistics_eq_iff (value value' : Option WTPRadioStatisticsInfo)
    (traffic : Option (UInt8 × UInt16)) (radio : SessionRadio) :
    statisticsSlot.update value (trafficSlot.update traffic radio) =
      statisticsSlot.update value' (trafficSlot.update traffic radio) ↔
      value.getD radio.statistics = value'.getD radio.statistics := by
  have same : (trafficSlot.update traffic radio).statistics = radio.statistics := by
    cases traffic with
    | none => rfl
    | some traffic => rfl
  generalize trafficSlot.update traffic radio = updated at same
  rw [← same]
  cases updated
  cases value with
  | none =>
    cases value' with
    | none => simp
    | some statistics' => simp [Slot.update, statisticsSlot, SessionRadio.setStatistics]
  | some statistics =>
    cases value' with
    | none => simp [Slot.update, statisticsSlot, SessionRadio.setStatistics]
    | some statistics' => simp [Slot.update, statisticsSlot, SessionRadio.setStatistics]

theorem update_radioID (traffic : Option (UInt8 × UInt16)) (radio : SessionRadio) :
    (trafficSlot.update traffic radio).radioID = radio.radioID := by
  cases traffic with
  | none => rfl
  | some traffic => rfl

/-- What the save makes of the radios, if it accesses no array outside. -/
theorem placed_eq_reported_iff (request : CWProtocolWTPEventRequestValues)
    (radiosInfo : List SessionRadio) :
    statisticsSlot.placeAll
        (besideTraffic request.WTPOperationalStatistics request.WTPRadioStatistics)
        (trafficSlot.placeAll
          (request.WTPOperationalStatistics.map WTPOperationalStatisticsValues.keyed)
          radiosInfo) = reportedRadios request radiosInfo ↔
      ∀ radio ∈ radiosInfo,
        (lastWith (besideTraffic request.WTPOperationalStatistics request.WTPRadioStatistics)
          radio.radioID).getD radio.statistics =
          (reportedStatistics request radio.radioID).getD radio.statistics := by
  rw [Slot.placeAll_eq, Slot.placeAll_eq, List.map_map, reportedRadios, List.map_inj_left]
  apply forall₂_congr
  intro radio _
  have same : statisticsSlot.keyOf (trafficSlot.update (reportedTraffic request radio.radioID)
      radio) = radio.radioID := update_radioID _ radio
  show statisticsSlot.update (lastWith _ (statisticsSlot.keyOf (trafficSlot.update
    (reportedTraffic request radio.radioID) radio))) _ = _ ↔ _
  rw [same]
  exact update_statistics_eq_iff _ _ _ radio

/-- Every radio has its reports if there is no radio, or if the record of the traffic at the
    position of each record of the failures leads to the same statistics as its own radio ID. -/
theorem storesReports_iff (request : CWProtocolWTPEventRequestValues) (state : EventState) :
    StoresReports request state ↔
      state.radiosInfo = [] ∨
      (request.WTPRadioStatistics.length ≤ request.WTPOperationalStatistics.length ∧
        ∀ radio ∈ state.radiosInfo,
          (lastWith (besideTraffic request.WTPOperationalStatistics request.WTPRadioStatistics)
            radio.radioID).getD radio.statistics =
            (reportedStatistics request radio.radioID).getD radio.statistics) := by
  rw [StoresReports, save_eq_some_iff]
  by_cases enough :
      request.WTPRadioStatistics.length ≤ request.WTPOperationalStatistics.length
  · rw [storeAllStatistics_eq _ _ _ _ (by omega), List.drop_zero, Option.some_inj,
      placed_eq_reported_iff]
    constructor
    · intro same
      exact Or.inr ⟨enough, same⟩
    · intro stored radio inside
      cases stored with
      | inl none =>
        rw [none] at inside
        cases inside
      | inr same => exact same.2 radio inside
  · cases radios : state.radiosInfo with
    | nil =>
      rw [Slot.placeAll_eq, List.map_nil, storeAllStatistics_nil]
      simp [reportedRadios]
    | cons radio rest =>
      rw [Slot.placeAll_eq, List.map_cons,
        storeAllStatistics_outside _ _ _ _ _ (by omega) (Nat.zero_le _)]
      simp [enough]

/-- A report of the failures of the second radio, beside one of the traffic of the first. -/
theorem statistics_of_other_radio :
    ¬ ∀ request state, StoresReports request state := by
  intro all
  let statistics : WTPRadioStatisticsInfo := ⟨0, 0, 0, 0, 0, 0, 0, 0, 0, 0⟩
  let failures : WTPRadioStatisticsInfo := ⟨1, 0, 7, 0, 0, 0, 0, 0, 0, 0⟩
  let state : EventState := ⟨none, [⟨1, 1, 0, 0, 0, statistics⟩, ⟨2, 1, 0, 0, 0, statistics⟩], none⟩
  obtain ⟨saved, ran, same⟩ := all ⟨[⟨1, 3, 5⟩], [⟨2, failures⟩], none, none⟩ state
  cases ran
  cases same

end WlanController.Radios
