import WlanController.Elements.WTPDescriptor

/-!
# What a WTP reports of its radios

Supported rates, radio statistics and decryption errors each have a buffer whose size was
counted by hand.  The rates fit as long as there are eight at most.  The statistics fit, but
their index is checked against a bound that is one too high.  A report of decryption errors
is one byte longer than its buffer, whatever it reports.
-/

namespace WlanController.Elements

open Protocol Radios

def cw80211MaxSuppRates : Nat := 8

def supportedRatesType : Nat := 1040
def radioStatisticsType : Nat := 47
def decryptErrorReportType : Nat := 15

structure WTPRadioStatisticsInfo where
  lastFailureType : UInt8
  resetCount : UInt16
  SWFailureCount : UInt16
  HWFailuireCount : UInt16
  otherFailureCount : UInt16
  unknownFailureCount : UInt16
  configUpdateCount : UInt16
  channelChangeCount : UInt16
  bandChangeCount : UInt16
  currentNoiseFloor : UInt16
  deriving DecidableEq, Repr

/-- An element of `gRadiosInfo.radiosInfo` with the members that are reported.  The list has
    `radioCount` elements. -/
structure RadioInfo where
  radioID : Nat
  decryptErrorMACAddressList : List EthAddr
  statistics : WTPRadioStatisticsInfo

/-! ## Supported rates -/

def cwAssembleMsgElemSupportedRates (radioID : UInt8) (suppRates : List UInt8) :
    Except Failure CWProtocolMessage := do
  let msgPtr ← assembleInto 9 do
    cwProtocolStore8 radioID.toNat
    suppRates.forM fun rate => cwProtocolStore8 rate.toNat
  cwAssembleMsgElem msgPtr supportedRatesType

/-- The loop over the array of rates, which ends early where the element does. -/
def retrieveRates (oldOffset len : Nat) : (rounds : Nat) → MessageM (List UInt8)
  | 0 => return []
  | rounds + 1 => do
    let rate ← cwProtocolRetrieve8
    if (← get).offset - oldOffset = len then return [.ofNat rate]
    else
      let rates ← retrieveRates oldOffset len rounds
      return .ofNat rate :: rates

/-- The radio and its rates. -/
def cwParseWTPSupportedRates (len : Nat) : MessageM (UInt8 × List UInt8) :=
  cwParseMessageElementFrom len fun oldOffset => do
    let radioID ← cwProtocolRetrieve8
    let rates ← retrieveRates oldOffset len cw80211MaxSuppRates
    return (.ofNat radioID, rates)

theorem stores_bytes (bytes : List UInt8) :
    Stores (bytes.forM fun byte => cwProtocolStore8 byte.toNat) bytes := by
  have stores := stores_forM (fun byte : UInt8 => stores_store8 byte.toNat) bytes
  simpa using stores

/-- The loop reads the rates up to the end of the element. -/
theorem readsFrom_rates (oldOffset len : Nat) (suppRates : List UInt8) (inside : suppRates ≠ []) :
    ∀ (start rounds : Nat), suppRates.length ≤ rounds → oldOffset ≤ start →
      start + suppRates.length = oldOffset + len →
        ReadsFrom start (retrieveRates oldOffset len rounds) suppRates suppRates := by
  induction suppRates with
  | nil => exact absurd rfl inside
  | cons rate suppRates inductionHypothesis =>
    intro start rounds enough begins ends
    cases rounds with
    | zero => exact absurd enough (by simp)
    | succ rounds =>
      rw [List.length_cons] at enough ends
      have first := (reads_retrieve8 rate.toNat_lt).from start
      rw [encode_byte] at first
      by_cases last : suppRates = []
      · -- the element ends behind this rate
        subst last
        intro message rest valid at_start ahead
        have ran := first message rest valid at_start ahead
        have done : message.offset + 1 - oldOffset = len := by
          rw [at_start]
          simp only [List.length_nil] at ends
          omega
        simp [retrieveRates, EStateM.run_bind, EStateM.run_get, ran, done]
      · -- there is another rate behind this one
        have behind := inductionHypothesis last (start + 1) rounds (by omega) (by omega) (by omega)
        have both : ReadsFrom start (do
            let rate ← cwProtocolRetrieve8
            let rates ← retrieveRates oldOffset len rounds
            return .ofNat rate :: rates) ([rate] ++ suppRates) (rate :: suppRates) := by
          apply first.bind
          rw [UInt8.ofNat_toNat, bind_pure_comp]
          exact behind.map fun rates => rate :: rates
        intro message rest valid at_start ahead
        have positive : 0 < suppRates.length := List.length_pos_iff.mpr last
        have more : ¬ message.offset + 1 - oldOffset = len := by omega
        have ran := first message (suppRates ++ rest) valid at_start ahead
        have run := both message rest valid at_start ahead
        simp only [EStateM.run_bind, ran] at run
        simp only [retrieveRates, EStateM.run_bind, ran, EStateM.run_get, List.length_singleton,
          advance_offset, more, if_false]
        exact run

/-- A buffer with room to spare. -/
theorem assembleInto_room {program : MessageM Unit} {bytes : List UInt8}
    (stores : Stores program bytes) (room : Nat) :
    assembleInto (bytes.length + room) program = .ok (filled bytes room) := by
  have run := stores [] room
  rw [← cwCreateProtocolMessage_eq_filled] at run
  rw [assembleInto, run]
  rfl

/-- An element takes over what was stored, not the room that was left. -/
theorem cwAssembleMsgElem_room (body : List UInt8) (room type : Nat) :
    cwAssembleMsgElem (filled body room) type = .ok (filled (elementBytes type body) 2) := by
  have stores := (stores_store16 type).bind ((stores_store16 body.length).bind
    (stores_message (valid_filled body room)))
  rw [contents_filled] at stores
  have size : 6 + body.length =
      (BigEndian.encode 2 type ++ (BigEndian.encode 2 body.length ++ body)).length + 2 := by
    simp only [List.length_append, BigEndian.length_encode]
    omega
  rw [cwAssembleMsgElem, offset_filled, size]
  exact assembleInto_room stores 2

theorem cwAssembleMsgElemSupportedRates_eq (radioID : UInt8) (suppRates : List UInt8)
    (short : suppRates.length ≤ 8) :
    cwAssembleMsgElemSupportedRates radioID suppRates =
      .ok (filled (elementBytes supportedRatesType (radioID :: suppRates)) 2) := by
  have stores := (stores_store8 radioID.toNat).bind (stores_bytes suppRates)
  rw [encode_byte] at stores
  have assembled := assembleInto_room stores (8 - suppRates.length)
  have size : ([radioID] ++ suppRates).length + (8 - suppRates.length) = 9 := by
    simp only [List.length_append, List.length_singleton]
    omega
  rw [size] at assembled
  rw [cwAssembleMsgElemSupportedRates, assembled, ok_bind]
  exact cwAssembleMsgElem_room _ _ _

/-- A ninth rate does not fit. -/
theorem length_le_of_supportedRates {radioID : UInt8} {suppRates : List UInt8}
    {element : CWProtocolMessage}
    (assembled : cwAssembleMsgElemSupportedRates radioID suppRates = .ok element) :
    suppRates.length ≤ 8 := by
  have fills := (fills_store8 radioID.toNat).bind
    (fills_forM (fun rate : UInt8 => fills_store8 rate.toNat) suppRates)
  rw [cwAssembleMsgElemSupportedRates] at assembled
  cases body : assembleInto 9 (do
      cwProtocolStore8 radioID.toNat
      suppRates.forM fun rate => cwProtocolStore8 rate.toNat) with
  | error failure =>
    rw [body] at assembled
    cases assembled
  | ok message =>
    have room := fills.le_size body
    omega

theorem readsFrom_supportedRates (radioID : UInt8) (suppRates : List UInt8)
    (inside : suppRates ≠ []) (short : suppRates.length ≤ 8) (start : Nat) :
    ReadsFrom start (cwParseWTPSupportedRates (radioID :: suppRates).length) (radioID :: suppRates)
      (radioID, suppRates) := by
  apply ReadsFrom.messageElementFrom _ rfl
  have first := (reads_retrieve8 radioID.toNat_lt).from start
  rw [encode_byte] at first
  have rates := readsFrom_rates start (radioID :: suppRates).length suppRates inside (start + 1)
    cw80211MaxSuppRates short (Nat.le_succ start) (by simp only [List.length_cons]; omega)
  apply first.bind
  rw [UInt8.ofNat_toNat, bind_pure_comp]
  exact rates.map fun rates => (radioID, rates)

/-- Without rates the loop reads a byte behind the element. -/
theorem supportedRates_of_none (radioID : UInt8) :
    (parseFormatted cwParseWTPSupportedRates).run
        ⟨elementBytes supportedRatesType [radioID], 0, none⟩ =
      .error (.outOfBounds .receiveBuffer) ⟨elementBytes supportedRatesType [radioID], 5, none⟩ := by
  rfl

theorem supportedRates_arrives_iff (radioID : UInt8) (suppRates : List UInt8) :
    Arrives (cwAssembleMsgElemSupportedRates radioID suppRates) supportedRatesType
      cwParseWTPSupportedRates (radioID, suppRates) ↔ suppRates ≠ [] ∧ suppRates.length ≤ 8 := by
  constructor
  · rintro ⟨element, assembled, reads⟩
    have short := length_le_of_supportedRates assembled
    refine ⟨?_, short⟩
    rintro rfl
    rw [cwAssembleMsgElemSupportedRates_eq radioID [] short] at assembled
    cases assembled
    have ran := reads ⟨elementBytes supportedRatesType [radioID], 0, none⟩ [] (by simp)
    rw [supportedRates_of_none] at ran
    cases ran
  · rintro ⟨inside, short⟩
    have announced : (radioID :: suppRates).length < 65536 := by
      simp only [List.length_cons]
      omega
    have arrives : Arrives (cwAssembleMsgElemSupportedRates radioID suppRates) supportedRatesType
        cwParseWTPSupportedRates (radioID, suppRates) ↔ (radioID :: suppRates).length < 65536 ∧
          (radioID, suppRates) = (radioID, suppRates) :=
      arrives_iff (by simp [supportedRatesType])
        (cwAssembleMsgElemSupportedRates_eq radioID suppRates short) (fun len => ⟨_, rfl⟩)
        fun _ => readsFrom_supportedRates radioID suppRates inside short
    exact arrives.mpr ⟨announced, rfl⟩

/-! ## Radio statistics -/

def WTPRadioStatisticsInfo.store (statistics : WTPRadioStatisticsInfo) : MessageM Unit := do
  cwProtocolStore8 statistics.lastFailureType.toNat
  cwProtocolStore16 statistics.resetCount.toNat
  cwProtocolStore16 statistics.SWFailureCount.toNat
  cwProtocolStore16 statistics.HWFailuireCount.toNat
  cwProtocolStore16 statistics.otherFailureCount.toNat
  cwProtocolStore16 statistics.unknownFailureCount.toNat
  cwProtocolStore16 statistics.configUpdateCount.toNat
  cwProtocolStore16 statistics.channelChangeCount.toNat
  cwProtocolStore16 statistics.bandChangeCount.toNat
  cwProtocolStore16 statistics.currentNoiseFloor.toNat

/-- `none` stands for the access to an element behind the end of `radiosInfo`. -/
def cwAssembleMsgElemWTPRadioStatistics (radiosInfo : List RadioInfo) (radio : Int) :
    Option (Except Failure CWProtocolMessage) :=
  if radio < 0 ∨ radio > radiosInfo.length then some (.error (.raised .wrongArg none))
  else
    radiosInfo[radio.toNat]?.map fun info => do
      let msgPtr ← assembleInto 20 do
        cwProtocolStore8 radio.toNat
        info.statistics.store
      cwAssembleMsgElem msgPtr radioStatisticsType

/-- The radio and its statistics. -/
def cwParseWTPRadioStatistics (len : Nat) : MessageM (Nat × WTPRadioStatisticsInfo) :=
  cwParseMessageElement len do
    let radioID ← cwProtocolRetrieve8
    let lastFailureType ← cwProtocolRetrieve8
    let resetCount ← cwProtocolRetrieve16
    let SWFailureCount ← cwProtocolRetrieve16
    let HWFailuireCount ← cwProtocolRetrieve16
    let otherFailureCount ← cwProtocolRetrieve16
    let unknownFailureCount ← cwProtocolRetrieve16
    let configUpdateCount ← cwProtocolRetrieve16
    let channelChangeCount ← cwProtocolRetrieve16
    let bandChangeCount ← cwProtocolRetrieve16
    let currentNoiseFloor ← cwProtocolRetrieve16
    return (radioID,
      { lastFailureType := .ofNat lastFailureType, resetCount := .ofNat resetCount,
        SWFailureCount := .ofNat SWFailureCount, HWFailuireCount := .ofNat HWFailuireCount,
        otherFailureCount := .ofNat otherFailureCount,
        unknownFailureCount := .ofNat unknownFailureCount,
        configUpdateCount := .ofNat configUpdateCount,
        channelChangeCount := .ofNat channelChangeCount, bandChangeCount := .ofNat bandChangeCount,
        currentNoiseFloor := .ofNat currentNoiseFloor })

def WTPRadioStatisticsInfo.bytes (statistics : WTPRadioStatisticsInfo) : List UInt8 :=
  BigEndian.encode 1 statistics.lastFailureType.toNat ++
    (BigEndian.encode 2 statistics.resetCount.toNat ++
      (BigEndian.encode 2 statistics.SWFailureCount.toNat ++
        (BigEndian.encode 2 statistics.HWFailuireCount.toNat ++
          (BigEndian.encode 2 statistics.otherFailureCount.toNat ++
            (BigEndian.encode 2 statistics.unknownFailureCount.toNat ++
              (BigEndian.encode 2 statistics.configUpdateCount.toNat ++
                (BigEndian.encode 2 statistics.channelChangeCount.toNat ++
                  (BigEndian.encode 2 statistics.bandChangeCount.toNat ++
                    BigEndian.encode 2 statistics.currentNoiseFloor.toNat))))))))

def statisticsBody (radio : Nat) (statistics : WTPRadioStatisticsInfo) : List UInt8 :=
  BigEndian.encode 1 radio ++ statistics.bytes

theorem length_statisticsBody (radio : Nat) (statistics : WTPRadioStatisticsInfo) :
    (statisticsBody radio statistics).length = 20 := by
  simp [statisticsBody, WTPRadioStatisticsInfo.bytes]

theorem stores_statistics (statistics : WTPRadioStatisticsInfo) :
    Stores statistics.store statistics.bytes :=
  (stores_store8 _).bind ((stores_store16 _).bind ((stores_store16 _).bind ((stores_store16 _).bind
    ((stores_store16 _).bind ((stores_store16 _).bind ((stores_store16 _).bind
      ((stores_store16 _).bind ((stores_store16 _).bind (stores_store16 _)))))))))

/-- The element of a radio that there is. -/
theorem cwAssembleMsgElemWTPRadioStatistics_eq {radiosInfo : List RadioInfo} {radio : Nat}
    {info : RadioInfo} (found : radiosInfo[radio]? = some info) :
    cwAssembleMsgElemWTPRadioStatistics radiosInfo radio =
      some (.ok (filled (elementBytes radioStatisticsType (statisticsBody radio info.statistics))
        2)) := by
  have inside := (List.getElem?_eq_some_iff.mp found).1
  have accepted : ¬ ((radio : Int) < 0 ∨ (radio : Int) > radiosInfo.length) := by omega
  have stores := (stores_store8 radio).bind (stores_statistics info.statistics)
  have size := (length_statisticsBody radio info.statistics).symm
  rw [cwAssembleMsgElemWTPRadioStatistics, if_neg accepted, Int.toNat_natCast, found,
    Option.map_some, assembleInto_stores stores size, ok_bind]
  exact congrArg some (cwAssembleMsgElem_eq _ _)

theorem readsFrom_statistics (radio : Nat) (statistics : WTPRadioStatisticsInfo) (start : Nat) :
    ReadsFrom start (cwParseWTPRadioStatistics (statisticsBody radio statistics).length)
      (statisticsBody radio statistics) (radio % 256, statistics) := by
  apply ReadsFrom.messageElement _ rfl
  rw [statisticsBody, WTPRadioStatisticsInfo.bytes]
  apply ((reads_retrieve8_mod radio).from _).bind
  apply ((reads_retrieve8 statistics.lastFailureType.toNat_lt).from _).bind
  apply ((reads_retrieve16 statistics.resetCount.toNat_lt).from _).bind
  apply ((reads_retrieve16 statistics.SWFailureCount.toNat_lt).from _).bind
  apply ((reads_retrieve16 statistics.HWFailuireCount.toNat_lt).from _).bind
  apply ((reads_retrieve16 statistics.otherFailureCount.toNat_lt).from _).bind
  apply ((reads_retrieve16 statistics.unknownFailureCount.toNat_lt).from _).bind
  apply ((reads_retrieve16 statistics.configUpdateCount.toNat_lt).from _).bind
  apply ((reads_retrieve16 statistics.channelChangeCount.toNat_lt).from _).bind
  apply ((reads_retrieve16 statistics.bandChangeCount.toNat_lt).from _).bind
  simp only [UInt8.ofNat_toNat, UInt16.ofNat_toNat, bind_pure_comp]
  have last := ((reads_retrieve16 statistics.currentNoiseFloor.toNat_lt).from
    (start + 1 + 1 + 2 + 2 + 2 + 2 + 2 + 2 + 2 + 2)).map fun currentNoiseFloor =>
      (radio % 256, { statistics with currentNoiseFloor := .ofNat currentNoiseFloor })
  simpa using last

/-! ## Decryption errors -/

/-- A record of `CWGetDecryptErrorReport`: `numEntries` is the length of the list and an
    `unsigned char`. -/
structure CWDecryptErrorReportValues where
  ID : Nat
  decryptErrorMACAddressList : List EthAddr
  numEntries_lt : decryptErrorMACAddressList.length < 256

/-- Takes over as many addresses as the radio has, as far as an `unsigned char` counts them, out
    of the list.  `none` stands for going on behind the end of the list. -/
def decryptErrorsOf (info : RadioInfo) (addresses : List EthAddr) :
    Option CWDecryptErrorReportValues :=
  if info.decryptErrorMACAddressList.length % 256 ≤ addresses.length then
    some
      { ID := info.radioID
        decryptErrorMACAddressList :=
          addresses.take (info.decryptErrorMACAddressList.length % 256)
        numEntries_lt := by
          have small := Nat.mod_lt info.decryptErrorMACAddressList.length (by omega : 256 > 0)
          rw [List.length_take]
          omega }
  else none

/-- The loop that looks for a radio.  The addresses are always those of the first radio. -/
def findDecryptErrors (addresses : List EthAddr) (radioID : Int) :
    List RadioInfo → Option CWDecryptErrorReportValues → Option (Option CWDecryptErrorReportValues)
  | [], found => some found
  | info :: radios, found =>
      if info.radioID = radioID then do
        let values ← decryptErrorsOf info addresses
        findDecryptErrors addresses radioID radios (some values)
      else findDecryptErrors addresses radioID radios found

/-- `none` stands for an access through a null pointer, `some none` for `CW_FALSE`. -/
def cwGetDecryptErrorReport (radiosInfo : List RadioInfo) (radioID : Int) :
    Option (Option (List CWDecryptErrorReportValues)) :=
  if radioID < 0 then
    (radiosInfo.mapM fun info => decryptErrorsOf info info.decryptErrorMACAddressList).map some
  else
    let addresses := radiosInfo.head?.elim [] RadioInfo.decryptErrorMACAddressList
    (findDecryptErrors addresses radioID radiosInfo none).map fun found =>
      found.map fun values => [values]

def decryptErrorBytes (values : CWDecryptErrorReportValues) : List UInt8 :=
  values.decryptErrorMACAddressList.flatMap EthAddr.bytes

def assembleDecryptError (values : CWDecryptErrorReportValues) : Except Failure CWProtocolMessage := do
  let msg ← assembleInto (2 + ethALen * values.decryptErrorMACAddressList.length) do
    cwProtocolStore8 values.ID
    cwProtocolStore8 values.decryptErrorMACAddressList.length
    cwProtocolStore8 (ethALen * values.decryptErrorMACAddressList.length)
    cwProtocolStoreRawBytes (decryptErrorBytes values)
  cwAssembleMsgElem msg decryptErrorReportType

/-- The elements of all radios that are reported, one after the other; `none` inside stands for
    `CW_FALSE`. -/
def cwAssembleMsgElemDecryptErrorReport (radiosInfo : List RadioInfo) (radioID : Int) :
    Option (Except Failure (Option CWProtocolMessage)) :=
  (cwGetDecryptErrorReport radiosInfo radioID).map fun infos =>
    match infos with
    | none => .ok none
    | some infos => do
      let msgs ← infos.mapM assembleDecryptError
      let msgPtr ← assembleInto (msgs.map (·.offset)).sum do
        msgs.forM cwProtocolStoreMessage
      return some msgPtr

/-- The members of the record as the AC fills it. -/
structure DecryptErrorReport where
  ID : Nat
  numEntries : Nat
  length : Nat
  decryptErrorMACAddressList : List UInt8
  deriving DecidableEq, Repr

def cwParseMsgElemDecryptErrorReport (len : Nat) : MessageM DecryptErrorReport :=
  cwParseMessageElement len do
    let ID ← cwProtocolRetrieve8
    let numEntries ← cwProtocolRetrieve8
    let length ← cwProtocolRetrieve8
    if numEntries > 0 then
      let decryptErrorMACAddressList ← cwProtocolRetrieveRawBytes (ethALen * numEntries)
      return { ID, numEntries, length, decryptErrorMACAddressList }
    else return { ID, numEntries, length, decryptErrorMACAddressList := [] }

/-- A byte for the radio, one for the number of addresses and one for their length do not fit
    where two were counted. -/
theorem assembleDecryptError_overruns (values : CWDecryptErrorReportValues)
    (element : CWProtocolMessage) : assembleDecryptError values ≠ .ok element := by
  intro assembled
  have addresses : (decryptErrorBytes values).length =
      ethALen * values.decryptErrorMACAddressList.length := by
    simp [decryptErrorBytes, List.length_flatMap, Nat.mul_comm]
  have fills := (fills_store8 values.ID).bind
    ((fills_store8 values.decryptErrorMACAddressList.length).bind
      ((fills_store8 (ethALen * values.decryptErrorMACAddressList.length)).bind
        (fills_rawBytes (decryptErrorBytes values))))
  rw [assembleDecryptError] at assembled
  cases body : assembleInto (2 + ethALen * values.decryptErrorMACAddressList.length) (do
      cwProtocolStore8 values.ID
      cwProtocolStore8 values.decryptErrorMACAddressList.length
      cwProtocolStore8 (ethALen * values.decryptErrorMACAddressList.length)
      cwProtocolStoreRawBytes (decryptErrorBytes values)) with
  | error failure =>
    rw [body] at assembled
    cases assembled
  | ok message =>
    have room := fills.le_size body
    rw [addresses] at room
    omega

/-- No element of a list is assembled only if there is none to assemble. -/
theorem eq_nil_of_decryptErrors {infos : List CWDecryptErrorReportValues}
    {msgs : List CWProtocolMessage} (assembled : infos.mapM assembleDecryptError = .ok msgs) :
    infos = [] := by
  cases infos with
  | nil => rfl
  | cons values infos =>
    rw [List.mapM_cons] at assembled
    cases first : assembleDecryptError values with
    | error failure =>
      rw [first] at assembled
      cases assembled
    | ok element => exact absurd first (assembleDecryptError_overruns values element)

/-- The radios a report is about: all of them, or those with the identifier. -/
def requestedRadios (radiosInfo : List RadioInfo) (radioID : Int) : List RadioInfo :=
  if radioID < 0 then radiosInfo else radiosInfo.filter fun info => (info.radioID : Int) = radioID

/-- The search finds nothing only where no radio has the identifier. -/
theorem findDecryptErrors_none {addresses : List EthAddr} {radioID : Int}
    {radiosInfo : List RadioInfo} {found : Option CWDecryptErrorReportValues}
    (searched : findDecryptErrors addresses radioID radiosInfo found = some none) :
    found = none ∧ radiosInfo.filter (fun info => (info.radioID : Int) = radioID) = [] := by
  induction radiosInfo generalizing found with
  | nil =>
    cases searched
    exact ⟨rfl, rfl⟩
  | cons info radios inductionHypothesis =>
    rw [findDecryptErrors] at searched
    split at searched
    next same =>
      -- what has been found here is not lost behind it
      obtain ⟨values, _, rest⟩ := Option.bind_eq_some_iff.mp searched
      exact absurd (inductionHypothesis rest).1 (by simp)
    next different =>
      obtain ⟨nothing, none_left⟩ := inductionHypothesis searched
      exact ⟨nothing, by simp [different, none_left]⟩

theorem findDecryptErrors_of_filter {addresses : List EthAddr} {radioID : Int}
    {radiosInfo : List RadioInfo} (found : Option CWDecryptErrorReportValues)
    (nowhere : radiosInfo.filter (fun info => (info.radioID : Int) = radioID) = []) :
    findDecryptErrors addresses radioID radiosInfo found = some found := by
  induction radiosInfo with
  | nil => rfl
  | cons info radios inductionHypothesis =>
    rw [List.filter_eq_nil_iff] at nowhere
    have different := nowhere info List.mem_cons_self
    rw [decide_eq_true_eq] at different
    rw [findDecryptErrors, if_neg different]
    apply inductionHypothesis
    rw [List.filter_eq_nil_iff]
    exact fun info' member => nowhere info' (List.mem_cons_of_mem _ member)

/-- Nothing is assembled for a radio that is requested. -/
theorem decryptErrorReport_of_requested {radiosInfo : List RadioInfo} {radioID : Int}
    (requested : requestedRadios radiosInfo radioID ≠ []) (outcome : Option CWProtocolMessage) :
    cwAssembleMsgElemDecryptErrorReport radiosInfo radioID ≠ some (.ok outcome) := by
  intro assembled
  obtain ⟨infos, reported, same⟩ := Option.map_eq_some_iff.mp assembled
  cases infos with
  | none =>
    -- no report was made: then no radio has the identifier
    rw [cwGetDecryptErrorReport] at reported
    split at reported
    next all => simp at reported
    next one =>
      obtain ⟨found, searched, nothing⟩ := Option.map_eq_some_iff.mp reported
      rw [Option.map_eq_none_iff] at nothing
      subst nothing
      apply requested
      rw [requestedRadios, if_neg one]
      exact (findDecryptErrors_none searched).2
  | some infos =>
    have empty : infos = [] := by
      cases msgs : infos.mapM assembleDecryptError with
      | error failure =>
        simp only [msgs] at same
        cases same
      | ok elements => exact eq_nil_of_decryptErrors msgs
    subst empty
    rw [cwGetDecryptErrorReport] at reported
    split at reported
    next all =>
      apply requested
      rw [requestedRadios, if_pos all]
      cases radiosInfo with
      | nil => rfl
      | cons info radios =>
        obtain ⟨values, made, same⟩ := Option.map_eq_some_iff.mp reported
        cases same
        simp [List.mapM_cons, Option.bind_eq_some_iff] at made
    next one =>
      obtain ⟨found, searched, same⟩ := Option.map_eq_some_iff.mp reported
      cases found with
      | none => cases same
      | some values => cases same

/-! ## Where the two sides agree -/

/-- The elements with what they are assembled from. -/
inductive RadioReport where
  | supportedRates (radioID : UInt8) (suppRates : List UInt8)
  | radioStatistics (radiosInfo : List RadioInfo) (radio : Int)
  | decryptErrors (radiosInfo : List RadioInfo) (radioID : Int)

/-- What the AC has to read of the decryption errors of a radio. -/
def RadioInfo.decryptErrorReport (info : RadioInfo) : DecryptErrorReport where
  ID := info.radioID
  numEntries := info.decryptErrorMACAddressList.length
  length := ethALen * info.decryptErrorMACAddressList.length
  decryptErrorMACAddressList := info.decryptErrorMACAddressList.flatMap EthAddr.bytes

/-- The element is assembled inside its buffer with a record for each radio it is asked for, the
    AC reads the same values and ends behind it; a radio that there is not is refused. -/
def RadioReport.Agrees : RadioReport → Prop
  | supportedRates radioID suppRates =>
      Arrives (cwAssembleMsgElemSupportedRates radioID suppRates) supportedRatesType
        cwParseWTPSupportedRates (radioID, suppRates)
  | radioStatistics radiosInfo radio =>
      if 0 ≤ radio ∧ radio < radiosInfo.length then
        ∃ info assembled, radiosInfo[radio.toNat]? = some info ∧
          cwAssembleMsgElemWTPRadioStatistics radiosInfo radio = some assembled ∧
            Arrives assembled radioStatisticsType cwParseWTPRadioStatistics
              (radio.toNat, info.statistics)
      else
        cwAssembleMsgElemWTPRadioStatistics radiosInfo radio =
          some (.error (.raised .wrongArg none))
  | decryptErrors radiosInfo radioID =>
      ∃ outcome, cwAssembleMsgElemDecryptErrorReport radiosInfo radioID = some (.ok outcome) ∧
        if 0 ≤ radioID ∧ requestedRadios radiosInfo radioID = [] then outcome = none
        else ∃ element, outcome = some element ∧
          Reads (readRecords (parseFormatted cwParseMsgElemDecryptErrorReport)
            (requestedRadios radiosInfo radioID).length) element.contents
            ((requestedRadios radiosInfo radioID).map fun info =>
              (decryptErrorReportType, info.decryptErrorReport)) none

/-- There are one to eight rates; the index is not the one behind the last radio and fits the
    byte it is sent in; there are no decryption errors to report. -/
def RadioReport.Supported : RadioReport → Prop
  | supportedRates _ suppRates => suppRates ≠ [] ∧ suppRates.length ≤ 8
  | radioStatistics radiosInfo radio =>
      radio ≠ radiosInfo.length ∧ (0 ≤ radio ∧ radio < radiosInfo.length → radio < 256)
  | decryptErrors radiosInfo radioID => requestedRadios radiosInfo radioID = []

theorem radioStatistics_agrees_iff (radiosInfo : List RadioInfo) (radio : Int) :
    (RadioReport.radioStatistics radiosInfo radio).Agrees ↔
      (RadioReport.radioStatistics radiosInfo radio).Supported := by
  simp only [RadioReport.Agrees, RadioReport.Supported]
  by_cases there : 0 ≤ radio ∧ radio < radiosInfo.length
  · obtain ⟨index, rfl⟩ := Int.eq_ofNat_of_zero_le there.1
    have inside : index < radiosInfo.length := by omega
    have found : radiosInfo[index]? = some radiosInfo[index] := List.getElem?_eq_getElem inside
    have arrives : Arrives (.ok (filled (elementBytes radioStatisticsType
        (statisticsBody index radiosInfo[index].statistics)) 2)) radioStatisticsType
          cwParseWTPRadioStatistics (index, radiosInfo[index].statistics) ↔
            (statisticsBody index radiosInfo[index].statistics).length < 65536 ∧
              (index % 256, radiosInfo[index].statistics) = (index, radiosInfo[index].statistics) :=
      arrives_iff (by simp [radioStatisticsType]) rfl (fun len => ⟨_, rfl⟩)
        fun _ => readsFrom_statistics index radiosInfo[index].statistics
    rw [length_statisticsBody] at arrives
    simp only [if_pos there, Int.toNat_natCast, cwAssembleMsgElemWTPRadioStatistics_eq found, found,
      Option.some.injEq, exists_and_left, exists_eq_left', arrives, Prod.mk.injEq, and_true]
    omega
  · simp only [if_neg there]
    by_cases behind : radio = radiosInfo.length
    · -- the check lets the index behind the last radio through
      have accepted : ¬ (radio < 0 ∨ radio > radiosInfo.length) := by omega
      have outside : radiosInfo[radio.toNat]? = none := by
        rw [behind, Int.toNat_natCast]
        exact List.getElem?_eq_none (Nat.le_refl _)
      rw [cwAssembleMsgElemWTPRadioStatistics, if_neg accepted, outside]
      simp [behind]
    · have refused : radio < 0 ∨ radio > radiosInfo.length := by omega
      rw [cwAssembleMsgElemWTPRadioStatistics, if_pos refused]
      simp [behind, there]

theorem decryptErrors_agrees_iff (radiosInfo : List RadioInfo) (radioID : Int) :
    (RadioReport.decryptErrors radiosInfo radioID).Agrees ↔
      (RadioReport.decryptErrors radiosInfo radioID).Supported := by
  simp only [RadioReport.Agrees, RadioReport.Supported]
  constructor
  · rintro ⟨outcome, assembled, _⟩
    by_contra requested
    exact decryptErrorReport_of_requested requested outcome assembled
  · intro nothing
    by_cases all : radioID < 0
    · -- there are no radios at all, and nothing is what the AC reads
      have none_there : radiosInfo = [] := by rwa [requestedRadios, if_pos all] at nothing
      subst none_there
      have assembled : cwAssembleMsgElemDecryptErrorReport [] radioID =
          some (.ok (some (cwCreateProtocolMessage 0))) := by
        simp [cwAssembleMsgElemDecryptErrorReport, cwGetDecryptErrorReport, all]
        rfl
      refine ⟨_, assembled, ?_⟩
      rw [if_neg (by omega), nothing]
      exact ⟨_, rfl, reads_pure []⟩
    · have nowhere := nothing
      rw [requestedRadios, if_neg all] at nowhere
      have assembled : cwAssembleMsgElemDecryptErrorReport radiosInfo radioID = some (.ok none) := by
        simp [cwAssembleMsgElemDecryptErrorReport, cwGetDecryptErrorReport, all,
          findDecryptErrors_of_filter none nowhere]
      refine ⟨none, assembled, ?_⟩
      rw [if_pos ⟨by omega, nothing⟩]

/-- The AC reads what the WTP reports exactly where the report stays within the bounds that the
    sizes and the checks were counted for. -/
theorem radioReport_agrees_iff (report : RadioReport) : report.Agrees ↔ report.Supported := by
  cases report with
  | supportedRates radioID suppRates => exact supportedRates_arrives_iff radioID suppRates
  | radioStatistics radiosInfo radio => exact radioStatistics_agrees_iff radiosInfo radio
  | decryptErrors radiosInfo radioID => exact decryptErrors_agrees_iff radiosInfo radioID

/-- A radio without decryption errors. -/
def quietRadio : RadioInfo where
  radioID := 0
  decryptErrorMACAddressList := []
  statistics := ⟨0, 0, 0, 0, 0, 0, 0, 0, 0, 0⟩

theorem quietRadio_not_agrees :
    ¬ (RadioReport.decryptErrors [quietRadio] 0).Agrees ∧
      ¬ (RadioReport.radioStatistics [quietRadio] 1).Agrees := by
  rw [decryptErrors_agrees_iff, radioStatistics_agrees_iff]
  simp [RadioReport.Supported, requestedRadios, quietRadio]

end WlanController.Elements
