import WlanController.Elements.ElementSequence
import WlanController.Radios.RadioStatistics
import WlanController.Radios.StationConfiguration
import WlanController.Requests.DiscoveryRequest

/-!
# Configure requests

The AC goes through the elements of a configure request twice.  What a WTP says of the channels of
its radios is stored in the order of arrival, and the rates of a radio at the index that is made of
its ID.  An element that finds the array full is counted, and its bytes are left where they are.
-/

namespace WlanController.Requests

open Protocol Radios Elements Placement

def cwMsgTypeValueConfigureRequest : Nat := 5

def acNameType : Nat := 4

def acNameIndexType : Nat := 5

def radioAdminStateType : Nat := 31

def statisticsTimerType : Nat := 36

def wtpRebootStatisticsType : Nat := 48

def macOperationType : Nat := 1030

def multiDomainCapabilityType : Nat := 1032

/-- The values of a multi-domain capability element. -/
structure MultiDomainCapability where
  radioID : UInt8
  firstChannel : UInt16
  totChannels : UInt16
  maxTxPower : UInt16
  deriving DecidableEq, Repr

/-- `supportedRates` has `lenSupportedRates` elements, and none for `NULL`. -/
structure PhyFrequencyInfoConfigureMessage extends MultiDomainCapability where
  supportedRates : List UInt8
  deriving DecidableEq, Repr

/-- `CWProtocolConfigureRequestValues`.  The arrays `singlePhyInfo` and `phyFrequencyInfo` have
    `WTP_RADIO_MAX` elements. -/
structure ConfigureRequestValues where
  ACName : Option (List UInt8)
  ACinWTPCount : Nat
  ACNameIndex : List (Nat × List UInt8)
  radioAdminInfoCount : Nat
  radioAdminInfo : List (Nat × Nat)
  StatisticsTimer : Option Nat
  WTPRebootStatistics : Option WTPRebootStatisticsInfo
  numPhyActive : Nat
  singlePhyInfo : Nat → Nat × Nat
  numPhyFrequencyInfo : Nat
  phyFrequencyInfo : Nat → PhyFrequencyInfoConfigureMessage

namespace ConfigureRequestValues

/-- With the arrays that the parser allocates. -/
def initial : ConfigureRequestValues where
  ACName := none
  ACinWTPCount := 0
  ACNameIndex := []
  radioAdminInfoCount := 0
  radioAdminInfo := []
  StatisticsTimer := none
  WTPRebootStatistics := none
  numPhyActive := 0
  singlePhyInfo := fun _ => (0, 0)
  numPhyFrequencyInfo := 0
  phyFrequencyInfo := fun _ => ⟨⟨0, 0, 0, 0⟩, []⟩

def setSinglePhyInfo (values : ConfigureRequestValues) (index : Nat) (entry : Nat × Nat) :
    ConfigureRequestValues :=
  { values with singlePhyInfo := Function.update values.singlePhyInfo index entry }

def setDomain (values : ConfigureRequestValues) (index : Nat) (domain : MultiDomainCapability) :
    ConfigureRequestValues :=
  { values with
    phyFrequencyInfo := Function.update values.phyFrequencyInfo index
      { values.phyFrequencyInfo index with toMultiDomainCapability := domain } }

def setRates (values : ConfigureRequestValues) (index : Nat) (rates : List UInt8) :
    ConfigureRequestValues :=
  { values with
    phyFrequencyInfo := Function.update values.phyFrequencyInfo index
      { values.phyFrequencyInfo index with supportedRates := rates } }

end ConfigureRequestValues

/-! ## The parser -/

def retrieveRebootStatistics : MessageM WTPRebootStatisticsInfo := do
  let rebootCount ← cwProtocolRetrieve16
  let ACInitiatedCount ← cwProtocolRetrieve16
  let linkFailurerCount ← cwProtocolRetrieve16
  let SWFailureCount ← cwProtocolRetrieve16
  let HWFailuireCount ← cwProtocolRetrieve16
  let otherFailureCount ← cwProtocolRetrieve16
  let unknownFailureCount ← cwProtocolRetrieve16
  let lastFailureType ← cwProtocolRetrieve8
  return ⟨.ofNat rebootCount, .ofNat ACInitiatedCount, .ofNat linkFailurerCount,
    .ofNat SWFailureCount, .ofNat HWFailuireCount, .ofNat otherFailureCount,
    .ofNat unknownFailureCount, .ofNat lastFailureType⟩

def retrieveMultiDomainCapability : MessageM MultiDomainCapability := do
  let radioID ← cwProtocolRetrieve8
  let _ ← cwProtocolRetrieve8
  let firstChannel ← cwProtocolRetrieve16
  let totChannels ← cwProtocolRetrieve16
  let maxTxPower ← cwProtocolRetrieve16
  return ⟨.ofNat radioID, .ofNat firstChannel, .ofNat totChannels, .ofNat maxTxPower⟩

/-- The string has a byte less than the element, which may announce none. -/
def retrieveACNameWithIndex (len : Nat) : MessageM (Nat × List UInt8) := do
  let index ← cwProtocolRetrieve8
  if len = 0 then throw (.outOfBounds .receiveBuffer)
  return (index, ← cwProtocolRetrieveRawBytes (len - 1))

def retrieveRadioAdminState : MessageM (Nat × Nat) := do
  let ID ← cwProtocolRetrieve8
  let state ← cwProtocolRetrieve8
  return (ID, state)

/-- A parser whose `CW_FALSE` is not passed on: the bytes that it has taken stay taken. -/
def attempting {σ α : Type} (program : MessageM α) : ParserM σ (Option α) := fun s =>
  match program.run s.message with
  | .ok value message => .ok (some value) { s with message }
  | .error (.raised _ _) message => .ok none { s with message }
  | .error failure message => .error (.failed failure) { s with message }

def parseConfigureRadioInformation (elemLen : Nat) : ParserM ConfigureRequestValues Unit := do
  let index := (← get).values.numPhyActive
  if index < wtpRadioMax then
    parseInto elemLen retrieveRadioInformation fun entry values =>
      values.setSinglePhyInfo index entry
  assigning fun values => { values with numPhyActive := values.numPhyActive + 1 }

def parseConfigureMultiDomain (elemLen : Nat) : ParserM ConfigureRequestValues Unit := do
  let index := (← get).values.numPhyFrequencyInfo
  if index < wtpRadioMax then
    parseInto elemLen retrieveMultiDomainCapability fun domain values =>
      values.setDomain index domain
  assigning fun values => { values with numPhyFrequencyInfo := values.numPhyFrequencyInfo + 1 }

def parseConfigureSupportedRates (elemLen : Nat) : ParserM ConfigureRequestValues Unit := do
  match ← attempting (cwParseWTPSupportedRates elemLen) with
  | none => return ()
  | some (radioID, rates) =>
      let indexRadio := (cwIEEEBindingGetIndexFromDevID radioID.toNat).toNat
      if indexRadio < wtpRadioMax then assigning fun values => values.setRates indexRadio rates
      else throw .overrun

/-- The `switch` of the first loop. -/
def parseConfigureElement (elemType elemLen : Nat) : ParserM ConfigureRequestValues Unit := do
  if elemType = acNameType then
    parseInto elemLen (cwProtocolRetrieveRawBytes elemLen) fun name values =>
      { values with ACName := some name }
  else if elemType = acNameIndexType then
    assigning fun values => { values with ACinWTPCount := values.ACinWTPCount + 1 }
    skipping elemLen
  else if elemType = radioAdminStateType then
    assigning fun values => { values with radioAdminInfoCount := values.radioAdminInfoCount + 1 }
    skipping elemLen
  else if elemType = statisticsTimerType then
    parseInto elemLen cwProtocolRetrieve16 fun timer values =>
      { values with StatisticsTimer := some timer }
  else if elemType = wtpRebootStatisticsType then
    parseInto elemLen retrieveRebootStatistics fun statistics values =>
      { values with WTPRebootStatistics := some statistics }
  else if elemType = wtpRadioInformationType then parseConfigureRadioInformation elemLen
  else if elemType = multiDomainCapabilityType then parseConfigureMultiDomain elemLen
  else if elemType = macOperationType then skipping elemLen
  else if elemType = supportedRatesType then parseConfigureSupportedRates elemLen
  else refusing .invalidFormat (some "Unrecognized Message Element")

/-- The `switch` of the second loop, with the counts of the first as the sizes of the arrays. -/
def parseConfigureArrays (type len : Nat) : ParserM ConfigureRequestValues Unit := do
  if type = acNameIndexType then
    if (← get).values.ACNameIndex.length < (← get).values.ACinWTPCount then
      parseInto len (retrieveACNameWithIndex len) fun entry values =>
        { values with ACNameIndex := values.ACNameIndex ++ [entry] }
    else throw .overrun
  else if type = radioAdminStateType then
    if (← get).values.radioAdminInfo.length < (← get).values.radioAdminInfoCount then
      parseInto len retrieveRadioAdminState fun entry values =>
        { values with radioAdminInfo := values.radioAdminInfo ++ [entry] }
    else throw .overrun
  else skipping len

/-- Returns the sequence number. -/
def cwParseConfigureRequestMessage : ParserM ConfigureRequestValues UInt8 := do
  let controlVal ← reading cwParseControlHeader
  if controlVal.messageTypeValue.toNat ≠ cwMsgTypeValueConfigureRequest then
    refusing .invalidFormat
      (some "Message is not Configure Request (maybe it is Image Data Request)")
  let offsetTillMessages := (← get).message.offset
  cwParseElements parseConfigureElement (elementsLen controlVal)
  expectingEnd
  modify fun s => { s with message := { s.message with offset := offsetTillMessages } }
  cwParseElements parseConfigureArrays (elementsLen controlVal)
  return controlVal.seqNum

/-- The values after a request that is accepted. -/
def configureValues (request : List UInt8) : Option ConfigureRequestValues :=
  match cwParseConfigureRequestMessage.run ⟨⟨request, 0, none⟩, .initial⟩ with
  | .ok _ s => some s.values
  | .error _ _ => none

/-! ## Requests about radios -/

/-- An element about a radio, as a WTP sends it: there are one to eight rates. -/
inductive RadioElement where
  | multiDomain (domain : MultiDomainCapability)
  | supportedRates (radioID : UInt8) (rates : List UInt8) (inside : rates ≠ [])
      (short : rates.length ≤ cw80211MaxSuppRates)
  | radioInformation (radioID phyStandardValue : UInt8)

namespace MultiDomainCapability

def bytes (domain : MultiDomainCapability) : List UInt8 :=
  BigEndian.encode 1 domain.radioID.toNat ++ (BigEndian.encode 1 0 ++
    (BigEndian.encode 2 domain.firstChannel.toNat ++ (BigEndian.encode 2 domain.totChannels.toNat ++
      BigEndian.encode 2 domain.maxTxPower.toNat)))

end MultiDomainCapability

def radioInformationBytes (radioID phyStandardValue : UInt8) : List UInt8 :=
  BigEndian.encode 1 radioID.toNat ++ (BigEndian.encode 1 0 ++ (BigEndian.encode 1 0 ++
    (BigEndian.encode 1 0 ++ BigEndian.encode 1 phyStandardValue.toNat)))

namespace RadioElement

def type : RadioElement → Nat
  | multiDomain _ => multiDomainCapabilityType
  | supportedRates _ _ _ _ => supportedRatesType
  | radioInformation _ _ => wtpRadioInformationType

def body : RadioElement → List UInt8
  | multiDomain domain => domain.bytes
  | supportedRates radioID rates _ _ => radioID :: rates
  | radioInformation radioID phyStandardValue => radioInformationBytes radioID phyStandardValue

def bytes (element : RadioElement) : List UInt8 := Elements.elementBytes element.type element.body

end RadioElement

def configureRequest (seqNum : UInt8) (elements : List RadioElement) : List UInt8 :=
  controlHeaderBytes ⟨.ofNat cwMsgTypeValueConfigureRequest, seqNum,
    .ofNat (elements.flatMap RadioElement.bytes).length⟩ ++ elements.flatMap RadioElement.bytes

/-- What an element makes of the values, if the loop comes behind it. -/
def RadioElement.take (element : RadioElement) (values : ConfigureRequestValues) :
    Option ConfigureRequestValues :=
  match element with
  | .multiDomain domain =>
      if values.numPhyFrequencyInfo < wtpRadioMax then
        some { values.setDomain values.numPhyFrequencyInfo domain with
          numPhyFrequencyInfo := values.numPhyFrequencyInfo + 1 }
      else none
  | .supportedRates radioID rates _ _ =>
      if radioID.toNat < wtpRadioMax then some (values.setRates radioID.toNat rates) else none
  | .radioInformation radioID phyStandardValue =>
      if values.numPhyActive < wtpRadioMax then
        some { values.setSinglePhyInfo values.numPhyActive
            (radioID.toNat, phyStandardValue.toNat) with
          numPhyActive := values.numPhyActive + 1 }
      else none

namespace RadioElement

theorem type_lt (element : RadioElement) : element.type < 65536 := by
  cases element with
  | multiDomain domain => simp [type, multiDomainCapabilityType]
  | supportedRates radioID rates inside short => simp [type, supportedRatesType]
  | radioInformation radioID phyStandardValue => simp [type, wtpRadioInformationType]

theorem length_body (element : RadioElement) :
    0 < element.body.length ∧ element.body.length ≤ 9 := by
  cases element with
  | multiDomain domain => simp [body, MultiDomainCapability.bytes]
  | supportedRates radioID rates inside short =>
    have few : rates.length ≤ 8 := short
    simp only [body, List.length_cons]
    omega
  | radioInformation radioID phyStandardValue => simp [body, radioInformationBytes]

theorem length_bytes (element : RadioElement) :
    element.bytes.length = 4 + element.body.length := by
  simp only [bytes, Elements.elementBytes, List.length_append, BigEndian.length_encode]
  omega

theorem bytes_ne_nil (element : RadioElement) : element.bytes ≠ [] := by
  intro none
  have length := element.length_bytes
  rw [none, List.length_nil] at length
  omega

end RadioElement

theorem reads_multiDomainCapability (domain : MultiDomainCapability) :
    Reads retrieveMultiDomainCapability domain.bytes domain none := by
  have same : domain = (⟨.ofNat domain.radioID.toNat, .ofNat domain.firstChannel.toNat,
      .ofNat domain.totChannels.toNat, .ofNat domain.maxTxPower.toNat⟩ :
        MultiDomainCapability) := by simp
  rw [retrieveMultiDomainCapability, MultiDomainCapability.bytes]
  rw [show Reads _ _ domain none = Reads _ _ (⟨.ofNat domain.radioID.toNat,
    .ofNat domain.firstChannel.toNat, .ofNat domain.totChannels.toNat,
    .ofNat domain.maxTxPower.toNat⟩ : MultiDomainCapability) none from by rw [← same]]
  exact (reads_retrieve8 domain.radioID.toNat_lt).andThen
    ((reads_retrieve8 (by omega)).andThen
      ((reads_retrieve16 domain.firstChannel.toNat_lt).andThen
        ((reads_retrieve16 domain.totChannels.toNat_lt).andThen
          ((reads_retrieve16 domain.maxTxPower.toNat_lt).andReturn (reads_pure _)))))

theorem reads_radioInformation (radioID phyStandardValue : UInt8) :
    Reads retrieveRadioInformation (radioInformationBytes radioID phyStandardValue)
      (radioID.toNat, phyStandardValue.toNat) none :=
  (reads_retrieve8 radioID.toNat_lt).andThen
    ((reads_retrieve8 (by omega)).andThen
      ((reads_retrieve8 (by omega)).andThen
        ((reads_retrieve8 (by omega)).andThen
          ((reads_retrieve8 phyStandardValue.toNat_lt).andReturn (reads_pure _)))))

theorem takes_multiDomain (domain : MultiDomainCapability)
    (values : ConfigureRequestValues) (room : values.numPhyFrequencyInfo < wtpRadioMax) :
    Takes parseConfigureElement (RadioElement.multiDomain domain).bytes values
      { values.setDomain values.numPhyFrequencyInfo domain with
        numPhyFrequencyInfo := values.numPhyFrequencyInfo + 1 } := by
  apply takes_of_body (RadioElement.type_lt _)
    (Nat.lt_of_le_of_lt (RadioElement.length_body _).2 (by omega))
  intro s rest valid ahead same
  subst same
  have stored := parseInto_of_readsFrom ((reads_multiDomainCapability domain).from _)
    (fun domain values => values.setDomain s.values.numPhyFrequencyInfo domain) valid ahead
  show (parseConfigureMultiDomain domain.bytes.length).run s = _
  simp only [parseConfigureMultiDomain, EStateM.run_bind, EStateM.run_get, if_pos room, stored,
    assigning, EStateM.run_modify]
  rfl

theorem takes_radioInformation (radioID phyStandardValue : UInt8)
    (values : ConfigureRequestValues) (room : values.numPhyActive < wtpRadioMax) :
    Takes parseConfigureElement (RadioElement.radioInformation radioID phyStandardValue).bytes
      values
      { values.setSinglePhyInfo values.numPhyActive (radioID.toNat, phyStandardValue.toNat) with
        numPhyActive := values.numPhyActive + 1 } := by
  apply takes_of_body (RadioElement.type_lt _)
    (Nat.lt_of_le_of_lt (RadioElement.length_body _).2 (by omega))
  intro s rest valid ahead same
  subst same
  have stored := parseInto_of_readsFrom
    ((reads_radioInformation radioID phyStandardValue).from _)
    (fun entry values => values.setSinglePhyInfo s.values.numPhyActive entry) valid ahead
  show (parseConfigureRadioInformation (radioInformationBytes radioID phyStandardValue).length).run
    s = _
  simp only [parseConfigureRadioInformation, EStateM.run_bind, EStateM.run_get, if_pos room,
    stored, assigning, EStateM.run_modify]
  rfl

theorem run_attempting {σ α : Type} {program : MessageM α} {s : Parsing σ} {value : α}
    {message : CWProtocolMessage} (ran : program.run s.message = .ok value message) :
    (attempting program).run s = .ok (some value) { s with message } := by
  simp only [EStateM.run, attempting] at ran ⊢
  rw [ran]

theorem run_supportedRates {radioID : UInt8} {rates rest : List UInt8} (inside : rates ≠ [])
    (short : rates.length ≤ cw80211MaxSuppRates) {s : Parsing ConfigureRequestValues}
    (valid : s.message.Valid) (ahead : s.message.ahead = radioID :: rates ++ rest) :
    (parseConfigureElement supportedRatesType (radioID :: rates).length).run s =
      (if radioID.toNat < wtpRadioMax then
        assigning fun values => values.setRates radioID.toNat rates
      else throw .overrun : ParserM ConfigureRequestValues Unit).run
        { s with message := s.message.advance (radioID :: rates).length } := by
  have ran := readsFrom_supportedRates radioID rates inside short s.message.offset s.message rest
    valid rfl ahead
  show (parseConfigureSupportedRates (radioID :: rates).length).run s = _
  simp only [parseConfigureSupportedRates, EStateM.run_bind, run_attempting ran]
  rfl

theorem takes_supportedRates {radioID : UInt8} {rates : List UInt8} (inside : rates ≠ [])
    (short : rates.length ≤ cw80211MaxSuppRates) (values : ConfigureRequestValues)
    (known : radioID.toNat < wtpRadioMax) :
    Takes parseConfigureElement (RadioElement.supportedRates radioID rates inside short).bytes
      values (values.setRates radioID.toNat rates) := by
  apply takes_of_body (RadioElement.type_lt _)
    (Nat.lt_of_le_of_lt (RadioElement.length_body _).2 (by omega))
  intro s rest valid ahead same
  subst same
  have ran := run_supportedRates inside short valid ahead
  rw [if_pos known] at ran
  exact ran

theorem takes_radioElement (element : RadioElement) (values values' : ConfigureRequestValues)
    (taken : element.take values = some values') :
    Takes parseConfigureElement element.bytes values values' := by
  cases element with
  | multiDomain domain =>
    by_cases room : values.numPhyFrequencyInfo < wtpRadioMax
    · rw [RadioElement.take, if_pos room] at taken
      cases taken
      exact takes_multiDomain domain values room
    · rw [RadioElement.take, if_neg room] at taken
      cases taken
  | supportedRates radioID rates inside short =>
    by_cases known : radioID.toNat < wtpRadioMax
    · rw [RadioElement.take, if_pos known] at taken
      cases taken
      exact takes_supportedRates inside short values known
    · rw [RadioElement.take, if_neg known] at taken
      cases taken
  | radioInformation radioID phyStandardValue =>
    by_cases room : values.numPhyActive < wtpRadioMax
    · rw [RadioElement.take, if_pos room] at taken
      cases taken
      exact takes_radioInformation radioID phyStandardValue values room
    · rw [RadioElement.take, if_neg room] at taken
      cases taken

/-! ## What is left of an element that finds its array full -/

/-- No type of an element ends with a byte of zero. -/
theorem parseConfigureElement_multiple (radioID : UInt8) (elemLen : Nat) :
    parseConfigureElement (radioID.toNat * 256) elemLen =
      refusing .invalidFormat (some "Unrecognized Message Element") := by
  have other : ∀ type : Nat, type % 256 ≠ 0 → radioID.toNat * 256 ≠ type := by
    intro type odd same
    omega
  rw [parseConfigureElement, if_neg (other acNameType (by decide)),
    if_neg (other acNameIndexType (by decide)), if_neg (other radioAdminStateType (by decide)),
    if_neg (other statisticsTimerType (by decide)),
    if_neg (other wtpRebootStatisticsType (by decide)),
    if_neg (other wtpRadioInformationType (by decide)),
    if_neg (other multiDomainCapabilityType (by decide)),
    if_neg (other macOperationType (by decide)), if_neg (other supportedRatesType (by decide))]

theorem encode_high (byte : UInt8) :
    BigEndian.encode 2 (byte.toNat * 256) = BigEndian.encode 1 byte.toNat ++ BigEndian.encode 1 0 := by
  have small := byte.toNat_lt
  simp [BigEndian.encode]

/-- The body of an element that is left where it is begins like an element that is not known. -/
theorem stops_of_left {type : Nat} {body : List UInt8} (radioID : UInt8) (next : Nat)
    (more : List UInt8) {values : ConfigureRequestValues} (values' : ConfigureRequestValues)
    (known : type < 65536) (short : body.length < 65536)
    (left : ∀ s : Parsing ConfigureRequestValues, s.values = values →
      (parseConfigureElement type body.length).run s = .ok () { s with values := values' })
    (begins : body = (BigEndian.encode 2 (radioID.toNat * 256) ++ BigEndian.encode 2 next) ++ more) :
    Stops parseConfigureElement (Elements.elementBytes type body) values := by
  intro s rest msgElemsLen start rounds valid ahead same start_le inside
  have small := radioID.toNat_lt
  have length : (Elements.elementBytes type body).length = 4 + body.length := by
    simp only [Elements.elementBytes, List.length_append, BigEndian.length_encode]
    omega
  have four : 4 ≤ body.length := by
    rw [begins]
    simp only [List.length_append, BigEndian.length_encode]
    omega
  cases rounds with
  | zero => exact ⟨_, _, rfl⟩
  | succ rounds =>
    have passed := left { s with message := s.message.advance 4 } same
    rw [Walk.run_parseElements_more (by omega), EStateM.run_bind,
      run_parseElement known short valid ahead, passed]
    cases rounds with
    | zero => exact ⟨_, _, rfl⟩
    | succ rounds =>
      -- the loop goes on with the body
      have behind := ahead_body ahead
      rw [begins, List.append_assoc] at behind
      have header := reads_formatMsgElem (radioID.toNat * 256) next (by omega)
      have ran := header.from _ (s.message.advance 4) _ (valid_body valid ahead) rfl behind
      have going : (s.message.advance 4).offset - start < msgElemsLen := by
        rw [advance_offset]
        omega
      show ∃ stop s', (parseElements parseConfigureElement msgElemsLen start (rounds + 1)).run
        ⟨s.message.advance 4, values'⟩ = .error stop s'
      rw [Walk.run_parseElements_more going]
      have read := run_reading_ok (s := ⟨s.message.advance 4, values'⟩) ran
      simp only [Elements.parseElement, EStateM.run_bind, read, parseConfigureElement_multiple]
      exact ⟨_, _, rfl⟩

theorem stops_radioElement (element : RadioElement) (values : ConfigureRequestValues)
    (refused : element.take values = none) :
    Stops parseConfigureElement element.bytes values := by
  cases element with
  | multiDomain domain =>
    have full : ¬ values.numPhyFrequencyInfo < wtpRadioMax := by
      intro room
      rw [RadioElement.take, if_pos room] at refused
      cases refused
    apply stops_of_left domain.radioID domain.firstChannel.toNat
      (BigEndian.encode 2 domain.totChannels.toNat ++ BigEndian.encode 2 domain.maxTxPower.toNat)
      { values with numPhyFrequencyInfo := values.numPhyFrequencyInfo + 1 }
      (RadioElement.type_lt _) (Nat.lt_of_le_of_lt (RadioElement.length_body _).2 (by omega))
    · intro s same
      subst same
      show (parseConfigureMultiDomain _).run s = _
      simp only [parseConfigureMultiDomain, EStateM.run_bind, EStateM.run_get, if_neg full,
        assigning]
      rfl
    · rw [encode_high, RadioElement.body, MultiDomainCapability.bytes]
      simp only [List.append_assoc]
  | supportedRates radioID rates inside short =>
    have unknown : ¬ radioID.toNat < wtpRadioMax := by
      intro known
      rw [RadioElement.take, if_pos known] at refused
      cases refused
    intro s rest msgElemsLen start rounds valid ahead same start_le inside'
    have length := RadioElement.length_bytes (.supportedRates radioID rates inside short)
    cases rounds with
    | zero => exact ⟨_, _, rfl⟩
    | succ rounds =>
      have ran := run_supportedRates inside short (valid_body valid ahead) (ahead_body ahead)
        (s := { s with message := s.message.advance 4 })
      rw [if_neg unknown] at ran
      rw [Walk.run_parseElements_more (by omega), EStateM.run_bind,
        run_parseElement (RadioElement.type_lt _)
          (Nat.lt_of_le_of_lt (RadioElement.length_body _).2 (by omega)) valid ahead]
      simp only [RadioElement.type, RadioElement.body, ran]
      exact ⟨_, _, rfl⟩
  | radioInformation radioID phyStandardValue =>
    have full : ¬ values.numPhyActive < wtpRadioMax := by
      intro room
      rw [RadioElement.take, if_pos room] at refused
      cases refused
    apply stops_of_left radioID 0 (BigEndian.encode 1 phyStandardValue.toNat)
      { values with numPhyActive := values.numPhyActive + 1 } (RadioElement.type_lt _) (Nat.lt_of_le_of_lt (RadioElement.length_body _).2 (by omega))
    · intro s same
      subst same
      show (parseConfigureRadioInformation _).run s = _
      simp only [parseConfigureRadioInformation, EStateM.run_bind, EStateM.run_get, if_neg full,
        assigning]
      rfl
    · rw [encode_high, RadioElement.body, radioInformationBytes,
        show BigEndian.encode 2 0 = BigEndian.encode 1 0 ++ BigEndian.encode 1 0 from rfl]
      simp only [List.append_assoc]

/-! ## A request as a whole -/

/-- The second loop passes over the elements about radios. -/
theorem takes_arrays (element : RadioElement) (values : ConfigureRequestValues) :
    Takes parseConfigureArrays element.bytes values values := by
  apply takes_of_body (RadioElement.type_lt _)
    (Nat.lt_of_le_of_lt (RadioElement.length_body _).2 (by omega))
  intro s rest valid ahead same
  subst same
  cases element with
  | multiDomain domain => rfl
  | supportedRates radioID rates inside short => rfl
  | radioInformation radioID phyStandardValue => rfl

theorem length_le_flatMap (elements : List RadioElement) :
    elements.length ≤ (elements.flatMap RadioElement.bytes).length := by
  induction elements with
  | nil => simp
  | cons element elements inductionHypothesis =>
    have length := element.length_bytes
    rw [List.flatMap_cons, List.length_append, List.length_cons]
    omega

theorem length_flatMap_le (elements : List RadioElement) :
    (elements.flatMap RadioElement.bytes).length ≤ 13 * elements.length := by
  induction elements with
  | nil => simp
  | cons element elements inductionHypothesis =>
    have length := element.length_bytes
    have body := element.length_body
    rw [List.flatMap_cons, List.length_append, List.length_cons]
    omega

theorem foldlM_some {α β : Type} (elements : List α) (values : β) :
    elements.foldlM (fun (values : β) (_ : α) => some values) values = some values := by
  induction elements with
  | nil => rfl
  | cons element elements inductionHypothesis => exact inductionHypothesis

/-- The control header in front of so many bytes is read. -/
theorem run_controlHeader (messageTypeValue : UInt32) (seqNum : UInt8) (elements : List UInt8)
    (short : elements.length < 65533) :
    ∃ controlVal : CWControlHeaderValues, controlVal.messageTypeValue = messageTypeValue ∧
      controlVal.seqNum = seqNum ∧ elementsLen controlVal = elements.length ∧
      cwParseControlHeader.run ⟨controlHeaderBytes ⟨messageTypeValue, seqNum,
        .ofNat elements.length⟩ ++ elements, 0, none⟩ =
          .ok controlVal ⟨controlHeaderBytes ⟨messageTypeValue, seqNum,
            .ofNat elements.length⟩ ++ elements, 8, none⟩ := by
  have small : elements.length < UInt16.size := by
    show _ < 65536
    omega
  have length : (UInt16.ofNat elements.length).toNat = elements.length :=
    UInt16.toNat_ofNat_of_lt small
  have reads := reads_controlHeader ⟨messageTypeValue, seqNum, .ofNat elements.length⟩ (by
    simp only [length, cwControlHeaderOffsetForMsgElems]
    omega)
  have ran := reads ⟨controlHeaderBytes ⟨messageTypeValue, seqNum, .ofNat elements.length⟩ ++
    elements, 0, none⟩ elements rfl
  rw [length_controlHeaderBytes] at ran
  refine ⟨_, rfl, rfl, ?_, ran⟩
  simp only [elementsLen, length]
  rw [UInt16.ofNat_add, UInt16.add_comm, UInt16.add_sub_cancel, length]

/-- The control header of a request, and what is then ahead. -/
theorem configureRequest_header (seqNum : UInt8) (elements : List RadioElement)
    (short : (elements.flatMap RadioElement.bytes).length < 65533) :
    ∃ controlVal : CWControlHeaderValues,
      controlVal.messageTypeValue.toNat = cwMsgTypeValueConfigureRequest ∧
      elementsLen controlVal = (elements.flatMap RadioElement.bytes).length ∧
      cwParseControlHeader.run ⟨configureRequest seqNum elements, 0, none⟩ =
        .ok controlVal ⟨configureRequest seqNum elements, 8, none⟩ := by
  obtain ⟨controlVal, type, _, announced, ran⟩ := run_controlHeader
    (.ofNat cwMsgTypeValueConfigureRequest) seqNum (elements.flatMap RadioElement.bytes) short
  exact ⟨controlVal, by rw [type]; rfl, announced, ran⟩

/-- The values are those of the elements one after the other. -/
theorem configureValues_eq (seqNum : UInt8) (elements : List RadioElement)
    (few : 13 * elements.length < 65533) :
    configureValues (configureRequest seqNum elements) =
      elements.foldlM (fun values element => element.take values) .initial := by
  have short := Nat.lt_of_le_of_lt (length_flatMap_le elements) few
  obtain ⟨controlVal, expected, announced, header⟩ :=
    configureRequest_header seqNum elements short
  have inside : ∀ element ∈ elements, element.bytes ≠ [] := fun element _ => element.bytes_ne_nil
  have rounds := length_le_flatMap elements
  have read := run_reading_ok (s := ⟨⟨configureRequest seqNum elements, 0, none⟩,
    ConfigureRequestValues.initial⟩) header
  let start : CWProtocolMessage := ⟨configureRequest seqNum elements, 8, none⟩
  have length : (configureRequest seqNum elements).length =
      8 + (elements.flatMap RadioElement.bytes).length := by
    rw [configureRequest, List.length_append, length_controlHeaderBytes]
  have valid : start.Valid := by
    show 8 ≤ (configureRequest seqNum elements).length
    omega
  have ahead : start.ahead = elements.flatMap RadioElement.bytes ++ [] := by
    rw [List.append_nil]
    rfl
  rw [configureValues, cwParseConfigureRequestMessage]
  simp only [EStateM.run_bind, read, expected, ne_eq, not_true_eq_false, if_false, EStateM.run_get,
    announced, cwParseElements]
  cases folded : elements.foldlM (fun values element => element.take values) .initial with
  | none =>
    have stopped := parseElements_of_stops RadioElement.take takes_radioElement stops_radioElement
      (elements.flatMap RadioElement.bytes).length 8 elements
      ((elements.flatMap RadioElement.bytes).length + 1) ⟨start, .initial⟩ [] valid ahead le_rfl
      (by simp only [start, Nat.sub_self, Nat.zero_add]) inside folded
    obtain ⟨stop, s', ran⟩ := stopped
    simp only [start] at ran
    simp only [ran]
  | some values =>
    have first := parseElements_of_takes RadioElement.take takes_radioElement
      (elements.flatMap RadioElement.bytes).length 8 elements
      ((elements.flatMap RadioElement.bytes).length + 1) ⟨start, .initial⟩ [] values valid ahead
      le_rfl (by simp only [start, Nat.sub_self, Nat.zero_add]) (by omega) inside folded
    have passed : elements.foldlM (fun (values : ConfigureRequestValues) (_ : RadioElement) =>
        some values) values = some values := foldlM_some elements values
    have second := parseElements_of_takes
      (fun (_ : RadioElement) (values : ConfigureRequestValues) => some values)
      (fun element values values' same => by
        cases same
        exact takes_arrays element values)
      (elements.flatMap RadioElement.bytes).length 8 elements
      ((elements.flatMap RadioElement.bytes).length + 1) ⟨start, values⟩ [] values valid ahead
      le_rfl (by simp only [start, Nat.sub_self, Nat.zero_add]) (by omega) inside passed
    simp only [start] at first second
    have ended := run_expectingEnd (s := ⟨(⟨configureRequest seqNum elements, 8, none⟩ :
      CWProtocolMessage).advance (elements.flatMap RadioElement.bytes).length, values⟩) length.symm
    simp only [first, ended, EStateM.run_modify]
    -- the second loop starts where the first did
    have back : { (⟨configureRequest seqNum elements, 8, none⟩ : CWProtocolMessage).advance
        (elements.flatMap RadioElement.bytes).length with offset := 8 } =
        (⟨configureRequest seqNum elements, 8, none⟩ : CWProtocolMessage) := rfl
    simp only [back, second]
    rfl

end WlanController.Requests
