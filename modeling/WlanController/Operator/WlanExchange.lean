import WlanController.Elements.TwoPasses
import WlanController.Operator.WlanCommands

/-!
# What comes of a request for a WLAN

A request to add a WLAN reaches the WTP as the AC has assembled it, and its answer comes back as the
WTP has assembled that.  What is left of an exchange is then what each side does to its table.  A
request to delete a WLAN has no answer.
-/

namespace WlanController.Operator

open Protocol Radios Elements Requests

/-! ## The request at the WTP -/

/-- The record behind an element that deletes a WLAN. -/
def deletedInfo (radioID wlanID : UInt8) (given : ACInterfaceRequestInfo) :
    ACInterfaceRequestInfo :=
  { given with operation := .delWlan, radioID := radioID.toNat, wlanID := wlanID.toNat }

def delWlanBody (radioID wlanID : UInt8) : List UInt8 :=
  BigEndian.encode 1 radioID.toNat ++ BigEndian.encode 1 wlanID.toNat

/-- The elements that the AC puts in a request, one in each. -/
inductive RequestElement where
  | addWlan (radioID : UInt8) (interfaceInfo : Elements.WTPInterfaceInfo)
      (short : (addWlanBody radioID interfaceInfo).length < 65529)
  | delWlan (radioID wlanID : UInt8)

namespace RequestElement

def type : RequestElement → Nat
  | addWlan _ _ _ => ieee80211AddWlanType
  | delWlan _ _ => ieee80211DeleteWlanType

def body : RequestElement → List UInt8
  | addWlan radioID interfaceInfo _ => addWlanBody radioID interfaceInfo
  | delWlan radioID wlanID => delWlanBody radioID wlanID

def bytes (element : RequestElement) : List UInt8 := elementBytes element.type element.body

/-- What the WTP's record holds behind the element. -/
def noted : RequestElement → ACInterfaceRequestInfo → ACInterfaceRequestInfo
  | addWlan radioID interfaceInfo _ => interfaceInfo.added radioID
  | delWlan radioID wlanID => deletedInfo radioID wlanID

theorem type_lt (element : RequestElement) : element.type < 65536 := by
  cases element <;> simp [type, ieee80211AddWlanType, ieee80211DeleteWlanType]

theorem length_body_lt (element : RequestElement) : element.body.length < 65529 := by
  cases element with
  | addWlan radioID interfaceInfo short => exact short
  | delWlan radioID wlanID => simp [body, delWlanBody]

theorem length_bytes (element : RequestElement) :
    element.bytes.length = 4 + element.body.length := by
  simp only [bytes, Elements.elementBytes, List.length_append, BigEndian.length_encode]
  omega

theorem header_le (element : RequestElement) : 4 ≤ element.bytes.length := by
  rw [length_bytes]
  exact Nat.le_add_right _ _

end RequestElement

theorem cwAssembleMsgElemACDelWlan_eq (radioID wlanID : UInt8) :
    cwAssembleMsgElemACDelWlan radioID wlanID =
      .ok (filled (Elements.elementBytes ieee80211DeleteWlanType (delWlanBody radioID wlanID)) 2) := by
  have stores := (stores_store8 radioID.toNat).bind (stores_store8 wlanID.toNat)
  rw [cwAssembleMsgElemACDelWlan, assembleInto_stores stores (by simp), ok_bind]
  exact cwAssembleMsgElem_eq _ _

theorem readsFrom_delWlan (radioID wlanID : UInt8) (given : ACInterfaceRequestInfo) (start : Nat) :
    ReadsFrom start (cwParseACDelWlan given (delWlanBody radioID wlanID).length)
      (delWlanBody radioID wlanID) (deletedInfo radioID wlanID given) := by
  apply ReadsFrom.messageElement _ rfl
  apply ((reads_retrieve8 radioID.toNat_lt).from _).bind
  exact ((reads_retrieve8 wlanID.toNat_lt).from _).map fun wlanID =>
    { given with operation := .delWlan, radioID := radioID.toNat, wlanID }

theorem takes_noted (element : RequestElement) (given : ACInterfaceRequestInfo) :
    Takes parseWlanElement element.bytes given (element.noted given) := by
  apply takes_of_body element.type_lt (Nat.lt_trans element.length_body_lt (by omega))
  intro s rest valid ahead same
  subst same
  cases element with
  | addWlan radioID interfaceInfo short =>
    have ran := run_reading_ok (readsFrom_addWlan radioID interfaceInfo s.values s.message.offset
      s.message rest valid rfl ahead)
    simp only [parseWlanElement, RequestElement.type, RequestElement.body, EStateM.run_bind,
      EStateM.run_get, if_true, ran, assigning, EStateM.run_modify]
    rfl
  | delWlan radioID wlanID =>
    have ran := run_reading_ok (readsFrom_delWlan radioID wlanID s.values s.message.offset
      s.message rest valid rfl ahead)
    have other : ieee80211DeleteWlanType ≠ ieee80211AddWlanType := by
      simp [ieee80211DeleteWlanType, ieee80211AddWlanType]
    simp only [parseWlanElement, RequestElement.type, RequestElement.body, EStateM.run_bind,
      EStateM.run_get, if_neg other, if_true, ran, assigning, EStateM.run_modify]
    rfl

/-- The request is accepted, and the record is that of its element. -/
theorem run_request (seqNum : UInt8) (element : RequestElement) (given : ACInterfaceRequestInfo) :
    ∃ message, (cwParseIEEEConfigurationRequestMessage seqNum.toNat).run
      ⟨⟨controlMessage cwMsgTypeValueWlanConfigurationRequest seqNum element.bytes, 0, none⟩,
        given⟩ = .ok () ⟨message, element.noted given⟩ := by
  have short := element.length_body_lt
  have length := element.length_bytes
  obtain ⟨controlVal, type, sequence, announced, header⟩ := run_controlHeader
    (.ofNat cwMsgTypeValueWlanConfigurationRequest) seqNum element.bytes (by omega)
  have expected : controlVal.messageTypeValue.toNat = cwMsgTypeValueWlanConfigurationRequest := by
    rw [type]
    rfl
  have eight := length_controlHeaderBytes ⟨.ofNat cwMsgTypeValueWlanConfigurationRequest, seqNum,
    .ofNat element.bytes.length⟩
  have read := run_reading_ok (s := ⟨⟨controlMessage cwMsgTypeValueWlanConfigurationRequest seqNum
    element.bytes, 0, none⟩, given⟩) header
  have folded : [element].foldlM (fun values (e : RequestElement) => some (e.noted values)) given =
    some (element.noted given) := rfl
  have loop := run_behindHeader (fun e values values' same => by
    cases same
    exact takes_noted e values) RequestElement.header_le eight [element] folded
  rw [List.flatMap_cons, List.flatMap_nil, List.append_nil] at loop
  have ended := run_expectingEnd (s := ⟨(⟨controlMessage cwMsgTypeValueWlanConfigurationRequest
    seqNum element.bytes, 8, none⟩ : CWProtocolMessage).advance element.bytes.length,
      element.noted given⟩) (by
        rw [advance_offset, controlMessage]
        show _ = (controlHeaderBytes _ ++ _).length
        rw [List.length_append, eight])
  exists (⟨controlMessage cwMsgTypeValueWlanConfigurationRequest seqNum element.bytes, 8, none⟩ :
    CWProtocolMessage).advance element.bytes.length
  rw [cwParseIEEEConfigurationRequestMessage]
  simp only [controlMessage] at read loop ended ⊢
  simp only [EStateM.run_bind, read, expected, sequence, ne_eq, not_true_eq_false, if_false,
    EStateM.run_get, announced, cwParseElements, loop]
  exact ended

/-- What is left of the WTP's part. -/
theorem answerRequest_eq (seqNum : UInt8) (element : RequestElement) (link : Link) :
    answerRequest seqNum
        (controlMessage cwMsgTypeValueWlanConfigurationRequest seqNum element.bytes) link = (do
      let answer ← cwSaveIEEEConfigurationRequestMessage (element.noted default) link
      let elements ← answerElements answer.1 (element.noted default) answer.2
      return (controlMessage cwMsgTypeValueWlanConfigurationResponse seqNum elements, answer.2)) := by
  obtain ⟨message, ran⟩ := run_request seqNum element default
  rw [answerRequest, ran]

/-! ## The answer at the AC -/

/-- The elements that the WTP puts in an answer. -/
inductive AnswerElement where
  | resultCode (code : UInt32)
  | assignedBSSID (radioID : Fin wtpRadioMax) (wlanID : Fin wtpMaxInterfaces) (BSSID : EthAddr)

namespace AnswerElement

def type : AnswerElement → Nat
  | resultCode _ => Vendor.resultCodeType
  | assignedBSSID _ _ _ => ieee80211AssignedWTPBSSIDType

def body : AnswerElement → List UInt8
  | resultCode code => BigEndian.encode 4 code.toNat
  | assignedBSSID radioID wlanID BSSID =>
    BigEndian.encode 1 radioID ++ (BigEndian.encode 1 wlanID ++ BSSID.bytes)

def bytes (element : AnswerElement) : List UInt8 := Elements.elementBytes element.type element.body

/-- The AC's table behind the element. -/
def noted : AnswerElement → Link → Option Link
  | resultCode _, link => some link
  | assignedBSSID radioID wlanID BSSID, link =>
    if radioID < link.radioCount then
      some (link.setAC radioID wlanID { link.radiosInfo radioID wlanID with
        typeInterface := .cwAPMode
        BSSID := some BSSID })
    else none

theorem type_lt (element : AnswerElement) : element.type < 65536 := by
  cases element <;> simp [type, Vendor.resultCodeType, ieee80211AssignedWTPBSSIDType]

theorem length_body_lt (element : AnswerElement) : element.body.length < 16 := by
  cases element with
  | resultCode code => simp [body]
  | assignedBSSID radioID wlanID BSSID => simp [body, BSSID.length_bytes, ethALen]

theorem length_bytes (element : AnswerElement) :
    element.bytes.length = 4 + element.body.length := by
  simp only [bytes, Elements.elementBytes, List.length_append, BigEndian.length_encode]
  omega

theorem header_le (element : AnswerElement) : 4 ≤ element.bytes.length := by
  rw [length_bytes]
  exact Nat.le_add_right _ _

end AnswerElement

theorem readsFrom_assignedBSSID (radioID : Fin wtpRadioMax) (wlanID : Fin wtpMaxInterfaces)
    (BSSID : EthAddr) (start : Nat) :
    ReadsFrom start
      (retrieveAssignedBSSID (AnswerElement.assignedBSSID radioID wlanID BSSID).body.length)
      (AnswerElement.assignedBSSID radioID wlanID BSSID).body
      (radioID.val, wlanID.val, BSSID.bytes) := by
  have read := fun start => readsFrom_rawBytes start BSSID.bytes
  rw [BSSID.length_bytes] at read
  apply ReadsFrom.messageElement _ rfl
  apply ((reads_retrieve8 (Nat.lt_trans radioID.isLt (by decide))).from _).bind
  apply ((reads_retrieve8 (Nat.lt_trans wlanID.isLt (by decide))).from _).bind
  exact (read _).map fun BSSID => (radioID.val, wlanID.val, BSSID)

theorem takes_answer (element : AnswerElement) (link link' : Link)
    (noted : element.noted link = some link') :
    Takes parseAnswerElement element.bytes link link' := by
  apply takes_of_body element.type_lt (Nat.lt_trans element.length_body_lt (by omega))
  intro s rest valid ahead same
  subst same
  cases element with
  | resultCode code =>
    cases noted
    have stored := parseInto_of_readsFrom ((reads_retrieve32 code.toNat_lt).from s.message.offset)
      (fun _ link => link) valid ahead
    simp only [parseAnswerElement, AnswerElement.type, if_true]
    exact stored
  | assignedBSSID radioID wlanID BSSID =>
    obtain ⟨inside, same⟩ := Option.ite_none_right_eq_some.mp noted
    cases same
    have ran := run_reading_ok (readsFrom_assignedBSSID radioID wlanID BSSID s.message.offset
      s.message rest valid rfl ahead)
    have other : ieee80211AssignedWTPBSSIDType ≠ Vendor.resultCodeType := by
      simp [ieee80211AssignedWTPBSSIDType, Vendor.resultCodeType]
    simp only [parseAnswerElement, AnswerElement.type, if_neg other, if_true, EStateM.run_bind, ran,
      EStateM.run_get, assignBSSID, radioID.isLt, wlanID.isLt, inside, BSSID.length_bytes]
    rfl

/-- The answer is accepted, and the table is that behind its elements. -/
theorem takeAnswer_eq (seqNum : UInt8) (elements : List AnswerElement) {link link' : Link}
    (short : (elements.flatMap AnswerElement.bytes).length < 65533)
    (folded : elements.foldlM (fun link e => e.noted link) link = some link') :
    takeAnswer (controlMessage cwMsgTypeValueWlanConfigurationResponse seqNum
      (elements.flatMap AnswerElement.bytes)) link = .ok link' := by
  obtain ⟨controlVal, type, _, announced, header⟩ := run_controlHeader
    (.ofNat cwMsgTypeValueWlanConfigurationResponse) seqNum (elements.flatMap AnswerElement.bytes)
    short
  have expected : controlVal.messageTypeValue.toNat = cwMsgTypeValueWlanConfigurationResponse := by
    rw [type]
    rfl
  have eight := length_controlHeaderBytes ⟨.ofNat cwMsgTypeValueWlanConfigurationResponse, seqNum,
    .ofNat (elements.flatMap AnswerElement.bytes).length⟩
  have read := run_reading_ok (s := ⟨⟨controlMessage cwMsgTypeValueWlanConfigurationResponse seqNum
    (elements.flatMap AnswerElement.bytes), 0, none⟩, link⟩) header
  have loop := run_behindHeader takes_answer AnswerElement.header_le eight elements folded
  rw [takeAnswer, cwParseIEEEConfigurationResponseMessage]
  simp only [controlMessage] at read loop ⊢
  simp only [EStateM.run_bind, read, expected, ne_eq, not_true_eq_false, if_false,
    EStateM.run_get, announced, cwParseElements, loop, advance_offset, Nat.add_sub_cancel_left]
  rfl

/-! ## Exchanges -/

/-- The interface of the WTP once it is an access point for the WLAN in a request. -/
def WTPInterface.started (entry : WTPInterface) (info : ACInterfaceRequestInfo) : WTPInterface :=
  { entry with
    typeInterface := .cwAPMode
    BSSID := some entry.MACaddr
    saved := some info }

section Saving

variable {info : ACInterfaceRequestInfo} {link : Link} {indexRadio : Nat}
  {indexWlan : Fin wtpMaxInterfaces} (adds : info.operation = .addWlan)
  (radio : info.radioID = indexRadio) (wlan : info.wlanID = indexWlan)

include adds radio wlan

theorem save_starts (few : indexRadio < wtpRadioMax) (inside : indexRadio < link.radioCount)
    (free : (link.gRadiosInfo indexRadio indexWlan).typeInterface = .cwSTAMode) :
    cwSaveIEEEConfigurationRequestMessage info link =
      .ok (true, link.setWTP indexRadio indexWlan
        ((link.gRadiosInfo indexRadio indexWlan).started info)) := by
  subst radio
  obtain ⟨_, known⟩ := indexWlan
  cases wlan
  simp only [cwSaveIEEEConfigurationRequestMessage, adds]
  rw [dif_pos ⟨known, few⟩, if_pos inside, if_pos free]
  rfl

/-- A radio that the WTP does not have, or an interface that is an access point already. -/
theorem save_refuses (inside : indexRadio < link.radioCount)
    (refused : wtpRadioMax ≤ indexRadio ∨
      (link.gRadiosInfo indexRadio indexWlan).typeInterface = .cwAPMode) :
    cwSaveIEEEConfigurationRequestMessage info link = .ok (false, link) := by
  subst radio
  obtain ⟨_, known⟩ := indexWlan
  cases wlan
  simp only [cwSaveIEEEConfigurationRequestMessage, adds]
  cases refused with
  | inl many =>
    rw [dif_neg fun both => Nat.not_lt.mpr many both.2]
    rfl
  | inr taken =>
    have notFree : ¬ (link.gRadiosInfo info.radioID ⟨info.wlanID, known⟩).typeInterface =
        .cwSTAMode := by
      rw [taken]
      exact InterfaceType.noConfusion
    by_cases few : info.radioID < wtpRadioMax
    · rw [dif_pos ⟨known, few⟩, if_pos inside, if_neg notFree]
      rfl
    · rw [dif_neg fun both => few both.2]
      rfl

/-- The answer to a WLAN that has been started brings the BSSID. -/
theorem answer_started (few : indexRadio < wtpRadioMax) {BSSID : EthAddr}
    (started : (link.gRadiosInfo indexRadio indexWlan).BSSID = some BSSID) :
    answerElements true info link = .ok ([.resultCode 0, .assignedBSSID ⟨indexRadio, few⟩ indexWlan
      BSSID].flatMap AnswerElement.bytes) := by
  subst radio
  obtain ⟨_, known⟩ := indexWlan
  cases wlan
  simp only [answerElements, adds, and_self, if_true]
  rw [dif_pos ⟨known, few⟩, started]
  simp only [List.flatMap_cons, List.flatMap_nil, List.append_nil]
  rfl

end Saving

/-- The answer to a WLAN that has been refused. -/
theorem answer_refused (info : ACInterfaceRequestInfo) (link : Link) :
    answerElements false info link = .ok ([.resultCode 3].flatMap AnswerElement.bytes) := by
  simp only [answerElements, Bool.false_eq_true, false_and, if_false]
  rfl

/-- The record of a request to add a WLAN, as the WTP has it. -/
def addRequest (link : Link) (indexRadio : Nat) (indexWlan : Fin wtpMaxInterfaces)
    (ssid : List UInt8) : ACInterfaceRequestInfo :=
  (acUpdateInfoWlan (link.radiosInfo indexRadio indexWlan).info indexWlan ssid).added
    (.ofInt indexRadio) default

/-- The link when the AC has noted what it is going to ask for. -/
def Link.asking (link : Link) (indexRadio : Nat) (indexWlan : Fin wtpMaxInterfaces)
    (ssid : List UInt8) : Link :=
  link.setAC indexRadio indexWlan { link.radiosInfo indexRadio indexWlan with
    info := acUpdateInfoWlan (link.radiosInfo indexRadio indexWlan).info indexWlan ssid }

/-- The link when the WTP has started the WLAN and the AC knows its BSSID. -/
def Link.running (link : Link) (indexRadio : Nat) (indexWlan : Fin wtpMaxInterfaces)
    (ssid : List UInt8) : Link :=
  let asking := link.asking indexRadio indexWlan ssid
  (asking.setWTP indexRadio indexWlan ((link.gRadiosInfo indexRadio indexWlan).started
    (addRequest link indexRadio indexWlan ssid))).setAC indexRadio indexWlan
      { asking.radiosInfo indexRadio indexWlan with
        typeInterface := .cwAPMode
        BSSID := some (link.gRadiosInfo indexRadio indexWlan).MACaddr }

section Adding

variable (seqNum : UInt8) {link : Link} {indexRadio : Nat} (indexWlan : Fin wtpMaxInterfaces)
  {ssid : List UInt8}

/-- What is left of an exchange for a WLAN of a radio that the AC has. -/
theorem exchange_addWlan (inside : indexRadio < link.radioCount)
    (short : cwMsgIEEEAddWlanMinLen + ssid.length < 65529) :
    exchange seqNum ⟨.addWlan, indexRadio, indexWlan.val, ssid⟩ link = (do
      let answer ← cwSaveIEEEConfigurationRequestMessage (addRequest link indexRadio indexWlan ssid)
        (link.asking indexRadio indexWlan ssid)
      let elements ← answerElements answer.1 (addRequest link indexRadio indexWlan ssid) answer.2
      takeAnswer (controlMessage cwMsgTypeValueWlanConfigurationResponse seqNum elements)
        answer.2) := by
  let info := acUpdateInfoWlan (link.radiosInfo indexRadio indexWlan).info indexWlan ssid
  have fits : (addWlanBody (.ofInt indexRadio) info).length < 65529 := by
    rw [length_addWlanBody]
    exact short
  have requested : requestElement ⟨.addWlan, indexRadio, indexWlan.val, ssid⟩ link =
      .ok ((RequestElement.addWlan (.ofInt indexRadio) info fits).bytes,
        link.asking indexRadio indexWlan ssid) := by
    have within : 0 ≤ (indexRadio : Int) ∧ (indexRadio : Int) < link.radioCount ∧
        0 ≤ (indexWlan.val : Int) ∧ (indexWlan.val : Int).toNat < wtpMaxInterfaces := by
      have wlan := indexWlan.isLt
      omega
    simp only [requestElement]
    rw [dif_pos within]
    simp only [Int.toNat_natCast, cwAssembleMsgElemACAddWlan_eq, contents_filled]
    rfl
  rw [exchange, requested]
  simp only [ok_bind, answerRequest_eq, bind_assoc, pure_bind]
  rfl

theorem addRequest_radioID (byte : indexRadio < 256) :
    (addRequest link indexRadio indexWlan ssid).radioID = indexRadio := by
  show (UInt8.ofInt indexRadio).toNat = indexRadio
  have kept : ((indexRadio : Int) % 2 ^ 8).toNat = indexRadio := by omega
  rw [UInt8.ofInt, kept]
  exact UInt8.toNat_ofNat_of_lt byte

theorem addRequest_wlanID : (addRequest link indexRadio indexWlan ssid).wlanID = indexWlan := by
  have few : indexWlan.val < 1 := indexWlan.isLt
  show (UInt8.ofInt indexWlan.val).toNat = indexWlan.val
  have kept : ((indexWlan.val : Int) % 2 ^ 8).toNat = indexWlan.val := by omega
  rw [UInt8.ofInt, kept]
  exact UInt8.toNat_ofNat_of_lt (Nat.lt_trans few (by decide))

/-- A WLAN that the WTP starts. -/
theorem exchange_starts (inside : indexRadio < link.radioCount) (few : indexRadio < wtpRadioMax)
    (short : cwMsgIEEEAddWlanMinLen + ssid.length < 65529)
    (free : (link.gRadiosInfo indexRadio indexWlan).typeInterface = .cwSTAMode) :
    exchange seqNum ⟨.addWlan, indexRadio, indexWlan.val, ssid⟩ link =
      .ok (link.running indexRadio indexWlan ssid) := by
  let request := addRequest link indexRadio indexWlan ssid
  let entry := (link.gRadiosInfo indexRadio indexWlan).started request
  let started := (link.asking indexRadio indexWlan ssid).setWTP indexRadio indexWlan entry
  have radio : request.radioID = indexRadio :=
    addRequest_radioID indexWlan (Nat.lt_trans few (by decide))
  have saved : cwSaveIEEEConfigurationRequestMessage request (link.asking indexRadio indexWlan ssid) =
      .ok (true, started) :=
    save_starts rfl radio (addRequest_wlanID indexWlan) few inside free
  have answered : answerElements true request started = .ok ([.resultCode 0,
      .assignedBSSID ⟨indexRadio, few⟩ indexWlan
        (link.gRadiosInfo indexRadio indexWlan).MACaddr].flatMap AnswerElement.bytes) := by
    apply answer_started rfl radio (addRequest_wlanID indexWlan) few
    simp [started, Link.setWTP, entry, WTPInterface.started]
  rw [exchange_addWlan seqNum indexWlan inside short, saved]
  simp only [ok_bind]
  rw [answered]
  have noted : [AnswerElement.resultCode 0, .assignedBSSID ⟨indexRadio, few⟩ indexWlan
      (link.gRadiosInfo indexRadio indexWlan).MACaddr].foldlM (fun link e => e.noted link) started =
      some (link.running indexRadio indexWlan ssid) := by
    simp only [List.foldlM_cons, List.foldlM_nil, AnswerElement.noted, Option.bind_eq_bind,
      Option.bind_some]
    rw [if_pos (show indexRadio < started.radioCount from inside)]
    rfl
  exact takeAnswer_eq seqNum _ (by simp [AnswerElement.length_bytes, AnswerElement.body,
    EthAddr.length_bytes, ethALen]) noted

/-- A WLAN that the WTP refuses: the AC has noted it. -/
theorem exchange_refused (inside : indexRadio < link.radioCount) (byte : indexRadio < 256)
    (short : cwMsgIEEEAddWlanMinLen + ssid.length < 65529)
    (refused : wtpRadioMax ≤ indexRadio ∨
      (link.gRadiosInfo indexRadio indexWlan).typeInterface = .cwAPMode) :
    exchange seqNum ⟨.addWlan, indexRadio, indexWlan.val, ssid⟩ link =
      .ok (link.asking indexRadio indexWlan ssid) := by
  have saved : cwSaveIEEEConfigurationRequestMessage (addRequest link indexRadio indexWlan ssid)
      (link.asking indexRadio indexWlan ssid) = .ok (false, link.asking indexRadio indexWlan ssid) :=
    save_refuses rfl (addRequest_radioID indexWlan byte) (addRequest_wlanID indexWlan) inside refused
  rw [exchange_addWlan seqNum indexWlan inside short, saved]
  simp only [ok_bind, answer_refused]
  exact takeAnswer_eq seqNum [.resultCode 3] (by simp [AnswerElement.length_bytes, AnswerElement.body]) rfl

end Adding

/-- A request to delete a WLAN is the last thing that the WTP does. -/
theorem exchange_delWlan (seqNum : UInt8) (radioID wlanID : Int) (ssid : List UInt8) (link : Link) :
    exchange seqNum ⟨.delWlan, radioID, wlanID, ssid⟩ link = .error .hangs := by
  have requested : requestElement ⟨.delWlan, radioID, wlanID, ssid⟩ link =
      .ok ((RequestElement.delWlan (.ofInt radioID) (.ofInt wlanID)).bytes, link) := by
    simp only [requestElement, cwAssembleMsgElemACDelWlan_eq, contents_filled]
    rfl
  rw [exchange, requested]
  simp only [ok_bind, answerRequest_eq]
  rfl

end WlanController.Operator
