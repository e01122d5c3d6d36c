import WlanController.Radios.StationRequest
import WlanController.WTP.StationTable

/-!
# From the station the AC means to the slot the WTP changes

The WTP adds the radio and the WLAN of a request to the index of a BSS in
`WTPGlobalBSSList`, which it does not compare with the size of the list, and searches the
slots of that BSS for the station.
-/

namespace WlanController.Radios

open Protocol WTP

/-- `WTPGlobalBSSList`, with `none` for `NULL`. -/
abbrev BSSList := List (Option StationTable)

def cwParseControlHeader : MessageM CWControlHeaderValues := do
  let messageTypeValue ← cwProtocolRetrieve32
  let seqNum ← cwProtocolRetrieve8
  let msgElemsLen ← cwProtocolRetrieve16
  let _flags ← cwProtocolRetrieve8
  return ⟨.ofNat messageTypeValue, .ofNat seqNum, .ofNat msgElemsLen⟩

/-- What `CWWTPManageGenericRunMessage` passes on of a control message: the bytes behind the
    header and their announced length. -/
def requestArguments (controlMessage : List UInt8) : Option (List UInt8 × Int) :=
  match cwParseControlHeader.run ⟨controlMessage, 0, none⟩ with
  | .ok controlVal message =>
      if controlVal.messageTypeValue.toNat = stationConfigurationRequest then
        some (message.ahead, controlVal.msgElemsLen.toNat - cwControlHeaderOffsetForMsgElems)
      else none
  | .error _ _ => none

def getBSSIndex (radioID wlanID : Nat) : Nat := radioID + wlanID

inductive StationOutcome where
  /-- `CW_TRUE`, with the slot as the parser leaves it. -/
  | performed (BSSIndex : Nat) (STAIndex : Fin wtpMaxSta) (typeOp : Option StationOperation)
      (staInfo : WTPSTAInfo)
  /-- `CW_FALSE`. -/
  | refused
  /-- An access outside `WTPGlobalBSSList` or through a pointer that was not set. -/
  | outside

/-- `CWCompareEthernetAddress` on the bytes of a request: `none` where it reads behind them. -/
def compareReceived : List UInt8 → List UInt8 → Option Bool
  | [], _ => some true
  | byte :: stored, received =>
      if byte = 0 then compareReceived stored received.tail
      else match received with
        | [] => none
        | byte' :: received =>
            if byte' ≠ 0 ∧ byte ≠ byte' then some false else compareReceived stored received

/-- The loop over the slots. -/
def searchSTA (staList : StationTable) (address : Option (List UInt8)) :
    List (Fin wtpMaxSta) → Option (Option (Fin wtpMaxSta))
  | [] => some none
  | STAIndex :: rest =>
      match (staList STAIndex).address with
      | none => searchSTA staList address rest
      | some stored => do
          let received ← address
          if ← compareReceived stored.bytes received then return some STAIndex
          else searchSTA staList address rest

/-- What a slot gets from the request of the AC. -/
def assignStation (staInfo : WTPSTAInfo) (assID : UInt16) (flags : UInt8) (capability : UInt16)
    (supportedRates : List UInt8) : WTPSTAInfo :=
  { staInfo with
    staAID := assID.toInt16.toInt
    flags := flags.toInt8.toInt
    capabilityBit := capability.toInt16.toInt
    lenSupportedRates := supportedRates.length
    supportedRates := some supportedRates }

/-- The second half of the parser, after the elements. -/
def locateStation (bssList : BSSList) (request : StationRequest) : StationOutcome :=
  if request.radioID < 0 then .refused
  else if request.wlanID < 0 then .refused
  else
    let BSSIndex := getBSSIndex request.radioID.toNat request.wlanID.toNat
    match bssList[BSSIndex]? with
    | none => .outside
    | some none => .refused
    | some (some staList) =>
        match searchSTA staList request.address (List.finRange wtpMaxSta) with
        | none => .outside
        | some none => .refused
        | some (some STAIndex) =>
            if request.typeOp = some .add then
              match request.supportedRates with
              | none => .outside
              | some supportedRates =>
                  .performed BSSIndex STAIndex request.typeOp (assignStation (staList STAIndex)
                    request.assID request.flags request.capability supportedRates)
            else .performed BSSIndex STAIndex request.typeOp (staList STAIndex)

/-- `uninitialized` is what the local variables hold at the start. -/
def cwParseStationConfigurationRequest (bssList : BSSList) (uninitialized : StationRequest)
    (msg : List UInt8) (len : Int) : StationOutcome :=
  match (parseStationRequest len len.toNat uninitialized).run ⟨msg, 0, none⟩ with
  | .ok request _ => locateStation bssList request
  | .error (.raised _ _) _ => .refused
  | .error (.outOfBounds _) _ => .outside

/-- The index that is computed, if the parser comes so far. -/
def computedBSSIndex (uninitialized : StationRequest) (msg : List UInt8) (len : Int) : Option Nat :=
  match (parseStationRequest len len.toNat uninitialized).run ⟨msg, 0, none⟩ with
  | .ok request _ =>
      if request.radioID < 0 ∨ request.wlanID < 0 then none
      else some (getBSSIndex request.radioID.toNat request.wlanID.toNat)
  | .error _ _ => none

/-! ## Parsing what was assembled -/

theorem reads_controlHeader (values : CWControlHeaderValues)
    (small : cwControlHeaderOffsetForMsgElems + values.msgElemsLen.toNat < 65536) :
    Reads cwParseControlHeader (controlHeaderBytes values)
      { values with
        msgElemsLen := .ofNat (cwControlHeaderOffsetForMsgElems + values.msgElemsLen.toNat) }
      none := by
  have same : { values with
      msgElemsLen := .ofNat (cwControlHeaderOffsetForMsgElems + values.msgElemsLen.toNat) } =
      (⟨.ofNat values.messageTypeValue.toNat, .ofNat values.seqNum.toNat,
        .ofNat (cwControlHeaderOffsetForMsgElems + values.msgElemsLen.toNat)⟩ :
          CWControlHeaderValues) := by simp
  rw [same, cwParseControlHeader, controlHeaderBytes]
  exact (reads_retrieve32 values.messageTypeValue.toNat_lt).andThen
    ((reads_retrieve8 values.seqNum.toNat_lt).andThen
      ((reads_retrieve16 small).andThen ((reads_retrieve8 (by omega)).andReturn (reads_pure _))))

theorem parse_ok_iff {uninitialized request : StationRequest} {msg : List UInt8} {len : Int} :
    (∃ after, (parseStationRequest len len.toNat uninitialized).run ⟨msg, 0, none⟩ =
      .ok request after) ↔
      ∃ elements, Consists len elements ⟨msg, 0, none⟩ ∧
        request = elements.foldl StationElement.apply uninitialized := by
  have valid : CWProtocolMessage.Valid ⟨msg, 0, none⟩ := Nat.zero_le _
  have enough : len ≤ ((⟨msg, 0, none⟩ : CWProtocolMessage).offset : Int) + len.toNat := by
    simp only
    omega
  constructor
  · intro ⟨after, ran⟩
    obtain ⟨elements, consists, same, -⟩ := (parseStationRequest_ok_iff valid enough).mp ran
    exact ⟨elements, consists, same⟩
  · intro ⟨elements, consists, same⟩
    exact ⟨_, (parseStationRequest_ok_iff valid enough).mpr ⟨elements, consists, same, rfl⟩⟩

theorem compareReceived_eq (stored received : List UInt8) (same : stored.length = received.length) :
    compareReceived stored received = some ((stored.zip received).all fun pair =>
      pair.1 == 0 || pair.2 == 0 || pair.1 == pair.2) := by
  induction stored generalizing received with
  | nil => rfl
  | cons byte stored inductionHypothesis =>
    cases received with
    | nil => cases same
    | cons byte' received =>
      have rest := inductionHypothesis received (Nat.succ.inj same)
      rw [compareReceived, List.zip_cons_cons, List.all_cons]
      by_cases zero : byte = 0
      · simp [zero, rest]
      · by_cases differs : byte' ≠ 0 ∧ byte ≠ byte'
        · simp [zero, differs]
        · have passes : (byte == 0 || byte' == 0 || byte == byte') = true := by
            simp only [Bool.or_eq_true, beq_iff_eq]
            tauto
          simp [zero, differs, rest, passes]

theorem compareReceived_full (stored received : EthAddr) :
    compareReceived stored.bytes received.bytes = some (agree stored received) := by
  rw [compareReceived_eq _ _ (stored.length_bytes.trans received.length_bytes.symm)]
  congr 1
  rw [Bool.eq_iff_iff, agree_iff]
  simp [List.all_eq_true, or_assoc]

/-- With a whole address the loop finds the first slot that agrees with it. -/
theorem searchSTA_eq (staList : StationTable) (address : EthAddr) (slots : List (Fin wtpMaxSta)) :
    searchSTA staList (some address.bytes) slots =
      some (slots.find? fun STAIndex => (staList.addresses STAIndex).any (agree · address)) := by
  induction slots with
  | nil => rfl
  | cons STAIndex slots inductionHypothesis =>
    rw [searchSTA, List.find?_cons, StationTable.addresses]
    cases (staList STAIndex).address with
    | none => exact inductionHypothesis
    | some stored =>
      simp only [Option.bind_eq_bind, Option.bind_some, compareReceived_full, Option.any_some]
      cases agree stored address with
      | true => rfl
      | false => exact inductionHypothesis

theorem searchSTA_all (staList : StationTable) (address : EthAddr) :
    searchSTA staList (some address.bytes) (List.finRange wtpMaxSta) =
      some (Slots.first staList.addresses (agree · address)) := by
  rw [searchSTA_eq, Slots.first, Fin.find?_eq_find?_finRange]

theorem requestArguments_eq (seqNum : Nat) {msgElems : List CWProtocolMessage}
    (valid : ∀ message ∈ msgElems, message.Valid)
    (short : (msgElems.flatMap CWProtocolMessage.contents).length < 65533) :
    requestArguments (controlMessageBytes seqNum stationConfigurationRequest msgElems []) =
      some (msgElems.flatMap CWProtocolMessage.contents,
        ((msgElems.flatMap CWProtocolMessage.contents).length : Int)) := by
  have length := length_flatMap_contents valid
  have total : msgElemsLength msgElems + msgElemsLength [] =
      (msgElems.flatMap CWProtocolMessage.contents).length := by
    rw [length]
    rfl
  have kept : (UInt16.ofNat (msgElems.flatMap CWProtocolMessage.contents).length).toNat =
      (msgElems.flatMap CWProtocolMessage.contents).length := by
    simp only [UInt16.toNat_ofNat']
    omega
  have bytes : controlMessageBytes seqNum stationConfigurationRequest msgElems [] =
      controlHeaderBytes ⟨.ofNat stationConfigurationRequest, .ofNat seqNum,
        .ofNat (msgElems.flatMap CWProtocolMessage.contents).length⟩ ++
          msgElems.flatMap CWProtocolMessage.contents := by
    rw [controlMessageBytes, total, List.flatMap_nil, List.append_nil]
  generalize msgElems.flatMap CWProtocolMessage.contents = elements at *
  have reads := reads_controlHeader ⟨.ofNat stationConfigurationRequest, .ofNat seqNum,
    .ofNat elements.length⟩ (by
      simp only [kept, cwControlHeaderOffsetForMsgElems]
      omega) ⟨controlMessageBytes seqNum stationConfigurationRequest msgElems [], 0, none⟩ elements
      (by rw [bytes, List.drop_zero])
  have sum : (UInt16.ofNat (cwControlHeaderOffsetForMsgElems + elements.length)).toNat =
      cwControlHeaderOffsetForMsgElems + elements.length := by
    simp only [UInt16.toNat_ofNat', cwControlHeaderOffsetForMsgElems]
    omega
  rw [requestArguments, reads]
  simp only [kept, sum, length_controlHeaderBytes, CWProtocolMessage.ahead]
  rw [if_pos (by simp [stationConfigurationRequest]), bytes, Nat.zero_add,
    ← length_controlHeaderBytes ⟨.ofNat stationConfigurationRequest, .ofNat seqNum,
      .ofNat elements.length⟩, List.drop_left]
  simp

/-- What the WTP has parsed of a request of the AC.  A deletion does not name the WLAN. -/
def sentRequest (uninitialized : StationRequest) (radioID wlanID : Int)
    (associationResponse : CWFrameAssociationResponse) : StationOperation → StationRequest
  | .add =>
      { typeOp := some .add
        radioID := (UInt8.ofInt radioID).toNat
        wlanID := (UInt8.ofInt wlanID).toNat
        address := some associationResponse.DA.bytes
        assID := associationResponse.assID - 49152
        flags := 0
        capability := associationResponse.capabilityBit
        supportedRates := some associationResponse.supportedRates }
  | .delete =>
      { uninitialized with
        typeOp := some .delete
        radioID := (UInt8.ofInt radioID).toNat
        address := some associationResponse.DA.bytes }

theorem foldl_requestElements (uninitialized : StationRequest) (radioID wlanID : Int)
    (associationResponse : CWFrameAssociationResponse) (operation : StationOperation) :
    (requestElements radioID wlanID associationResponse operation).foldl StationElement.apply
        uninitialized =
      sentRequest uninitialized radioID wlanID associationResponse operation := by
  cases operation <;> rfl

/-- The WTP parses the elements of the AC back. -/
theorem parse_requestElements (bssList : BSSList) (uninitialized : StationRequest)
    (radioID wlanID : Int) (associationResponse : CWFrameAssociationResponse)
    (operation : StationOperation) {msg : List UInt8}
    (sent : msg = elementBytes (requestElements radioID wlanID associationResponse operation)) :
    cwParseStationConfigurationRequest bssList uninitialized msg msg.length =
      locateStation bssList
        (sentRequest uninitialized radioID wlanID associationResponse operation) := by
  have consists : Consists msg.length (requestElements radioID wlanID associationResponse operation)
      ⟨msg, 0, none⟩ := by
    refine ⟨requestElements_fit radioID wlanID associationResponse operation, ?_, ?_⟩
    · rw [← sent]
      exact List.prefix_rfl
    · rw [← sent]
      simp
  obtain ⟨after, ran⟩ := parse_ok_iff.mpr ⟨_, consists, rfl⟩
  rw [cwParseStationConfigurationRequest, ran, foldl_requestElements]

/-! ## The station that is found -/

/-- The slot of the station after the operation. -/
def operated (associationResponse : CWFrameAssociationResponse) (staInfo : WTPSTAInfo) :
    StationOperation → WTPSTAInfo
  | .add => assignStation staInfo (associationResponse.assID - 49152) 0
      associationResponse.capabilityBit associationResponse.supportedRates
  | .delete => staInfo

/-- The WLAN that the WTP takes the request to be about. -/
def takenWlanID (uninitialized : StationRequest) (wlanID : Int) : StationOperation → Int
  | .add => (UInt8.ofInt wlanID).toNat
  | .delete => uninitialized.wlanID

theorem locateStation_sentRequest (bssList : BSSList) (uninitialized : StationRequest)
    (radioID wlanID : Int) (associationResponse : CWFrameAssociationResponse)
    (operation : StationOperation) :
    locateStation bssList
        (sentRequest uninitialized radioID wlanID associationResponse operation) =
      if takenWlanID uninitialized wlanID operation < 0 then .refused
      else
        match bssList[getBSSIndex (UInt8.ofInt radioID).toNat
          (takenWlanID uninitialized wlanID operation).toNat]? with
        | none => .outside
        | some none => .refused
        | some (some staList) =>
            match Slots.first staList.addresses (agree · associationResponse.DA) with
            | none => .refused
            | some STAIndex => .performed (getBSSIndex (UInt8.ofInt radioID).toNat
                (takenWlanID uninitialized wlanID operation).toNat) STAIndex (some operation)
                (operated associationResponse (staList STAIndex) operation) := by
  have nonneg : ¬ ((UInt8.ofInt radioID).toNat : Int) < 0 := by omega
  cases operation with
  | add =>
    simp only [locateStation, sentRequest, takenWlanID, nonneg, if_false, searchSTA_all,
      Int.toNat_natCast]
    split
    next => omega
    next =>
      split
      next => rfl
      next => rfl
      next staList _ =>
        cases Slots.first staList.addresses (agree · associationResponse.DA) with
        | none => rfl
        | some STAIndex => rfl
  | delete =>
    by_cases negative : uninitialized.wlanID < 0
    · simp [locateStation, sentRequest, takenWlanID, nonneg, negative]
    · simp only [locateStation, sentRequest, takenWlanID, nonneg, negative, if_false, searchSTA_all,
        Int.toNat_natCast]
      split
      next => rfl
      next => rfl
      next staList _ =>
        cases Slots.first staList.addresses (agree · associationResponse.DA) with
        | none => rfl
        | some STAIndex => rfl

/-- The station is in a slot of the BSS. -/
def Knows (bssList : BSSList) (BSSIndex : Nat) (sa : EthAddr) : Prop :=
  ∃ staList STAIndex, bssList[BSSIndex]? = some (some staList) ∧
    staList.addresses STAIndex = some sa

/-- In the slots of the BSS, the first address that agrees with the station's is its own. -/
def FindsStation (bssList : BSSList) (BSSIndex : Nat) (sa : EthAddr) : Prop :=
  ∃ staList STAIndex, bssList[BSSIndex]? = some (some staList) ∧
    staList.addresses STAIndex = some sa ∧
    ∀ j < STAIndex, ∀ other, staList.addresses j = some other → agree other sa = false

/-- The BSS is in the list, and no address in its slots agrees with the station's. -/
def FindsNothing (bssList : BSSList) (BSSIndex : Nat) (sa : EthAddr) : Prop :=
  BSSIndex < bssList.length ∧ ∀ staList, bssList[BSSIndex]? = some (some staList) →
    ∀ STAIndex other, staList.addresses STAIndex = some other → agree other sa = false

/-- The operation is performed on the station of the BSS with this index, and only if there
    is none it is refused. -/
def Performs (bssList : BSSList) (BSSIndex : Nat)
    (associationResponse : CWFrameAssociationResponse) (operation : StationOperation) :
    StationOutcome → Prop
  | .performed BSSIndex' STAIndex typeOp staInfo =>
      BSSIndex' = BSSIndex ∧ typeOp = some operation ∧
        ∃ staList, bssList[BSSIndex]? = some (some staList) ∧
          staList.addresses STAIndex = some associationResponse.DA ∧
          staInfo = operated associationResponse (staList STAIndex) operation
  | .refused => ¬ Knows bssList BSSIndex associationResponse.DA
  | .outside => False

/-- The request names the index, and the station is found there; or there is no such station,
    and none is found where the request leads. -/
def LeadsTo (bssList : BSSList) (radioID : UInt8) (wlanID : Int) (BSSIndex : Nat) (sa : EthAddr) :
    Prop :=
  0 ≤ wlanID ∧ getBSSIndex radioID.toNat wlanID.toNat = BSSIndex ∧
      FindsStation bssList BSSIndex sa ∨
    ¬ Knows bssList BSSIndex sa ∧
      (wlanID < 0 ∨ FindsNothing bssList (getBSSIndex radioID.toNat wlanID.toNat) sa)

theorem FindsStation.knows {bssList : BSSList} {BSSIndex : Nat} {sa : EthAddr}
    (finds : FindsStation bssList BSSIndex sa) : Knows bssList BSSIndex sa := by
  obtain ⟨staList, STAIndex, here, holds, -⟩ := finds
  exact ⟨staList, STAIndex, here, holds⟩

theorem performs_iff (bssList : BSSList) (uninitialized : StationRequest) (radioID wlanID : Int)
    (associationResponse : CWFrameAssociationResponse) (operation : StationOperation)
    (BSSIndex : Nat) :
    Performs bssList BSSIndex associationResponse operation (locateStation bssList
        (sentRequest uninitialized radioID wlanID associationResponse operation)) ↔
      LeadsTo bssList (UInt8.ofInt radioID) (takenWlanID uninitialized wlanID operation) BSSIndex
        associationResponse.DA := by
  rw [locateStation_sentRequest, LeadsTo]
  generalize takenWlanID uninitialized wlanID operation = taken
  by_cases negative : taken < 0
  · have notNamed : ¬ 0 ≤ taken := by omega
    simp [negative, notNamed, Performs]
  · have named : 0 ≤ taken := by omega
    simp only [negative, if_false, named, true_and, false_or]
    generalize reached_eq : getBSSIndex (UInt8.ofInt radioID).toNat taken.toNat = reached
    cases there : bssList[reached]? with
    | none =>
      have beyond : bssList.length ≤ reached := List.getElem?_eq_none_iff.mp there
      refine iff_of_false id ?_
      intro leads
      cases leads with
      | inl station =>
        obtain ⟨rfl, staList, STAIndex, here, -⟩ := station
        rw [there] at here
        cases here
      | inr nothing => exact absurd nothing.2.1 (by omega)
    | some entry =>
      have inside : reached < bssList.length := by
        by_contra beyond
        rw [List.getElem?_eq_none (by omega)] at there
        cases there
      cases entry with
      | none =>
        have nothing : FindsNothing bssList reached associationResponse.DA := by
          refine ⟨inside, fun staList here => ?_⟩
          rw [there] at here
          cases here
        constructor
        · intro unknown
          exact .inr ⟨unknown, nothing⟩
        · intro leads
          cases leads with
          | inl station =>
            obtain ⟨rfl, staList, STAIndex, here, -⟩ := station
            rw [there] at here
            cases here
          | inr nothing => exact nothing.1
      | some staList =>
        dsimp only
        cases found : Slots.first staList.addresses (agree · associationResponse.DA) with
        | none =>
          have differs := Slots.first_eq_none_iff.mp found
          have nothing : FindsNothing bssList reached associationResponse.DA := by
            refine ⟨inside, fun staList' here => ?_⟩
            rw [there] at here
            cases here
            exact differs
          constructor
          · intro unknown
            exact .inr ⟨unknown, nothing⟩
          · intro leads
            cases leads with
            | inl station =>
              obtain ⟨rfl, staList', STAIndex, here, holds, -⟩ := station
              rw [there] at here
              cases here
              have fails := differs STAIndex associationResponse.DA holds
              rw [agree_refl] at fails
              cases fails
            | inr nothing => exact nothing.1
        | some STAIndex =>
          obtain ⟨⟨other, holds, agrees⟩, earlier⟩ := Slots.first_eq_some_iff.mp found
          constructor
          · intro ⟨same, _, staList', here, holds', _⟩
            subst same
            rw [there] at here
            cases here
            exact .inl ⟨rfl, staList, STAIndex, there, holds', earlier⟩
          · intro leads
            cases leads with
            | inl station =>
              obtain ⟨rfl, staList', STAIndex', here, holds', earlier'⟩ := station
              rw [there] at here
              cases here
              -- both slots are the first that agrees with the station
              have first' : Slots.first staList.addresses (agree · associationResponse.DA) =
                  some STAIndex' :=
                Slots.first_eq_some_iff.mpr ⟨⟨_, holds', agree_refl _⟩, earlier'⟩
              rw [found] at first'
              cases first'
              exact ⟨rfl, rfl, staList, there, holds', rfl⟩
            | inr nothing =>
              have fails := nothing.2.2 staList there STAIndex other holds
              rw [agrees] at fails
              cases fails

/-! ## From one end to the other -/

/-- A request for an interface arrives as the bytes of its elements, and the WTP performs it
    exactly if it leads to the station. -/
theorem sent_performs_iff (bss : SelectedBSS) (associationResponse : CWFrameAssociationResponse)
    (operation : StationOperation) (seqNum : Nat) (bssList : BSSList)
    (uninitialized : StationRequest) :
    ∃ msgElems msg len,
      stationMsgElems bss.radio bss.indexWlan associationResponse operation = .ok msgElems ∧
      requestArguments (controlMessageBytes seqNum stationConfigurationRequest msgElems []) =
        some (msg, len) ∧
      (Performs bssList (getBSSIndex bss.indexRadio bss.indexWlan) associationResponse operation
          (cwParseStationConfigurationRequest bssList uninitialized msg len) ↔
        LeadsTo bssList (UInt8.ofInt bss.radio.radioID)
          (takenWlanID uninitialized (bss.radio.interfaces bss.indexWlan).wlanID operation)
          (getBSSIndex bss.indexRadio bss.indexWlan) associationResponse.DA) := by
  have contents := contents_filledElements bss.radio.radioID
    (bss.radio.interfaces bss.indexWlan).wlanID associationResponse operation
  have arguments := requestArguments_eq seqNum
    (valid_filledElements bss.radio.radioID (bss.radio.interfaces bss.indexWlan).wlanID
      associationResponse operation)
    (by rw [contents]; exact length_requestElements _ _ _ _)
  refine ⟨_, _, _, stationMsgElems_eq _ _ _ _, arguments, ?_⟩
  rw [parse_requestElements bssList uninitialized _ _ _ _ contents, performs_iff]

/-- The index is computed for the requests that are made of elements, from what the last ones
    of them say. -/
theorem computedBSSIndex_eq_some_iff {uninitialized : StationRequest} {msg : List UInt8} {len : Int}
    {BSSIndex : Nat} :
    computedBSSIndex uninitialized msg len = some BSSIndex ↔
      ∃ elements, Consists len elements ⟨msg, 0, none⟩ ∧
        0 ≤ (elements.foldl StationElement.apply uninitialized).radioID ∧
        0 ≤ (elements.foldl StationElement.apply uninitialized).wlanID ∧
        getBSSIndex (elements.foldl StationElement.apply uninitialized).radioID.toNat
          (elements.foldl StationElement.apply uninitialized).wlanID.toNat = BSSIndex := by
  have split : computedBSSIndex uninitialized msg len = some BSSIndex ↔
      ∃ request, (∃ after, (parseStationRequest len len.toNat uninitialized).run ⟨msg, 0, none⟩ =
        .ok request after) ∧ 0 ≤ request.radioID ∧ 0 ≤ request.wlanID ∧
          getBSSIndex request.radioID.toNat request.wlanID.toNat = BSSIndex := by
    rw [computedBSSIndex]
    cases (parseStationRequest len len.toNat uninitialized).run ⟨msg, 0, none⟩ with
    | error failure after => simp
    | ok request after =>
      by_cases negative : request.radioID < 0 ∨ request.wlanID < 0
      · have notBoth : ¬ (0 ≤ request.radioID ∧ 0 ≤ request.wlanID) := by omega
        simp only [if_pos negative, EStateM.Result.ok.injEq]
        refine iff_of_false nofun fun ⟨request', ⟨after', same, _⟩, nonneg, nonneg', _⟩ => ?_
        rw [← same] at nonneg nonneg'
        exact notBoth ⟨nonneg, nonneg'⟩
      · have both : 0 ≤ request.radioID ∧ 0 ≤ request.wlanID := by omega
        simp only [if_neg negative, EStateM.Result.ok.injEq, Option.some.injEq]
        constructor
        · intro same
          exact ⟨request, ⟨after, rfl, rfl⟩, both.1, both.2, same⟩
        · intro ⟨request', ⟨after', same, _⟩, _, _, same'⟩
          rw [same]
          exact same'
  rw [split]
  constructor
  · intro ⟨request, parsed, rest⟩
    obtain ⟨elements, consists, same⟩ := parse_ok_iff.mp parsed
    rw [same] at rest
    exact ⟨elements, consists, rest⟩
  · intro ⟨elements, consists, rest⟩
    exact ⟨_, parse_ok_iff.mpr ⟨elements, consists, rfl⟩, rest⟩

/-- A WTP with one radio, whose WLAN has been added and has reported its BSSID. -/
def oneRadioTable : CWWTPRadiosInfo :=
  ((cwSaveJoinRequestMessage 1 fun _ => 0).modify 0 0 (acUpdateInfoWlanInterface 0)).modify 0 0
    (·.assign (WTP.privateAddr 1))

/-- The association response to a station of that WLAN. -/
def oneStationResponse : CWFrameAssociationResponse where
  DA := ⟨[8, 1, 1, 1, 1, 1], rfl⟩
  BSSID := WTP.privateAddr 1
  seqCtrl := 0
  capabilityBit := 1
  assID := 49153
  supportedRates := [2, 4, 11, 22]
  supportedRatesLen := by decide

/-- The WTP has the station in its first slot. -/
def oneStationList : BSSList :=
  [some (Function.update StationTable.created 0
    { StationTable.created 0 with address := some oneStationResponse.DA })]

/-- Local variables that hold zeros, but for the WLAN. -/
def staleLocals (wlanID : Int) : StationRequest where
  typeOp := none
  radioID := 0
  wlanID := wlanID
  address := none
  assID := 0
  flags := 0
  capability := 0
  supportedRates := none

end WlanController.Radios
