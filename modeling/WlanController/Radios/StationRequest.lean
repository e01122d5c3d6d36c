import WlanController.Protocol.Acceptance
import WlanController.Radios.StationMessage

/-!
# Parsing a station configuration request

The WTP goes through the message elements of a request and keeps what the last one of each
kind says.  The local variables it keeps this in are not initialised, so what no element sets
is whatever was there before.
-/

namespace WlanController.Radios

open Protocol

/-- The local variables of the parser and the operation of its caller. -/
structure StationRequest where
  typeOp : Option StationOperation
  radioID : Int
  wlanID : Int
  address : Option (List UInt8)
  assID : UInt16
  flags : UInt8
  capability : UInt16
  supportedRates : Option (List UInt8)

/-- `CWParseAddStation` and `CWParseDeleteStation`. -/
def parseStationElement (operation : StationOperation) (elemLen : Nat) (request : StationRequest) :
    MessageM StationRequest :=
  cwParseMessageElement elemLen do
    let radioID ← cwProtocolRetrieve8
    let length ← cwProtocolRetrieve8
    let address ← cwProtocolRetrieveRawBytes length
    return { request with typeOp := some operation, radioID, address := some address }

def cwParse80211Station (elemLen : Nat) (request : StationRequest) : MessageM StationRequest :=
  cwParseMessageElement elemLen do
    let radioID ← cwProtocolRetrieve8
    let assID ← cwProtocolRetrieve16
    let flags ← cwProtocolRetrieve8
    let address ← cwProtocolRetrieveRawBytes ethALen
    let capability ← cwProtocolRetrieve16
    let wlanID ← cwProtocolRetrieve8
    let supportedRatesLen : Int := elemLen - cwMsgIEEEStationLen
    -- `calloc` is asked for `supportedRatesLen + 1` bytes
    if supportedRatesLen + 1 < 0 then cwErrorRaise .outOfMemory none
    -- nothing can be allocated for `-1` bytes, and they are copied all the same
    else if supportedRatesLen < 0 then throw (.outOfBounds .receiveBuffer)
    else
      let supportedRates ← cwProtocolRetrieveRawBytes supportedRatesLen.toNat
      return { request with
        radioID, wlanID, address := some address, assID := .ofNat assID, flags := .ofNat flags,
        capability := .ofNat capability, supportedRates := some supportedRates }

/-- The `switch` on the type of an element. -/
def parseElement (elemType elemLen : Nat) (request : StationRequest) : MessageM StationRequest :=
  if elemType = StationOperation.add.elementType then parseStationElement .add elemLen request
  else if elemType = ieee80211StationType then cwParse80211Station elemLen request
  else if elemType = StationOperation.delete.elementType then
    parseStationElement .delete elemLen request
  else cwErrorRaise .invalidFormat (some "Unrecognized Message Element")

/-- An element with its header. -/
def parseRound (request : StationRequest) : MessageM StationRequest := do
  let elemType ← cwProtocolRetrieve16
  let elemLen ← cwProtocolRetrieve16
  parseElement elemType elemLen request

/-- The loop.  Every round moves on, so there are no more rounds than bytes. -/
def parseElements (len : Int) : (rounds : Nat) → StationRequest → MessageM StationRequest
  | 0, request => return request
  | rounds + 1, request => do
    if (← get).offset < len then
      let request ← parseRound request
      parseElements len rounds request
    else return request

/-- The loop and the check behind it. -/
def parseStationRequest (len : Int) (rounds : Nat) (request : StationRequest) :
    MessageM StationRequest := do
  let request ← parseElements len rounds request
  if (← get).offset ≠ len then
    cwErrorRaise .invalidFormat (some "Garbage at the End of the Message")
  return request

/-! ## The elements a request is made of -/

/-- What an element sets. -/
def StationElement.apply (request : StationRequest) : StationElement → StationRequest
  | station operation radioID address =>
      { request with
        typeOp := some operation
        radioID := radioID.toNat
        address := some address }
  | ieee80211Station radioID assID flags address capability wlanID supportedRates =>
      { request with
        radioID := radioID.toNat
        wlanID := wlanID.toNat
        address := some address.bytes
        assID, flags, capability
        supportedRates := some supportedRates }

theorem accepts_stationElement (operation : StationOperation) (elemLen : Nat)
    (request : StationRequest) :
    Accepts (parseStationElement operation elemLen request) fun word request' =>
      word.length = elemLen ∧ ∃ radioID address,
        (StationElement.station operation radioID address).Fits ∧
          word = (StationElement.station operation radioID address).body ∧
          request' = (StationElement.station operation radioID address).apply request := by
  refine ((accepts_retrieve8.bind fun radioID => accepts_retrieve8.bind fun length =>
    (accepts_rawBytes length).bind fun address => accepts_pure _).messageElement elemLen).congr ?_
  intro word request'
  refine and_congr_right fun _ => ?_
  constructor
  · intro accepted
    obtain ⟨_, _, _, same, ⟨radioID, rfl, rfl⟩, _, _, _, rfl, ⟨length, rfl, rfl⟩, _, address, _, rfl,
      ⟨exact, rfl⟩, rfl, same'⟩ := accepted
    have size : UInt8.ofNat address.length = length := by rw [exact, UInt8.ofNat_toNat]
    refine ⟨radioID, address, ?_, ?_, same'⟩
    · have small := length.toNat_lt
      simp only [StationElement.Fits]
      omega
    · rw [same]
      simp [StationElement.body, size]
  · rintro ⟨radioID, address, fits, same, same'⟩
    have size : (UInt8.ofNat address.length).toNat = address.length := by
      simp only [StationElement.Fits] at fits
      rw [UInt8.toNat_ofNat', Nat.mod_eq_of_lt fits]
    refine ⟨[radioID], _, UInt8.ofNat address.length :: address, same, ⟨radioID, rfl, rfl⟩,
      [UInt8.ofNat address.length], _, address, rfl, ⟨_, rfl, rfl⟩, address, address, [],
      (List.append_nil _).symm, ⟨size.symm, rfl⟩, rfl, same'⟩

/-- The bytes behind the fields of an IEEE 802.11 station. -/
theorem accepts_supportedRates (elemLen : Nat) (build : List UInt8 → StationRequest) :
    Accepts (
      if (elemLen : Int) - cwMsgIEEEStationLen + 1 < 0 then cwErrorRaise .outOfMemory none
      else if (elemLen : Int) - cwMsgIEEEStationLen < 0 then throw (.outOfBounds .receiveBuffer)
      else do
        let supportedRates ← cwProtocolRetrieveRawBytes ((elemLen : Int) - cwMsgIEEEStationLen).toNat
        return build supportedRates)
      fun word request' =>
        elemLen = cwMsgIEEEStationLen + word.length ∧ request' = build word := by
  refine (Accepts.ite (fun _ => accepts_errorRaise _ _) fun _ =>
    Accepts.ite (fun _ => accepts_error _) fun _ =>
      (accepts_rawBytes _).bind fun supportedRates => accepts_pure _).congr ?_
  intro word request'
  constructor
  · intro accepted
    obtain ⟨_, impossible⟩ | ⟨_, ⟨_, impossible⟩ | ⟨enough, _, _, _, same, ⟨length, rfl⟩, rfl, rfl⟩⟩ :=
      accepted
    · exact impossible.elim
    · exact impossible.elim
    · rw [List.append_nil] at same
      subst same
      exact ⟨by omega, rfl⟩
  · rintro ⟨length, same⟩
    refine .inr ⟨by omega, .inr ⟨by omega, word, word, [], (List.append_nil word).symm,
      ⟨by omega, rfl⟩, rfl, same⟩⟩

theorem accepts_ieee80211Station (elemLen : Nat) (bounded : elemLen < 65536)
    (request : StationRequest) :
    Accepts (cwParse80211Station elemLen request) fun word request' =>
      word.length = elemLen ∧ ∃ radioID assID flags address capability wlanID supportedRates,
        (StationElement.ieee80211Station radioID assID flags address capability wlanID
          supportedRates).Fits ∧
          word = (StationElement.ieee80211Station radioID assID flags address capability wlanID
            supportedRates).body ∧
          request' = (StationElement.ieee80211Station radioID assID flags address capability wlanID
            supportedRates).apply request := by
  refine ((accepts_retrieve8.bind fun radioID => accepts_retrieve16.bind fun assID =>
    accepts_retrieve8.bind fun flags => (accepts_rawBytes ethALen).bind fun address =>
      accepts_retrieve16.bind fun capability => accepts_retrieve8.bind fun wlanID =>
        accepts_supportedRates elemLen _).messageElement elemLen).congr ?_
  intro word request'
  refine and_congr_right fun length => ?_
  constructor
  · intro accepted
    obtain ⟨_, _, _, same, ⟨radioID, rfl, rfl⟩, _, _, _, rfl, ⟨assID, rfl, rfl⟩,
      _, _, _, rfl, ⟨flags, rfl, rfl⟩, _, address, _, rfl, ⟨exact, rfl⟩,
      _, _, _, rfl, ⟨capability, rfl, rfl⟩, _, _, supportedRates, rfl, ⟨wlanID, rfl, rfl⟩, size, same'⟩ :=
        accepted
    refine ⟨radioID, assID, flags, ⟨address, exact⟩, capability, wlanID, supportedRates, ?_, ?_, ?_⟩
    · simp only [StationElement.Fits]
      omega
    · rw [same]
      simp [StationElement.body]
    · rw [same']
      simp [StationElement.apply]
  · rintro ⟨radioID, assID, flags, address, capability, wlanID, supportedRates, fits, same, same'⟩
    have size : elemLen = cwMsgIEEEStationLen + supportedRates.length := by
      rw [← length, same]
      simp only [StationElement.body, List.length_cons, List.length_append,
        BigEndian.length_encode, EthAddr.length_bytes, ethALen, cwMsgIEEEStationLen]
      omega
    refine ⟨[radioID], _, _, same, ⟨radioID, rfl, rfl⟩, _, _, _, rfl, ⟨assID, rfl, rfl⟩,
      [flags], _, _, rfl, ⟨flags, rfl, rfl⟩, address.bytes, _, _, rfl,
      ⟨address.length_bytes, rfl⟩, _, _, _, rfl, ⟨capability, rfl, rfl⟩, [wlanID], _,
      supportedRates, rfl, ⟨wlanID, rfl, rfl⟩, size, ?_⟩
    rw [same']
    simp [StationElement.apply]

theorem accepts_parseElement (elemType elemLen : Nat) (bounded : elemLen < 65536)
    (request : StationRequest) :
    Accepts (parseElement elemType elemLen request) fun word request' =>
      word.length = elemLen ∧ ∃ element : StationElement, element.type = elemType ∧ element.Fits ∧
        word = element.body ∧ request' = element.apply request := by
  by_cases add : elemType = StationOperation.add.elementType
  · rw [parseElement, if_pos add]
    refine (accepts_stationElement .add elemLen request).congr fun word request' => ?_
    refine and_congr_right fun _ => ?_
    constructor
    · rintro ⟨radioID, address, fits, same, same'⟩
      exact ⟨.station .add radioID address, add.symm, fits, same, same'⟩
    · rintro ⟨element, type, fits, same, same'⟩
      subst add
      cases element with
      | station operation radioID address =>
        cases operation with
        | add => exact ⟨radioID, address, fits, same, same'⟩
        | delete => cases type
      | ieee80211Station => cases type
  · by_cases ieee80211 : elemType = ieee80211StationType
    · rw [parseElement, if_neg add, if_pos ieee80211]
      refine (accepts_ieee80211Station elemLen bounded request).congr fun word request' => ?_
      refine and_congr_right fun _ => ?_
      constructor
      · rintro ⟨radioID, assID, flags, address, capability, wlanID, supportedRates, rest⟩
        exact ⟨.ieee80211Station radioID assID flags address capability wlanID supportedRates,
          ieee80211.symm, rest⟩
      · rintro ⟨element, type, rest⟩
        cases element with
        | station operation =>
          rw [ieee80211] at type
          cases operation <;> cases type
        | ieee80211Station radioID assID flags address capability wlanID supportedRates =>
          exact ⟨radioID, assID, flags, address, capability, wlanID, supportedRates, rest⟩
    · by_cases delete : elemType = StationOperation.delete.elementType
      · rw [parseElement, if_neg add, if_neg ieee80211, if_pos delete]
        refine (accepts_stationElement .delete elemLen request).congr fun word request' => ?_
        refine and_congr_right fun _ => ?_
        constructor
        · rintro ⟨radioID, address, fits, same, same'⟩
          exact ⟨.station .delete radioID address, delete.symm, fits, same, same'⟩
        · rintro ⟨element, type, fits, same, same'⟩
          subst delete
          cases element with
          | station operation radioID address =>
            cases operation with
            | add => cases type
            | delete => exact ⟨radioID, address, fits, same, same'⟩
          | ieee80211Station => cases type
      · rw [parseElement, if_neg add, if_neg ieee80211, if_neg delete]
        refine (accepts_errorRaise _ _).congr fun word request' => ?_
        refine iff_of_false id ?_
        rintro ⟨_, element, type, _⟩
        cases element with
        | station operation =>
          cases operation with
          | add => exact add type.symm
          | delete => exact delete type.symm
        | ieee80211Station => exact ieee80211 type.symm

/-- A round takes one element, whatever it is. -/
theorem accepts_parseRound (request : StationRequest) :
    Accepts (parseRound request) fun word request' =>
      ∃ element : StationElement, element.Fits ∧ word = element.bytes ∧
        request' = element.apply request := by
  refine (accepts_retrieve16.bind fun elemType => accepts_retrieve16.bindOf
    fun _ elemLen number => accepts_parseElement elemType elemLen ?_ request).congr ?_
  · obtain ⟨number, _, rfl⟩ := number
    exact number.toNat_lt
  intro word request'
  constructor
  · intro accepted
    obtain ⟨_, _, _, same, ⟨elemType, rfl, rfl⟩, _, _, _, rfl, ⟨elemLen, rfl, rfl⟩, length,
      element, type, fits, rfl, same'⟩ := accepted
    refine ⟨element, fits, ?_, same'⟩
    rw [same, StationElement.bytes, type, length]
  · rintro ⟨element, fits, same, same'⟩
    have small := element.length_body_lt fits
    have type : (UInt16.ofNat element.type).toNat = element.type := by
      have small := element.type_lt
      simp only [UInt16.toNat_ofNat']
      omega
    have length : (UInt16.ofNat element.body.length).toNat = element.body.length := by
      simp only [UInt16.toNat_ofNat']
      omega
    exact ⟨_, _, _, same, ⟨UInt16.ofNat element.type, by rw [type], rfl⟩, _, _, _, rfl,
      ⟨UInt16.ofNat element.body.length, by rw [length], rfl⟩, length.symm, element, type.symm, fits,
      rfl, same'⟩

/-! ## The loop -/

/-- The bytes of a list of elements. -/
def elementBytes (elements : List StationElement) : List UInt8 :=
  elements.flatMap StationElement.bytes

@[simp] theorem elementBytes_nil : elementBytes [] = [] := rfl

@[simp] theorem elementBytes_cons (element : StationElement) (elements : List StationElement) :
    elementBytes (element :: elements) = element.bytes ++ elementBytes elements := rfl

theorem elementBytes_eq_nil {elements : List StationElement}
    (empty : (elementBytes elements).length = 0) : elements = [] := by
  cases elements with
  | nil => rfl
  | cons element elements =>
    rw [elementBytes_cons, List.length_append, element.length_bytes] at empty
    omega

/-- `elements` stand between the cursor and offset `len`. -/
structure Consists (len : Int) (elements : List StationElement) (message : CWProtocolMessage) :
    Prop where
  fits : ∀ element ∈ elements, element.Fits
  here : elementBytes elements <+: message.ahead
  ends : (message.offset : Int) + (elementBytes elements).length = len

theorem consists_nil_iff {len : Int} {message : CWProtocolMessage} :
    Consists len [] message ↔ (message.offset : Int) = len := by
  constructor
  · intro consists
    simpa using consists.ends
  · intro same
    exact ⟨fun _ member => (nomatch member), List.nil_prefix, by simpa using same⟩

theorem consists_cons_iff {len : Int} {message : CWProtocolMessage} {element : StationElement}
    {elements : List StationElement} :
    Consists len (element :: elements) message ↔ element.Fits ∧ element.bytes <+: message.ahead ∧
      Consists len elements (message.advance element.bytes.length) := by
  constructor
  · rintro ⟨fits, here, ends⟩
    rw [elementBytes_cons] at here ends
    obtain ⟨first, rest⟩ := prefix_append_iff.mp here
    rw [List.forall_mem_cons] at fits
    refine ⟨fits.1, first, fits.2, ?_, ?_⟩
    · rw [ahead_advance]
      exact rest
    · rw [List.length_append] at ends
      rw [advance_offset]
      omega
  · rintro ⟨fits, first, fits', rest, ends⟩
    rw [ahead_advance] at rest
    refine ⟨List.forall_mem_cons.mpr ⟨fits, fits'⟩, prefix_append_iff.mpr ⟨first, rest⟩, ?_⟩
    rw [advance_offset] at ends
    rw [elementBytes_cons, List.length_append]
    omega

/-- At the end of the elements the check passes. -/
theorem parseStationRequest_at_end {len : Int} {rounds : Nat} {request request' : StationRequest}
    {message after : CWProtocolMessage} (ended : len ≤ message.offset) :
    (parseStationRequest len rounds request).run message = .ok request' after ↔
      ∃ elements, Consists len elements message ∧ request' = elements.foldl StationElement.apply request ∧
        after = message.advance (elementBytes elements).length := by
  have loop : (parseElements len rounds request).run message = .ok request message := by
    cases rounds with
    | zero => rfl
    | succ rounds => simp [parseElements, EStateM.run_bind, Int.not_lt.mpr ended]
  have checked : (parseStationRequest len rounds request).run message = .ok request' after ↔
      (message.offset : Int) = len ∧ request = request' ∧ message = after := by
    simp only [parseStationRequest, EStateM.run_bind, loop, EStateM.run_get]
    split
    next different =>
      refine iff_of_false (fun ran => ?_) (fun same => different same.1)
      cases ran
    next same =>
      rw [not_not] at same
      simp [same]
  rw [checked]
  constructor
  · rintro ⟨exact, same, same'⟩
    exact ⟨[], consists_nil_iff.mpr exact, same.symm, same'.symm⟩
  · rintro ⟨elements, consists, same, same'⟩
    have empty : elements = [] := by
      apply elementBytes_eq_nil
      have ends := consists.ends
      omega
    subst empty
    exact ⟨consists_nil_iff.mp consists, same.symm, same'.symm⟩

/-- The parser returns exactly if the request is made of elements, and what it returns is
    what they set one after the other. -/
theorem parseStationRequest_ok_iff {len : Int} {rounds : Nat} {request request' : StationRequest}
    {message after : CWProtocolMessage} (valid : message.Valid)
    (enough : len ≤ message.offset + rounds) :
    (parseStationRequest len rounds request).run message = .ok request' after ↔
      ∃ elements, Consists len elements message ∧ request' = elements.foldl StationElement.apply request ∧
        after = message.advance (elementBytes elements).length := by
  induction rounds generalizing message request with
  | zero => exact parseStationRequest_at_end (by omega)
  | succ rounds inductionHypothesis =>
    by_cases ended : len ≤ message.offset
    · exact parseStationRequest_at_end ended
    · have more : (message.offset : Int) < len := by omega
      have round : (parseStationRequest len (rounds + 1) request).run message = .ok request' after ↔
          ∃ next middle, (parseRound request).run message = .ok next middle ∧
            (parseStationRequest len rounds next).run middle = .ok request' after := by
        simp only [parseStationRequest, parseElements, EStateM.run_bind, EStateM.run_get,
          if_pos more]
        cases (parseRound request).run message with
        | ok next middle => simp
        | error failure middle => simp
      rw [round]
      constructor
      · rintro ⟨next, middle, ran, ran'⟩
        obtain ⟨word, here, ⟨element, fits, same, same'⟩, moved⟩ :=
          (accepts_parseRound request message valid next middle).mp ran
        subst same same' moved
        have enough' : len ≤ (message.advance element.bytes.length).offset + rounds := by
          rw [advance_offset, element.length_bytes]
          omega
        obtain ⟨elements, consists, same, same'⟩ :=
          (inductionHypothesis (valid.advance here) enough').mp ran'
        refine ⟨element :: elements, consists_cons_iff.mpr ⟨fits, here, consists⟩, same, ?_⟩
        rw [same', advance_advance, elementBytes_cons, List.length_append]
      · rintro ⟨elements, consists, same, same'⟩
        cases elements with
        | nil => exact absurd (consists_nil_iff.mp consists) more.ne
        | cons element elements =>
          obtain ⟨fits, here, consists⟩ := consists_cons_iff.mp consists
          have enough' : len ≤ (message.advance element.bytes.length).offset + rounds := by
            rw [advance_offset, element.length_bytes]
            omega
          refine ⟨element.apply request, message.advance element.bytes.length,
            (accepts_parseRound request message valid _ _).mpr
              ⟨_, here, ⟨element, fits, rfl, rfl⟩, rfl⟩, ?_⟩
          refine (inductionHypothesis (valid.advance here) enough').mpr ⟨elements, consists, same, ?_⟩
          rw [same', advance_advance, elementBytes_cons, List.length_append]

end WlanController.Radios
