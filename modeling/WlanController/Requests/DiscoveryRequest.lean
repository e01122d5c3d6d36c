import WlanController.Elements.ElementLayouts
import WlanController.Protocol.TransportHeaderLayout
import WlanController.Requests.RadioEntries

/-!
# Discovery requests

Whoever can reach the AC can send it a discovery request.  The AC takes the elements as they
come, answers, and then frees what the elements have made it allocate.  Its parser trusts
every length it finds, and the function that frees trusts that there were board data and a
descriptor.
-/

namespace WlanController.Requests

open Protocol Radios Elements

def cwMsgTypeValueDiscoveryRequest : Nat := 1

def discoveryTypeType : Nat := 20

def wtpFrameTunnelModeType : Nat := 41

def wtpMACTypeType : Nat := 44

def wtpRadioInformationType : Nat := 1048

/-- `CWDiscoveryRequestValues`, with `none` for what has not been assigned: the caller's
    variable is not initialised. -/
structure DiscoveryRequestValues where
  type : Option Nat
  WTPBoardData : Option (List VendorInfoValues)
  WTPDescriptor : Option CWWTPDescriptor
  frameTunnelMode : Option Nat
  MACType : Option Nat
  numPhyActive : Nat
  /-- The `radioID` and the `phyStandardValue` of each. -/
  singlePhyInfo : List (Nat × Nat)

/-- With the array of entries that the parser allocates before anything else. -/
def DiscoveryRequestValues.initial : DiscoveryRequestValues where
  type := none
  WTPBoardData := none
  WTPDescriptor := none
  frameTunnelMode := none
  MACType := none
  numPhyActive := 0
  singlePhyInfo := List.replicate wtpRadioMax (0, 0)

/-! ## The parser -/

/-- The entry is stored before the length of the element is compared, and counted behind it. -/
def parseDiscoveryRadio (model : DataModel) (elemLen : Nat) : ParserM DiscoveryRequestValues Unit := do
  let index := (← get).values.numPhyActive
  if index < wtpRadioMax then
    if model.EntryFits index then
      parseInto elemLen retrieveRadioInformation fun entry values =>
        { values with singlePhyInfo := values.singlePhyInfo.set index entry }
      assigning fun values => { values with numPhyActive := values.numPhyActive + 1 }
    else throw .overrun
  -- the bytes of the element are left where they are
  else assigning fun values => { values with numPhyActive := values.numPhyActive + 1 }

/-- The `switch` on the type of an element. -/
def parseDiscoveryElement (model : DataModel) (elemType elemLen : Nat) :
    ParserM DiscoveryRequestValues Unit :=
  if elemType = discoveryTypeType then
    parseInto elemLen cwProtocolRetrieve8 fun value values => { values with type := some value }
  else if elemType = wtpBoardDataType then
    parseInto elemLen (do boardDataFields elemLen (← get).offset) fun value values =>
      { values with WTPBoardData := some value }
  else if elemType = wtpDescriptorType then
    parseInto elemLen (do descriptorFields elemLen (← get).offset) fun value values =>
      { values with WTPDescriptor := some value }
  else if elemType = wtpFrameTunnelModeType then
    parseInto elemLen cwProtocolRetrieve8 fun value values =>
      { values with frameTunnelMode := some value }
  else if elemType = wtpMACTypeType then
    parseInto elemLen cwProtocolRetrieve8 fun value values => { values with MACType := some value }
  else if elemType = wtpRadioInformationType then parseDiscoveryRadio model elemLen
  else refusing .invalidFormat (some "Unrecognized Message Element")

/-- The remaining length is an `unsigned short` and may wrap around. -/
def elementsLen (controlVal : CWControlHeaderValues) : Nat :=
  (controlVal.msgElemsLen - .ofNat cwControlHeaderOffsetForMsgElems).toNat

/-- Returns the sequence number. -/
def cwParseDiscoveryRequestMessage (model : DataModel) : ParserM DiscoveryRequestValues UInt8 := do
  reading do
    let _ ← cwParseTransportHeader false none
    return ()
  let controlVal ← reading cwParseControlHeader
  if controlVal.messageTypeValue.toNat ≠ cwMsgTypeValueDiscoveryRequest then
    refusing .invalidFormat (some "Message is not Discovery Request as Expected")
  cwParseElements (parseDiscoveryElement model) (elementsLen controlVal)
  expectingEnd
  return controlVal.seqNum

/-- A received packet, where the caller's variable holds what it happens to hold. -/
def receivedPacket (packet : List UInt8) : Parsing DiscoveryRequestValues where
  message := ⟨packet, 0, none⟩
  values := .initial

/-! ## Freeing -/

/-- What `free` is called with. -/
inductive Freed where
  | valuePtr (infos : List VendorInfoValues) (index : Fin infos.length)
  | vendorInfos (infos : List VendorInfoValues)
  | singlePhyInfo

/-- The values of an array of vendor information, and the array. -/
def freeVendorInfos (infos : List VendorInfoValues) : List Freed :=
  List.ofFn (fun index => .valuePtr infos index) ++ [.vendorInfos infos]

/-- `none` where a count or a pointer is looked at that was not assigned. -/
def cwDestroyDiscoveryRequestValues (values : DiscoveryRequestValues) : Option (List Freed) := do
  let descriptor ← values.WTPDescriptor
  let boardData ← values.WTPBoardData
  return freeVendorInfos descriptor.vendorInfos ++ freeVendorInfos boardData ++
    if values.numPhyActive > 0 then [.singlePhyInfo] else []

/-- Only what was assigned is freed. -/
def FreesAssigned (values : DiscoveryRequestValues) : Prop :=
  (cwDestroyDiscoveryRequestValues values).isSome

/-! ## What becomes of the elements -/

/-- What has been met so far. -/
structure Seen where
  boardData : Bool
  descriptor : Bool
  radios : Nat

def DiscoveryRequestValues.seen (values : DiscoveryRequestValues) : Seen where
  boardData := values.WTPBoardData.isSome
  descriptor := values.WTPDescriptor.isSome
  radios := values.numPhyActive

/-- Five bytes are read for an entry, and none when there are five.  There is room for one. -/
def radioTreatment (elemLen : Nat) (seen : Seen) : Treatment Seen :=
  if seen.radios < wtpRadioMax then
    { reads := 5
      moves := 5
      fits := seen.radios = 0
      accepted := elemLen = 5
      next := if elemLen = 5 then { seen with radios := seen.radios + 1 } else seen }
  else .skipped 0 { seen with radios := seen.radios + 1 }

def discoveryTreatment : Treats Seen := fun bytes offset elemType elemLen seen =>
  if elemType = discoveryTypeType then
    .announced elemLen (.number 1) (fun _ seen => seen) bytes offset seen
  else if elemType = wtpBoardDataType then
    .announced elemLen (boardDataLayout elemLen) (fun _ seen => { seen with boardData := true })
      bytes offset seen
  else if elemType = wtpDescriptorType then
    .announced elemLen (descriptorLayout elemLen) (fun _ seen => { seen with descriptor := true })
      bytes offset seen
  else if elemType = wtpFrameTunnelModeType then
    .announced elemLen (.number 1) (fun _ seen => seen) bytes offset seen
  else if elemType = wtpMACTypeType then
    .announced elemLen (.number 1) (fun _ seen => seen) bytes offset seen
  else if elemType = wtpRadioInformationType then radioTreatment elemLen seen
  else .refused seen

/-! ## The parser does this -/

theorem describes_radio (model : DataModel) (elemLen : Nat) {s : Parsing DiscoveryRequestValues}
    (valid : s.message.Valid) :
    (radioTreatment elemLen s.values.seen).Describes DiscoveryRequestValues.seen s
      ((parseDiscoveryRadio model elemLen).run s) := by
  simp only [parseDiscoveryRadio, EStateM.run_bind, EStateM.run_get, radioTreatment]
  have radios : s.values.seen.radios = s.values.numPhyActive := rfl
  rw [radios]
  by_cases more : s.values.numPhyActive < wtpRadioMax
  case neg =>
    rw [if_neg more, if_neg more]
    exact Treatment.describes_assigning _ rfl valid
  case pos =>
    rw [if_pos more, if_pos more]
    by_cases fits : model.EntryFits s.values.numPhyActive
    case neg =>
      rw [if_neg fits]
      exact Treatment.describes_overrun (mt (model.entryFits_iff _).mpr fits)
    case pos =>
      rw [if_pos fits]
      have stored : (Treatment.announced elemLen radioInformationLayout (fun _ seen => seen)
          s.message.msg s.message.offset s.values.seen).Describes DiscoveryRequestValues.seen s
            ((parseInto elemLen retrieveRadioInformation fun entry values =>
              { values with singlePhyInfo := values.singlePhyInfo.set s.values.numPhyActive entry }).run
                s) :=
        Treatment.describes_parseInto spans_radioInformation elemLen valid fun _ => rfl
      have accepted_iff : elemLen = 5 ↔ (Except.ok (ε := Refusal)
          (numberAt s.message.msg s.message.offset 1,
            numberAt s.message.msg (s.message.offset + 1 + 1 + 1 + 1) 1)).isOk ∧ 5 = elemLen :=
        ⟨fun exact => ⟨rfl, exact.symm⟩, fun both => both.2.symm⟩
      -- the entry is counted where the length was right
      have counted := stored.assigning
        (fun values => { values with numPhyActive := values.numPhyActive + 1 })
        (if elemLen = 5 then { s.values.seen with radios := s.values.numPhyActive + 1 }
          else s.values.seen)
        (fun accepted values known => by
          rw [if_pos (accepted_iff.mpr accepted)]
          change (_ : Seen) = s.values.seen at known
          rw [← radios, ← known]
          rfl)
        (fun refused => by
          rw [if_neg (mt accepted_iff.mp refused)]
          rfl)
      exact counted.congr rfl rfl (iff_of_true ((model.entryFits_iff _).mp fits) trivial) accepted_iff rfl

theorem discovery_conforms (model : DataModel) :
    Conforms (parseDiscoveryElement model) discoveryTreatment
      DiscoveryRequestValues.seen := by
  intro elemType elemLen s valid
  unfold parseDiscoveryElement discoveryTreatment
  split
  · exact Treatment.describes_parseInto spans_retrieve8 elemLen valid fun _ => rfl
  split
  · exact Treatment.describes_parseInto (spans_boardData elemLen) elemLen valid fun _ => rfl
  split
  · exact Treatment.describes_parseInto (spans_descriptor elemLen) elemLen valid fun _ => rfl
  split
  · exact Treatment.describes_parseInto spans_retrieve8 elemLen valid fun _ => rfl
  split
  · exact Treatment.describes_parseInto spans_retrieve8 elemLen valid fun _ => rfl
  split
  · exact describes_radio model elemLen valid
  · exact Treatment.describes_refusing _ _ valid

/-! ## Which packets do no harm -/

/-- The headers in front of the elements. -/
def requestHead : Layout CWControlHeaderValues := do
  transportHeaderLayout
  controlHeaderLayout

def discoveryWalk (packet : List UInt8) (controlVal : CWControlHeaderValues) : Walk Seen where
  bytes := packet
  start := requestHead.size packet 0
  msgElemsLen := elementsLen controlVal
  treat := discoveryTreatment

/-- In front of the elements nothing has been met. -/
def discoveryStart (packet : List UInt8) : Place Seen := ⟨requestHead.size packet 0, ⟨false, false, 0⟩⟩

/-- The packet has a control header of a discovery request. -/
def HeadedBy (packet : List UInt8) (controlVal : CWControlHeaderValues) : Prop :=
  requestHead.value packet 0 = .ok controlVal ∧
    controlVal.messageTypeValue.toNat = cwMsgTypeValueDiscoveryRequest

def Seen.Described (seen : Seen) : Prop := seen.boardData ∧ seen.descriptor

/-- The headers lie inside the packet, and every element that is met, with all that is read for
    it, lies inside as well; there is no second radio. -/
structure StaysInside (packet : List UInt8) : Prop where
  head : requestHead.size packet 0 ≤ packet.length
  elements : ∀ controlVal, HeadedBy packet controlVal →
    (discoveryWalk packet controlVal).Contained (discoveryStart packet)

/-- A request whose last element ends where the packet does has board data and a descriptor. -/
def DescribedIfAccepted (packet : List UInt8) : Prop :=
  ∀ controlVal p, HeadedBy packet controlVal →
    (discoveryWalk packet controlVal).Ends (discoveryStart packet) p → p.offset = packet.length →
      p.state.Described

/-- Board data and a descriptor have been met wherever the parser stops. -/
def DescribedAnyway (packet : List UInt8) : Prop :=
  ∃ controlVal, HeadedBy packet controlVal ∧
    (∀ p, (discoveryWalk packet controlVal).Ends (discoveryStart packet) p → p.state.Described) ∧
      ∀ p, (discoveryWalk packet controlVal).RefusedAt (discoveryStart packet) p →
        ((discoveryWalk packet controlVal).treatment p).next.Described

/-- There is one control header. -/
theorem HeadedBy.same {packet : List UInt8} {controlVal controlVal' : CWControlHeaderValues}
    (headed : HeadedBy packet controlVal')
    (read : requestHead.value packet 0 = .ok controlVal) : controlVal' = controlVal := by
  have same := headed.1
  rw [read] at same
  cases same
  rfl

theorem freesAssigned_iff (values : DiscoveryRequestValues) :
    FreesAssigned values ↔ values.seen.Described := by
  simp only [FreesAssigned, cwDestroyDiscoveryRequestValues, Seen.Described,
    DiscoveryRequestValues.seen]
  cases values.WTPDescriptor <;> cases values.WTPBoardData <;> simp

/-- How the parser ends, with what is asked for where it raises an error. -/
theorem endsWith_discovery (model : DataModel) (packet : List UInt8)
    {refused : DiscoveryRequestValues → Prop} (refused' : Seen → Prop)
    (refuseds : ∀ values, refused values ↔ refused' values.seen) :
    EndsWith (fun _ s => FreesAssigned s.values) refused
        ((cwParseDiscoveryRequestMessage model).run (receivedPacket packet)) ↔
      requestHead.size packet 0 ≤ packet.length ∧
        match requestHead.value packet 0 with
        | .error _ => refused' ⟨false, false, 0⟩
        | .ok controlVal =>
            if controlVal.messageTypeValue.toNat ≠ cwMsgTypeValueDiscoveryRequest then
              refused' ⟨false, false, 0⟩
            else
              (discoveryWalk packet controlVal).Contained (discoveryStart packet) ∧
                (∀ p, (discoveryWalk packet controlVal).Ends (discoveryStart packet) p →
                  if p.offset ≠ packet.length then refused' p.state else p.state.Described) ∧
                  ∀ p, (discoveryWalk packet controlVal).RefusedAt (discoveryStart packet) p →
                    refused' ((discoveryWalk packet controlVal).treatment p).next := by
  have head : Spans (do
      (do let _ ← cwParseTransportHeader false none; return () : MessageM Unit)
      cwParseControlHeader) requestHead :=
    Spans.bind covers_transportHeader fun _ => spans_controlHeader
  have valid : (receivedPacket packet).message.Valid := Nat.zero_le _
  rw [cwParseDiscoveryRequestMessage, ← bind_assoc, ← reading_bind, endsWith_bind]
  rw [endsWith_reading head (fun controlVal =>
    if controlVal.messageTypeValue.toNat ≠ cwMsgTypeValueDiscoveryRequest then
      refused' ⟨false, false, 0⟩
    else
      (discoveryWalk packet controlVal).Contained (discoveryStart packet) ∧
        (∀ p, (discoveryWalk packet controlVal).Ends (discoveryStart packet) p →
          if p.offset ≠ packet.length then refused' p.state else p.state.Described) ∧
          ∀ p, (discoveryWalk packet controlVal).RefusedAt (discoveryStart packet) p →
            refused' ((discoveryWalk packet controlVal).treatment p).next) valid]
  · have start : (receivedPacket packet).message.offset +
        requestHead.span (receivedPacket packet).message = requestHead.size packet 0 :=
      Nat.zero_add _
    rw [start]
    apply and_congr_right
    intro _
    have read : requestHead.value (receivedPacket packet).message.msg
        (receivedPacket packet).message.offset = requestHead.value packet 0 := rfl
    rw [read]
    cases requestHead.value packet 0 with
    | ok controlVal => exact Iff.rfl
    | error refusal => exact refuseds _
  · intro controlVal s' bytes offset values
    have start : s'.message.offset = requestHead.size packet 0 := by
      rw [offset]
      exact Nat.zero_add _
    by_cases other : controlVal.messageTypeValue.toNat ≠ cwMsgTypeValueDiscoveryRequest
    · rw [if_pos other, if_pos other]
      change refused s'.values ↔ _
      rw [values]
      exact refuseds _
    · rw [if_neg other, if_neg other, endsWith_bind]
      apply Walk.endsWith_parseElements discoveryTreatment (discovery_conforms model)
        (elementsLen controlVal) s' ?_ refuseds
      · rw [start, show s'.message.msg = packet from bytes]
        rfl
      · rw [Walk.placeOf, start, values]
        rfl
      · intro s'' bytes'
        have length : s''.message.msg.length = packet.length := by
          rw [bytes', bytes]
          rfl
        rw [endsWith_expectingEnd, length]
        by_cases behind : s''.message.offset ≠ packet.length
        · rw [if_pos behind, if_pos behind]
          exact refuseds s''.values
        · rw [if_neg behind, if_neg behind]
          exact freesAssigned_iff s''.values

/-- Nothing outside the packet and the array is accessed, and the caller, which destroys the
    values of the requests that are accepted, frees only what was assigned. -/
def HandledSafely (model : DataModel) (packet : List UInt8) : Prop :=
  EndsWith (fun _ s => FreesAssigned s.values) (fun _ => True)
    ((cwParseDiscoveryRequestMessage model).run (receivedPacket packet))

/-- The values can be destroyed whether the request is accepted or not. -/
def DestroyedSafely (model : DataModel) (packet : List UInt8) : Prop :=
  EndsWith (fun _ s => FreesAssigned s.values) FreesAssigned
    ((cwParseDiscoveryRequestMessage model).run (receivedPacket packet))

theorem handledSafely_iff (model : DataModel) (packet : List UInt8) :
    HandledSafely model packet ↔ StaysInside packet ∧ DescribedIfAccepted packet := by
  rw [HandledSafely, endsWith_discovery model packet (fun _ => True) fun _ => Iff.rfl]
  cases read : requestHead.value packet 0 with
  | error refusal =>
    have none (controlVal : CWControlHeaderValues) : ¬ HeadedBy packet controlVal := by
      rintro ⟨headed, _⟩
      rw [read] at headed
      cases headed
    constructor
    · rintro ⟨head, _⟩
      exact ⟨⟨head, fun controlVal headed => absurd headed (none controlVal)⟩,
        fun controlVal _ headed => absurd headed (none controlVal)⟩
    · exact fun both => ⟨both.1.head, trivial⟩
  | ok controlVal =>
    dsimp only
    by_cases other : controlVal.messageTypeValue.toNat ≠ cwMsgTypeValueDiscoveryRequest
    case pos =>
      rw [if_pos other]
      have none (controlVal' : CWControlHeaderValues) : ¬ HeadedBy packet controlVal' :=
        fun headed => other (headed.same read ▸ headed.2)
      constructor
      · rintro ⟨head, _⟩
        exact ⟨⟨head, fun controlVal headed => absurd headed (none controlVal)⟩,
          fun controlVal _ headed => absurd headed (none controlVal)⟩
      · exact fun both => ⟨both.1.head, trivial⟩
    case neg =>
      rw [if_neg other]
      constructor
      · rintro ⟨head, contained, ends, _⟩
        refine ⟨⟨head, fun controlVal' headed => ?_⟩, fun controlVal' p headed ended whole => ?_⟩
        · rw [headed.same read]
          exact contained
        · rw [headed.same read] at ended
          have described := ends p ended
          rwa [if_neg (not_not_intro whole)] at described
      · rintro ⟨inside, described⟩
        have headed : HeadedBy packet controlVal := ⟨read, not_not.mp other⟩
        refine ⟨inside.head, inside.elements controlVal headed, fun p ended => ?_, fun _ _ => trivial⟩
        split
        · trivial
        · exact described controlVal p headed ended (not_not.mp ‹_›)

theorem destroyedSafely_iff (model : DataModel) (packet : List UInt8) :
    DestroyedSafely model packet ↔ StaysInside packet ∧ DescribedAnyway packet := by
  have nothing : ¬ (⟨false, false, 0⟩ : Seen).Described := fun described => nomatch described.1
  rw [DestroyedSafely, endsWith_discovery model packet Seen.Described freesAssigned_iff]
  cases read : requestHead.value packet 0 with
  | error refusal =>
    apply iff_of_false
    · exact fun both => nothing both.2
    · rintro ⟨_, controlVal, headed, _⟩
      rw [headed.1] at read
      cases read
  | ok controlVal =>
    dsimp only
    by_cases other : controlVal.messageTypeValue.toNat ≠ cwMsgTypeValueDiscoveryRequest
    case pos =>
      rw [if_pos other]
      apply iff_of_false
      · exact fun both => nothing both.2
      · rintro ⟨_, controlVal', headed, _⟩
        exact other (headed.same read ▸ headed.2)
    case neg =>
      rw [if_neg other]
      constructor
      · rintro ⟨head, contained, ends, refused⟩
        refine ⟨⟨head, fun controlVal' headed => ?_⟩, controlVal, ⟨read, not_not.mp other⟩, ?_, refused⟩
        · rw [headed.same read]
          exact contained
        · intro p ended
          have described := ends p ended
          rwa [ite_self] at described
      · rintro ⟨inside, controlVal', headed, ends, refused⟩
        have contained := inside.elements controlVal' headed
        rw [headed.same read] at contained ends refused
        refine ⟨inside.head, contained, fun p ended => ?_, refused⟩
        rw [ite_self]
        exact ends p ended

/-- The parser stays inside the packet and its array where the elements do.  The caller frees
    only what was assigned where an accepted request has both descriptions; for that to hold
    after a refusal as well, every request has to have both. -/
theorem discovery_safe_iff (model : DataModel) (packet : List UInt8) :
    (DestroyedSafely model packet ↔ StaysInside packet ∧ DescribedAnyway packet) ∧
      (HandledSafely model packet ↔ StaysInside packet ∧ DescribedIfAccepted packet) :=
  ⟨destroyedSafely_iff model packet, handledSafely_iff model packet⟩

/-! ## Packets that do harm -/

/-- A transport header of two words and a control header that announces `announced` bytes from
    the length on. -/
def bareHeaders (announced : UInt8) : List UInt8 :=
  [0, 0x10, 0, 0, 0, 0, 0, 0] ++ [0, 0, 0, 1, 0, 0, announced, 0]

/-- A request without elements, from which nothing has been assigned. -/
theorem run_bareHeaders :
    (cwParseDiscoveryRequestMessage .lp64).run (receivedPacket (bareHeaders 3)) =
      .ok 0 ⟨⟨bareHeaders 3, 16, none⟩, .initial⟩ := rfl

/-- The header of an element is announced and missing. -/
theorem run_missingElement :
    (cwParseDiscoveryRequestMessage .lp64).run (receivedPacket (bareHeaders 4)) =
      .error (.failed (.outOfBounds .receiveBuffer)) ⟨⟨bareHeaders 4, 16, none⟩, .initial⟩ := rfl

def twoRadios : List UInt8 :=
  bareHeaders 21 ++ ([4, 24, 0, 5, 1, 0, 0, 0, 1] ++ [4, 24, 0, 5, 2, 0, 0, 0, 1])

/-- The second entry is stored behind the array. -/
theorem twoRadios_overrun :
    (match (cwParseDiscoveryRequestMessage .lp64).run (receivedPacket twoRadios) with
      | .error .overrun _ => true
      | _ => false) = true := by decide +kernel

/-- No element at all, an element without its header, and two radios. -/
theorem discovery_not_safe :
    ¬ DestroyedSafely .lp64 (bareHeaders 3) ∧ ¬ HandledSafely .lp64 (bareHeaders 3) ∧
      ¬ HandledSafely .lp64 (bareHeaders 4) ∧ ¬ HandledSafely .lp64 twoRadios := by
  unfold DestroyedSafely HandledSafely
  rw [run_bareHeaders, run_missingElement]
  have nothing : ¬ FreesAssigned .initial := nofun
  refine ⟨nothing, nothing, id, ?_⟩
  have overrun := twoRadios_overrun
  split at overrun
  next ran =>
    rw [ran]
    exact id
  next => cases overrun

end WlanController.Requests
