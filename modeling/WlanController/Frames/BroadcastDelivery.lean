import Mathlib.Data.List.Perm.Basic
import WlanController.Frames.Broadcast
import WlanController.Protocol.PacketBytes

/-!
# The calls for a broadcast

The three loops are one loop over what they come to.  As long as every WLAN is served the variables
hold what belongs to its session; at the first one that is not, the loops are left or a call is made
that is due to nobody.
-/

namespace WlanController.Frames

open Admission Protocol Radios Stations

/-! ## One loop -/

section Loops

variable {m : Type → Type} [Monad m] [LawfulMonad m] {α β : Type}

theorem forM_flatMap (elements : List α) (f : α → List β) (action : β → m PUnit) :
    (elements.flatMap f).forM action = elements.forM fun a => (f a).forM action := by
  induction elements with
  | nil => rfl
  | cons a elements inductionHypothesis =>
    show forM (f a ++ elements.flatMap f) action = _
    rw [List.forM_append]
    exact congrArg (fun rest => do forM (f a) action; rest) inductionHypothesis

theorem forM_filterMap (elements : List α) (f : α → Option β) (action : β → m PUnit) :
    (elements.filterMap f).forM action = elements.forM fun a =>
      match f a with
      | some b => action b
      | none => pure () := by
  induction elements with
  | nil => rfl
  | cons a elements inductionHypothesis =>
    cases known : f a with
    | none =>
      rw [List.filterMap_cons_none known, inductionHypothesis]
      show _ = (do (match f a with | some b => action b | none => pure ()); _)
      rw [known, pure_bind]
    | some b =>
      rw [List.filterMap_cons_some known]
      show (do action b; (elements.filterMap f).forM action) =
        (do (match f a with | some b => action b | none => pure ()); _)
      rw [known, inductionHypothesis]

end Loops

/-- What is done at a visit. -/
def visitOne (surroundings : Surroundings) (interfaces : List CWMultiHomedInterface)
    (gWTPs : Nat → DataSlot) : Visit → ForwardingM Unit
  | .unfilled => throw .outside
  | .wlan wlan => forwardTo surroundings interfaces (gWTPs wlan.indexWTP) wlan

section Run

variable {surroundings : Surroundings} {interfaces : List CWMultiHomedInterface}
  {gWTPs : Nat → DataSlot} {frame : BroadcastFrame}

theorem forwardRadio_eq (indexWTP indexRadio : Nat) (radio : CWWTPRadioInfoValues) :
    forwardRadio surroundings interfaces (gWTPs indexWTP) indexWTP indexRadio radio =
      (radioVisits indexWTP indexRadio radio).forM
        (visitOne surroundings interfaces gWTPs) := by
  rw [radioVisits, forM_filterMap, forwardRadio]
  congr 1
  funext indexWlan
  cases (radio.interfaces indexWlan).typeInterface <;>
    cases (radio.interfaces indexWlan).BSSID <;> rfl

theorem forwardBroadcast_eq (gMaxWTPs : Nat) :
    forwardBroadcast surroundings interfaces gMaxWTPs gWTPs =
      (visits gMaxWTPs gWTPs).forM (visitOne surroundings interfaces gWTPs) := by
  rw [visits, forM_flatMap, forwardBroadcast]
  congr 1
  funext indexWTP
  rw [forM_flatMap]
  congr 1
  funext indexRadio
  cases (gWTPs indexWTP).radiosInfo.radiosInfo[indexRadio]? with
  | none => rfl
  | some radio => exact forwardRadio_eq indexWTP indexRadio radio

/-! ## One round -/

/-- The buffer holds the frame with some transmitter. -/
def Holds (frame : BroadcastFrame) (buf80211 : List UInt8) : Prop :=
  ∃ BSSID, buf80211 = frame.converted BSSID

theorem copyTransmitter_converted (BSSID BSSID' : EthAddr) :
    copyTransmitter (frame.converted BSSID) BSSID' = frame.converted BSSID' := by
  have front (addr : EthAddr) : frame.converted addr =
      ([8, 2, 0, 0] ++ broadcastAddr.bytes) ++ (addr.bytes ++ (frame.SA.bytes ++ ([0, 0] ++
        frame.body))) := by
    simp [BroadcastFrame.converted, DataFrame.header, outgoing, Direction.addresses]
  have length : ([8, 2, 0, 0] ++ broadcastAddr.bytes : List UInt8).length = transmitterOffset := by
    simp [transmitterOffset, ethALen]
  rw [copyTransmitter, front, front, ← length, List.take_left, ← List.drop_drop, List.drop_left,
    ← BSSID.length_bytes, List.drop_left]

/-- The two variables behind the search for the interface of a session. -/
def lookedUp (interfaces : List CWMultiHomedInterface) (slot : DataSlot) (dataSocket : Nat)
    (address : AddressVariable) : Nat × AddressVariable :=
  match interfaces.find? fun interface => interface.sock = slot.socket with
  | some interface => (interface.dataSock, sockCpyAddrPort address slot.dataaddress)
  | none => (dataSocket, address)

theorem lookedUp_some {slot : DataSlot} {interface : CWMultiHomedInterface}
    (found : (interfaces.find? fun interface => interface.sock = slot.socket) = some interface)
    (dataSocket : Nat) (address : AddressVariable) :
    lookedUp interfaces slot dataSocket address =
      (interface.dataSock, sockCpyAddrPort address slot.dataaddress) := by
  rw [lookedUp, found]

theorem lookedUp_none {slot : DataSlot}
    (none : (interfaces.find? fun interface => interface.sock = slot.socket) = none)
    (dataSocket : Nat) (address : AddressVariable) :
    lookedUp interfaces slot dataSocket address = (dataSocket, address) := by
  rw [lookedUp, none]

/-- The calls that are made with these variables. -/
def callsFor (surroundings : Surroundings) (wlan : Wlan) (dataSocket : Nat)
    (address : AddressVariable) (completeMsgPtr : List CWProtocolMessage) : List Sending :=
  (attempted (surroundings.sends wlan) 0 completeMsgPtr).map fun completeMsg =>
    ⟨wlan, dataSocket, address, completeMsg.contents⟩

theorem run_sendFragments (wlan : Wlan) (sends : Nat → Bool) (k : Nat)
    (completeMsgPtr : List CWProtocolMessage) (s : Forwarding) :
    (sendFragments wlan sends k completeMsgPtr).run s = .ok () { s with
      sent := s.sent ++ (attempted sends k completeMsgPtr).map fun completeMsg =>
        ⟨wlan, s.dataSocket, s.address, completeMsg.contents⟩ } := by
  induction completeMsgPtr generalizing k s with
  | nil => simp [sendFragments, attempted]
  | cons completeMsg rest inductionHypothesis =>
    cases taken : sends k with
    | true =>
      simp only [sendFragments, EStateM.run_bind, EStateM.run_modify, taken, if_true,
        inductionHypothesis, attempted]
      simp
    | false =>
      simp [sendFragments, attempted, taken]

theorem run_forwardTo (wlan : Wlan) {s : Forwarding} (holds : Holds frame s.buf80211) :
    (forwardTo surroundings interfaces (gWTPs wlan.indexWTP) wlan).run s =
      match fragmentsFor surroundings gWTPs frame wlan with
      | none => .error .afterTap { s with buf80211 := frame.converted wlan.BSSID }
      | some completeMsgPtr =>
        let found := lookedUp interfaces (gWTPs wlan.indexWTP) s.dataSocket s.address
        if found.1 = 0 then
          .error .afterTap ⟨found.1, found.2, frame.converted wlan.BSSID, s.sent⟩
        else
          .ok () ⟨found.1, found.2, frame.converted wlan.BSSID,
            s.sent ++ callsFor surroundings wlan found.1 found.2 completeMsgPtr⟩ := by
  obtain ⟨BSSID, held⟩ := holds
  have copied : copyTransmitter s.buf80211 wlan.BSSID = frame.converted wlan.BSSID := by
    rw [held, copyTransmitter_converted]
  simp only [forwardTo, forwardFrame, EStateM.run_bind, EStateM.run_modify, EStateM.run_get, copied,
    fragmentsFor]
  cases assembleFor surroundings wlan (gWTPs wlan.indexWTP).pathMTU
      (frame.converted wlan.BSSID) with
  | none => rfl
  | some completeMsgPtr =>
    cases found : interfaces.find? fun interface =>
        interface.sock = (gWTPs wlan.indexWTP).socket with
    | none =>
      simp only [lookedUp_none found]
      by_cases unset : s.dataSocket = 0
      · simp [EStateM.run_bind, unset]
      · simp [EStateM.run_bind, unset, run_sendFragments, callsFor]
    | some interface =>
      simp only [lookedUp_some found]
      by_cases unset : interface.dataSock = 0
      · simp [EStateM.run_bind, unset]
      · simp [EStateM.run_bind, unset, run_sendFragments, callsFor]

/-! ## What is due -/

theorem fragmentsNum_pos (PMTU : Int) {size : Nat} (positive : 0 < size) :
    0 < (handleFragmentation PMTU size).fragmentsNum := by
  rw [handleFragmentation]
  by_cases whole : PMTU.toNat / 8 * 8 = 0
  · simp [whole]
  · rw [if_neg whole]
    by_cases short : size < PMTU.toNat / 8 * 8
    · have rest : size % (PMTU.toNat / 8 * 8) ≠ 0 := by
        rw [Nat.mod_eq_of_lt short]
        omega
      simp [rest]
    · have one := Nat.div_pos (Nat.le_of_not_lt short) (Nat.pos_of_ne_zero whole)
      exact Nat.add_pos_left one _

theorem assembleFragments_ne_nil
    {assembleHeader : CWProtocolTransportHeaderValues → Except Failure CWProtocolMessage}
    {transportVal : CWProtocolTransportHeaderValues} {msg : CWProtocolMessage}
    {cut : Fragmentation} {totalSize remaining i offset : Nat} {packets : List CWProtocolMessage}
    (positive : 0 < remaining)
    (assembled : assembleFragments assembleHeader transportVal msg cut totalSize remaining i
      offset = .ok packets) : packets ≠ [] := by
  cases remaining with
  | zero => cases positive
  | succ remaining =>
    intro none
    subst none
    simp only [assembleFragments, bind, Except.bind, pure, Except.pure] at assembled
    repeat' split at assembled
    all_goals cases assembled

theorem cwAssembleDataMessage_ne_nil {gRADIO_MAC : EthAddr} {PMTU : Int}
    {message : CWProtocolMessage} {bindingValuesPtr : Option CWBindingTransportHeaderValues}
    {is_crypted keepAlive fragID : Nat} {packets : List CWProtocolMessage}
    (positive : 0 < message.offset)
    (assembled : cwAssembleDataMessage gRADIO_MAC PMTU message bindingValuesPtr is_crypted keepAlive
      fragID = .ok packets) : packets ≠ [] := by
  rw [cwAssembleDataMessage] at assembled
  by_cases single : (handleFragmentation (PMTU - gMaxCAPWAPHeaderSizeBinding)
      message.offset).fragmentsNum = 1
  · intro none
    subst none
    simp only [if_pos single, bind, Except.bind, pure, Except.pure] at assembled
    repeat' split at assembled
    all_goals cases assembled
  · simp only [if_neg single] at assembled
    exact assembleFragments_ne_nil (fragmentsNum_pos _ positive) assembled

theorem fragmentsFor_ne_nil {wlan : Wlan} {completeMsgPtr : List CWProtocolMessage}
    (assembled : fragmentsFor surroundings gWTPs frame wlan = some completeMsgPtr) :
    completeMsgPtr ≠ [] := by
  rw [fragmentsFor, assembleFor] at assembled
  by_cases memory : surroundings.memory wlan = true
  · rw [if_pos memory] at assembled
    have positive : 0 < (frameOf (frame.converted wlan.BSSID)).offset := by
      show 0 < (frame.converted wlan.BSSID).length
      rw [BroadcastFrame.converted, List.length_append, DataFrame.length_header]
      exact Nat.add_pos_left (by simp [hlen80211]) _
    cases built : cwAssembleDataMessage surroundings.gRADIO_MAC (gWTPs wlan.indexWTP).pathMTU
        (frameOf (frame.converted wlan.BSSID)) none cwPacketPlain 0
        (surroundings.fragmentID wlan) with
    | error failure =>
      rw [built] at assembled
      cases assembled
    | ok packets =>
      rw [built] at assembled
      cases assembled
      exact cwAssembleDataMessage_ne_nil positive built
  · rw [if_neg memory] at assembled
    cases assembled

theorem callsFor_ne_nil {wlan : Wlan} {completeMsgPtr : List CWProtocolMessage}
    (inside : completeMsgPtr ≠ []) (dataSocket : Nat) (address : AddressVariable) :
    callsFor surroundings wlan dataSocket address completeMsgPtr ≠ [] := by
  cases completeMsgPtr with
  | nil => exact absurd rfl inside
  | cons completeMsg rest => simp [callsFor, attempted]

theorem wlan_of_mem_callsFor {wlan : Wlan} {completeMsgPtr : List CWProtocolMessage}
    {dataSocket : Nat} {address : AddressVariable} {sending : Sending}
    (mem : sending ∈ callsFor surroundings wlan dataSocket address completeMsgPtr) :
    sending.wlan = wlan := by
  obtain ⟨completeMsg, _, rfl⟩ := List.mem_map.mp mem
  rfl

/-- The variables behind the search hold what belongs to a session whose data channel is ready. -/
theorem lookedUp_of_dataChannel {slot : DataSlot} {channel : Nat × AddressVariable}
    (ready : dataChannel interfaces slot = some channel) (dataSocket : Nat)
    (address : AddressVariable) :
    channel.1 ≠ 0 ∧ lookedUp interfaces slot dataSocket address = channel := by
  rw [dataChannel] at ready
  split at ready
  · rename_i interface sinAddr sinPort found bound
    by_cases unset : interface.dataSock = 0
    · rw [if_pos unset] at ready
      cases ready
    · rw [if_neg unset] at ready
      cases ready
      rw [lookedUp_some found, bound]
      exact ⟨unset, rfl⟩
  · cases ready

/-- The calls for a WLAN that is served. -/
theorem due_of_served {wlan : Wlan}
    (isServed : served surroundings interfaces gWTPs frame (.wlan wlan) = true) :
    ∃ channel completeMsgPtr, dataChannel interfaces (gWTPs wlan.indexWTP) = some channel ∧
      fragmentsFor surroundings gWTPs frame wlan = some completeMsgPtr ∧
      due surroundings interfaces gWTPs frame (.wlan wlan) =
        callsFor surroundings wlan channel.1 channel.2 completeMsgPtr := by
  simp only [served, Bool.and_eq_true] at isServed
  obtain ⟨⟨live, ready⟩, assembled⟩ := isServed
  obtain ⟨channel, known⟩ := Option.isSome_iff_exists.mp ready
  obtain ⟨completeMsgPtr, fragments⟩ := Option.isSome_iff_exists.mp assembled
  refine ⟨channel, completeMsgPtr, known, fragments, ?_⟩
  rw [due, if_pos live, known, fragments]
  rfl

theorem due_of_not_served {visit : Visit}
    (unserved : served surroundings interfaces gWTPs frame visit = false) :
    due surroundings interfaces gWTPs frame visit = [] := by
  cases visit with
  | unfilled => rfl
  | wlan wlan =>
    rw [due]
    by_cases live : (gWTPs wlan.indexWTP).isNotFree = true
    · rw [if_pos live]
      simp only [served, live, Bool.true_and] at unserved
      cases channel : dataChannel interfaces (gWTPs wlan.indexWTP) with
      | none => rfl
      | some pair =>
        cases fragments : fragmentsFor surroundings gWTPs frame wlan with
        | none => rfl
        | some completeMsgPtr => simp [channel, fragments] at unserved
    · rw [if_neg live]

/-- Only a WLAN that is served has calls that are due. -/
theorem served_of_mem_due {visit : Visit} {sending : Sending}
    (mem : sending ∈ due surroundings interfaces gWTPs frame visit) :
    visit = .wlan sending.wlan ∧ served surroundings interfaces gWTPs frame visit = true := by
  cases isServed : served surroundings interfaces gWTPs frame visit with
  | false =>
    rw [due_of_not_served isServed] at mem
    cases mem
  | true =>
    cases visit with
    | unfilled => cases isServed
    | wlan wlan =>
      obtain ⟨channel, completeMsgPtr, _, _, same⟩ := due_of_served isServed
      rw [same] at mem
      rw [wlan_of_mem_callsFor mem]
      exact ⟨rfl, rfl⟩

theorem due_ne_nil_of_served {visit : Visit}
    (isServed : served surroundings interfaces gWTPs frame visit = true) :
    due surroundings interfaces gWTPs frame visit ≠ [] := by
  cases visit with
  | unfilled => cases isServed
  | wlan wlan =>
    obtain ⟨channel, completeMsgPtr, _, fragments, same⟩ := due_of_served isServed
    rw [same]
    exact callsFor_ne_nil (fragmentsFor_ne_nil fragments) _ _

/-! ## A run -/

/-- The loops are left at a WLAN whose frame cannot be assembled, or with no data socket. -/
theorem leaves_iff {wlan : Wlan} {first : Bool} {dataSocket : Nat} {address : AddressVariable}
    (unset : first = true ↔ dataSocket = 0) :
    leaves surroundings interfaces gWTPs frame first (.wlan wlan) = true ↔
      fragmentsFor surroundings gWTPs frame wlan = none ∨
        (lookedUp interfaces (gWTPs wlan.indexWTP) dataSocket address).1 = 0 := by
  rw [leaves, Bool.or_eq_true, Option.isNone_iff_eq_none]
  cases found : interfaces.find? fun interface =>
      interface.sock = (gWTPs wlan.indexWTP).socket with
  | none => rw [lookedUp_none found, unset]
  | some interface => rw [lookedUp_some found, decide_eq_true_iff]

/-- A WLAN that is served gets the calls that are due, and leaves a data socket. -/
theorem run_served {wlan : Wlan} {s : Forwarding} (holds : Holds frame s.buf80211)
    (isServed : served surroundings interfaces gWTPs frame (.wlan wlan) = true) :
    ∃ s', (visitOne surroundings interfaces gWTPs (.wlan wlan)).run s = .ok () s' ∧
      Holds frame s'.buf80211 ∧ s'.dataSocket ≠ 0 ∧
      s'.sent = s.sent ++ due surroundings interfaces gWTPs frame (.wlan wlan) := by
  obtain ⟨channel, completeMsgPtr, ready, fragments, same⟩ := due_of_served isServed
  obtain ⟨set, found⟩ := lookedUp_of_dataChannel ready s.dataSocket s.address
  have ran := @run_forwardTo surroundings interfaces gWTPs frame wlan s holds
  simp only [fragments, found, if_neg set] at ran
  rw [same]
  exact ⟨_, ran, ⟨wlan.BSSID, rfl⟩, set, rfl⟩

/-- At a WLAN at which the loops are left no call is made. -/
theorem run_leaves {wlan : Wlan} {s : Forwarding} (holds : Holds frame s.buf80211)
    (left : fragmentsFor surroundings gWTPs frame wlan = none ∨
      (lookedUp interfaces (gWTPs wlan.indexWTP) s.dataSocket s.address).1 = 0) :
    ∃ s', (visitOne surroundings interfaces gWTPs (.wlan wlan)).run s = .error .afterTap s' ∧
      s'.sent = s.sent := by
  have ran := @run_forwardTo surroundings interfaces gWTPs frame wlan s holds
  cases fragments : fragmentsFor surroundings gWTPs frame wlan with
  | none =>
    rw [fragments] at ran
    exact ⟨_, ran, rfl⟩
  | some completeMsgPtr =>
    cases left with
    | inl unassembled =>
      rw [fragments] at unassembled
      cases unassembled
    | inr unset =>
      simp only [fragments, if_pos unset] at ran
      exact ⟨_, ran, rfl⟩

/-- At any other WLAN a call is made. -/
theorem run_stays {wlan : Wlan} {s : Forwarding} (holds : Holds frame s.buf80211)
    (stays : ¬ (fragmentsFor surroundings gWTPs frame wlan = none ∨
      (lookedUp interfaces (gWTPs wlan.indexWTP) s.dataSocket s.address).1 = 0)) :
    ∃ s' made, (visitOne surroundings interfaces gWTPs (.wlan wlan)).run s = .ok () s' ∧
      Holds frame s'.buf80211 ∧ s'.sent = s.sent ++ made ∧ made ≠ [] ∧
      ∀ sending ∈ made, sending.wlan = wlan := by
  have ran := @run_forwardTo surroundings interfaces gWTPs frame wlan s holds
  cases fragments : fragmentsFor surroundings gWTPs frame wlan with
  | none => exact absurd (Or.inl fragments) stays
  | some completeMsgPtr =>
    simp only [fragments, if_neg fun unset => stays (Or.inr unset)] at ran
    exact ⟨_, _, ran, ⟨wlan.BSSID, rfl⟩, rfl, callsFor_ne_nil (fragmentsFor_ne_nil fragments) _ _,
      fun sending mem => wlan_of_mem_callsFor mem⟩

theorem nil_perm_due_iff {rest : List Visit} :
    [].Perm (rest.flatMap (due surroundings interfaces gWTPs frame)) ↔
      ∀ later ∈ rest, served surroundings interfaces gWTPs frame later = false := by
  rw [List.nil_perm, List.flatMap_eq_nil_iff]
  constructor
  · intro nothing later mem
    cases isServed : served surroundings interfaces gWTPs frame later with
    | false => rfl
    | true => exact absurd (nothing later mem) (due_ne_nil_of_served isServed)
  · intro unserved later mem
    exact due_of_not_served (unserved later mem)

/-- What the loop adds to the calls is due exactly when the visits are in order. -/
theorem run_visits (visits : List Visit) {s : Forwarding} (holds : Holds frame s.buf80211)
    {first : Bool} (unset : first = true ↔ s.dataSocket = 0) :
    ∃ made, calls ((visits.forM (visitOne surroundings interfaces gWTPs)).run s) = s.sent ++ made ∧
      (RunsInside ((visits.forM (visitOne surroundings interfaces gWTPs)).run s) ∧
          made.Perm (visits.flatMap (due surroundings interfaces gWTPs frame)) ↔
        Orderly surroundings interfaces gWTPs frame first visits) := by
  induction visits generalizing s first with
  | nil =>
    refine ⟨[], (List.append_nil _).symm, ?_⟩
    exact iff_of_true ⟨trivial, List.Perm.refl _⟩ trivial
  | cons visit rest inductionHypothesis =>
    rw [List.forM_eq_forM, List.forM_cons, List.flatMap_cons, Orderly]
    cases isServed : served surroundings interfaces gWTPs frame visit with
    | true =>
      cases visit with
      | unfilled => cases isServed
      | wlan wlan =>
        obtain ⟨s', ran, holds', set, sent⟩ := run_served holds isServed
        have unset' : false = true ↔ s'.dataSocket = 0 := iff_of_false Bool.false_ne_true set
        obtain ⟨made, added, ordered⟩ := inductionHypothesis holds' unset'
        rw [EStateM.run_bind, ran]
        refine ⟨due surroundings interfaces gWTPs frame (.wlan wlan) ++ made, ?_, ?_⟩
        · rw [← List.append_assoc, ← sent]
          exact added
        · rw [List.perm_append_left_iff, if_pos rfl]
          exact ordered
    | false =>
      rw [due_of_not_served isServed, List.nil_append, if_neg Bool.false_ne_true]
      cases visit with
      | unfilled =>
        refine ⟨[], (List.append_nil _).symm, ?_⟩
        apply iff_of_false
        · intro inside
          exact inside.1 rfl
        · intro orderly
          cases orderly.1
      | wlan wlan =>
        rw [leaves_iff unset, EStateM.run_bind]
        by_cases left : fragmentsFor surroundings gWTPs frame wlan = none ∨
            (lookedUp interfaces (gWTPs wlan.indexWTP) s.dataSocket s.address).1 = 0
        · obtain ⟨s', ran, sent⟩ := run_leaves holds left
          rw [ran]
          refine ⟨[], by rw [List.append_nil]; exact sent, ?_⟩
          rw [nil_perm_due_iff]
          exact ⟨fun due => ⟨left, due.2⟩, fun orderly => ⟨Leaving.noConfusion, orderly.2⟩⟩
        · obtain ⟨s', here, ran, holds', sent, inside, ofWlan⟩ := run_stays holds left
          obtain ⟨made, added, _⟩ := inductionHypothesis holds' (decide_eq_true_iff)
          rw [ran]
          refine ⟨here ++ made, ?_, ?_⟩
          · rw [← List.append_assoc, ← sent]
            exact added
          · apply iff_of_false
            · intro due
              obtain ⟨sending, mem⟩ := List.exists_mem_of_ne_nil here inside
              have later := due.2.subset (List.mem_append_left made mem)
              obtain ⟨visit', _, mem'⟩ := List.mem_flatMap.mp later
              -- the call would be due for a WLAN that is not served
              obtain ⟨same, isServed'⟩ := served_of_mem_due mem'
              rw [same, ofWlan sending mem, isServed] at isServed'
              cases isServed'
            · exact fun orderly => left orderly.1

end Run

/-! ## The frame from the tap -/

namespace BroadcastFrame

variable (frame : BroadcastFrame)

theorem frameAddr_DA : frameAddr frame.bytes 0 = .ok broadcastAddr :=
  frameAddr_at [] _ broadcastAddr

theorem frameAddr_SA : frameAddr frame.bytes ethALen = .ok frame.SA := by
  have found := frameAddr_at broadcastAddr.bytes (frame.high :: frame.low :: frame.payload) frame.SA
  rwa [EthAddr.length_bytes] at found

theorem frameByte_high : frameByte frame.bytes 12 = .ok frame.high := by
  have found := frameByte_at (broadcastAddr.bytes ++ frame.SA.bytes) (frame.low :: frame.payload)
    frame.high
  simpa [bytes, ethALen] using found

theorem frameByte_low : frameByte frame.bytes 13 = .ok frame.low := by
  have found := frameByte_at (broadcastAddr.bytes ++ (frame.SA.bytes ++ [frame.high]))
    frame.payload frame.low
  simpa [bytes, ethALen] using found

/-- The frame is converted with everybody as its transmitter. -/
theorem converts (avlTree : StationTree) :
    cwConvertDataFrame8023To80211 avlTree frame.bytes =
      .ok (some ⟨frame.converted broadcastAddr, -1⟩) := by
  have long : ethHlen ≤ frame.bytes.length := by
    simp [bytes, ethHlen, ethALen]
    omega
  exact cwConvertDataFrame8023To80211_known long frame.frameAddr_DA frame.frameAddr_SA rfl
    frame.frameByte_high frame.frameByte_low

end BroadcastFrame

theorem forwardTap_eq (surroundings : Surroundings) (interfaces : List CWMultiHomedInterface)
    (gMaxWTPs : Nat) (gWTPs : Nat → DataSlot) (avlTree : StationTree) (frame : BroadcastFrame) :
    forwardTap surroundings interfaces gMaxWTPs gWTPs avlTree frame.bytes =
      some (((visits gMaxWTPs gWTPs).forM (visitOne surroundings interfaces gWTPs)).run
        ⟨0, ⟨none, none⟩, frame.converted broadcastAddr, []⟩) := by
  rw [forwardTap, frame.converts avlTree]
  show some ((forwardBroadcast surroundings interfaces gMaxWTPs gWTPs).run _) = _
  rw [forwardBroadcast_eq]

theorem distributed_iff_run (surroundings : Surroundings)
    (interfaces : List CWMultiHomedInterface) (gMaxWTPs : Nat) (gWTPs : Nat → DataSlot)
    (avlTree : StationTree) (frame : BroadcastFrame) :
    Distributed surroundings interfaces gMaxWTPs gWTPs avlTree frame ↔
      RunsInside (((visits gMaxWTPs gWTPs).forM (visitOne surroundings interfaces gWTPs)).run
        ⟨0, ⟨none, none⟩, frame.converted broadcastAddr, []⟩) ∧
      (calls (((visits gMaxWTPs gWTPs).forM (visitOne surroundings interfaces gWTPs)).run
        ⟨0, ⟨none, none⟩, frame.converted broadcastAddr, []⟩)).Perm
        ((visits gMaxWTPs gWTPs).flatMap (due surroundings interfaces gWTPs frame)) := by
  rw [Distributed, forwardTap_eq]
  constructor
  · intro distributed
    obtain ⟨result, same, inside, due⟩ := distributed
    cases same
    exact ⟨inside, due⟩
  · intro distributed
    exact ⟨_, rfl, distributed⟩

/-- From the start, where no data socket is known. -/
theorem run_start (surroundings : Surroundings) (interfaces : List CWMultiHomedInterface)
    (gMaxWTPs : Nat) (gWTPs : Nat → DataSlot) (frame : BroadcastFrame) :
    (RunsInside (((visits gMaxWTPs gWTPs).forM (visitOne surroundings interfaces gWTPs)).run
        ⟨0, ⟨none, none⟩, frame.converted broadcastAddr, []⟩) ∧
      (calls (((visits gMaxWTPs gWTPs).forM (visitOne surroundings interfaces gWTPs)).run
        ⟨0, ⟨none, none⟩, frame.converted broadcastAddr, []⟩)).Perm
        ((visits gMaxWTPs gWTPs).flatMap (due surroundings interfaces gWTPs frame))) ↔
      Orderly surroundings interfaces gWTPs frame true (visits gMaxWTPs gWTPs) := by
  have holds : Holds frame (frame.converted broadcastAddr) := ⟨broadcastAddr, rfl⟩
  obtain ⟨made, added, ordered⟩ := @run_visits surroundings interfaces gWTPs frame
    (visits gMaxWTPs gWTPs) ⟨0, ⟨none, none⟩, frame.converted broadcastAddr, []⟩ holds true
    (iff_of_true rfl rfl)
  rw [List.nil_append] at added
  rw [← ordered, ← added]

/-- A broadcast is distributed as it should be exactly when the table is in order. -/
theorem broadcast_distributed_iff (surroundings : Surroundings)
    (interfaces : List CWMultiHomedInterface) (gMaxWTPs : Nat) (gWTPs : Nat → DataSlot)
    (avlTree : StationTree) (frame : BroadcastFrame) :
    Distributed surroundings interfaces gMaxWTPs gWTPs avlTree frame ↔
      Orderly surroundings interfaces gWTPs frame true (visits gMaxWTPs gWTPs) :=
  (distributed_iff_run surroundings interfaces gMaxWTPs gWTPs avlTree frame).trans
    (run_start surroundings interfaces gMaxWTPs gWTPs frame)

/-! ## A session that has been closed -/

def accessPointRadio : CWWTPRadioInfoValues where
  radioID := 1
  interfaces := fun _ =>
    { wlanID := 1
      typeInterface := .cwAPMode
      BSSID := some ⟨[2, 0, 0, 0, 7, 1], rfl⟩
      accessPoint := fun _ => rfl }

/-- The slot of a WTP that has gone: all but the flag is as it was. -/
def closedSlot : DataSlot where
  isNotFree := false
  socket := 4
  dataaddress := .inet 0x0A000002 5247
  pathMTU := 1400
  radiosInfo := ⟨1, [accessPointRadio], rfl⟩

def plainSurroundings : Surroundings where
  gRADIO_MAC := noRadioMAC
  memory := fun _ => true
  fragmentID := fun _ => 0
  sends := fun _ _ => true

def requestFrame : BroadcastFrame where
  SA := ⟨[2, 0, 0, 0, 7, 9], rfl⟩
  high := 8
  low := 6
  payload := [0, 1]

theorem visits_closedSlot :
    visits 1 (fun _ => closedSlot) = [.wlan ⟨0, 0, 0, ⟨[2, 0, 0, 0, 7, 1], rfl⟩⟩] := rfl

theorem fragmentsFor_closedSlot (wlan : Wlan) :
    (fragmentsFor plainSurroundings (fun _ => closedSlot) requestFrame wlan).isNone = false := by
  have valid : (frameOf (requestFrame.converted wlan.BSSID)).Valid := Nat.le_refl _
  have assembled := cwAssembleDataMessage_eq plainSurroundings.gRADIO_MAC
    (show (8 : Int) ≤ 1400 - 16 by omega) valid none cwPacketPlain 0
    (plainSurroundings.fragmentID wlan) rfl
  rw [fragmentsFor, assembleFor, if_pos (show plainSurroundings.memory wlan = true from rfl)]
  show (cwAssembleDataMessage _ 1400 _ _ _ _ _).toOption.isNone = false
  rw [assembled]
  rfl

/-- The WTP that has gone gets the frame as well. -/
theorem closedSlot_not_distributed :
    ¬ Distributed plainSurroundings [⟨4, 5⟩] 1 (fun _ => closedSlot) .nil requestFrame := by
  rw [distributed_iff_run, run_start, visits_closedSlot]
  intro orderly
  have left := orderly.1
  rw [leaves, fragmentsFor_closedSlot] at left
  cases left

end WlanController.Frames
