import WlanController.Frames.Switching
import WlanController.Protocol.DataRoundTrip
import WlanController.Stations.StationIndex

/-!
# From station to station

What the AC does with a data frame is that of a switch with a port for the tap and one for each
BSS.  Between the ports the frame goes through fragments three times, in any order, and its
addresses and its body stay as they are.
-/

namespace WlanController.Frames

open Admission Protocol Radios Settings Stations

/-! ## A frame in fragments -/

theorem near_of_short {PMTU : Int} (room : 24 ≤ PMTU) {size : Nat} (inhabited : 0 < size)
    (short : size ≤ cwBufferSize) :
    ((dataCut PMTU size).fragmentsNum - 1) * (dataCut PMTU size).PMTU < 65536 := by
  have positive : 0 < (dataCut PMTU size).PMTU := by
    simp only [dataCut]
    omega
  have some : 0 < (dataCut PMTU size).fragmentsNum := Pieces.count_pos inhabited
  have inside : (dataCut PMTU size).fragmentsNum - 1 <
      Pieces.count (dataCut PMTU size).PMTU size := Nat.sub_lt some Nat.one_pos
  have before := Pieces.mul_lt_length positive inside
  have bound : size ≤ 65536 := short
  omega

section Packets

variable (gRADIO_MAC : EthAddr) {PMTU : Int} {msg : List UInt8} (fragID : Nat)

/-- In whatever order they come, the packets of a frame bring it to the other end. -/
theorem deliversOnce_dataPackets (room : 24 ≤ PMTU) (inhabited : 0 < msg.length)
    (short : msg.length ≤ cwBufferSize) :
    DeliversOnce (dataPackets gRADIO_MAC (dataCut PMTU msg.length) (.ieee80211Frame none) 1
      cwPacketPlain fragID msg) msg .ieee80211Frame := by
  have near := near_of_short room inhabited short
  have counted : (dataCut PMTU msg.length).fragmentsNum =
      Pieces.count (dataCut PMTU msg.length).PMTU msg.length := rfl
  have positive : 0 < (dataCut PMTU msg.length).PMTU := by
    simp only [dataCut]
    omega
  have units : 8 ∣ (dataCut PMTU msg.length).PMTU := Nat.dvd_mul_left _ _
  generalize dataCut PMTU msg.length = cut at near counted positive units ⊢
  have some : 0 < cut.fragmentsNum := counted ▸ Pieces.count_pos inhabited
  have apart : ¬ (radioMacPresent gRADIO_MAC ∧
      (DataKind.ieee80211Frame none).bindingValuesPtr.isSome) := by
    rintro ⟨_, bound⟩
    cases bound
  apply deliversOnce_of_waits (some.trans_eq (length_dataPackets ..).symm)
  · intro delivery onData
    have marks : (DataKind.ieee80211Frame none).Marks (frameOf msg) := rfl
    obtain ⟨header, after, read⟩ := dataPacketRead marks apart delivery onData
    exact ⟨header, after, read.read, read.dataMsgType⟩
  · intro deliveries next others onData every
    by_cases single : cut.fragmentsNum = 1
    · have first : deliveries = [] := by
        -- any other delivery would be of the same packet
        refine List.eq_nil_iff_forall_not_mem.mpr fun delivery member => ?_
        have here := delivery.index.isLt.trans_eq (length_dataPackets ..)
        have last := next.index.isLt.trans_eq (length_dataPackets ..)
        exact others delivery member (Fin.ext (by omega))
      subst first
      exact ⟨[], .nil [], completes_single single (piece_eq_of_single positive (counted ▸ single))
        apart next onData⟩
    · have dead : DataKind.ieee80211Frame none ≠ .keepAlive := by simp
      obtain ⟨fragmentsList, trace, completes⟩ := reassembles_dataPackets units positive inhabited
        counted single dead apart near 1 deliveries next.index others
      exact ⟨fragmentsList, trace, completes next every⟩

theorem assemble_frameOf (room : 24 ≤ PMTU) (msg : List UInt8) :
    cwAssembleDataMessage gRADIO_MAC PMTU (frameOf msg) none cwPacketPlain 0 fragID =
      .ok (dataPackets gRADIO_MAC (dataCut PMTU msg.length) (.ieee80211Frame none) 1 cwPacketPlain
        fragID msg) := by
  have valid : (frameOf msg).Valid := by simp [frameOf, CWProtocolMessage.Valid]
  have contents : (frameOf msg).contents = msg := by simp [frameOf, CWProtocolMessage.contents]
  have enough : (8 : Int) ≤ PMTU - 16 := by omega
  have assembled := cwAssembleDataMessage_eq gRADIO_MAC enough valid none cwPacketPlain 0 fragID rfl
  rw [contents] at assembled
  exact assembled

end Packets

/-! ## The switch -/

/-- Where a frame can leave the AC. -/
inductive Port where
  | wire
  | bss (wlan : Wlan)
  deriving DecidableEq

/-- The frame as it goes to the stations of a BSS. -/
def DataFrame.toBSS (frame : DataFrame .toDS) (BSSID : EthAddr) : DataFrame .fromDS :=
  { frame.forwarded .fromDS with BSSID }

/-- The frame as it goes to the tap. -/
def DataFrame.toWire (frame : DataFrame .toDS) : List UInt8 :=
  frame.DA.bytes ++ frame.SA.bytes ++ unwrapped frame.body

namespace Controller

variable (ac : Controller)

/-- The WLANs that the loops come to. -/
def wlans : List Wlan :=
  (visits ac.gMaxWTPs ac.gWTPs).filterMap fun
    | .unfilled => none
    | .wlan wlan => some wlan

/-- Where a frame for this address goes: one for everybody to all the ports, and one for a station
to the BSS that it is recorded at. -/
def ports (DA : EthAddr) : List Port :=
  if checkAddressBroadcast DA then .wire :: ac.wlans.map .bss
  else
    match stationIndex ac.avlTree DA with
    | none => [.wire]
    | some station => [.bss ⟨station.index.toNat, 0, 0, station.BSSID⟩]

section Ports

variable {ac} {DA : EthAddr}

theorem ports_everybody (everybody : checkAddressBroadcast DA = true) :
    ac.ports DA = .wire :: ac.wlans.map .bss :=
  if_pos everybody

theorem ports_unknown (somebody : ¬ checkAddressBroadcast DA = true)
    (found : avlFind DA ac.avlTree = none) : ac.ports DA = [.wire] := by
  have unknown : stationIndex ac.avlTree DA = none := by simp [stationIndex, found]
  simp [ports, somebody, unknown]

theorem ports_station (somebody : ¬ checkAddressBroadcast DA = true) {tmpNode : NodeAVL}
    (found : avlFind DA ac.avlTree = some tmpNode) :
    ac.ports DA = [.bss ⟨tmpNode.index.toNat, 0, 0, tmpNode.BSSID⟩] := by
  have known : stationIndex ac.avlTree DA = some tmpNode.toStation := by simp [stationIndex, found]
  simp [ports, somebody, known]

end Ports

/-- A frame for everybody is cut for the WTP that it has come from. -/
def pathMTUFor (WTPIndex : Nat) (DA : EthAddr) (wlan : Wlan) : Int :=
  (ac.gWTPs (if checkAddressBroadcast DA then WTPIndex else wlan.indexWTP)).pathMTU

/-- The packets of the frame for a BSS. -/
def packetsFor (WTPIndex : Nat) (frame : DataFrame .toDS) (wlan : Wlan) : List CWProtocolMessage :=
  dataPackets ac.surroundings.gRADIO_MAC
    (dataCut (ac.pathMTUFor WTPIndex frame.DA wlan) (frame.toBSS wlan.BSSID).bytes.length)
    (.ieee80211Frame none) 1 cwPacketPlain (ac.surroundings.fragmentID wlan)
    (frame.toBSS wlan.BSSID).bytes

/-- The calls that bring the frame to a port. -/
def callsAt (WTPIndex : Nat) (frame : DataFrame .toDS) : Port → List Sending
  | .wire => []
  | .bss wlan =>
    match dataChannel ac.interfaces (ac.gWTPs wlan.indexWTP) with
    | none => []
    | some (dataSocket, address) => (ac.packetsFor WTPIndex frame wlan).map fun completeMsg =>
      ⟨wlan, dataSocket, address, completeMsg.contents⟩

/-- A frame for the address can be sent to the BSS: there is memory for it, the data channel of the
session is ready and takes its packets, and a group of eight bytes fits into them. -/
structure Serves (WTPIndex : Nat) (DA : EthAddr) (wlan : Wlan) : Prop where
  memory : ac.surroundings.memory wlan
  ready : (dataChannel ac.interfaces (ac.gWTPs wlan.indexWTP)).isSome
  room : 24 ≤ ac.pathMTUFor WTPIndex DA wlan
  sends : ∀ k, ac.surroundings.sends wlan k

/-- It can be sent to each port that it goes to, and the loops find no radio without its values. -/
structure Ready (WTPIndex : Nat) (DA : EthAddr) : Prop where
  serves : ∀ wlan, .bss wlan ∈ ac.ports DA → ac.Serves WTPIndex DA wlan
  filled : ∀ indexWTP < ac.gMaxWTPs, (ac.gWTPs indexWTP).radiosInfo.radioCount ≤ wtpRadioMax

end Controller

/-! ## The frame on its way -/

section Frame

variable (frame : DataFrame .toDS)

theorem toBSS_bytes (BSSID : EthAddr) :
    (frame.toBSS BSSID).bytes =
      ([8, 2, 0, 0] ++ frame.DA.bytes) ++ (BSSID.bytes ++ (frame.SA.bytes ++
        ([frame.seqHigh, frame.seqLow] ++ frame.body))) := by
  simp [DataFrame.toBSS, DataFrame.forwarded, DataFrame.bytes, DataFrame.header,
    Direction.addresses, Direction.bits]

theorem copyTransmitter_toBSS (BSSID BSSID' : EthAddr) :
    copyTransmitter (frame.toBSS BSSID).bytes BSSID' = (frame.toBSS BSSID').bytes := by
  have length : ([8, 2, 0, 0] ++ frame.DA.bytes : List UInt8).length = transmitterOffset := by
    simp [transmitterOffset, ethALen]
  rw [copyTransmitter, toBSS_bytes, toBSS_bytes, ← length, List.take_left, ← List.drop_drop,
    List.drop_left, ← BSSID.length_bytes, List.drop_left]

theorem length_toBSS (BSSID : EthAddr) :
    (frame.toBSS BSSID).bytes.length = frame.bytes.length := by
  rw [DataFrame.bytes, DataFrame.bytes, List.length_append, List.length_append,
    DataFrame.length_header, DataFrame.length_header]
  rfl

theorem length_bytes_pos : 0 < frame.bytes.length := by
  rw [DataFrame.bytes, List.length_append, DataFrame.length_header]
  exact Nat.add_pos_left (by simp [hlen80211]) _

theorem drop_hlen : frame.bytes.drop hlen80211 = frame.body := by
  rw [DataFrame.bytes, ← frame.length_header, List.drop_left]

theorem frameAddr_bytes (addr : EthAddr) : frameAddr addr.bytes 0 = .ok addr := by
  have found := frameAddr_at [] [] addr
  simpa using found

theorem parseHdr_bytes {direction : Direction} (frame : DataFrame direction) :
    parseHdr direction.parse frame.bytes = .ok frame.hdr := by
  rw [parseHdr, frame.parse_bytes]

/-- The frame as it first is in the buffer. -/
theorem buffer_eq : (filled (frame.forwarded .fromDS).header 0).msg.take hlen80211 ++ frame.body =
    (frame.toBSS frame.BSSID).bytes := by
  have length := (frame.forwarded .fromDS).length_header
  have all : (filled (frame.forwarded .fromDS).header 0).msg.take hlen80211 =
      (frame.forwarded .fromDS).header := by simp [filled, ← length]
  rw [all]
  rfl

theorem length_unwrapped (body : List UInt8) : (unwrapped body).length ≤ body.length + 2 := by
  rw [unwrapped]
  split
  · simp only [List.length_drop]
    omega
  · simp only [hdrLength, length_store, List.length_append]
    omega

theorem toTap_bytes (carries : 8 ≤ frame.body.length) (short : frame.bytes.length ≤ cwBufferSize) :
    Controller.toTap frame.bytes = .ok frame.toWire := by
  have length : frame.bytes.length = 24 + frame.body.length := by
    rw [DataFrame.bytes, List.length_append, DataFrame.length_header]
    rfl
  have converted := cwConvertDataFrame80211To8023_of_parsed (by omega) frame.parse_bytes
  rw [drop_hlen] at converted
  have fits : frame.toWire.length ≤ cwBufferSize := by
    have bound := length_unwrapped frame.body
    simp only [DataFrame.toWire, List.length_append, EthAddr.length_bytes, ethALen]
    omega
  have same : frame.toWire = frame.hdr.DA ++ frame.hdr.SA ++ unwrapped frame.body := rfl
  rw [← same] at converted
  simp only [Controller.toTap, converted, bind, Except.bind, if_pos fits]
  rfl

end Frame

section Control

variable (frame : DataFrame .toDS) (controlLow controlHigh : UInt8)

/-- The fields of the frame behind another frame control. -/
def DataFrame.withControl (frame : DataFrame .toDS) (controlLow controlHigh : UInt8) : List UInt8 :=
  [controlLow, controlHigh] ++ frame.bytes.drop 2

theorem withControl_eq : frame.withControl controlLow controlHigh =
    ([controlLow, controlHigh] ++ ([frame.durationLow, frame.durationHigh] ++ (frame.BSSID.bytes ++
      (frame.SA.bytes ++ (frame.DA.bytes ++ [frame.seqLow, frame.seqHigh]))))) ++ frame.body := by
  simp [DataFrame.withControl, DataFrame.bytes, DataFrame.header, Direction.addresses]

theorem parseHdr_of_reads {program : MessageM CWFrameDataHdr} {front body : List UInt8}
    {hdr : CWFrameDataHdr} (reads : Reads program front hdr none) :
    parseHdr program (front ++ body) = .ok hdr := by
  rw [parseHdr, reads ⟨front ++ body, 0, none⟩ body rfl]

theorem parseHdr_toDS :
    parseHdr cw80211ParseDataFrameToDS (frame.withControl controlLow controlHigh) =
      .ok { frame.hdr with frameControl := ByteOrder.load [controlLow, controlHigh] } := by
  rw [withControl_eq]
  exact parseHdr_of_reads ((reads_short _ _).andThen ((reads_short _ _).andThen
    ((reads_addr frame.BSSID).andThen ((reads_addr frame.SA).andThen
      ((reads_addr frame.DA).andThen ((reads_short _ _).andReturn (reads_pure _)))))))

theorem length_withControl :
    (frame.withControl controlLow controlHigh).length = hlen80211 + frame.body.length := by
  rw [withControl_eq]
  simp only [List.length_append, List.length_cons, List.length_nil, EthAddr.length_bytes, ethALen,
    hlen80211]

theorem drop_withControl :
    (frame.withControl controlLow controlHigh).drop hlen80211 = frame.body := by
  rw [withControl_eq]
  apply List.drop_left'
  simp [ethALen, hlen80211]

end Control

/-! ## A run of the switch -/

namespace Controller

variable {ac : Controller} {WTPIndex : Nat} {frame : DataFrame .toDS}

theorem attempted_all {sends : Nat → Bool} (all : ∀ k, sends k) (k : Nat)
    (completeMsgPtr : List CWProtocolMessage) : attempted sends k completeMsgPtr = completeMsgPtr := by
  induction completeMsgPtr generalizing k with
  | nil => rfl
  | cons completeMsg rest inductionHypothesis => rw [attempted, if_pos (all k), inductionHypothesis]

/-- The buffer holds the frame with some transmitter. -/
def Buffered (frame : DataFrame .toDS) (buf80211 : List UInt8) : Prop :=
  ∃ BSSID, buf80211 = (frame.toBSS BSSID).bytes

/-- The calls for a BSS that can be served. -/
theorem run_sendTo {wlan : Wlan} (serves : ac.Serves WTPIndex frame.DA wlan) {s : Forwarding}
    (holds : Buffered frame s.buf80211) :
    ∃ s', (ac.sendTo (ac.pathMTUFor WTPIndex frame.DA wlan) wlan).run s = .ok () s' ∧
      Buffered frame s'.buf80211 ∧ s'.sent = s.sent ++ ac.callsAt WTPIndex frame (.bss wlan) := by
  obtain ⟨BSSID, held⟩ := holds
  obtain ⟨⟨dataSocket, address⟩, ready⟩ := Option.isSome_iff_exists.mp serves.ready
  obtain ⟨set, found⟩ := lookedUp_of_dataChannel ready s.dataSocket s.address
  have copied : copyTransmitter s.buf80211 wlan.BSSID = (frame.toBSS wlan.BSSID).bytes := by
    rw [held, copyTransmitter_toBSS]
  have assembled := assemble_frameOf ac.surroundings.gRADIO_MAC
    (ac.surroundings.fragmentID wlan) serves.room (frame.toBSS wlan.BSSID).bytes
  have memory : (!ac.surroundings.memory wlan) = false := by simp [serves.memory]
  have due : ac.callsAt WTPIndex frame (.bss wlan) =
      (attempted (ac.surroundings.sends wlan) 0 (ac.packetsFor WTPIndex frame wlan)).map
        fun completeMsg => ⟨wlan, dataSocket, address, completeMsg.contents⟩ := by
    rw [attempted_all serves.sends, callsAt, ready]
  refine ⟨⟨dataSocket, address, (frame.toBSS wlan.BSSID).bytes, _⟩, ?_, ⟨wlan.BSSID, rfl⟩, rfl⟩
  rw [due]
  simp only [sendTo, memory, Bool.false_eq_true, if_false, EStateM.run_bind, EStateM.run_modify,
    EStateM.run_get, copied, assembled]
  -- Whether or not an interface is found, the socket and the address are those of the data channel.
  cases interface : ac.interfaces.find? fun interface =>
      interface.sock = (ac.gWTPs wlan.indexWTP).socket with
  | none =>
    rw [lookedUp_none interface] at found
    cases found
    simp [EStateM.run_bind, set, run_sendFragments, packetsFor]
  | some interface' =>
    rw [lookedUp_some interface] at found
    cases found
    simp [EStateM.run_bind, set, run_sendFragments, packetsFor]

/-- One BSS after the other. -/
theorem run_forM_sendTo (wlans : List Wlan)
    (serves : ∀ wlan ∈ wlans, ac.Serves WTPIndex frame.DA wlan) {s : Forwarding}
    (holds : Buffered frame s.buf80211) :
    ∃ s', (wlans.forM fun wlan => ac.sendTo (ac.pathMTUFor WTPIndex frame.DA wlan) wlan).run s =
        .ok () s' ∧
      s'.sent = s.sent ++ wlans.flatMap fun wlan => ac.callsAt WTPIndex frame (.bss wlan) := by
  -- The BSSID that the buffer holds changes from WLAN to WLAN, the rest of the frame stays.
  induction wlans generalizing s with
  | nil => exact ⟨s, rfl, by simp⟩
  | cons wlan wlans inductionHypothesis =>
    obtain ⟨here, later⟩ := List.forall_mem_cons.mp serves
    obtain ⟨middle, first, holds', sent⟩ := run_sendTo here holds
    obtain ⟨last, rest, sent'⟩ := inductionHypothesis later holds'
    refine ⟨last, ?_, ?_⟩
    · show (do ac.sendTo (ac.pathMTUFor WTPIndex frame.DA wlan) wlan
               wlans.forM fun wlan => ac.sendTo (ac.pathMTUFor WTPIndex frame.DA wlan) wlan).run s = _
      rw [EStateM.run_bind, first]
      exact rest
    · rw [sent', sent, List.flatMap_cons, List.append_assoc]

/-- With all radios filled the loops come to WLANs only. -/
theorem visits_eq (ready : ac.Ready WTPIndex frame.DA) :
    visits ac.gMaxWTPs ac.gWTPs = ac.wlans.map .wlan := by
  have filled : ∀ visit ∈ visits ac.gMaxWTPs ac.gWTPs, ∃ wlan, visit = .wlan wlan := by
    intro visit member
    obtain ⟨indexWTP, inTable, member⟩ := List.mem_flatMap.mp member
    obtain ⟨indexRadio, inRadios, member⟩ := List.mem_flatMap.mp member
    have few := ready.filled indexWTP (List.mem_range.mp inTable)
    have count := (ac.gWTPs indexWTP).radiosInfo.filled
    have inside : indexRadio < (ac.gWTPs indexWTP).radiosInfo.radiosInfo.length := by
      rw [count, min_eq_left few]
      exact List.mem_range.mp inRadios
    rw [List.getElem?_eq_getElem inside] at member
    obtain ⟨indexWlan, _, known⟩ := List.mem_filterMap.mp member
    split at known
    · cases known
      exact ⟨_, rfl⟩
    · cases known
  rw [wlans]
  generalize visits ac.gMaxWTPs ac.gWTPs = all at filled ⊢
  induction all with
  | nil => rfl
  | cons visit all inductionHypothesis =>
    obtain ⟨⟨wlan, rfl⟩, rest⟩ := List.forall_mem_cons.mp filled
    exact congrArg (.wlan wlan :: ·) (inductionHypothesis rest)

/-- What is done at a visit. -/
def sendAt (ac : Controller) (pathMTU : Int) : Visit → ForwardingM Unit
  | .unfilled => throw .outside
  | .wlan wlan => ac.sendTo pathMTU wlan

theorem sendToRadio_eq (pathMTU : Int) (indexWTP indexRadio : Nat) (radio : CWWTPRadioInfoValues) :
    ac.sendToRadio pathMTU indexWTP indexRadio radio =
      (radioVisits indexWTP indexRadio radio).forM (ac.sendAt pathMTU) := by
  rw [radioVisits, forM_filterMap, sendToRadio]
  congr 1
  funext indexWlan
  cases (radio.interfaces indexWlan).typeInterface <;>
    cases (radio.interfaces indexWlan).BSSID <;> rfl

theorem sendToAll_eq (ready : ac.Ready WTPIndex frame.DA)
    (everybody : checkAddressBroadcast frame.DA = true) :
    ac.sendToAll WTPIndex =
      ac.wlans.forM fun wlan => ac.sendTo (ac.pathMTUFor WTPIndex frame.DA wlan) wlan := by
  have round (wlan : Wlan) : ac.pathMTUFor WTPIndex frame.DA wlan = (ac.gWTPs WTPIndex).pathMTU := by
    rw [pathMTUFor, if_pos everybody]
  have loops : ac.sendToAll WTPIndex =
      (visits ac.gMaxWTPs ac.gWTPs).forM (ac.sendAt (ac.gWTPs WTPIndex).pathMTU) := by
    rw [visits, forM_flatMap, sendToAll]
    congr 1
    funext indexWTP
    rw [forM_flatMap]
    congr 1
    funext indexRadio
    cases (ac.gWTPs indexWTP).radiosInfo.radiosInfo[indexRadio]? with
    | none => rfl
    | some radio => exact sendToRadio_eq _ indexWTP indexRadio radio
  rw [loops, visits_eq ready]
  simp only [round]
  exact List.forM_map

/-- The variables at the branch for the destination. -/
def atBranch (frame : DataFrame .toDS) : Forwarding :=
  ⟨0, ⟨none, none⟩, (frame.toBSS frame.BSSID).bytes, []⟩

/-- Whatever the frame control says, the destination decides. -/
theorem acEnterRunDataFrame_withControl (ac : Controller) (WTPIndex : Nat) (frame : DataFrame .toDS)
    (controlLow controlHigh : UInt8) :
    ac.acEnterRunDataFrame WTPIndex (frame.withControl controlLow controlHigh) =
      if checkAddressBroadcast frame.DA then do
        let frame8023 ← toTap (frame.withControl controlLow controlHigh)
        return ⟨some frame8023, (ac.sendToAll WTPIndex).run (atBranch frame)⟩
      else
        match avlFind frame.DA ac.avlTree with
        | none => do
          let frame8023 ← toTap (frame.withControl controlLow controlHigh)
          return ⟨some frame8023, .ok () (atBranch frame)⟩
        | some tmpNode => return ⟨none,
            (ac.sendTo (ac.gWTPs tmpNode.index.toNat).pathMTU
              ⟨tmpNode.index.toNat, 0, 0, tmpNode.BSSID⟩).run (atBranch frame)⟩ := by
  have parsed := parseHdr_toDS frame controlLow controlHigh
  have built : cw80211AssembleDataFrameHdr frame.hdr.SA frame.hdr.DA (some frame.hdr.BSSID)
      frame.hdr.seqCtrl 0 1 = some (.ok (filled (frame.forwarded .fromDS).header 0)) :=
    frame.reassemble_eq .fromDS
  have length := length_withControl frame controlLow controlHigh
  have count : ((frame.withControl controlLow controlHigh).length : Int) - hlen80211 =
      (frame.body.length : Nat) := by omega
  have body : frameBytes (frame.withControl controlLow controlHigh) hlen80211
      (frame.body.length : Nat) = .ok frame.body := by
    rw [frameBytes_of_le _ length.ge, drop_withControl, List.take_length]
  have addr : frameAddr frame.hdr.DA 0 = .ok frame.DA := frameAddr_bytes frame.DA
  simp only [acEnterRunDataFrame, parsed, built, count, body, addr, buffer_eq, bind, Except.bind]
  rfl

theorem acEnterRunDataFrame_eq (ac : Controller) (WTPIndex : Nat) (frame : DataFrame .toDS) :
    ac.acEnterRunDataFrame WTPIndex frame.bytes =
      if checkAddressBroadcast frame.DA then do
        let frame8023 ← toTap frame.bytes
        return ⟨some frame8023, (ac.sendToAll WTPIndex).run (atBranch frame)⟩
      else
        match avlFind frame.DA ac.avlTree with
        | none => do
          let frame8023 ← toTap frame.bytes
          return ⟨some frame8023, .ok () (atBranch frame)⟩
        | some tmpNode => return ⟨none,
            (ac.sendTo (ac.gWTPs tmpNode.index.toNat).pathMTU
              ⟨tmpNode.index.toNat, 0, 0, tmpNode.BSSID⟩).run (atBranch frame)⟩ :=
  acEnterRunDataFrame_withControl ac WTPIndex frame frame.controlLow frame.controlHigh

/-- The AC is a switch: every frame goes to its ports and nowhere else. -/
theorem run_switch (ready : ac.Ready WTPIndex frame.DA)
    (short : frame.bytes.length ≤ cwBufferSize)
    (carries : .wire ∈ ac.ports frame.DA → 8 ≤ frame.body.length) :
    ∃ switched, ac.acEnterRunDataFrame WTPIndex frame.bytes = .ok switched ∧
      switched.tap = (if .wire ∈ ac.ports frame.DA then some frame.toWire else none) ∧
      calls switched.result = (ac.ports frame.DA).flatMap (ac.callsAt WTPIndex frame) := by
  have holds : Buffered frame (atBranch frame).buf80211 := ⟨frame.BSSID, rfl⟩
  rw [acEnterRunDataFrame_eq]
  -- The ports are those of everybody, of nobody known here, or of one station.
  by_cases everybody : checkAddressBroadcast frame.DA = true
  · have ports_eq : ac.ports frame.DA = _ := ports_everybody everybody
    have tap := toTap_bytes frame (carries (by simp [ports_eq])) short
    have serves : ∀ wlan ∈ ac.wlans, ac.Serves WTPIndex frame.DA wlan := by
      intro wlan member
      exact ready.serves wlan (by simp [ports_eq, member])
    obtain ⟨s', ran, sent⟩ := run_forM_sendTo ac.wlans serves holds
    refine ⟨⟨some frame.toWire, .ok () s'⟩, ?_, ?_, ?_⟩
    · rw [if_pos everybody, tap, sendToAll_eq ready everybody, ran]
      rfl
    · simp [ports_eq]
    · simp [ports_eq, calls, sent, atBranch, callsAt, List.flatMap_map]
  · rw [if_neg everybody]
    cases found : avlFind frame.DA ac.avlTree with
    | none =>
      have ports_eq := ports_unknown everybody found
      have tap := toTap_bytes frame (carries (by simp [ports_eq])) short
      refine ⟨⟨some frame.toWire, .ok () (atBranch frame)⟩, ?_, ?_, ?_⟩
      · rw [tap]
        rfl
      · simp [ports_eq]
      · simp [ports_eq, calls, atBranch, callsAt]
    | some tmpNode =>
      have ports_eq := ports_station everybody found
      have serves := ready.serves ⟨tmpNode.index.toNat, 0, 0, tmpNode.BSSID⟩ (by simp [ports_eq])
      obtain ⟨s', ran, -, sent⟩ := run_sendTo serves holds
      have pathMTU : ac.pathMTUFor WTPIndex frame.DA ⟨tmpNode.index.toNat, 0, 0, tmpNode.BSSID⟩ =
          (ac.gWTPs tmpNode.index.toNat).pathMTU := by
        rw [pathMTUFor, if_neg everybody]
      rw [pathMTU] at ran
      refine ⟨⟨none, .ok () s'⟩, ?_, ?_, ?_⟩
      · simp only [ran]
        rfl
      · simp [ports_eq]
      · simp [ports_eq, calls, sent, atBranch]

end Controller

/-! ## At the two ends -/

/-- What the monitor interface puts in front of a frame. -/
structure Radiotap where
  bytes : List UInt8
  announced : itLen bytes = .ok bytes.length

theorem itLen_append {bytes : List UInt8} {length : Nat} (read : itLen bytes = .ok length)
    (rest : List UInt8) : itLen (bytes ++ rest) = .ok length := by
  have long : 4 ≤ bytes.length := by
    by_contra short
    have outside : frameByte bytes 3 = .error .outside := frameByte_outside (by omega)
    rw [itLen, outside] at read
    cases low : frameByte bytes 2 <;> simp [low, bind, Except.bind] at read
  have low : frameByte (bytes ++ rest) 2 = frameByte bytes 2 := by
    rw [frameByte, frameByte, List.getElem?_append_left (by omega)]
  have high : frameByte (bytes ++ rest) 3 = frameByte bytes 3 := by
    rw [frameByte, frameByte, List.getElem?_append_left (by omega)]
  rw [itLen, low, high]
  exact read

section Ends

variable {direction : Direction} (frame : DataFrame direction)

theorem parseHdr_control : parseHdr cw80211ParseFrameIEControl frame.bytes =
    .ok frame.frameControl := by
  have read := reads_short frame.controlLow frame.controlHigh ⟨frame.bytes, 0, none⟩
    (frame.bytes.drop 2) rfl
  rw [parseHdr, cw80211ParseFrameIEControl, read]
  rfl

/-- The WTP takes the frame if it is of the plain subtype and from a station of its tree. -/
theorem cwWTPReceiveFrame_eq (avlTree : StationTree) (radiotap : Radiotap)
    (frame : DataFrame .toDS) :
    cwWTPReceiveFrame avlTree (radiotap.bytes ++ frame.bytes) =
      .ok (if wlanFCGetStype frame.frameControl = wlanFCStypeData ∧ (avlFind frame.SA avlTree).isSome
        then some (frameOf frame.bytes) else none) := by
  have length := itLen_append radiotap.announced frame.bytes
  have behind : (radiotap.bytes ++ frame.bytes).drop radiotap.bytes.length = frame.bytes :=
    List.drop_left
  have parsed : parseHdr cw80211ParseDataFrameToDS frame.bytes = .ok frame.hdr :=
    parseHdr_bytes frame
  have data := frameControl_type frame
  -- The flag is a bit of the second byte, which the kind of the frame determines.
  have flag : toDSFlag frame.hdr.frameControl = true := by
    have bits : frame.frameControl / 256 % 4 = 1 := frameControl_bits frame
    have same : frame.hdr.frameControl = frame.frameControl := rfl
    rw [toDSFlag, same, decide_eq_true_iff]
    omega
  have addr : frameAddr frame.hdr.SA 0 = .ok frame.SA := frameAddr_bytes frame.SA
  have count : ((radiotap.bytes ++ frame.bytes).length : Int) - radiotap.bytes.length =
      (frame.bytes.length : Nat) := by
    rw [List.length_append]
    omega
  have bytes : frameBytes (radiotap.bytes ++ frame.bytes) radiotap.bytes.length
      (frame.bytes.length : Nat) = .ok frame.bytes := by
    rw [frameBytes_of_le _ (by rw [List.length_append]), List.drop_left, List.take_length]
  simp only [cwWTPReceiveFrame, length, behind, parseHdr_control, data, parsed, flag, addr, count,
    bytes, bind, Except.bind, ne_eq, not_true_eq_false, if_false, and_true]
  -- Frames of other subtypes are dropped before the station is looked for.
  by_cases plain : wlanFCGetStype frame.frameControl = wlanFCStypeData
  · have same : wlanFCGetStype frame.hdr.frameControl = wlanFCStypeData := plain
    rw [if_pos same]
    cases found : avlFind frame.SA avlTree with
    | none => simp [pure, Except.pure]
    | some node => simp [plain, pure, Except.pure]
  · have other : ¬ wlanFCGetStype frame.hdr.frameControl = wlanFCStypeData := plain
    rw [if_neg other, if_neg fun both => plain both.1]
    rfl

/-- A frame from the AC is injected if it is for everybody or for a station of the WTP's tree. -/
theorem cwWTPManageDataPacket_eq (avlTree : StationTree) (frame : DataFrame .fromDS) :
    cwWTPManageDataPacket avlTree frame.bytes =
      .ok (if checkAddressBroadcast frame.DA ∨ (avlFind frame.DA avlTree).isSome
        then some (rtapHdr ++ frame.bytes) else none) := by
  have parsed : parseHdr cw80211ParseDataFrameFromDS frame.bytes = .ok frame.hdr :=
    parseHdr_bytes frame
  have data := frameControl_type frame
  have addr : frameAddr frame.hdr.DA 0 = .ok frame.DA := frameAddr_bytes frame.DA
  have injected : cwInjectFrameMonitor frame.bytes = .ok (some (rtapHdr ++ frame.bytes)) := by
    have some : frame.bytes.length ≠ 0 := by
      rw [DataFrame.bytes, List.length_append, DataFrame.length_header]
      simp [hlen80211]
    simp only [cwInjectFrameMonitor, if_neg some, parsed, bind, Except.bind]
    rfl
  simp only [cwWTPManageDataPacket, parseHdr_control, data, parsed, addr, injected, bind, Except.bind,
    ne_eq, not_true_eq_false, if_false]
  by_cases everybody : checkAddressBroadcast frame.DA = true
  · simp [everybody]
  · cases found : avlFind frame.DA avlTree with
    | none => simp [everybody, pure, Except.pure]
    | some node => simp [everybody]

end Ends

/-! ## The whole way -/

/-- The way of a frame that WTP `WTPIndex` of the AC hears: to the AC, to the ports there, and at each
BSS to the stations, where the WTP of the BSS has the tree that is given for it. -/
structure Relayed (sender : AccessPoint) (ac : Controller) (WTPIndex : Nat)
    (receivers : Nat → StationTree) (radiotap : Radiotap) (frame : DataFrame .toDS) : Prop where
  heard : ∃ packets, sender.hears (radiotap.bytes ++ frame.bytes) = .ok packets ∧
    DeliversOnce packets frame.bytes .ieee80211Frame
  switched : ∃ switched, ac.acEnterRunDataFrame WTPIndex frame.bytes = .ok switched ∧
    switched.tap = (if .wire ∈ ac.ports frame.DA then some frame.toWire else none) ∧
    calls switched.result = (ac.ports frame.DA).flatMap (ac.callsAt WTPIndex frame)
  delivered : ∀ wlan, .bss wlan ∈ ac.ports frame.DA →
    DeliversOnce (ac.packetsFor WTPIndex frame wlan) (frame.toBSS wlan.BSSID).bytes .ieee80211Frame
  injected : ∀ wlan, .bss wlan ∈ ac.ports frame.DA →
    cwWTPManageDataPacket (receivers wlan.indexWTP) (frame.toBSS wlan.BSSID).bytes =
      .ok (if checkAddressBroadcast frame.DA ∨ (avlFind frame.DA (receivers wlan.indexWTP)).isSome
        then some (rtapHdr ++ (frame.toBSS wlan.BSSID).bytes) else none)

/-- Without packets there is no message. -/
theorem ne_nil_of_deliversOnce {packets : List CWProtocolMessage} {contents : List UInt8}
    {dataMsgType : CWDataMsgType} (delivers : DeliversOnce packets contents dataMsgType) :
    packets ≠ [] := by
  rintro rfl
  obtain ⟨results, message, receives, single, _⟩ :=
    delivers [] (by simp) (fun _ member => nomatch member)
  cases receives
  cases single

/-- Where everything that a frame needs is there, it goes its way exactly if it is of the plain
subtype and comes from a station of the WTP that hears it. -/
theorem relayed_iff {sender : AccessPoint} {ac : Controller} {WTPIndex : Nat}
    (receivers : Nat → StationTree) (radiotap : Radiotap) {frame : DataFrame .toDS}
    (short : frame.bytes.length ≤ cwBufferSize) (room : 24 ≤ sender.gWTPPathMTU)
    (sends : ∀ k, sender.sends k) (ready : ac.Ready WTPIndex frame.DA)
    (carries : .wire ∈ ac.ports frame.DA → 8 ≤ frame.body.length) :
    Relayed sender ac WTPIndex receivers radiotap frame ↔
      wlanFCGetStype frame.frameControl = wlanFCStypeData ∧
        (avlFind frame.SA sender.avlTree).isSome := by
  have taken := cwWTPReceiveFrame_eq sender.avlTree radiotap frame
  constructor
  · intro relayed
    by_contra refused
    obtain ⟨packets, heard, delivers⟩ := relayed.heard
    rw [if_neg refused] at taken
    simp only [AccessPoint.hears, taken, bind, Except.bind, pure, Except.pure] at heard
    cases heard
    exact ne_nil_of_deliversOnce delivers rfl
  · intro accepted
    rw [if_pos accepted] at taken
    have inhabited := length_bytes_pos frame
    refine ⟨⟨_, ?_, deliversOnce_dataPackets sender.gRADIO_MAC sender.fragmentID room inhabited
      short⟩, Controller.run_switch ready short carries, ?_, ?_⟩
    · simp only [AccessPoint.hears, taken, cwWTPCheckForBindingFrame,
        assemble_frameOf sender.gRADIO_MAC sender.fragmentID room, bind, Except.bind, pure,
        Except.pure, Controller.attempted_all sends]
    · intro wlan member
      have length := length_toBSS frame wlan.BSSID
      exact deliversOnce_dataPackets _ _ (ready.serves wlan member).room (length ▸ inhabited)
        (length ▸ short)
    · intro wlan _
      exact cwWTPManageDataPacket_eq (receivers wlan.indexWTP) (frame.toBSS wlan.BSSID)

/-- An AC with one session, which has one station. -/
def oneSession : Controller where
  surroundings := ⟨noRadioMAC, fun _ => true, fun _ => 0, fun _ _ => true⟩
  interfaces := [⟨1, 2⟩]
  gMaxWTPs := 1
  gWTPs := fun _ => ⟨true, 1, .inet 1 1, 1500, ⟨0, [], rfl⟩⟩
  avlTree := EthernetFrame.associated someAddr

theorem ports_oneSession : oneSession.ports someAddr = [.bss ⟨0, 0, 0, someAddr⟩] := by
  have station : stationIndex oneSession.avlTree someAddr = some ⟨0, 0, someAddr, someAddr⟩ := by
    simp [stationIndex, oneSession, EthernetFrame.associated, avlFind]
  have single : checkAddressBroadcast someAddr = false := by decide
  simp [Controller.ports, single, station]

theorem ready_oneSession : oneSession.Ready 0 someAddr where
  serves wlan member := by
    rw [ports_oneSession, List.mem_singleton] at member
    cases member
    refine ⟨rfl, by decide, ?_, fun _ => rfl⟩
    simp [Controller.pathMTUFor, oneSession]
  filled _ _ := Nat.zero_le _

/-- The station sends a frame to itself. -/
theorem relayed_oneSession :
    Relayed ⟨noRadioMAC, 1500, fun _ => true, 0, EthernetFrame.associated someAddr⟩ oneSession 0
      (fun _ => EthernetFrame.associated someAddr) ⟨[0, 0, 8, 0, 0, 0, 0, 0], rfl⟩
      (EthernetFrame.fromStation someAddr) := by
  have length : (EthernetFrame.fromStation someAddr).bytes.length = 24 :=
    (EthernetFrame.fromStation someAddr).length_header
  have ports : oneSession.ports (EthernetFrame.fromStation someAddr).DA = _ := ports_oneSession
  apply (relayed_iff _ _ _ _ _ ready_oneSession _).mpr
  · exact ⟨by decide, by decide⟩
  · rw [length]
    simp [cwBufferSize]
  · exact (by decide : (24 : Int) ≤ 1500)
  · exact fun _ => rfl
  · intro wired
    simp [ports] at wired

/-! ## From the tap -/

/-- The 802.11 frame for an Ethernet frame. -/
def EthernetFrame.toBSS (frame : EthernetFrame) (BSSID : EthAddr) : DataFrame .fromDS :=
  { outgoing BSSID frame.SA frame.DA with body := frame.body }

/-- The way of a frame that is read from the tap, to the station that it is for. -/
structure FromWire (ac : Controller) (receivers : Nat → StationTree) (frame : EthernetFrame)
    (station : Station) : Prop where
  sent : ∃ result dataSocket address packets,
    forwardTap ac.surroundings ac.interfaces ac.gMaxWTPs ac.gWTPs ac.avlTree frame.bytes =
      some result ∧
    dataChannel ac.interfaces (ac.gWTPs station.index.toNat) = some (dataSocket, address) ∧
    calls result = packets.map (fun completeMsg =>
      ⟨⟨station.index.toNat, 0, 0, broadcastAddr⟩, dataSocket, address, completeMsg.contents⟩) ∧
    DeliversOnce packets (frame.toBSS station.BSSID).bytes .ieee80211Frame
  injected : cwWTPManageDataPacket (receivers station.index.toNat) (frame.toBSS station.BSSID).bytes =
    .ok (if (avlFind frame.DA (receivers station.index.toNat)).isSome
      then some (rtapHdr ++ (frame.toBSS station.BSSID).bytes) else none)

theorem EthernetFrame.toBSS_bytes (frame : EthernetFrame) (BSSID : EthAddr) :
    (frame.toBSS BSSID).bytes = (outgoing BSSID frame.SA frame.DA).header ++
      wrapped (256 * frame.high.toNat + frame.low.toNat) frame.bytes := by
  rw [frame.field_eq]
  rfl

/-- The calls for a session whose data channel is ready. -/
theorem run_forwardFrame {surroundings : Surroundings} {interfaces : List CWMultiHomedInterface}
    {slot : DataSlot} {wlan : Wlan} (memory : surroundings.memory wlan = true)
    (sends : ∀ k, surroundings.sends wlan k) (room : 24 ≤ slot.pathMTU) {dataSocket : Nat}
    {address : AddressVariable} (ready : dataChannel interfaces slot = some (dataSocket, address))
    (s : Forwarding) :
    (forwardFrame surroundings interfaces slot wlan).run s = .ok () ⟨dataSocket, address, s.buf80211,
      s.sent ++ (dataPackets surroundings.gRADIO_MAC (dataCut slot.pathMTU s.buf80211.length)
        (.ieee80211Frame none) 1 cwPacketPlain (surroundings.fragmentID wlan) s.buf80211).map
          fun completeMsg => ⟨wlan, dataSocket, address, completeMsg.contents⟩⟩ := by
  obtain ⟨set, found⟩ := lookedUp_of_dataChannel ready s.dataSocket s.address
  have assembled : assembleFor surroundings wlan slot.pathMTU s.buf80211 =
      some (dataPackets surroundings.gRADIO_MAC (dataCut slot.pathMTU s.buf80211.length)
        (.ieee80211Frame none) 1 cwPacketPlain (surroundings.fragmentID wlan) s.buf80211) := by
    rw [assembleFor, if_pos memory, assemble_frameOf _ _ room]
    rfl
  simp only [forwardFrame, EStateM.run_bind, EStateM.run_get, assembled]
  cases interface : interfaces.find? fun interface => interface.sock = slot.socket with
  | none =>
    rw [lookedUp_none interface] at found
    cases found
    simp [EStateM.run_bind, set, run_sendFragments, Controller.attempted_all sends]
  | some interface' =>
    rw [lookedUp_some interface] at found
    cases found
    simp [EStateM.run_bind, set, run_sendFragments, Controller.attempted_all sends]

/-- A frame from the tap for a station goes to the WTP of the BSS that the station is recorded at,
and to nobody if there is no such record. -/
theorem fromWire_of_recorded (ac : Controller) (receivers : Nat → StationTree)
    (frame : EthernetFrame) (single : checkAddressBroadcast frame.DA = false)
    (short : ∀ BSSID, (frame.toBSS BSSID).bytes.length ≤ cwBufferSize)
    (ready : ∀ station, stationIndex ac.avlTree frame.DA = some station →
      0 ≤ station.index ∧ ac.Serves 0 frame.DA ⟨station.index.toNat, 0, 0, broadcastAddr⟩) :
    (∀ station, stationIndex ac.avlTree frame.DA = some station →
      FromWire ac receivers frame station) ∧
    (stationIndex ac.avlTree frame.DA = none → ∃ result,
      forwardTap ac.surroundings ac.interfaces ac.gMaxWTPs ac.gWTPs ac.avlTree frame.bytes =
        some result ∧ calls result = []) := by
  have first := frame.frameAddr_DA
  have second := frame.frameAddr_SA
  constructor
  · intro station recorded
    obtain ⟨tmpNode, found, rfl⟩ := Option.map_eq_some_iff.mp recorded
    have destination : destinationBSS ac.avlTree frame.DA = some (tmpNode.BSSID, tmpNode.index) := by
      rw [destinationBSS, single]
      simp [found]
    obtain ⟨positive, serves⟩ := ready tmpNode.toStation recorded
    obtain ⟨⟨dataSocket, address⟩, channel⟩ := Option.isSome_iff_exists.mp serves.ready
    have room : 24 ≤ (ac.gWTPs tmpNode.index.toNat).pathMTU := by
      have room := serves.room
      rwa [Controller.pathMTUFor, single] at room
    have long : ethHlen ≤ frame.bytes.length := by
      rw [EthernetFrame.length_bytes]
      exact Nat.le_add_right 14 _
    have converted := cwConvertDataFrame8023To80211_known long first second destination
      frame.frameByte_high frame.frameByte_low
    rw [← EthernetFrame.toBSS_bytes] at converted
    -- An index of -1 stands for a frame to everybody.
    have station : tmpNode.index ≠ -1 := by
      intro negative
      rw [negative] at positive
      cases positive
    have ran := run_forwardFrame serves.memory serves.sends room channel
      ⟨0, ⟨none, none⟩, (frame.toBSS tmpNode.BSSID).bytes, []⟩
    -- The header is there even if the payload is not, so there is a first fragment.
    have inhabited : 0 < (frame.toBSS tmpNode.BSSID).bytes.length := by
      rw [DataFrame.bytes, List.length_append, DataFrame.length_header]
      exact Nat.add_pos_left (by simp [hlen80211]) _
    have delivers := deliversOnce_dataPackets ac.surroundings.gRADIO_MAC
      (ac.surroundings.fragmentID ⟨tmpNode.index.toNat, 0, 0, broadcastAddr⟩) room inhabited
      (short tmpNode.BSSID)
    refine ⟨⟨(forwardFrame ac.surroundings ac.interfaces (ac.gWTPs tmpNode.index.toNat)
      ⟨tmpNode.index.toNat, 0, 0, broadcastAddr⟩).run
        ⟨0, ⟨none, none⟩, (frame.toBSS tmpNode.BSSID).bytes, []⟩, dataSocket, address, _, ?_, channel,
      ?_, delivers⟩, ?_⟩
    · simp only [forwardTap, converted, if_neg station]
    · rw [ran]
      rfl
    · have injected := cwWTPManageDataPacket_eq (receivers tmpNode.index.toNat)
        (frame.toBSS tmpNode.BSSID)
      have same : (frame.toBSS tmpNode.BSSID).DA = frame.DA := rfl
      rw [same, single] at injected
      simpa using injected
  · intro unknown
    have absent : avlFind frame.DA ac.avlTree = none := Option.map_eq_none_iff.mp unknown
    have destination : destinationBSS ac.avlTree frame.DA = none := by
      rw [destinationBSS, single]
      simp [absent]
    have converted := cwConvertDataFrame8023To80211_unknown first second destination
    exact ⟨_, by rw [forwardTap, converted], rfl⟩

/-- A frame from the tap for the station of the one session. -/
theorem fromWire_oneSession :
    FromWire oneSession (fun _ => EthernetFrame.associated someAddr) snapFrame
      ⟨0, 0, someAddr, someAddr⟩ := by
  have station : stationIndex oneSession.avlTree snapFrame.DA = some ⟨0, 0, someAddr, someAddr⟩ := by
    simp [stationIndex, oneSession, EthernetFrame.associated, avlFind, snapFrame]
  refine (fromWire_of_recorded _ _ _ (by decide) ?_ ?_).1 _ station
  · intro BSSID
    have body : snapFrame.body = snapFrame.payload := snapFrame.body_plain (by decide)
    have same : (snapFrame.toBSS BSSID).body = snapFrame.payload := body
    rw [DataFrame.bytes, List.length_append, DataFrame.length_header, same]
    simp [snapFrame, cwBufferSize, hlen80211]
  · intro station' recorded
    rw [station] at recorded
    cases recorded
    refine ⟨le_refl 0, rfl, by decide, ?_, fun _ => rfl⟩
    simp [Controller.pathMTUFor, oneSession]

end WlanController.Frames
