import WlanController.Frames.BroadcastDelivery
import WlanController.Settings.ConfigFile

/-!
# Data frames between the stations

The way of a data frame in split-MAC mode: a WTP hears it on its monitor interface and passes it
on, the AC sends it to the WTP of the station that it is for, to all of them or to the tap, and
there it is injected.  Each of the three looks for a station in a tree of its own.
-/

namespace WlanController.Frames

open Admission Protocol Radios Settings Stations

/-! ## From the air -/

/-- `WLAN_FC_GET_STYPE`. -/
def wlanFCGetStype (frameControl : Nat) : Nat := frameControl / 16 % 16

/-- `frameControl & IEEE80211_FCTL_TODS`. -/
def toDSFlag (frameControl : Nat) : Bool := frameControl / 256 % 2 = 1

/-- `it_len` of `struct ieee80211_radiotap_header`. -/
def itLen (buffer : List UInt8) : FrameM Nat := do
  let low ← frameByte buffer 2
  let high ← frameByte buffer 3
  return ByteOrder.load [low, high]

/-- The header of a frame, by one of the parsers. -/
def parseHdr {α : Type} (parser : MessageM α) (frame : List UInt8) : FrameM α :=
  match parser.run ⟨frame, 0, none⟩ with
  | .ok value _ => .ok value
  | .error _ _ => .error .outside

/-- One round of the loop, for a frame that has been received in run state: the element for
`gFrameList`. -/
def cwWTPReceiveFrame (avlTree : StationTree) (buffer : List UInt8) :
    FrameM (Option CWProtocolMessage) := do
  let length ← itLen buffer
  let frameControl ← parseHdr cw80211ParseFrameIEControl (buffer.drop length)
  if wlanFCGetType frameControl ≠ wlanFCTypeData then return none
  let dataFrame ← parseHdr cw80211ParseDataFrameToDS (buffer.drop length)
  if wlanFCGetStype dataFrame.frameControl = wlanFCStypeData ∧ toDSFlag dataFrame.frameControl then
    let SA ← frameAddr dataFrame.SA 0
    match avlFind SA avlTree with
    | none => return none
    | some _ =>
      let encapsLen : Int := buffer.length - length
      let frame ← frameBytes buffer length encapsLen
      return some (frameOf frame)
  else return none

/-- An element of `gFrameList` on its way to the AC: the packets that are sent. -/
def cwWTPCheckForBindingFrame (gRADIO_MAC : EthAddr) (gWTPPathMTU : Int) (sends : Nat → Bool)
    (fragmentID : Nat) (frame : CWProtocolMessage) : List CWProtocolMessage :=
  match cwAssembleDataMessage gRADIO_MAC gWTPPathMTU frame none cwPacketPlain 0 fragmentID with
  | .error _ => []
  | .ok completeMsgPtr => attempted sends 0 completeMsgPtr

/-- A WTP, as far as the frames of its stations go through it. -/
structure AccessPoint where
  gRADIO_MAC : EthAddr
  gWTPPathMTU : Int
  sends : Nat → Bool
  fragmentID : Nat
  avlTree : StationTree

/-- The packets that go to the AC for what is received on the monitor interface. -/
def AccessPoint.hears (wtp : AccessPoint) (buffer : List UInt8) :
    FrameM (List CWProtocolMessage) := do
  match ← cwWTPReceiveFrame wtp.avlTree buffer with
  | none => return []
  | some frame =>
    return cwWTPCheckForBindingFrame wtp.gRADIO_MAC wtp.gWTPPathMTU wtp.sends wtp.fragmentID frame

/-! ## On the AC -/

/-- What the branch for data frames uses. -/
structure Controller where
  surroundings : Surroundings
  interfaces : List CWMultiHomedInterface
  gMaxWTPs : Nat
  gWTPs : Nat → DataSlot
  avlTree : StationTree

/-- What is written to the tap, and how the sending has ended. -/
structure Switched where
  tap : Option (List UInt8)
  result : EStateM.Result Leaving Forwarding Unit

namespace Controller

variable (ac : Controller)

/-- The statements for a WLAN that the frame goes to.  Where there is no memory for the frame the
function returns; fragments that have not been assembled are sent all the same. -/
def sendTo (pathMTU : Int) (wlan : Wlan) : ForwardingM Unit := do
  if !ac.surroundings.memory wlan then throw .afterTap
  modify fun s => { s with buf80211 := copyTransmitter s.buf80211 wlan.BSSID }
  match cwAssembleDataMessage ac.surroundings.gRADIO_MAC pathMTU (frameOf (← get).buf80211) none
      cwPacketPlain 0 (ac.surroundings.fragmentID wlan) with
  | .error _ => throw .outside
  | .ok completeMsgPtr => do
    match ac.interfaces.find? fun interface =>
        interface.sock = (ac.gWTPs wlan.indexWTP).socket with
    | some interface =>
      modify fun s => { s with
        dataSocket := interface.dataSock
        address := sockCpyAddrPort s.address (ac.gWTPs wlan.indexWTP).dataaddress }
    | none => pure ()
    if (← get).dataSocket = 0 then throw .afterTap
    sendFragments wlan (ac.surroundings.sends wlan) 0 completeMsgPtr

def sendToRadio (pathMTU : Int) (indexWTP indexRadio : Nat) (radio : CWWTPRadioInfoValues) :
    ForwardingM Unit :=
  (List.finRange wtpMaxInterfaces).forM fun indexWlan =>
    match (radio.interfaces indexWlan).typeInterface, (radio.interfaces indexWlan).BSSID with
    | .cwAPMode, some BSSID => ac.sendTo pathMTU ⟨indexWTP, indexRadio, indexWlan, BSSID⟩
    | _, _ => pure ()

/-- The loops over the table, for a frame that has come in from WTP `WTPIndex`: its path MTU is
used for all of them. -/
def sendToAll (WTPIndex : Nat) : ForwardingM Unit :=
  (List.range ac.gMaxWTPs).forM fun indexWTP =>
    (List.range (ac.gWTPs indexWTP).radiosInfo.radioCount).forM fun indexRadio =>
      match (ac.gWTPs indexWTP).radiosInfo.radiosInfo[indexRadio]? with
      | none => throw .outside
      | some radio => ac.sendToRadio (ac.gWTPs WTPIndex).pathMTU indexWTP indexRadio radio

/-- `frame8023` has room for `CW_BUFFER_SIZE` bytes. -/
def toTap (msg : List UInt8) : FrameM (List UInt8) := do
  let frame8023 ← cwConvertDataFrame80211To8023 msg
  if frame8023.length ≤ cwBufferSize then return frame8023 else throw .outside

/-- The branch of `ACEnterRun` for 802.11 data frames, under `SPLIT_MAC`. -/
def acEnterRunDataFrame (WTPIndex : Nat) (msg : List UInt8) : FrameM Switched := do
  let dataFrame ← parseHdr cw80211ParseDataFrameToDS msg
  match cw80211AssembleDataFrameHdr dataFrame.SA dataFrame.DA (some dataFrame.BSSID)
      dataFrame.seqCtrl 0 1 with
  | some (.ok dataHdr) =>
    let body ← frameBytes msg hlen80211 (msg.length - hlen80211)
    let start : Forwarding := ⟨0, ⟨none, none⟩, dataHdr.msg.take hlen80211 ++ body, []⟩
    let DA ← frameAddr dataFrame.DA 0
    if checkAddressBroadcast DA then
      let frame8023 ← toTap msg
      return ⟨some frame8023, (ac.sendToAll WTPIndex).run start⟩
    else
      match avlFind DA ac.avlTree with
      | none =>
        let frame8023 ← toTap msg
        return ⟨some frame8023, .ok () start⟩
      | some tmpNode =>
        let indexWTP := tmpNode.index.toNat
        return ⟨none, (ac.sendTo (ac.gWTPs indexWTP).pathMTU ⟨indexWTP, 0, 0, tmpNode.BSSID⟩).run
          start⟩
  | _ => throw .null

end Controller

/-! ## To the air -/

def rtapHdr : List UInt8 :=
  [0x00, 0x00, 0x0b, 0x00, 0x04, 0x0c, 0x00, 0x00, 0x24, 0x1b, 0x03]

/-- The bytes that are given to `sendmsg`. -/
def cwInjectFrameMonitor (data : List UInt8) : FrameM (Option (List UInt8)) := do
  if data.length = 0 then return none
  let _ ← parseHdr cw80211ParseDataFrameFromDS data
  return some (rtapHdr ++ data)

/-- What is injected of an 802.11 frame from the AC. -/
def cwWTPManageDataPacket (avlTree : StationTree) (msg : List UInt8) :
    FrameM (Option (List UInt8)) := do
  let frameControl ← parseHdr cw80211ParseFrameIEControl msg
  if wlanFCGetType frameControl ≠ wlanFCTypeData then return none
  let dataFrame ← parseHdr cw80211ParseDataFrameFromDS msg
  let DA ← frameAddr dataFrame.DA 0
  if checkAddressBroadcast DA then cwInjectFrameMonitor msg
  else
    match avlFind DA avlTree with
    | none => return none
    | some _ => cwInjectFrameMonitor msg

end WlanController.Frames
