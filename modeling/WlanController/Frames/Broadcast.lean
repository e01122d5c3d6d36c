import WlanController.Admission.SessionTable
import WlanController.Frames.Tunnel
import WlanController.Protocol.Assembly
import WlanController.Radios.RadiosInfo

/-!
# Frames from the tap of the AC

A frame for everybody goes out once for each WLAN of each session.  Three loops over the table share
a buffer for the frame, a data socket and an address, and what goes wrong for one WLAN ends all of
them.
-/

namespace WlanController.Frames

open Admission Protocol Radios Stations

/-! ## The table -/

/-- `CWMultiHomedInterface`, as far as a frame is sent through it. -/
structure CWMultiHomedInterface where
  sock : Nat
  dataSock : Nat
  deriving DecidableEq, Repr

/-- What the loops read of an entry of `gWTPs`. -/
structure DataSlot where
  isNotFree : Bool
  socket : Nat
  dataaddress : CWNetworkLev4Address
  pathMTU : Int
  radiosInfo : CWWTPRadiosInfo

inductive AddressFamily where
  | unspec | inet | other
  deriving DecidableEq, Repr

/-- The variable for an address, with `none` for what nothing has been written to. -/
structure AddressVariable where
  saFamily : Option AddressFamily
  sin : Option (UInt32 × UInt16)
  deriving DecidableEq, Repr

/-- Nothing but the family is copied of an address that is not one of IPv4. -/
def sockCpyAddrPort (sa1 : AddressVariable) : CWNetworkLev4Address → AddressVariable
  | .unspec => { sa1 with saFamily := some .unspec }
  | .other => { sa1 with saFamily := some .other }
  | .inet sinAddr sinPort => ⟨some .inet, some (sinAddr, sinPort)⟩

/-- A WLAN that the loops come to: the indices and the BSSID. -/
structure Wlan where
  indexWTP : Nat
  indexRadio : Nat
  indexWlan : Nat
  BSSID : EthAddr
  deriving DecidableEq

/-- What the table does not determine: whether there is memory for the frame of a WLAN and the
message with it, the identifier of its fragments, and whether the network takes fragment `k`. -/
structure Surroundings where
  gRADIO_MAC : EthAddr
  memory : Wlan → Bool
  fragmentID : Wlan → Nat
  sends : Wlan → (k : Nat) → Bool

/-- A call of `CWNetworkSendUnsafeUnconnected`, with the WLAN that it is made for. -/
structure Sending where
  wlan : Wlan
  dataSocket : Nat
  address : AddressVariable
  msg : List UInt8
  deriving DecidableEq

/-- The variables that the loops share, and the calls so far. -/
structure Forwarding where
  dataSocket : Nat
  address : AddressVariable
  buf80211 : List UInt8
  sent : List Sending

/-- How the loops are left before their end. -/
inductive Leaving where
  /-- `goto after_tap`, or a `return` of the function -/
  | afterTap
  /-- An element of `radiosInfo` is used that has not been filled. -/
  | outside
  deriving DecidableEq, Repr

abbrev ForwardingM := EStateM Leaving Forwarding

/-! ## The loops -/

/-- Where the transmitter address is in a frame from the distribution system. -/
def transmitterOffset : Nat := 2 + 2 + ethALen

def copyTransmitter (buf80211 : List UInt8) (BSSID : EthAddr) : List UInt8 :=
  buf80211.take transmitterOffset ++
    (BSSID.bytes ++ buf80211.drop (transmitterOffset + ethALen))

/-- The loop over the fragments, from fragment `k` on. -/
def sendFragments (wlan : Wlan) (sends : Nat → Bool) (k : Nat) :
    List CWProtocolMessage → ForwardingM Unit
  | [] => return ()
  | completeMsg :: rest => do
    modify fun s => { s with
      sent := s.sent ++ [⟨wlan, s.dataSocket, s.address, completeMsg.contents⟩] }
    if sends k then sendFragments wlan sends (k + 1) rest

/-- The frame as it is in the buffer. -/
def frameOf (buf80211 : List UInt8) : CWProtocolMessage :=
  ⟨buf80211, buf80211.length, some .ieee80211Frame⟩

/-- A frame and its message, where there is memory for them. -/
def assembleFor (surroundings : Surroundings) (wlan : Wlan) (pathMTU : Int)
    (buf80211 : List UInt8) : Option (List CWProtocolMessage) :=
  if surroundings.memory wlan then
    (cwAssembleDataMessage surroundings.gRADIO_MAC pathMTU (frameOf buf80211) none cwPacketPlain 0
      (surroundings.fragmentID wlan)).toOption
  else none

/-- What is done with a frame, once it is in the buffer. -/
def forwardFrame (surroundings : Surroundings) (interfaces : List CWMultiHomedInterface)
    (slot : DataSlot) (wlan : Wlan) : ForwardingM Unit := do
  match assembleFor surroundings wlan slot.pathMTU (← get).buf80211 with
  | none => throw .afterTap
  | some completeMsgPtr => do
    match interfaces.find? fun interface => interface.sock = slot.socket with
    | some interface =>
      modify fun s => { s with
        dataSocket := interface.dataSock
        address := sockCpyAddrPort s.address slot.dataaddress }
    -- the variables keep what they had
    | none => pure ()
    if (← get).dataSocket = 0 then throw .afterTap
    sendFragments wlan (surroundings.sends wlan) 0 completeMsgPtr

/-- The round for a WLAN in AP mode that has a BSSID. -/
def forwardTo (surroundings : Surroundings) (interfaces : List CWMultiHomedInterface)
    (slot : DataSlot) (wlan : Wlan) : ForwardingM Unit := do
  modify fun s => { s with buf80211 := copyTransmitter s.buf80211 wlan.BSSID }
  forwardFrame surroundings interfaces slot wlan

def forwardRadio (surroundings : Surroundings) (interfaces : List CWMultiHomedInterface)
    (slot : DataSlot) (indexWTP indexRadio : Nat) (radio : CWWTPRadioInfoValues) :
    ForwardingM Unit :=
  (List.finRange wtpMaxInterfaces).forM fun indexWlan =>
    match (radio.interfaces indexWlan).typeInterface, (radio.interfaces indexWlan).BSSID with
    | .cwAPMode, some BSSID =>
      forwardTo surroundings interfaces slot ⟨indexWTP, indexRadio, indexWlan, BSSID⟩
    | _, _ => pure ()

/-- The loops over the table. -/
def forwardBroadcast (surroundings : Surroundings) (interfaces : List CWMultiHomedInterface)
    (gMaxWTPs : Nat) (gWTPs : Nat → DataSlot) : ForwardingM Unit :=
  (List.range gMaxWTPs).forM fun indexWTP =>
    (List.range (gWTPs indexWTP).radiosInfo.radioCount).forM fun indexRadio =>
      match (gWTPs indexWTP).radiosInfo.radiosInfo[indexRadio]? with
      | none => throw .outside
      | some radio =>
        forwardRadio surroundings interfaces (gWTPs indexWTP) indexWTP indexRadio radio

/-- A frame that is read from the tap: the way the loops are left and the calls, and `none` where
the conversion leaves its buffers. -/
def forwardTap (surroundings : Surroundings) (interfaces : List CWMultiHomedInterface)
    (gMaxWTPs : Nat) (gWTPs : Nat → DataSlot) (avlTree : StationTree) (buf : List UInt8) :
    Option (EStateM.Result Leaving Forwarding Unit) :=
  match cwConvertDataFrame8023To80211 avlTree buf with
  | .error _ => none
  | .ok none => some (.error .afterTap ⟨0, ⟨none, none⟩, [], []⟩)
  | .ok (some converted) =>
    let start : Forwarding := ⟨0, ⟨none, none⟩, converted.outbuffer, []⟩
    if converted.WTPIndex = -1 then
      some ((forwardBroadcast surroundings interfaces gMaxWTPs gWTPs).run start)
    else
      some ((forwardFrame surroundings interfaces (gWTPs converted.WTPIndex.toNat)
        ⟨converted.WTPIndex.toNat, 0, 0, broadcastAddr⟩).run start)

/-! ## What a broadcast is for -/

/-- A frame for everybody, with whatever is in its type or length field. -/
structure BroadcastFrame where
  SA : EthAddr
  high : UInt8
  low : UInt8
  payload : List UInt8

namespace BroadcastFrame

def bytes (frame : BroadcastFrame) : List UInt8 :=
  broadcastAddr.bytes ++ (frame.SA.bytes ++ (frame.high :: frame.low :: frame.payload))

/-- What the frame carries on to the stations. -/
def body (frame : BroadcastFrame) : List UInt8 :=
  wrapped (256 * frame.high.toNat + frame.low.toNat) frame.bytes

/-- The 802.11 frame with this transmitter. -/
def converted (frame : BroadcastFrame) (BSSID : EthAddr) : List UInt8 :=
  (outgoing BSSID frame.SA broadcastAddr).header ++ frame.body

end BroadcastFrame

/-- What the loops come to: a WLAN in AP mode with a BSSID, or a radio that has not been filled. -/
inductive Visit where
  | wlan (wlan : Wlan)
  | unfilled

def radioVisits (indexWTP indexRadio : Nat) (radio : CWWTPRadioInfoValues) : List Visit :=
  (List.finRange wtpMaxInterfaces).filterMap fun indexWlan =>
    match (radio.interfaces indexWlan).typeInterface, (radio.interfaces indexWlan).BSSID with
    | .cwAPMode, some BSSID => some (.wlan ⟨indexWTP, indexRadio, indexWlan, BSSID⟩)
    | _, _ => none

def visits (gMaxWTPs : Nat) (gWTPs : Nat → DataSlot) : List Visit :=
  (List.range gMaxWTPs).flatMap fun indexWTP =>
    (List.range (gWTPs indexWTP).radiosInfo.radioCount).flatMap fun indexRadio =>
      match (gWTPs indexWTP).radiosInfo.radiosInfo[indexRadio]? with
      | none => [.unfilled]
      | some radio => radioVisits indexWTP indexRadio radio

/-- The data socket and the data address of a session whose data channel is ready: the interface on
which the session is has a data socket, and a packet has come in from the WTP's data address. -/
def dataChannel (interfaces : List CWMultiHomedInterface) (slot : DataSlot) :
    Option (Nat × AddressVariable) :=
  match interfaces.find? fun interface => interface.sock = slot.socket, slot.dataaddress with
  | some interface, .inet sinAddr sinPort =>
    if interface.dataSock = 0 then none
    else some (interface.dataSock, ⟨some .inet, some (sinAddr, sinPort)⟩)
  | _, _ => none

/-- The messages up to the first that the network does not take. -/
def attempted (sends : Nat → Bool) (k : Nat) : List CWProtocolMessage → List CWProtocolMessage
  | [] => []
  | completeMsg :: rest => completeMsg :: if sends k then attempted sends (k + 1) rest else []

section Table

variable (surroundings : Surroundings) (interfaces : List CWMultiHomedInterface)
  (gWTPs : Nat → DataSlot) (frame : BroadcastFrame)

/-- The fragments of the frame for a WLAN. -/
def fragmentsFor (wlan : Wlan) : Option (List CWProtocolMessage) :=
  assembleFor surroundings wlan (gWTPs wlan.indexWTP).pathMTU (frame.converted wlan.BSSID)

/-- The calls that are due for a WLAN: those of a live session whose data channel is ready, if its
frame can be assembled. -/
def due : Visit → List Sending
  | .unfilled => []
  | .wlan wlan =>
    if (gWTPs wlan.indexWTP).isNotFree then
      match dataChannel interfaces (gWTPs wlan.indexWTP),
          fragmentsFor surroundings gWTPs frame wlan with
      | some (dataSocket, address), some completeMsgPtr =>
        (attempted (surroundings.sends wlan) 0 completeMsgPtr).map fun completeMsg =>
          ⟨wlan, dataSocket, address, completeMsg.contents⟩
      | _, _ => []
    else []

end Table

/-- The calls of a run, however it has ended. -/
def calls : EStateM.Result Leaving Forwarding Unit → List Sending
  | .ok _ s => s.sent
  | .error _ s => s.sent

/-- The run does not use an element that has not been filled. -/
def RunsInside : EStateM.Result Leaving Forwarding Unit → Prop
  | .ok _ _ => True
  | .error leaving _ => leaving ≠ .outside

/-- The frame is sent for each WLAN for which it is due, and there are no other calls. -/
def Distributed (surroundings : Surroundings) (interfaces : List CWMultiHomedInterface)
    (gMaxWTPs : Nat) (gWTPs : Nat → DataSlot) (avlTree : StationTree) (frame : BroadcastFrame) :
    Prop :=
  ∃ result, forwardTap surroundings interfaces gMaxWTPs gWTPs avlTree frame.bytes = some result ∧
    RunsInside result ∧
    (calls result).Perm
      ((visits gMaxWTPs gWTPs).flatMap (due surroundings interfaces gWTPs frame))

/-! ## When it is met -/

section Orderly

variable (surroundings : Surroundings) (interfaces : List CWMultiHomedInterface)
  (gWTPs : Nat → DataSlot) (frame : BroadcastFrame)

/-- The WLAN of a live session whose data channel is ready, and whose frame can be assembled. -/
def served : Visit → Bool
  | .unfilled => false
  | .wlan wlan =>
    (gWTPs wlan.indexWTP).isNotFree && (dataChannel interfaces (gWTPs wlan.indexWTP)).isSome &&
      (fragmentsFor surroundings gWTPs frame wlan).isSome

/-- The loops are left here: the frame cannot be assembled, the interface of the session has no data
socket, or there is no such interface and it is the first WLAN. -/
def leaves (first : Bool) : Visit → Bool
  | .unfilled => false
  | .wlan wlan =>
    (fragmentsFor surroundings gWTPs frame wlan).isNone ||
      match interfaces.find? fun interface => interface.sock = (gWTPs wlan.indexWTP).socket with
      | some interface => interface.dataSock = 0
      | none => first

/-- Every WLAN is served up to one at which the loops are left, and none is behind that. -/
def Orderly : (first : Bool) → List Visit → Prop
  | _, [] => True
  | first, visit :: rest =>
    if served surroundings interfaces gWTPs frame visit then Orderly false rest
    else leaves surroundings interfaces gWTPs frame first visit = true ∧
      ∀ later ∈ rest, served surroundings interfaces gWTPs frame later = false

end Orderly

end WlanController.Frames
