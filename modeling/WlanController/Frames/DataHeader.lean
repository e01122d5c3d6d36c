import WlanController.Frames.FrameHeader
import WlanController.Protocol.TransportHeaderCodec

/-!
# Forwarding a data frame

A data frame on its way to the distribution system names the access point, the source and the
destination in this order, on its way from it the destination, the access point and the source.
The AC reads the header of the one and builds the header of the other from what it has read.
-/

namespace WlanController.Frames

open Protocol

inductive Direction where
  | toDS | fromDS
  deriving DecidableEq, Repr

namespace Direction

/-- The two bits in the second byte of the frame control field. -/
def bits : Direction → Nat
  | toDS => 1
  | fromDS => 2

def parse : Direction → MessageM CWFrameDataHdr
  | toDS => cw80211ParseDataFrameToDS
  | fromDS => cw80211ParseDataFrameFromDS

/-- The header of a frame in this direction that is built from one that was read. -/
def reassemble (hdr : CWFrameDataHdr) : Direction → Option (Except Failure CWProtocolMessage)
  | toDS => cw80211AssembleDataFrameHdr hdr.SA hdr.DA hdr.BSSID hdr.seqCtrl 1 0
  | fromDS => cw80211AssembleDataFrameHdr hdr.SA hdr.DA hdr.BSSID hdr.seqCtrl 0 1

/-- The addresses in the order of the direction. -/
def addresses {α : Type} (BSSID SA DA : α) : Direction → List α
  | toDS => [BSSID, SA, DA]
  | fromDS => [DA, BSSID, SA]

end Direction

/-- `WLAN_FC_GET_TYPE`. -/
def wlanFCGetType (frameControl : Nat) : Nat := frameControl / 4 % 4

/-- The first byte of the frame control of a data frame without a subtype. -/
theorem plain_data : wlanFCGetType (8 : UInt8).toNat = wlanFCTypeData := rfl

/-- A data frame in a direction, with what it carries behind its header. -/
structure DataFrame (direction : Direction) where
  controlLow : UInt8
  controlHigh : UInt8
  durationLow : UInt8
  durationHigh : UInt8
  BSSID : EthAddr
  SA : EthAddr
  DA : EthAddr
  seqLow : UInt8
  seqHigh : UInt8
  body : List UInt8
  data : wlanFCGetType controlLow.toNat = wlanFCTypeData
  directed : controlHigh.toNat % 4 = direction.bits

theorem directed_toDS : (1 : UInt8).toNat % 4 = Direction.toDS.bits := rfl

theorem directed_fromDS : (2 : UInt8).toNat % 4 = Direction.fromDS.bits := rfl

namespace DataFrame

variable {direction : Direction}

def header (frame : DataFrame direction) : List UInt8 :=
  [frame.controlLow, frame.controlHigh] ++ ([frame.durationLow, frame.durationHigh] ++
    ((direction.addresses frame.BSSID frame.SA frame.DA).flatMap EthAddr.bytes ++
      [frame.seqLow, frame.seqHigh]))

def bytes (frame : DataFrame direction) : List UInt8 := frame.header ++ frame.body

def frameControl (frame : DataFrame direction) : Nat :=
  ByteOrder.load [frame.controlLow, frame.controlHigh]

def seqCtrl (frame : DataFrame direction) : Nat := ByteOrder.load [frame.seqLow, frame.seqHigh]

/-- What the parser of its direction makes of it. -/
def hdr (frame : DataFrame direction) : CWFrameDataHdr where
  frameControl := frame.frameControl
  duration := ByteOrder.load [frame.durationLow, frame.durationHigh]
  BSSID := frame.BSSID.bytes
  SA := frame.SA.bytes
  DA := frame.DA.bytes
  seqCtrl := frame.seqCtrl

theorem reads_header (frame : DataFrame direction) :
    Reads direction.parse frame.header frame.hdr none := by
  cases direction with
  | toDS =>
    have addresses : frame.header = [frame.controlLow, frame.controlHigh] ++
        ([frame.durationLow, frame.durationHigh] ++ (frame.BSSID.bytes ++ (frame.SA.bytes ++
          (frame.DA.bytes ++ [frame.seqLow, frame.seqHigh])))) := by
      simp [header, Direction.addresses]
    rw [addresses]
    exact (reads_short _ _).andThen ((reads_short _ _).andThen ((reads_addr frame.BSSID).andThen
      ((reads_addr frame.SA).andThen ((reads_addr frame.DA).andThen
        ((reads_short _ _).andReturn (reads_pure _))))))
  | fromDS =>
    have addresses : frame.header = [frame.controlLow, frame.controlHigh] ++
        ([frame.durationLow, frame.durationHigh] ++ (frame.DA.bytes ++ (frame.BSSID.bytes ++
          (frame.SA.bytes ++ [frame.seqLow, frame.seqHigh])))) := by
      simp [header, Direction.addresses]
    rw [addresses]
    exact (reads_short _ _).andThen ((reads_short _ _).andThen ((reads_addr frame.DA).andThen
      ((reads_addr frame.BSSID).andThen ((reads_addr frame.SA).andThen
        ((reads_short _ _).andReturn (reads_pure _))))))

theorem parse_bytes (frame : DataFrame direction) :
    direction.parse.run ⟨frame.bytes, 0, none⟩ =
      .ok frame.hdr ⟨frame.bytes, frame.header.length, none⟩ := by
  have read := frame.reads_header ⟨frame.bytes, 0, none⟩ frame.body rfl
  simpa using read

/-- The frame as it is sent on: the header that is built from it has no duration and its
    sequence control turned around. -/
def forwarded (frame : DataFrame direction) (onward : Direction) : DataFrame onward where
  controlLow := 8
  controlHigh := .ofNat onward.bits
  durationLow := 0
  durationHigh := 0
  BSSID := frame.BSSID
  SA := frame.SA
  DA := frame.DA
  seqLow := frame.seqHigh
  seqHigh := frame.seqLow
  body := frame.body
  data := rfl
  directed := by cases onward <;> rfl

theorem stores_addresses (addrs : List EthAddr) :
    Stores ((addrs.map fun addr => some addr.bytes).forM cw80211AssembleIEAddr)
      (addrs.flatMap EthAddr.bytes) := by
  induction addrs with
  | nil => exact stores_pure
  | cons addr addrs inductionHypothesis => exact (stores_addr addr).bind inductionHypothesis

theorem length_header (frame : DataFrame direction) : frame.header.length = hlen80211 := by
  cases direction <;> simp [header, Direction.addresses, ethALen, hlen80211]

/-- The header that is built has the sequence control turned around. -/
theorem reassemble_eq (frame : DataFrame direction) (onward : Direction) :
    onward.reassemble frame.hdr = some (.ok (filled (frame.forwarded onward).header 0)) := by
  have sequence : ByteOrder.store 2 (htons frame.seqCtrl) = [frame.seqHigh, frame.seqLow] := by
    rw [store_htons, seqCtrl, encode_load_pair]
  have stores (addrs : List EthAddr) (toDS fromDS : Nat) (control : List UInt8)
      (same : ByteOrder.store 2 (putBit (putBit (ieee80211FC wlanFCTypeData wlanFCStypeData) 8
        (toDS = 1)) 9 (fromDS = 1)).toNat = control) :
      Stores (do
        cw80211AssembleIEFrameControlData wlanFCTypeData wlanFCStypeData toDS fromDS
        cw80211AssembleIEDuration 0
        (addrs.map fun addr => some addr.bytes).forM cw80211AssembleIEAddr
        cw80211AssembleIESequenceNumber frame.seqCtrl)
        (control ++ ([0, 0] ++ (addrs.flatMap EthAddr.bytes ++ [frame.seqHigh, frame.seqLow]))) := by
    rw [← same, ← sequence]
    exact (stores_short _).bind ((stores_short _).bind ((stores_addresses addrs).bind
      (stores_short _)))
  have length := (frame.forwarded onward).length_header
  cases onward with
  | toDS =>
    exact congrArg some (assembleInto_stores
      (stores [frame.BSSID, frame.SA, frame.DA] 1 0 [8, 1] (by decide)) length.symm)
  | fromDS =>
    exact congrArg some (assembleInto_stores
      (stores [frame.DA, frame.BSSID, frame.SA] 0 1 [8, 2] (by decide)) length.symm)

end DataFrame

/-- The frame can be read, a header for its way on be built from it, and what is read from that
    are the addresses of the frame in their roles, its type, its direction and its sequence
    control. -/
def ForwardedIntact {arrived : Direction} (frame : DataFrame arrived) (onward : Direction) : Prop :=
  ∃ hdr after header hdr' after', arrived.parse.run ⟨frame.bytes, 0, none⟩ = .ok hdr after ∧
    onward.reassemble hdr = some (.ok header) ∧ header.offset = hlen80211 ∧
      onward.parse.run ⟨header.msg, 0, none⟩ = .ok hdr' after' ∧
        hdr'.BSSID = frame.BSSID.bytes ∧ hdr'.SA = frame.SA.bytes ∧ hdr'.DA = frame.DA.bytes ∧
          wlanFCGetType hdr'.frameControl = wlanFCGetType frame.frameControl ∧
            hdr'.frameControl / 256 % 4 = onward.bits ∧ hdr'.seqCtrl = frame.seqCtrl

theorem frameControl_type {direction : Direction} (frame : DataFrame direction) :
    wlanFCGetType frame.frameControl = wlanFCTypeData := by
  have data := frame.data
  simp only [wlanFCGetType, DataFrame.frameControl, load_pair] at data ⊢
  omega

theorem frameControl_bits {direction : Direction} (frame : DataFrame direction) :
    frame.frameControl / 256 % 4 = direction.bits := by
  have directed := frame.directed
  have small := frame.controlLow.toNat_lt
  simp only [DataFrame.frameControl, load_pair]
  omega

/-- The header that goes on is read as one that has the sequence control turned around. -/
theorem parse_forwarded {arrived : Direction} (frame : DataFrame arrived) (onward : Direction) :
    onward.parse.run ⟨(frame.forwarded onward).header, 0, none⟩ =
      .ok (frame.forwarded onward).hdr
        ⟨(frame.forwarded onward).header, (frame.forwarded onward).header.length, none⟩ := by
  have read := (frame.forwarded onward).reads_header
    ⟨(frame.forwarded onward).header, 0, none⟩ [] (by simp)
  simpa using read

/-- The sequence control survives where its two bytes are the same. -/
theorem forwardedIntact_iff {arrived : Direction} (frame : DataFrame arrived) (onward : Direction) :
    ForwardedIntact frame onward ↔ frame.seqLow = frame.seqHigh := by
  have built := frame.reassemble_eq onward
  have message : (filled (frame.forwarded onward).header 0).msg = (frame.forwarded onward).header := by
    simp [filled]
  constructor
  · intro intact
    obtain ⟨hdr, after, header, hdr', after', parsed, assembled, _, parsed', _, _, _, _, _, kept⟩ :=
      intact
    rw [frame.parse_bytes] at parsed
    cases parsed
    rw [built] at assembled
    cases assembled
    rw [message, parse_forwarded] at parsed'
    cases parsed'
    exact (load_injective kept).2
  · intro same
    refine ⟨frame.hdr, ⟨frame.bytes, frame.header.length, none⟩,
      filled (frame.forwarded onward).header 0, (frame.forwarded onward).hdr,
      ⟨(frame.forwarded onward).header, (frame.forwarded onward).header.length, none⟩,
      frame.parse_bytes, built, ?_, ?_, rfl, rfl, rfl, ?_, ?_, ?_⟩
    · exact (frame.forwarded onward).length_header
    · rw [message]
      exact parse_forwarded frame onward
    · rw [frameControl_type]
      exact frameControl_type (frame.forwarded onward)
    · exact frameControl_bits (frame.forwarded onward)
    · simp [DataFrame.hdr, DataFrame.forwarded, DataFrame.seqCtrl, same]

def someAddr : EthAddr := ⟨[2, 0, 0, 0, 0, 2], rfl⟩

/-- A frame to the distribution system with the sequence number 1. -/
def firstFrame : DataFrame .toDS where
  controlLow := 8
  controlHigh := 1
  durationLow := 0
  durationHigh := 0
  BSSID := someAddr
  SA := someAddr
  DA := someAddr
  seqLow := 0x10
  seqHigh := 0
  body := []
  data := plain_data
  directed := directed_toDS

/-- It is sent on with the sequence number 256. -/
theorem firstFrame_not_intact : ¬ ForwardedIntact firstFrame .fromDS := by
  intro intact
  obtain ⟨hdr, after, header, hdr', after', parsed, assembled, _, parsed', _, _, _, _, _, kept⟩ :=
    intact
  rw [firstFrame.parse_bytes] at parsed
  cases parsed
  rw [firstFrame.reassemble_eq] at assembled
  cases assembled
  cases parsed'
  exact absurd kept (by decide)

end WlanController.Frames
