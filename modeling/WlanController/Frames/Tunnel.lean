import WlanController.Frames.DataHeader
import WlanController.Frames.FrameBytes
import WlanController.Stations.StationTree

/-!
# Ethernet frames through the tunnel

The AC turns Ethernet frames into 802.11 frames for the stations of its WTPs, and the data
frames of the stations into Ethernet frames.
-/

namespace WlanController.Frames

open Protocol Stations

def ethHlen : Nat := 14

def encapsHdrLen : Nat := 8

def ethPAarp : Nat := 0x80F3

def ethPIpx : Nat := 0x8137

def ethP8023Min : Nat := 0x600

def bridgeTunnelHeader : List UInt8 := [0xaa, 0xaa, 0x03, 0x00, 0x00, 0xf8]

def rfc1042Header : List UInt8 := [0xaa, 0xaa, 0x03, 0x00, 0x00, 0x00]

def broadcastAddr : EthAddr := ⟨List.replicate ethALen 0xff, rfl⟩

def checkAddressBroadcast (addr : EthAddr) : Bool := addr.bytes.all (· = 0xff)

/-- What becomes of an Ethernet frame: the bytes of `outbuffer` and `*WTPIndex`. -/
structure Converted where
  outbuffer : List UInt8
  WTPIndex : Int
  deriving DecidableEq, Repr

/-- The `BSSID` and the WTP to which a frame for the address goes. -/
def destinationBSS (avlTree : StationTree) (DA : EthAddr) : Option (EthAddr × Int) :=
  if checkAddressBroadcast DA then some (broadcastAddr, -1)
  else (avlFind DA avlTree).map fun tmpNode => (tmpNode.BSSID, tmpNode.index)

/-- The header in front of the payload and how many bytes in front of it go along. -/
def encapsulation (ethertype : Nat) : List UInt8 × Nat :=
  if ethertype = ethPAarp ∨ ethertype = ethPIpx then (bridgeTunnelHeader, 2)
  else if ethertype ≥ ethP8023Min then (rfc1042Header, 2)
  else ([], 0)

/-- `none` stands for the -1 that is returned for a station that is not known. -/
def cwConvertDataFrame8023To80211 (avlTree : StationTree) (frameReceived : List UInt8) :
    FrameM (Option Converted) := do
  let DA ← frameAddr frameReceived 0
  let SA ← frameAddr frameReceived ethALen
  match destinationBSS avlTree DA with
  | none => return none
  | some (BSSID, WTPIndex) =>
    match cw80211AssembleDataFrameHdr SA.bytes DA.bytes (some BSSID.bytes) 0 0 1 with
    | some (.ok hdr80211) =>
      let high ← frameByte frameReceived 12
      let low ← frameByte frameReceived 13
      let ethertype := 256 * high.toNat + low.toNat
      let (header, skipBytes) := encapsulation ethertype
      let frameLen : Int := frameReceived.length
      let payload ← frameBytes frameReceived (ethHlen - skipBytes) (frameLen - ethHlen + skipBytes)
      return some { outbuffer := hdr80211.msg.take hlen80211 ++ header ++ payload, WTPIndex }
    | _ => throw .null

/-- A `short int` as an operand. -/
def shortToInt (high low : UInt8) : Int := (256 * high.toNat + low.toNat : Int).bmod 65536

/-- Whether the payload is behind a header of its own. -/
def flagEncaps (header : List UInt8) (etherType : Int) : Bool :=
  (header = rfc1042Header ∧ etherType ≠ ethPAarp ∧ etherType ≠ ethPIpx) ∨ header = bridgeTunnelHeader

/-- `CW8023AssembleHdrLength` of the number turned around. -/
def hdrLength (value : Int) : List UInt8 := ByteOrder.store 2 (htons (value % 65536).toNat)

def cwConvertDataFrame80211To8023 (frameReceived : List UInt8) : FrameM (List UInt8) := do
  let high ← frameByte frameReceived (hlen80211 + 6)
  let low ← frameByte frameReceived (hlen80211 + 7)
  let etherType := shortToInt high low
  match cw80211ParseDataFrameToDS.run ⟨frameReceived, 0, none⟩ with
  | .error _ _ => throw .outside
  | .ok dataFrame _ => do
    let header ← frameBytes frameReceived hlen80211 6
    let encaps := flagEncaps header etherType
    let offsetEthPayload := if encaps then hlen80211 + encapsHdrLen else hlen80211
    let frameLen : Int := frameReceived.length
    let field := if encaps then etherType else frameLen - offsetEthPayload
    let payload ← frameBytes frameReceived offsetEthPayload (frameLen - offsetEthPayload)
    return dataFrame.DA ++ dataFrame.SA ++ hdrLength field ++ payload

/-! ## The fields that are taken over -/

theorem shortToInt_lt (high low : UInt8) : shortToInt high low < 32768 :=
  Int.bmod_lt (by decide)

theorem shortToInt_emod (high low : UInt8) :
    shortToInt high low % 65536 = 256 * high.toNat + low.toNat := by
  have small := high.toNat_lt
  have small' := low.toNat_lt
  have same : shortToInt high low % 65536 = (256 * high.toNat + low.toNat : Int) % 65536 :=
    Int.bmod_emod
  omega

/-- The constants that `etherType` is compared with are above what a `short int` can be. -/
theorem flagEncaps_iff (header : List UInt8) (high low : UInt8) :
    flagEncaps header (shortToInt high low) ↔
      header = rfc1042Header ∨ header = bridgeTunnelHeader := by
  have below := shortToInt_lt high low
  have aarp : shortToInt high low ≠ ethPAarp := by
    simp only [ethPAarp]
    omega
  have ipx : shortToInt high low ≠ ethPIpx := by
    simp only [ethPIpx]
    omega
  simp [flagEncaps, aarp, ipx]

theorem hdrLength_shortToInt (high low : UInt8) : hdrLength (shortToInt high low) = [high, low] := by
  have same : (shortToInt high low % 65536).toNat = ByteOrder.load [low, high] := by
    rw [shortToInt_emod, load_pair]
    omega
  rw [hdrLength, store_htons, same, encode_load_pair]

theorem hdrLength_length {count : Nat} (small : count < 65536) :
    hdrLength count = BigEndian.encode 2 count := by
  have same : ((count : Int) % 65536).toNat = count := by omega
  rw [hdrLength, store_htons, same]

/-! ## From the stations -/

/-- The type or length field and what is behind it, for what a data frame carries. -/
def unwrapped (body : List UInt8) : List UInt8 :=
  if body.take 6 = rfc1042Header ∨ body.take 6 = bridgeTunnelHeader then body.drop 6
  else hdrLength body.length ++ body

section FromStations

variable {frame : List UInt8}

theorem take_drop_hlen (frame : List UInt8) :
    (frame.drop hlen80211).take (frame.length - hlen80211) = frame.drop hlen80211 := by
  apply List.take_of_length_le
  simp

theorem drop_encapsulated {high low : UInt8} (long : 32 ≤ frame.length)
    (high_eq : frame[30]? = some high) (low_eq : frame[31]? = some low) :
    (frame.drop hlen80211).drop 6 = [high, low] ++ frame.drop 32 := by
  have first : frame.drop 30 = frame[30] :: frame.drop 31 := List.drop_eq_getElem_cons (by omega)
  have second : frame.drop 31 = frame[31] :: frame.drop 32 := List.drop_eq_getElem_cons (by omega)
  rw [List.getElem?_eq_getElem (by omega)] at high_eq low_eq
  cases high_eq
  cases low_eq
  rw [List.drop_drop]
  show frame.drop 30 = _
  rw [first, second]
  rfl

theorem cwConvertDataFrame80211To8023_of_parsed {hdr : CWFrameDataHdr}
    {after : CWProtocolMessage} (long : 32 ≤ frame.length)
    (parsed : cw80211ParseDataFrameToDS.run ⟨frame, 0, none⟩ = .ok hdr after) :
    cwConvertDataFrame80211To8023 frame =
      .ok (hdr.DA ++ hdr.SA ++ unwrapped (frame.drop hlen80211)) := by
  have high : frameByte frame (hlen80211 + 6) = .ok frame[30] := frameByte_of_lt _ _
  have low : frameByte frame (hlen80211 + 7) = .ok frame[31] := frameByte_of_lt _ _
  have header : frameBytes frame hlen80211 6 = .ok ((frame.drop hlen80211).take 6) :=
    frameBytes_of_le _ (by simp only [hlen80211]; omega)
  have encapsulated : (frame.drop hlen80211).drop 6 = [frame[30], frame[31]] ++ frame.drop 32 :=
    drop_encapsulated long (List.getElem?_eq_getElem _) (List.getElem?_eq_getElem _)
  simp only [cwConvertDataFrame80211To8023, high, low, parsed, header, bind, Except.bind]
  by_cases encaps : flagEncaps ((frame.drop hlen80211).take 6) (shortToInt frame[30] frame[31])
  · have count : (frame.length : Int) - (hlen80211 + encapsHdrLen : Nat) =
        (frame.length - 32 : Nat) := by
      simp only [hlen80211, encapsHdrLen]
      omega
    have payload : frameBytes frame (hlen80211 + encapsHdrLen) (frame.length - 32 : Nat) =
        .ok ((frame.drop 32).take (frame.length - 32)) :=
      frameBytes_of_le _ (by simp only [hlen80211, encapsHdrLen]; omega)
    have all : (frame.drop 32).take (frame.length - 32) = frame.drop 32 := by simp
    rw [if_pos encaps, if_pos encaps, count, payload, all, unwrapped,
      if_pos ((flagEncaps_iff _ _ _).mp encaps), encapsulated, hdrLength_shortToInt]
    simp [pure, Except.pure]
  · have count : (frame.length : Int) - hlen80211 = (frame.length - hlen80211 : Nat) := by
      simp only [hlen80211]
      omega
    have payload : frameBytes frame hlen80211 (frame.length - hlen80211 : Nat) =
        .ok ((frame.drop hlen80211).take (frame.length - hlen80211)) :=
      frameBytes_of_le _ (by simp only [hlen80211]; omega)
    have plain := mt (flagEncaps_iff ((frame.drop hlen80211).take 6) frame[30] frame[31]).mpr encaps
    rw [if_neg encaps, if_neg encaps, count, payload, take_drop_hlen, unwrapped, if_neg plain,
      List.length_drop]
    simp [pure, Except.pure]

theorem cwConvertDataFrame80211To8023_short (short : frame.length < 32) :
    ¬ Bounded (cwConvertDataFrame80211To8023 frame) := by
  have low : frameByte frame (hlen80211 + 7) = .error .outside :=
    frameByte_outside (by simp only [hlen80211]; omega)
  rintro ⟨value, converted⟩
  cases high : frameByte frame (hlen80211 + 6) <;>
    simp [cwConvertDataFrame80211To8023, high, low, bind, Except.bind] at converted

theorem bounded_toEthernet_iff :
    Bounded (cwConvertDataFrame80211To8023 frame) ↔ 32 ≤ frame.length := by
  constructor
  · intro bounded
    exact not_lt.mp fun short => cwConvertDataFrame80211To8023_short short bounded
  · intro long
    obtain ⟨value, follows⟩ := takes_toDS
    have room : hlen80211 ≤ (⟨frame, 0, none⟩ : CWProtocolMessage).ahead.length :=
      le_trans (by decide) long
    have parsed := follows ⟨frame, 0, none⟩
    rw [taking, if_pos room] at parsed
    exact ⟨_, cwConvertDataFrame80211To8023_of_parsed long parsed⟩

end FromStations

/-! ## To the stations -/

section ToStations

variable {avlTree : StationTree} {frame : List UInt8}

theorem encapsulation_skips (ethertype : Nat) : (encapsulation ethertype).2 ≤ 2 := by
  simp only [encapsulation]
  split
  · exact le_refl 2
  · split <;> simp

/-- A frame for a station that carries nothing yet. -/
def outgoing (BSSID SA DA : EthAddr) : DataFrame .fromDS where
  controlLow := 8
  controlHigh := 2
  durationLow := 0
  durationHigh := 0
  BSSID := BSSID
  SA := SA
  DA := DA
  seqLow := 0
  seqHigh := 0
  body := []
  data := plain_data
  directed := directed_fromDS

theorem assemble_outgoing (BSSID SA DA : EthAddr) :
    cw80211AssembleDataFrameHdr SA.bytes DA.bytes (some BSSID.bytes) 0 0 1 =
      some (.ok (filled (outgoing BSSID SA DA).header 0)) := by
  have sequence : ByteOrder.load [0, 0] = 0 := by simp [load_pair]
  have same : (outgoing BSSID SA DA).forwarded .fromDS = outgoing BSSID SA DA := rfl
  have built : cw80211AssembleDataFrameHdr SA.bytes DA.bytes (some BSSID.bytes)
      (ByteOrder.load [0, 0]) 0 1 =
        some (.ok (filled ((outgoing BSSID SA DA).forwarded .fromDS).header 0)) :=
    (outgoing BSSID SA DA).reassemble_eq .fromDS
  rwa [sequence, same] at built

theorem take_outgoing (BSSID SA DA : EthAddr) :
    (filled (outgoing BSSID SA DA).header 0).msg.take hlen80211 = (outgoing BSSID SA DA).header := by
  have length := (outgoing BSSID SA DA).length_header
  simp [filled, ← length]

/-- The body of the 802.11 frame for an Ethernet frame with this type or length. -/
def wrapped (ethertype : Nat) (frame : List UInt8) : List UInt8 :=
  (encapsulation ethertype).1 ++ frame.drop (ethHlen - (encapsulation ethertype).2)

theorem cwConvertDataFrame8023To80211_known {DA SA BSSID : EthAddr} {index : Int}
    (long : ethHlen ≤ frame.length) (first : frameAddr frame 0 = .ok DA)
    (second : frameAddr frame ethALen = .ok SA)
    (found : destinationBSS avlTree DA = some (BSSID, index)) {high low : UInt8}
    (high_eq : frameByte frame 12 = .ok high) (low_eq : frameByte frame 13 = .ok low) :
    cwConvertDataFrame8023To80211 avlTree frame = .ok (some
      ⟨(outgoing BSSID SA DA).header ++ wrapped (256 * high.toNat + low.toNat) frame, index⟩) := by
  have long' : 14 ≤ frame.length := long
  have skips := encapsulation_skips (256 * high.toNat + low.toNat)
  have count : (frame.length : Int) - ethHlen + (encapsulation (256 * high.toNat + low.toNat)).2 =
      (frame.length - (ethHlen - (encapsulation (256 * high.toNat + low.toNat)).2) : Nat) := by
    simp only [ethHlen]
    omega
  have room : ethHlen - (encapsulation (256 * high.toNat + low.toNat)).2 +
      (frame.length - (ethHlen - (encapsulation (256 * high.toNat + low.toNat)).2)) ≤
        frame.length := by
    simp only [ethHlen]
    omega
  have payload := frameBytes_of_le frame room
  have all : (frame.drop (ethHlen - (encapsulation (256 * high.toNat + low.toNat)).2)).take
      (frame.length - (ethHlen - (encapsulation (256 * high.toNat + low.toNat)).2)) =
        frame.drop (ethHlen - (encapsulation (256 * high.toNat + low.toNat)).2) := by
    apply List.take_of_length_le
    simp
  simp only [cwConvertDataFrame8023To80211, first, second, found, assemble_outgoing, high_eq, low_eq,
    count, payload, all, take_outgoing, wrapped, bind, Except.bind, pure, Except.pure,
    List.append_assoc]

theorem cwConvertDataFrame8023To80211_unknown {DA SA : EthAddr} (first : frameAddr frame 0 = .ok DA)
    (second : frameAddr frame ethALen = .ok SA) (unknown : destinationBSS avlTree DA = none) :
    cwConvertDataFrame8023To80211 avlTree frame = .ok none := by
  simp only [cwConvertDataFrame8023To80211, first, second, unknown, bind, Except.bind, pure,
    Except.pure]

/-- The frame has no more than its addresses and is for a station that is not known. -/
def ForUnknown (avlTree : StationTree) (frame : List UInt8) : Prop :=
  2 * ethALen ≤ frame.length ∧
    ∃ DA : EthAddr, frameAddr frame 0 = .ok DA ∧ destinationBSS avlTree DA = none

theorem bounded_toStations_iff :
    Bounded (cwConvertDataFrame8023To80211 avlTree frame) ↔
      ethHlen ≤ frame.length ∨ ForUnknown avlTree frame := by
  by_cases addresses : 2 * ethALen ≤ frame.length
  · have room : 12 ≤ frame.length := addresses
    have here : 0 + ethALen ≤ frame.length := by
      simp only [ethALen]
      omega
    have behind : ethALen + ethALen ≤ frame.length := by
      simp only [ethALen]
      omega
    obtain ⟨DA, _, first⟩ := frameAddr_of_le frame here
    obtain ⟨SA, _, second⟩ := frameAddr_of_le frame behind
    cases found : destinationBSS avlTree DA with
    | none =>
      have converted := cwConvertDataFrame8023To80211_unknown first second found
      exact iff_of_true ⟨none, converted⟩ (.inr ⟨addresses, DA, first, found⟩)
    | some destination =>
      obtain ⟨BSSID, index⟩ := destination
      have known : ¬ ForUnknown avlTree frame := by
        rintro ⟨_, DA', first', unknown⟩
        rw [first] at first'
        cases first'
        rw [found] at unknown
        cases unknown
      by_cases long : ethHlen ≤ frame.length
      · have long' : 14 ≤ frame.length := long
        have high : frameByte frame 12 = .ok frame[12] := frameByte_of_lt _ _
        have low : frameByte frame 13 = .ok frame[13] := frameByte_of_lt _ _
        have converted := cwConvertDataFrame8023To80211_known long first second found high low
        exact iff_of_true ⟨_, converted⟩ (.inl long)
      · have short : ¬ 14 ≤ frame.length := long
        have low : frameByte frame 13 = .error .outside := frameByte_outside (by omega)
        refine iff_of_false ?_ (not_or.mpr ⟨long, known⟩)
        rintro ⟨value, converted⟩
        cases high : frameByte frame 12 <;>
          simp [cwConvertDataFrame8023To80211, first, second, found, assemble_outgoing, high, low,
            bind, Except.bind] at converted
  · have short : ¬ 12 ≤ frame.length := addresses
    have long : ¬ ethHlen ≤ frame.length := by
      simp only [ethHlen]
      omega
    have second : frameAddr frame ethALen = .error .outside :=
      frameAddr_outside (by simp only [ethALen]; omega)
    refine iff_of_false ?_ (not_or.mpr ⟨long, fun unknown => addresses unknown.1⟩)
    rintro ⟨value, converted⟩
    cases first : frameAddr frame 0 <;>
      simp [cwConvertDataFrame8023To80211, first, second, bind, Except.bind] at converted

end ToStations

/-! ## There and back -/

/-- An Ethernet frame with a type, or with the length of what it carries in the same place. -/
structure EthernetFrame where
  DA : EthAddr
  SA : EthAddr
  field : Nat
  payload : List UInt8
  formed : ethP8023Min ≤ field ∧ field < 65536 ∨ field < ethP8023Min ∧ field = payload.length

namespace EthernetFrame

def bytes (frame : EthernetFrame) : List UInt8 :=
  frame.DA.bytes ++ (frame.SA.bytes ++ (BigEndian.encode 2 frame.field ++ frame.payload))

def high (frame : EthernetFrame) : UInt8 := .ofNat (frame.field / 256)

def low (frame : EthernetFrame) : UInt8 := .ofNat frame.field

variable (frame : EthernetFrame)

theorem field_lt : frame.field < 65536 := by
  have formed := frame.formed
  simp only [ethP8023Min] at formed
  omega

theorem encode_field : BigEndian.encode 2 frame.field = [frame.high, frame.low] := by
  simp [BigEndian.encode, high, low]

theorem field_eq : 256 * frame.high.toNat + frame.low.toNat = frame.field := by
  have small := frame.field_lt
  simp only [high, low, UInt8.toNat_ofNat']
  omega

theorem length_bytes : frame.bytes.length = 14 + frame.payload.length := by
  simp [bytes, encode_field, ethALen]
  omega

theorem drop_field : frame.bytes.drop 12 = [frame.high, frame.low] ++ frame.payload := by
  have addresses : (frame.DA.bytes ++ frame.SA.bytes).length = 12 := by simp [ethALen]
  rw [bytes, encode_field, ← List.append_assoc, ← addresses]
  exact List.drop_left

theorem drop_payload : frame.bytes.drop 14 = frame.payload := by
  have behind : frame.bytes.drop 14 = (frame.bytes.drop 12).drop 2 := by rw [List.drop_drop]
  rw [behind, drop_field]
  rfl

theorem frameAddr_DA : frameAddr frame.bytes 0 = .ok frame.DA := by
  exact frameAddr_at [] _ frame.DA

theorem frameAddr_SA : frameAddr frame.bytes ethALen = .ok frame.SA := by
  have found := frameAddr_at frame.DA.bytes
    (BigEndian.encode 2 frame.field ++ frame.payload) frame.SA
  rwa [EthAddr.length_bytes] at found

theorem frameByte_high : frameByte frame.bytes 12 = .ok frame.high := by
  have found := frameByte_at (frame.DA.bytes ++ frame.SA.bytes) (frame.low :: frame.payload)
    frame.high
  simpa [bytes, encode_field, ethALen] using found

theorem frameByte_low : frameByte frame.bytes 13 = .ok frame.low := by
  have found := frameByte_at (frame.DA.bytes ++ (frame.SA.bytes ++ [frame.high])) frame.payload
    frame.low
  simpa [bytes, encode_field, ethALen] using found

/-- What the frame carries on to the stations. -/
def body : List UInt8 := wrapped frame.field frame.bytes

/-- A data frame to the distribution system with these addresses and this body. -/
def carriedBy (carrier : DataFrame .toDS) (body : List UInt8) : DataFrame .toDS :=
  { carrier with SA := frame.SA, DA := frame.DA, body }

/-- Whoever the frame is for, its body comes back from a station as the frame that it was. -/
def RoundTrips : Prop :=
  ∀ avlTree (carrier : DataFrame .toDS), (destinationBSS avlTree frame.DA).isSome →
    ∃ converted, cwConvertDataFrame8023To80211 avlTree frame.bytes = .ok (some converted) ∧
      cwConvertDataFrame80211To8023
        (frame.carriedBy carrier (converted.outbuffer.drop hlen80211)).bytes = .ok frame.bytes

/-- It has a type, or a payload that is long enough and begins with neither of the two
    headers. -/
def Returns : Prop :=
  ethP8023Min ≤ frame.field ∨ 8 ≤ frame.payload.length ∧
    frame.payload.take 6 ≠ rfc1042Header ∧ frame.payload.take 6 ≠ bridgeTunnelHeader

theorem body_typed (typed : ethP8023Min ≤ frame.field) :
    ∃ header, (header = rfc1042Header ∨ header = bridgeTunnelHeader) ∧
      frame.body = header ++ ([frame.high, frame.low] ++ frame.payload) := by
  by_cases bridged : frame.field = ethPAarp ∨ frame.field = ethPIpx
  · refine ⟨bridgeTunnelHeader, .inr rfl, ?_⟩
    rw [← drop_field, body, wrapped, encapsulation, if_pos bridged]
    rfl
  · refine ⟨rfc1042Header, .inl rfl, ?_⟩
    rw [← drop_field, body, wrapped, encapsulation, if_neg bridged, if_pos typed]
    rfl

theorem body_plain (plain : frame.field < ethP8023Min) : frame.body = frame.payload := by
  have small : frame.field < 1536 := plain
  have bridged : ¬ (frame.field = ethPAarp ∨ frame.field = ethPIpx) := by
    simp only [ethPAarp, ethPIpx]
    omega
  rw [body, wrapped, encapsulation, if_neg bridged, if_neg (not_le.mpr plain)]
  exact frame.drop_payload

theorem converts {avlTree : StationTree} (known : (destinationBSS avlTree frame.DA).isSome) :
    ∃ converted, cwConvertDataFrame8023To80211 avlTree frame.bytes = .ok (some converted) ∧
      converted.outbuffer.drop hlen80211 = frame.body := by
  obtain ⟨destination, found⟩ := Option.isSome_iff_exists.mp known
  obtain ⟨BSSID, index⟩ := destination
  have long : ethHlen ≤ frame.bytes.length := by
    rw [length_bytes]
    exact Nat.le_add_right 14 _
  have converted := cwConvertDataFrame8023To80211_known long frame.frameAddr_DA frame.frameAddr_SA
    found frame.frameByte_high frame.frameByte_low
  rw [field_eq] at converted
  refine ⟨_, converted, ?_⟩
  rw [← (outgoing BSSID frame.SA frame.DA).length_header]
  exact List.drop_left

theorem drop_carriedBy (carrier : DataFrame .toDS) (body : List UInt8) :
    (frame.carriedBy carrier body).bytes.drop hlen80211 = body := by
  rw [← (frame.carriedBy carrier body).length_header]
  exact List.drop_left

theorem length_carriedBy (carrier : DataFrame .toDS) (body : List UInt8) :
    (frame.carriedBy carrier body).bytes.length = hlen80211 + body.length := by
  rw [← (frame.carriedBy carrier body).length_header]
  exact List.length_append

theorem converts_back (carrier : DataFrame .toDS) {body : List UInt8} (long : 8 ≤ body.length) :
    cwConvertDataFrame80211To8023 (frame.carriedBy carrier body).bytes =
      .ok (frame.DA.bytes ++ frame.SA.bytes ++ unwrapped body) := by
  have long' : 32 ≤ (frame.carriedBy carrier body).bytes.length := by
    rw [length_carriedBy]
    exact Nat.add_le_add_left long 24
  have converted := cwConvertDataFrame80211To8023_of_parsed long'
    (frame.carriedBy carrier body).parse_bytes
  rwa [drop_carriedBy] at converted

theorem converts_back_short (carrier : DataFrame .toDS) {body : List UInt8}
    (short : body.length < 8) :
    ¬ Bounded (cwConvertDataFrame80211To8023 (frame.carriedBy carrier body).bytes) := by
  apply cwConvertDataFrame80211To8023_short
  rw [length_carriedBy]
  exact Nat.add_lt_add_left short 24

theorem unwrapped_header {header : List UInt8} (rest : List UInt8)
    (either : header = rfc1042Header ∨ header = bridgeTunnelHeader) :
    unwrapped (header ++ rest) = rest := by
  cases either with
  | inl rfc1042 =>
    subst rfc1042
    exact if_pos (.inl rfl)
  | inr bridge =>
    subst bridge
    exact if_pos (.inr rfl)

/-- The body that a frame is given is one that it comes back from. -/
theorem unwrapped_body (returns : frame.Returns) :
    8 ≤ frame.body.length ∧
      unwrapped frame.body = BigEndian.encode 2 frame.field ++ frame.payload := by
  by_cases typed : ethP8023Min ≤ frame.field
  · obtain ⟨header, either, same⟩ := frame.body_typed typed
    have length : header.length = 6 := by
      rcases either with rfl | rfl <;> rfl
    rw [same, unwrapped_header _ either, encode_field]
    refine ⟨?_, rfl⟩
    simp only [List.length_append, List.length_cons, List.length_nil]
    omega
  · have plain := not_le.mp typed
    obtain ⟨long, notRfc1042, notBridge⟩ := returns.resolve_left typed
    have length : frame.field = frame.payload.length := by
      have formed := frame.formed
      omega
    rw [frame.body_plain plain, unwrapped, if_neg (not_or.mpr ⟨notRfc1042, notBridge⟩),
      hdrLength_length (length ▸ frame.field_lt), length]
    exact ⟨long, rfl⟩

/-- A body of which eight bytes are taken for a header comes back without them. -/
theorem returns_of_unwrapped (long : 8 ≤ frame.body.length)
    (same : unwrapped frame.body = BigEndian.encode 2 frame.field ++ frame.payload) :
    frame.Returns := by
  by_cases typed : ethP8023Min ≤ frame.field
  · exact .inl typed
  · rw [frame.body_plain (not_le.mp typed)] at long same
    have notHeader : ¬ (frame.payload.take 6 = rfc1042Header ∨
        frame.payload.take 6 = bridgeTunnelHeader) := by
      intro header
      rw [unwrapped, if_pos header] at same
      have lengths := congrArg List.length same
      rw [List.length_drop, List.length_append, BigEndian.length_encode] at lengths
      omega
    exact .inr ⟨long, not_or.mp notHeader⟩

/-- The tree with a single station. -/
def associated (addr : EthAddr) : StationTree := .node ⟨⟨⟨0, 0, addr, addr⟩, 0⟩, 0⟩ .nil .nil

theorem associated_known (addr : EthAddr) : (destinationBSS (associated addr) addr).isSome := by
  by_cases broadcast : checkAddressBroadcast addr <;>
    simp [destinationBSS, broadcast, associated, avlFind]

/-- A data frame from the station. -/
def fromStation (addr : EthAddr) : DataFrame .toDS where
  controlLow := 8
  controlHigh := 1
  durationLow := 0
  durationHigh := 0
  BSSID := addr
  SA := addr
  DA := addr
  seqLow := 0
  seqHigh := 0
  body := []
  data := plain_data
  directed := directed_toDS

theorem roundTrips_iff : frame.RoundTrips ↔ frame.Returns := by
  constructor
  · intro roundTrips
    -- any tree that knows the station and any frame of the station will do
    obtain ⟨converted, there, back⟩ := roundTrips (associated frame.DA) (fromStation frame.DA)
      (associated_known frame.DA)
    obtain ⟨converted', there', same⟩ := frame.converts (associated_known frame.DA)
    rw [there] at there'
    cases there'
    rw [same] at back
    have long : 8 ≤ frame.body.length :=
      not_lt.mp fun short => frame.converts_back_short _ short ⟨_, back⟩
    rw [frame.converts_back _ long] at back
    apply frame.returns_of_unwrapped long
    have bytes_eq := Except.ok.inj back
    rw [bytes, ← List.append_assoc] at bytes_eq
    exact List.append_cancel_left bytes_eq
  · intro returns avlTree carrier known
    obtain ⟨converted, there, same⟩ := frame.converts known
    obtain ⟨long, unwraps⟩ := frame.unwrapped_body returns
    refine ⟨converted, there, ?_⟩
    rw [same, frame.converts_back carrier long, unwraps, bytes, List.append_assoc]

end EthernetFrame

/-- What comes back, and what the two conversions can be given without reading outside of it. -/
theorem tunnels_iff (ethernetFrame : EthernetFrame) (avlTree : StationTree) (frame : List UInt8) :
    (ethernetFrame.RoundTrips ↔ ethernetFrame.Returns) ∧
      (Bounded (cwConvertDataFrame8023To80211 avlTree frame) ↔
        ethHlen ≤ frame.length ∨ ForUnknown avlTree frame) ∧
      (Bounded (cwConvertDataFrame80211To8023 frame) ↔
        hlen80211 + encapsHdrLen ≤ frame.length) :=
  ⟨ethernetFrame.roundTrips_iff, bounded_toStations_iff, bounded_toEthernet_iff⟩

/-- A frame with a length whose payload begins with the header for types. -/
def snapFrame : EthernetFrame where
  DA := someAddr
  SA := someAddr
  field := 8
  payload := [0xaa, 0xaa, 0x03, 0x00, 0x00, 0x00, 0x08, 0x00]
  formed := by simp [ethP8023Min]

/-- It comes back as an empty frame of the type 0x800, and of a data frame without a body two
    bytes are read that did not arrive. -/
theorem snapFrame_not_returned :
    ¬ snapFrame.RoundTrips ∧ ¬ Bounded (cwConvertDataFrame80211To8023 firstFrame.bytes) := by
  constructor
  · rw [EthernetFrame.roundTrips_iff]
    simp [EthernetFrame.Returns, snapFrame, ethP8023Min, rfc1042Header]
  · rw [bounded_toEthernet_iff]
    simp [DataFrame.bytes, DataFrame.length_header, firstFrame, hlen80211]

end WlanController.Frames
