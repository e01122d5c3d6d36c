import WlanController.Common.EthAddr
import WlanController.Foundation.ByteOrder
import WlanController.Protocol.Acceptance
import WlanController.Protocol.CountedRecords
import WlanController.Protocol.TransportHeader

/-!
# The fields of 802.11 frames

The frame builders and parsers copy each field between the frame and a variable of its size
and move an offset on.  A `short int` is copied as it lies in memory, with its low byte first,
and some of the builders turn it around before.
-/

namespace WlanController.Frames

open Protocol

def hlen80211 : Nat := 24

/-! ## Building -/

/-- A `short int` as it lies in memory. -/
def storeShort (value : Nat) : MessageM Unit := cwProtocolStoreRawBytes (ByteOrder.store 2 value)

/-- `htons`; `host_to_le16` does nothing on a machine of this byte order. -/
def htons (value : Nat) : Nat := ByteOrder.load (BigEndian.encode 2 value)

def ieee80211FC (type stype : Nat) : BitVec 16 := BitVec.ofNat 16 (type <<< 2 ||| stype <<< 4)

/-- `SETBIT` or `CLEARBIT`. -/
def putBit (val : BitVec 16) (bit : Nat) (set : Bool) : BitVec 16 :=
  if set then val ||| (1#16 <<< bit) else val &&& ~~~(1#16 <<< bit)

def cw80211AssembleIEFrameControl (frameType frameSubtype : Nat) : MessageM Unit :=
  storeShort (ieee80211FC frameType frameSubtype).toNat

def cw80211AssembleIEFrameControlData (frameType frameSubtype toDS fromDS : Nat) : MessageM Unit :=
  storeShort (putBit (putBit (ieee80211FC frameType frameSubtype) 8 (toDS = 1)) 9 (fromDS = 1)).toNat

def cw80211AssembleIEDuration (value : Nat) : MessageM Unit := storeShort (htons value)

def cw80211AssembleIESequenceNumber (value : Nat) : MessageM Unit := storeShort (htons value)

/-- The broadcast address stands in for a null pointer. -/
def cw80211AssembleIEAddr (value : Option (List UInt8)) : MessageM Unit :=
  cwProtocolStoreRawBytes (value.getD (List.replicate ethALen 0xFF))

/-! ## Parsing -/

def loadShort : MessageM Nat := ByteOrder.load <$> cwProtocolRetrieveRawBytes 2

def cw80211ParseFrameIEControl : MessageM Nat := loadShort

def cw80211ParseFrameIESeqCtrl : MessageM Nat := loadShort

def cw80211ParseFrameIEAddr : MessageM (List UInt8) := cwProtocolRetrieveRawBytes ethALen

/-! ## Data frames -/

structure CWFrameDataHdr where
  frameControl : Nat
  duration : Nat
  BSSID : List UInt8
  SA : List UInt8
  DA : List UInt8
  seqCtrl : Nat
  deriving DecidableEq, Repr

def wlanFCTypeData : Nat := 2

def wlanFCStypeData : Nat := 0

/-- `NULL` is returned where the frame goes neither to nor from the distribution system or
    both. -/
def cw80211AssembleDataFrameHdr (SA DA : List UInt8) (BSSID : Option (List UInt8)) (seqctl : Nat)
    (toDS fromDS : Nat) : Option (Except Failure CWProtocolMessage) :=
  let addresses :=
    if toDS = 1 ∧ fromDS = 0 then some [BSSID, some SA, some DA]
    else if fromDS = 1 ∧ toDS = 0 then some [some DA, BSSID, some SA]
    else none
  addresses.map fun addresses => assembleInto hlen80211 do
    cw80211AssembleIEFrameControlData wlanFCTypeData wlanFCStypeData toDS fromDS
    cw80211AssembleIEDuration 0
    addresses.forM cw80211AssembleIEAddr
    cw80211AssembleIESequenceNumber seqctl

def cw80211ParseDataFrameToDS : MessageM CWFrameDataHdr := do
  let frameControl ← cw80211ParseFrameIEControl
  let duration ← cw80211ParseFrameIEControl
  let BSSID ← cw80211ParseFrameIEAddr
  let SA ← cw80211ParseFrameIEAddr
  let DA ← cw80211ParseFrameIEAddr
  let seqCtrl ← cw80211ParseFrameIESeqCtrl
  return { frameControl, duration, BSSID, SA, DA, seqCtrl }

def cw80211ParseDataFrameFromDS : MessageM CWFrameDataHdr := do
  let frameControl ← cw80211ParseFrameIEControl
  let duration ← cw80211ParseFrameIEControl
  let DA ← cw80211ParseFrameIEAddr
  let BSSID ← cw80211ParseFrameIEAddr
  let SA ← cw80211ParseFrameIEAddr
  let seqCtrl ← cw80211ParseFrameIESeqCtrl
  return { frameControl, duration, BSSID, SA, DA, seqCtrl }

/-! ## Shorts in memory -/

theorem length_store (count value : Nat) : (ByteOrder.store count value).length = count := by
  rw [ByteOrder.store, List.length_reverse, BigEndian.length_encode]

/-- A short that is turned around lies in memory with its high byte first. -/
theorem store_htons (value : Nat) : ByteOrder.store 2 (htons value) = BigEndian.encode 2 value := by
  have bytes := BigEndian.encode_decode (BigEndian.encode 2 value).reverse
  rw [List.length_reverse, BigEndian.length_encode] at bytes
  rw [ByteOrder.store, htons, ByteOrder.load, bytes, List.reverse_reverse]

theorem load_pair (low high : UInt8) : ByteOrder.load [low, high] = 256 * high.toNat + low.toNat := by
  simp [ByteOrder.load, BigEndian.decode, Nat.mul_comm]

theorem encode_load_pair (low high : UInt8) :
    BigEndian.encode 2 (ByteOrder.load [low, high]) = [high, low] := by
  exact BigEndian.encode_decode [high, low]

theorem load_injective {low high low' high' : UInt8}
    (same : ByteOrder.load [low, high] = ByteOrder.load [low', high']) :
    low = low' ∧ high = high' := by
  have bytes := encode_load_pair low high
  rw [same, encode_load_pair] at bytes
  simp only [List.cons.injEq, and_true] at bytes
  exact ⟨bytes.2.symm, bytes.1.symm⟩

theorem stores_short (value : Nat) : Stores (storeShort value) (ByteOrder.store 2 value) :=
  stores_rawBytes _

theorem stores_addr (addr : EthAddr) :
    Stores (cw80211AssembleIEAddr (some addr.bytes)) addr.bytes := stores_rawBytes _

theorem reads_short (low high : UInt8) :
    Reads loadShort [low, high] (ByteOrder.load [low, high]) none :=
  (reads_rawBytes (by simp)).map ByteOrder.load

theorem reads_addr (addr : EthAddr) : Reads cw80211ParseFrameIEAddr addr.bytes addr.bytes none := by
  have inside : addr.bytes ≠ [] := by
    intro empty
    have length := addr.length_bytes
    rw [empty] at length
    cases length
  have read := reads_rawBytes inside
  rwa [addr.length_bytes] at read

/-! ## Programs by the bytes ahead -/

/-- What the program does with a message, given by what it returns for the bytes ahead and how
    far it moves; `none` where it reads bytes that are not there. -/
def Follows {α : Type} (program : MessageM α) (outcome : List UInt8 → Option (α × Nat)) : Prop :=
  ∀ message : CWProtocolMessage,
    match outcome message.ahead with
    | some (value, count) => program.run message = .ok value (message.advance count)
    | none => ∃ after, program.run message = .error (.outOfBounds .receiveBuffer) after

/-- The outcome of a program that reads `count` bytes whatever they are. -/
def taking {α : Type} (count : Nat) (value : List UInt8 → α) (bytes : List UInt8) :
    Option (α × Nat) :=
  if count ≤ bytes.length then some (value bytes, count) else none

def Takes {α : Type} (program : MessageM α) (count : Nat) : Prop :=
  ∃ value, Follows program (taking count value)

section Takes

variable {α β : Type} {program : MessageM α} {count count' : Nat}

theorem follows_pure (value : α) : Follows (pure value) fun _ => some (value, 0) := fun _ => rfl

/-- The outcome of one program after the other. -/
def andThen (outcome : List UInt8 → Option (α × Nat)) (next : α → List UInt8 → Option (β × Nat))
    (bytes : List UInt8) : Option (β × Nat) :=
  match outcome bytes with
  | none => none
  | some (value, count) =>
    (next value (bytes.drop count)).map fun result => (result.1, count + result.2)

theorem Follows.bind {next : α → MessageM β} {outcome : List UInt8 → Option (α × Nat)}
    {nextOutcome : α → List UInt8 → Option (β × Nat)} (first : Follows program outcome)
    (second : ∀ value, Follows (next value) (nextOutcome value)) :
    Follows (program >>= next) (andThen outcome nextOutcome) := by
  intro message
  have run := first message
  cases read : outcome message.ahead with
  | none =>
    rw [read] at run
    obtain ⟨after, run⟩ := run
    simp only [andThen, read, EStateM.run_bind, run]
    exact ⟨after, rfl⟩
  | some result =>
    obtain ⟨value, count⟩ := result
    rw [read] at run
    have run' := second value (message.advance count)
    rw [ahead_advance] at run'
    cases read' : nextOutcome value (message.ahead.drop count) with
    | none =>
      rw [read'] at run'
      simp only [andThen, read, read', Option.map_none, EStateM.run_bind, run]
      exact run'
    | some result' =>
      rw [read'] at run'
      simp only [andThen, read, read', Option.map_some, EStateM.run_bind, run]
      rw [← advance_advance]
      exact run'

theorem takes_rawBytes {len : Nat} (positive : 0 < len) :
    Takes (cwProtocolRetrieveRawBytes len) len := by
  refine ⟨fun bytes => bytes.take len, fun message => ?_⟩
  have length := length_ahead message
  by_cases room : len ≤ message.ahead.length
  · rw [taking, if_pos room]
    exact if_pos (by omega)
  · rw [taking, if_neg room]
    exact ⟨message, if_neg (by omega)⟩

theorem Takes.bind {next : α → MessageM β} (first : Takes program count)
    (second : ∀ value, Takes (next value) count') : Takes (program >>= next) (count + count') := by
  obtain ⟨value, follows⟩ := first
  choose value' follows' using second
  have both := follows.bind follows'
  refine ⟨fun bytes => value' (value bytes) (bytes.drop count), ?_⟩
  have same : andThen (taking count value) (fun a => taking count' (value' a)) =
      taking (count + count') fun bytes => value' (value bytes) (bytes.drop count) := by
    funext bytes
    by_cases room : count ≤ bytes.length
    · by_cases room' : count' ≤ (bytes.drop count).length
      · have all : count + count' ≤ bytes.length := by
          rw [List.length_drop] at room'
          omega
        simp only [andThen, taking, if_pos room, if_pos room', if_pos all, Option.map_some]
      · have short : ¬ count + count' ≤ bytes.length := by
          rw [List.length_drop] at room'
          omega
        simp only [andThen, taking, if_pos room, if_neg room', if_neg short, Option.map_none]
    · have short : ¬ count + count' ≤ bytes.length := by omega
      simp only [andThen, taking, if_neg room, if_neg short]
  rwa [same] at both

theorem takes_pure (value : α) : Takes (pure value) 0 := by
  refine ⟨fun _ => value, fun message => ?_⟩
  rw [taking, if_pos (Nat.zero_le _)]
  rfl

theorem Takes.map (first : Takes program count) (f : α → β) : Takes (f <$> program) count := by
  rw [map_eq_pure_bind]
  exact first.bind fun value => takes_pure (f value)

end Takes

theorem takes_short : Takes loadShort 2 := (takes_rawBytes (by decide)).map _

theorem takes_addr : Takes cw80211ParseFrameIEAddr ethALen := takes_rawBytes (by decide)

theorem takes_toDS : Takes cw80211ParseDataFrameToDS hlen80211 :=
  takes_short.bind fun _ => takes_short.bind fun _ => takes_addr.bind fun _ =>
    takes_addr.bind fun _ => takes_addr.bind fun _ => takes_short.bind fun _ => takes_pure _

end WlanController.Frames
