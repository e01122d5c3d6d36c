import WlanController.Protocol.TransportHeader

/-!
# Receiving fragments

`CWProtocolParseFragment` keeps the fragments of one message in a list and puts the
message together once the sizes add up.  Its last loop need not terminate, so it takes
fuel: `none` means that the fuel ran out.
-/

namespace WlanController.Protocol

/-- The bytes any transport header can make the parser read. -/
def maxTransportHeaderSize : Nat := 24

/-- A receive buffer, of which the first `readBytes` bytes are a packet and the others
    are left over from earlier ones.  The source's buffers have 65536 bytes. -/
structure Packet where
  buf : List UInt8
  readBytes : Nat
  received : readBytes ≤ buf.length
  room : maxTransportHeaderSize ≤ buf.length

/-- The members of a fragment's `transportVal` that are assigned. -/
structure FragmentValues where
  fragmentID : Nat
  fragmentOffset : Nat
  last : Nat
  deriving DecidableEq

/-- A stored fragment.  `dataLen` is an `int` in the source; a fragment whose length
    comes out negative is dropped when its data cannot be allocated. -/
structure CWProtocolFragment extends FragmentValues where
  data : List UInt8
  dataLen : Int
  dataLen_eq : dataLen = data.length
  deriving DecidableEq

def cwCompareFragment (newEl oldEl : FragmentValues) : Bool :=
  newEl.fragmentID == oldEl.fragmentID && newEl.fragmentOffset == oldEl.fragmentOffset

/-- The fragment with a copy of the bytes from `offset` on; `none` when there are fewer
    than no bytes to allocate. -/
def copyFragment (transportVal : FragmentValues) (packet : Packet) (offset : Nat) :
    Option CWProtocolFragment :=
  if inside : offset ≤ packet.readBytes then
    some {
      toFragmentValues := transportVal
      data := (packet.buf.drop offset).take (packet.readBytes - offset)
      dataLen := (packet.readBytes : Int) - offset
      dataLen_eq := by
        have received := packet.received
        rw [List.length_take_of_le (by rw [List.length_drop]; omega)]
        omega }
  else none

/-- Put a fragment into the list, or give the reason why the call ends here and the list
    it leaves. -/
def storeFragment (fragmentsList : List CWProtocolFragment) (transportVal : FragmentValues)
    (copied : Option CWProtocolFragment) :
    Except (Failure × List CWProtocolFragment) (List CWProtocolFragment) :=
  if fragmentsList.head?.all (·.fragmentID == transportVal.fragmentID) then
    if fragmentsList.any fun oldEl => cwCompareFragment transportVal oldEl.toFragmentValues then
      .error (.raised .needResource none, fragmentsList)
    else
      match copied with
      | none => .error (.raised .outOfMemory none, fragmentsList)
      | some fragPtr => .ok (fragPtr :: fragmentsList)
  else
    -- a fragment with another identifier drops all fragments received so far
    match copied with
    | none => .error (.raised .outOfMemory none, [])
    | some fragPtr => .ok [fragPtr]

/-- The size announced by the last fragment; 0 as long as there is none. -/
def totalSize (fragmentsList : List CWProtocolFragment) : Int :=
  fragmentsList.foldl
    (fun size el => if el.last = 1 then el.fragmentOffset * 8 + el.dataLen else size) 0

def currentSize (fragmentsList : List CWProtocolFragment) : Int :=
  (fragmentsList.map (·.dataLen)).sum

/-- The fragment in the list with the current offset. -/
def findFragment (fragmentsList : List CWProtocolFragment) (currentOffset : Int) :
    Option CWProtocolFragment :=
  fragmentsList.find? fun el => (el.fragmentOffset : Int) == currentOffset

/-- Store the fragments one behind the other, looking each up by its offset. -/
def reassemble (fragmentsList : List CWProtocolFragment) (dataMsgType : Option CWDataMsgType) :
    (fuel : Nat) → (currentOffset : Int) → CWProtocolMessage →
      Option (Except Failure CWProtocolMessage)
  | 0, _, _ => none
  | fuel + 1, currentOffset, reassembledMsg =>
    match findFragment fragmentsList currentOffset with
    | none => some (.error (.raised .invalidFormat "Bad Fragmented Messsage"))
    | some el =>
      match (cwProtocolStoreRawBytes el.data).run reassembledMsg with
      | .error failure _ => some (.error failure)
      | .ok _ stored =>
        let reassembledMsg := { stored with dataMsgType }
        if el.last = 1 then some (.ok reassembledMsg)
        else reassemble fragmentsList dataMsgType fuel (currentOffset + el.dataLen / 8)
          reassembledMsg

/-- The check whether all fragments are there, and the list it leaves. -/
def completeMessage (fuel : Nat) (fragmentsList : List CWProtocolFragment)
    (dataMsgType : Option CWDataMsgType) :
    Option (Except Failure CWProtocolMessage × List CWProtocolFragment) :=
  if totalSize fragmentsList = 0 then
    some (.error (.raised .needResource none), fragmentsList)
  else if currentSize fragmentsList ≠ totalSize fragmentsList then
    some (.error (.raised .needResource none), fragmentsList)
  else do
    let result ← reassemble fragmentsList dataMsgType fuel 0
      (cwCreateProtocolMessage (totalSize fragmentsList).toNat)
    return (result, [])

/-- What a call returns and leaves in the objects its arguments point to. -/
structure ParseOutcome where
  result : Except Failure CWProtocolMessage
  fragmentsList : List CWProtocolFragment
  dataFlag : Bool
  radioMAC : Option EthAddr

/-- A message that came in one packet. -/
def singleFragment (packet : Packet) (msg : CWProtocolMessage) :
    Except Failure CWProtocolMessage :=
  if packet.readBytes < msg.offset then .error (.raised .outOfMemory none)
  else
    let data := (packet.buf.drop msg.offset).take (packet.readBytes - msg.offset)
    match (cwProtocolStoreRawBytes data).run (cwCreateProtocolMessage data.length) with
    | .error failure _ => .error failure
    | .ok _ reassembledMsg => .ok { reassembledMsg with dataMsgType := msg.dataMsgType }

def cwProtocolParseFragment (fuel : Nat) (packet : Packet)
    (fragmentsList : List CWProtocolFragment) (dataFlag : Bool) (RadioMAC : Option EthAddr) :
    Option ParseOutcome :=
  match (cwParseTransportHeader dataFlag RadioMAC).run ⟨packet.buf, 0, none⟩ with
  | .error failure _ => some ⟨.error failure, fragmentsList, dataFlag, RadioMAC⟩
  | .ok header msg =>
    if header.values.isFragment = 0 then
      some ⟨singleFragment packet msg, fragmentsList, header.dataFlag, header.radioMAC⟩
    else
      let transportVal : FragmentValues :=
        { fragmentID := header.values.fragmentID
          fragmentOffset := header.values.fragmentOffset
          last := header.values.last }
      match storeFragment fragmentsList transportVal
          (copyFragment transportVal packet msg.offset) with
      | .error (failure, fragmentsList) =>
        some ⟨.error failure, fragmentsList, header.dataFlag, header.radioMAC⟩
      | .ok fragmentsList => do
        let (result, fragmentsList) ← completeMessage fuel fragmentsList msg.dataMsgType
        return ⟨result, fragmentsList, header.dataFlag, header.radioMAC⟩

end WlanController.Protocol
