import WlanController.Protocol.FragmentList
import WlanController.Protocol.TransportHeaderRoundTrip

/-!
# Packets with an assembled header

A packet arrives in a receive buffer that may hold anything behind it.  When its header
comes from the assembler, a call takes out of it exactly the payload the sender put in.
-/

namespace WlanController.Protocol

/-- The buffer after a packet has been received over the bytes of earlier ones. -/
def Packet.carrying (bytes stale : List UInt8)
    (room : maxTransportHeaderSize ≤ (bytes ++ stale).length) : Packet where
  buf := bytes ++ stale
  readBytes := bytes.length
  received := by rw [List.length_append]; omega
  room := room

/-- The fragment a payload makes. -/
def arrivedFragment (transportVal : FragmentValues) (payload : List UInt8) :
    CWProtocolFragment where
  toFragmentValues := transportVal
  data := payload
  dataLen := payload.length
  dataLen_eq := rfl

/-- The members of the header values that are kept with a fragment. -/
def CWProtocolTransportHeaderValues.kept (values : CWProtocolTransportHeaderValues) :
    FragmentValues :=
  ⟨values.fragmentID, values.fragmentOffset, values.last⟩

theorem copyFragment_carrying {headerBytes payload stale : List UInt8}
    {room : maxTransportHeaderSize ≤ ((headerBytes ++ payload) ++ stale).length}
    (transportVal : FragmentValues) :
    copyFragment transportVal (Packet.carrying (headerBytes ++ payload) stale room)
      headerBytes.length = some (arrivedFragment transportVal payload) := by
  have inside : headerBytes.length ≤ (Packet.carrying (headerBytes ++ payload) stale room).readBytes := by
    simp [Packet.carrying]
  have data : ((Packet.carrying (headerBytes ++ payload) stale room).buf.drop
      headerBytes.length).take
        ((Packet.carrying (headerBytes ++ payload) stale room).readBytes - headerBytes.length) =
      payload := by
    simp [Packet.carrying]
  have size : ((Packet.carrying (headerBytes ++ payload) stale room).readBytes : Int) -
      headerBytes.length = payload.length := by
    simp [Packet.carrying]
  unfold copyFragment
  rw [dif_pos inside]
  simp only [data, size]
  rfl

/-- A packet whose header is read as that of a fragment. -/
theorem fragmentsWith_carrying {headerBytes payload stale : List UInt8}
    {room : maxTransportHeaderSize ≤ ((headerBytes ++ payload) ++ stale).length}
    {dataFlag : Bool} {radioMAC : Option EthAddr} {header : ParsedTransportHeader}
    {assigned : Option CWDataMsgType}
    (reads : Reads (cwParseTransportHeader dataFlag radioMAC) headerBytes header assigned)
    (fragmented : header.values.isFragment ≠ 0) (fragmentsList : List CWProtocolFragment) :
    fragmentsWith fragmentsList
        ⟨Packet.carrying (headerBytes ++ payload) stale room, dataFlag, radioMAC⟩ =
      match storeFragment fragmentsList header.values.kept
          (some (arrivedFragment header.values.kept payload)) with
      | .error _ => none
      | .ok fragments => some (fragments, assigned) := by
  have parsed := reads ⟨(Packet.carrying (headerBytes ++ payload) stale room).buf, 0, none⟩
    (payload ++ stale) (by simp [Packet.carrying])
  rw [Nat.zero_add, Option.or_none] at parsed
  unfold fragmentsWith
  simp only [parsed, if_neg fragmented, copyFragment_carrying]
  rfl

/-- The first packet of a message starts a list. -/
theorem storeFragment_nil (fragPtr : CWProtocolFragment) :
    storeFragment [] fragPtr.toFragmentValues (some fragPtr) = .ok [fragPtr] := rfl

theorem storeFragment_new {fragmentsList : List CWProtocolFragment} {fragPtr : CWProtocolFragment}
    (sameID : ∀ oldEl ∈ fragmentsList, oldEl.fragmentID = fragPtr.fragmentID)
    (new : ∀ oldEl ∈ fragmentsList, oldEl.fragmentOffset ≠ fragPtr.fragmentOffset) :
    storeFragment fragmentsList fragPtr.toFragmentValues (some fragPtr) =
      .ok (fragPtr :: fragmentsList) := by
  have sameMessage : fragmentsList.head?.all (·.fragmentID == fragPtr.fragmentID) = true := by
    rw [Option.all_eq_true]
    intro oldEl head
    rw [sameID oldEl (List.mem_of_mem_head? head), beq_self_eq_true]
  have noCopy : ¬ fragmentsList.any
      (fun oldEl => cwCompareFragment fragPtr.toFragmentValues oldEl.toFragmentValues) = true := by
    rw [List.any_eq_true]
    rintro ⟨oldEl, member, same⟩
    exact new oldEl member (cwCompareFragment_eq_true.mp same).2.symm
  rw [storeFragment, if_pos sameMessage, if_neg noCopy]

theorem storeFragment_copy {fragmentsList : List CWProtocolFragment} {fragPtr : CWProtocolFragment}
    (sameID : ∀ oldEl ∈ fragmentsList, oldEl.fragmentID = fragPtr.fragmentID)
    {oldEl : CWProtocolFragment} (member : oldEl ∈ fragmentsList)
    (same : oldEl.fragmentOffset = fragPtr.fragmentOffset) (copied : Option CWProtocolFragment) :
    storeFragment fragmentsList fragPtr.toFragmentValues copied =
      .error (.raised .needResource none, fragmentsList) := by
  have sameMessage : fragmentsList.head?.all (·.fragmentID == fragPtr.fragmentID) = true := by
    rw [Option.all_eq_true]
    intro oldEl head
    rw [sameID oldEl (List.mem_of_mem_head? head), beq_self_eq_true]
  have copy : fragmentsList.any
      (fun oldEl => cwCompareFragment fragPtr.toFragmentValues oldEl.toFragmentValues) = true := by
    rw [List.any_eq_true]
    exact ⟨oldEl, member, cwCompareFragment_eq_true.mpr ⟨(sameID oldEl member).symm, same.symm⟩⟩
  unfold storeFragment
  rw [if_pos sameMessage, if_pos copy]

/-! ## Calls for single fragments -/

/-- A call that leaves the list waiting for more fragments. -/
theorem parseStep_of_incomplete {fragmentsList fragments : List CWProtocolFragment}
    {call : ParseCall} {dataMsgType : Option CWDataMsgType}
    (extended : fragmentsWith fragmentsList call = some (fragments, dataMsgType))
    (incomplete : ¬ Complete fragments) : ParseStep fragmentsList call fragments := by
  obtain ⟨dataFlag, radioMAC, returns⟩ := cwProtocolParseFragment_of_some extended
  refine ⟨0, ⟨.error (.raised .needResource none), fragments, dataFlag, radioMAC⟩, ?_, rfl⟩
  rw [returns 0, completeMessage_of_incomplete incomplete]
  rfl

/-- The header of a fragment without optional parts. -/
def plainFragmentValues (transportVal : FragmentValues) : CWProtocolTransportHeaderValues where
  payloadType := cwPacketPlain
  type := 0
  isFragment := 1
  last := transportVal.last
  fragmentID := transportVal.fragmentID
  fragmentOffset := transportVal.fragmentOffset
  keepAlive := 0
  bindingValuesPtr := none

theorem representable_plain (fragmentID fragmentOffset last : Nat) (small : fragmentID < 65536)
    (near : fragmentOffset < 8192) (flag : last < 2) :
    Representable (plainFragmentValues ⟨fragmentID, fragmentOffset, last⟩) where
  isFragment := Nat.one_lt_two
  last := flag
  fragmentID := small
  fragmentOffset := near

/-- The arrival of one fragment on the control channel. -/
def fragmentCall (transportVal : FragmentValues) (payload : List UInt8) : ParseCall where
  packet := Packet.carrying
    (transportHeaderBytes noRadioMAC (plainFragmentValues transportVal) ++ payload)
    (List.replicate 24 0) (by rw [List.length_append, List.length_replicate]; exact Nat.le_add_left _ _)
  dataFlag := false
  radioMAC := none

theorem fragmentsWith_fragmentCall {transportVal : FragmentValues}
    (representable : Representable (plainFragmentValues transportVal)) (payload : List UInt8)
    {fragmentsList fragments : List CWProtocolFragment}
    (stored : storeFragment fragmentsList transportVal
      (some (arrivedFragment transportVal payload)) = .ok fragments) :
    ∃ dataMsgType,
      fragmentsWith fragmentsList (fragmentCall transportVal payload) =
        some (fragments, dataMsgType) := by
  obtain ⟨assigned, reads⟩ := reads_assembledHeader noRadioMAC representable
    (fun both => absurd both.1 (by decide)) false none
  refine ⟨assigned, ?_⟩
  rw [fragmentCall, fragmentsWith_carrying reads Nat.one_ne_zero]
  change (match storeFragment fragmentsList transportVal
      (some (arrivedFragment transportVal payload)) with
    | .error _ => none
    | .ok fragments => some (fragments, assigned)) = _
  rw [stored]

end WlanController.Protocol
