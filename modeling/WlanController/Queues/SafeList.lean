import WlanController.Foundation.LinkedCells

/-!
# The packet queue

The packets of a session wait in a `CWSafeList` of doubly linked elements.  It is locked around
every operation, so that the operations come one after the other.
-/

namespace WlanController.Queues

open LinkedCells

/-- A pointer. -/
abbrev Address := UInt64

def null : Address := 0

/-- What a `CWPrivateSafeElement` holds.  The flag is `none` until it is assigned. -/
structure Packet where
  pData : Address
  nSize : Int
  dataFlag : Option Bool
deriving DecidableEq

abbrev CWPrivateSafeElement := Cell Address Packet

/-- A `CWPrivateSafeList`, with the elements that are allocated. -/
structure CWPrivateSafeList where
  nCount : UInt64
  pFirstElement : Address
  pLastElement : Address
  heap : Heap Address Packet

/-! ## The operations

Each is `none` where an element is accessed that is not allocated.  `pNewElement` is what `malloc`
has returned. -/

def cwCreateSafeList : CWPrivateSafeList := ⟨0, null, null, fun _ => none⟩

def cwGetCountElementFromSafeList (pList : CWPrivateSafeList) : UInt64 := pList.nCount

def cwAddElementToSafeListHead (pNewElement pData : Address) (nSize : Int)
    (pList : CWPrivateSafeList) : Option (Bool × CWPrivateSafeList) :=
  if pData = null then some (false, pList)
  else if pNewElement = null then some (false, pList)
  else do
    let heap := pList.heap.store pNewElement ⟨⟨pData, nSize, none⟩, null, pList.pFirstElement⟩
    let heap ← heap.setPrev null pList.pFirstElement pNewElement
    return (true, {
      nCount := pList.nCount + 1
      pFirstElement := pNewElement
      pLastElement := if pList.pLastElement = null then pNewElement else pList.pLastElement
      heap := heap })

/-- `CWAddElementToSafeListTail` does not assign the flag. -/
def addElementTail (pNewElement pData : Address) (nSize : Int) (dataFlag : Option Bool)
    (pList : CWPrivateSafeList) : Option (Bool × CWPrivateSafeList) :=
  if pData = null then some (false, pList)
  else if pNewElement = null then some (false, pList)
  else do
    let heap := pList.heap.store pNewElement ⟨⟨pData, nSize, dataFlag⟩, pList.pLastElement, null⟩
    let heap ← heap.setNext null pList.pLastElement pNewElement
    return (true, {
      nCount := pList.nCount + 1
      pFirstElement := if pList.pFirstElement = null then pNewElement else pList.pFirstElement
      pLastElement := pNewElement
      heap := heap })

def cwAddElementToSafeListTail (pNewElement pData : Address) (nSize : Int) :
    CWPrivateSafeList → Option (Bool × CWPrivateSafeList) :=
  addElementTail pNewElement pData nSize none

def cwAddElementToSafeListTailwitDataFlag (pNewElement pData : Address) (nSize : Int)
    (dataFlag : Bool) : CWPrivateSafeList → Option (Bool × CWPrivateSafeList) :=
  addElementTail pNewElement pData nSize (some dataFlag)

/-- The data and the size of the head. -/
def cwGetHeadElementFromSafeList (pList : CWPrivateSafeList) : Option (Option (Address × Int)) :=
  if pList.pFirstElement = null then some none
  else do
    let pElement ← pList.heap pList.pFirstElement
    return some (pElement.item.pData, pElement.item.nSize)

/-- What the two functions that remove the head do alike. -/
def removeHead (pList : CWPrivateSafeList) : Option (Option Packet × CWPrivateSafeList) :=
  if pList.pFirstElement = null then some (none, pList)
  else do
    let pElement ← pList.heap pList.pFirstElement
    let heap ← pList.heap.setPrev null pElement.next null
    return (some pElement.item, {
      nCount := pList.nCount - 1
      pFirstElement := pElement.next
      pLastElement := if pElement.next = null then null else pList.pLastElement
      heap := heap.release pList.pFirstElement })

def cwRemoveHeadElementFromSafeList (pList : CWPrivateSafeList) :
    Option (Option (Address × Int) × CWPrivateSafeList) :=
  (removeHead pList).map fun removed =>
    (removed.1.map fun packet => (packet.pData, packet.nSize), removed.2)

def cwRemoveHeadElementFromSafeListwithDataFlag (pList : CWPrivateSafeList) :
    Option (Option (Address × Int × Option Bool) × CWPrivateSafeList) :=
  (removeHead pList).map fun removed =>
    (removed.1.map fun packet => (packet.pData, packet.nSize, packet.dataFlag), removed.2)

def cwRemoveTailElementFromSafeList (pList : CWPrivateSafeList) :
    Option (Option (Address × Int) × CWPrivateSafeList) :=
  if pList.pLastElement = null then some (none, pList)
  else do
    let pElement ← pList.heap pList.pLastElement
    let heap ← pList.heap.setNext null pElement.prev null
    return (some (pElement.item.pData, pElement.item.nSize), {
      nCount := pList.nCount - 1
      pFirstElement := if pElement.prev = null then null else pList.pFirstElement
      pLastElement := pElement.prev
      heap := heap.release pList.pLastElement })

/-- The data that `deleteFunc` is called with, one after the other.  The loop ends when there is no
    head left. -/
def cwCleanSafeList : (rounds : Nat) → CWPrivateSafeList →
    Option (List Address × CWPrivateSafeList)
  | 0, _ => none
  | rounds + 1, pList => do
    let (removed, pList) ← cwRemoveHeadElementFromSafeList pList
    match removed with
    | none => return ([], pList)
    | some (pData, _) =>
      if pData = null then return ([], pList)
      else do
        let (deleted, pList) ← cwCleanSafeList rounds pList
        return (pData :: deleted, pList)

end WlanController.Queues
