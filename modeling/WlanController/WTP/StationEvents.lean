import Mathlib.Data.Finset.Insert
import Mathlib.Data.Finset.Erase
import WlanController.Stations.OutOfMemory
import WlanController.WTP.StationTable

/-!
# The stations of a WTP

What the WTP does with the frames of its stations, with the requests of the access
controller, and when an association timer expires.  A station may be in the table of its
BSS, in the kernel's interface and in the tree that all BSSs share.
-/

namespace WlanController.WTP

open Stations (StationTree avlInsert avlInsertOutOfMemory avlDeleteNode)

/-- What does not change about a BSS. -/
structure BSSInfo where
  radioID : Int
  MACaddr : EthAddr

def WTPSTAInfo.setRadioAdd (slot : WTPSTAInfo) (radioAdd : CWBool) : WTPSTAInfo :=
  { slot with radioAdd }

section Flag

variable (slot : WTPSTAInfo) (radioAdd : CWBool)

@[simp] theorem setRadioAdd_address : (slot.setRadioAdd radioAdd).address = slot.address := rfl

@[simp] theorem setRadioAdd_state : (slot.setRadioAdd radioAdd).state = slot.state := rfl

@[simp] theorem setRadioAdd_radioAdd : (slot.setRadioAdd radioAdd).radioAdd = radioAdd := rfl

end Flag

structure BSS where
  staList : StationTable
  /-- the stations that the kernel knows at the interface -/
  kernel : Finset EthAddr
  /-- how many association timers run for each slot -/
  timers : Fin wtpMaxSta → Nat

def BSS.created : BSS where
  staList := .created
  kernel := ∅
  timers := fun _ => 0

structure WTPStations (n : Nat) where
  BSSList : Fin n → BSS
  avlTree : StationTree

def WTPStations.created (n : Nat) : WTPStations n where
  BSSList := fun _ => .created
  avlTree := .nil

/-- The values of an association or reassociation request. -/
structure CWFrameAssociationRequest where
  SA : EthAddr
  capabilityBit : Int
  listenInterval : Int
  supportedRates : List UInt8
  extSupportedRates : List UInt8

variable {n : Nat}

namespace WTPStations

/-- One BSS and the tree are replaced. -/
def put (s : WTPStations n) (BSSIndex : Fin n) (info : BSS) (avlTree : StationTree) :
    WTPStations n :=
  { BSSList := Function.update s.BSSList BSSIndex info, avlTree }

def setTable (s : WTPStations n) (BSSIndex : Fin n) (staList : StationTable) : WTPStations n :=
  s.put BSSIndex { s.BSSList BSSIndex with staList } s.avlTree

end WTPStations

/-! ## Stations and the radio -/

section Radio

variable (info : Fin n → BSSInfo) (s : WTPStations n) (BSSIndex : Fin n) (STAIndex : Fin wtpMaxSta)

/-- The insertion, if `malloc` finds a cell and if it does not. -/
def insertStation (cell : Option Nat) (staAddr : EthAddr) : Option StationTree :=
  match cell with
  | some cell =>
    avlInsert cell BSSIndex staAddr (info BSSIndex).MACaddr (info BSSIndex).radioID s.avlTree
  | none => avlInsertOutOfMemory staAddr s.avlTree

/-- `kernelAdds` is whether the kernel takes the station. -/
def cwWTPAddNewStation (kernelAdds : Bool) (cell : Option Nat) : Option (Bool × WTPStations n) :=
  let bss := s.BSSList BSSIndex
  let slot := bss.staList STAIndex
  match slot.address with
  | none => some (false, s)
  | some address =>
    if slot.radioAdd = cwFalse then
      if kernelAdds then do
        let tmpRoot ← insertStation info s BSSIndex cell address
        let staList := Function.update bss.staList STAIndex (slot.setRadioAdd cwTrue)
        return (tmpRoot != .nil,
          s.put BSSIndex { bss with staList, kernel := insert address bss.kernel } tmpRoot)
      else some (false, s)
    else some (true, s)

/-- `kernelDeletes` is whether the kernel lets the station go. -/
def cwWTPDelStation (kernelDeletes : Bool) : Option (Bool × WTPStations n) :=
  let bss := s.BSSList BSSIndex
  let slot := bss.staList STAIndex
  if slot.radioAdd = cwFalse then some (false, s)
  else
    match slot.address with
    | none => none
    | some address =>
      if kernelDeletes then do
        let avlTree ← avlDeleteNode s.avlTree address (info BSSIndex).radioID
        let staList := Function.update bss.staList STAIndex (slot.setRadioAdd cwFalse)
        let deleted := delSTABySA staList address
        return (deleted.1, s.put BSSIndex
          { bss with staList := deleted.2, kernel := bss.kernel.erase address } avlTree)
      else some (false, s)

/-- The slot alone is given up. -/
def cwWTPDeauthStation : Bool × WTPStations n :=
  let staList := (s.BSSList BSSIndex).staList
  let slot := staList STAIndex
  if slot.radioAdd = cwFalse then (false, s)
  else
    let staList := Function.update staList STAIndex (slot.setRadioAdd cwFalse)
    match slot.address with
    | none => (false, s.setTable BSSIndex staList)
    | some address =>
      let deleted := delSTABySA staList address
      if deleted.1 then
        (true, s.setTable BSSIndex
          (Function.update deleted.2 STAIndex { deleted.2 STAIndex with state := .off }))
      else (false, s.setTable BSSIndex deleted.2)

/-- `CW_80211_STA_AUTH`, as it is assigned to a `CWBool`. -/
def cw80211StaAuth : CWBool := 2

def cwWTPDisassociateStation (kernelDeletes : Bool) : Option (Bool × WTPStations n) :=
  let bss := s.BSSList BSSIndex
  let slot := bss.staList STAIndex
  if slot.radioAdd = cwFalse then some (false, s)
  else
    match slot.address with
    | none => none
    | some address =>
      if kernelDeletes then do
        let avlTree ← avlDeleteNode s.avlTree address (info BSSIndex).radioID
        let staList := Function.update bss.staList STAIndex (slot.setRadioAdd cw80211StaAuth)
        return (true, s.put BSSIndex
          { bss with staList, kernel := bss.kernel.erase address } avlTree)
      else some (false, s)

/-! ## Timers -/

/-- `timerAdded` is whether the timer could be added to the queue. -/
def cwStartAssociationRequestTimer (timerAdded : Bool) : WTPStations n :=
  let bss := s.BSSList BSSIndex
  if timerAdded then
    s.put BSSIndex
      { bss with timers := Function.update bss.timers STAIndex (bss.timers STAIndex + 1) } s.avlTree
  else s

def cwWTPAssociationRequestTimerExpiredHandler : WTPStations n :=
  let slot := (s.BSSList BSSIndex).staList STAIndex
  if slot.address.isSome ∧ slot.state ≠ .association ∧ slot.radioAdd ≠ cwFalse then
    (cwWTPDeauthStation s BSSIndex STAIndex).2
  else s

end Radio

/-! ## Events -/

inductive StationEvent (n : Nat)
  | authentication (BSSIndex : Fin n) (SA : EthAddr) (allocated : Bool)
  | association (BSSIndex : Fin n) (request : CWFrameAssociationRequest)
      (ratesAllocated extRatesAllocated : Bool)
  | reassociation (BSSIndex : Fin n) (request : CWFrameAssociationRequest) (ratesAllocated : Bool)
  | disassociation (BSSIndex : Fin n) (SA : EthAddr) (kernelDeletes timerAdded : Bool)
  | deauthentication (BSSIndex : Fin n) (SA : EthAddr) (kernelDeletes : Bool)
  /-- the answer of the access controller, on which the timer is started -/
  | authResponse (BSSIndex : Fin n) (DA : EthAddr) (timerAdded : Bool)
  | addStation (BSSIndex : Fin n) (STAIndex : Fin wtpMaxSta) (kernelAdds : Bool) (cell : Option Nat)
  | delStation (BSSIndex : Fin n) (STAIndex : Fin wtpMaxSta) (kernelDeletes : Bool)
  | timerExpired (BSSIndex : Fin n) (STAIndex : Fin wtpMaxSta)

section Requests

variable (request : CWFrameAssociationRequest)

/-- The station that has sent an association request; without memory the handler stops. -/
def associated (ratesAllocated extRatesAllocated : Bool) (thisSTA : WTPSTAInfo) : WTPSTAInfo :=
  { thisSTA with
    state := .association
    capabilityBit := request.capabilityBit
    listenInterval := request.listenInterval
    lenSupportedRates := request.supportedRates.length
    extSupportedRatesLen := request.extSupportedRates.length
    supportedRates := if ratesAllocated then some request.supportedRates else none
    extSupportedRates :=
      if ratesAllocated ∧ request.extSupportedRates ≠ [] then
        if extRatesAllocated then some request.extSupportedRates else none
      else thisSTA.extSupportedRates }

def reassociated (ratesAllocated : Bool) (thisSTA : WTPSTAInfo) : WTPSTAInfo :=
  { thisSTA with
    state := .association
    capabilityBit := request.capabilityBit
    listenInterval := request.listenInterval
    lenSupportedRates := request.supportedRates.length
    supportedRates := if ratesAllocated then some request.supportedRates else none }

/-- A request is heard of a station that has authenticated. -/
def hearRequest (s : WTPStations n) (BSSIndex : Fin n) (SA : EthAddr)
    (store : WTPSTAInfo → WTPSTAInfo) : WTPStations n :=
  let staList := (s.BSSList BSSIndex).staList
  match findSTABySA staList SA with
  | none => s
  | some i =>
    if (staList i).state = .auth ∨ (staList i).state = .association then
      s.setTable BSSIndex (Function.update staList i (store (staList i)))
    else s

end Requests

/-- The station leaves the state in which it was associated. -/
def backToAuth (thisSTA : WTPSTAInfo) : WTPSTAInfo :=
  { thisSTA with state := if thisSTA.state = .association then .auth else thisSTA.state }

@[simp] theorem backToAuth_address (thisSTA : WTPSTAInfo) :
    (backToAuth thisSTA).address = thisSTA.address := rfl

@[simp] theorem backToAuth_radioAdd (thisSTA : WTPSTAInfo) :
    (backToAuth thisSTA).radioAdd = thisSTA.radioAdd := rfl

/-- The table after an authentication request. -/
def authenticated (allocated : Bool) (staList : StationTable) (SA : EthAddr) : StationTable :=
  match addSTABySA allocated staList SA with
  | (none, staList) => staList
  | (some i, staList) => Function.update staList i { staList i with state := .auth }

variable (info : Fin n → BSSInfo)

/-- `none` if the WTP crashes, or if no such timer runs. -/
def StationEvent.exec : StationEvent n → WTPStations n → Option (WTPStations n)
  | .authentication BSSIndex SA allocated, s =>
    some (s.setTable BSSIndex (authenticated allocated (s.BSSList BSSIndex).staList SA))
  | .association BSSIndex request ratesAllocated extRatesAllocated, s =>
    some (hearRequest s BSSIndex request.SA (associated request ratesAllocated extRatesAllocated))
  | .reassociation BSSIndex request ratesAllocated, s =>
    some (hearRequest s BSSIndex request.SA (reassociated request ratesAllocated))
  | .disassociation BSSIndex SA kernelDeletes timerAdded, s =>
    let staList := (s.BSSList BSSIndex).staList
    match findSTABySA staList SA with
    | none => some s
    | some i => do
      let s := s.setTable BSSIndex (Function.update staList i (backToAuth (staList i)))
      let (disassociated, s) ← cwWTPDisassociateStation info s BSSIndex i kernelDeletes
      return if disassociated then cwStartAssociationRequestTimer s BSSIndex i timerAdded else s
  | .deauthentication BSSIndex SA kernelDeletes, s =>
    let staList := (s.BSSList BSSIndex).staList
    match findSTABySA staList SA with
    | none => some s
    | some i =>
      if (staList i).radioAdd = cwTrue then
        (cwWTPDelStation info s BSSIndex i kernelDeletes).map (·.2)
      else some s
  | .authResponse BSSIndex DA timerAdded, s =>
    (findSTABySA (s.BSSList BSSIndex).staList DA).map fun i =>
      cwStartAssociationRequestTimer s BSSIndex i timerAdded
  | .addStation BSSIndex STAIndex kernelAdds cell, s =>
    (cwWTPAddNewStation info s BSSIndex STAIndex kernelAdds cell).map (·.2)
  | .delStation BSSIndex STAIndex kernelDeletes, s =>
    (cwWTPDelStation info s BSSIndex STAIndex kernelDeletes).map (·.2)
  | .timerExpired BSSIndex STAIndex, s =>
    let bss := s.BSSList BSSIndex
    if bss.timers STAIndex = 0 then none
    else
      let timers := Function.update bss.timers STAIndex (bss.timers STAIndex - 1)
      some (cwWTPAssociationRequestTimerExpiredHandler (s.put BSSIndex { bss with timers } s.avlTree)
        BSSIndex STAIndex)

def StationStep (s : WTPStations n) (event : StationEvent n) (s' : WTPStations n) : Prop :=
  event.exec info s = some s'

/-! ## Frame lemmas -/

section Frame

variable (s : WTPStations n) (BSSIndex : Fin n) (bss : BSS) (avlTree : StationTree)

@[simp] theorem put_BSSList_self : (s.put BSSIndex bss avlTree).BSSList BSSIndex = bss := by
  simp [WTPStations.put]

@[simp] theorem put_BSSList_of_ne {other : Fin n} (ne : other ≠ BSSIndex) :
    (s.put BSSIndex bss avlTree).BSSList other = s.BSSList other := by
  simp [WTPStations.put, ne]

@[simp] theorem put_avlTree : (s.put BSSIndex bss avlTree).avlTree = avlTree := rfl

@[simp] theorem setTable_BSSList_self (staList : StationTable) :
    (s.setTable BSSIndex staList).BSSList BSSIndex = { s.BSSList BSSIndex with staList } := by
  simp [WTPStations.setTable]

@[simp] theorem setTable_BSSList_of_ne (staList : StationTable) {other : Fin n}
    (ne : other ≠ BSSIndex) : (s.setTable BSSIndex staList).BSSList other = s.BSSList other := by
  simp [WTPStations.setTable, ne]

@[simp] theorem setTable_avlTree (staList : StationTable) :
    (s.setTable BSSIndex staList).avlTree = s.avlTree := rfl

end Frame

def oneBSS : Fin 1 → BSSInfo := fun _ => { radioID := 1, MACaddr := privateAddr 9 }

end WlanController.WTP
