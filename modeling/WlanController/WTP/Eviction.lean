import WlanController.WTP.StationEvents

/-!
# Stations that never associate

The association timer gives up a slot only if its station has been added to the radio, so
that a station which has authenticated and no more keeps its slot.
-/

namespace WlanController.WTP

variable {n : Nat}

def WTPSTAInfo.IsFree (slot : WTPSTAInfo) : Prop := slot.address = none ∨ slot.state = .off

/-- Every station that has a slot is added to the radio, or a timer runs whose handler
    would free the slot. -/
def Evictable (s : WTPStations n) : Prop :=
  ∀ b i address, ((s.BSSList b).staList i).address = some address →
    (((s.BSSList b).staList i).radioAdd = cwTrue ∧ address ∈ (s.BSSList b).kernel) ∨
      (0 < (s.BSSList b).timers i ∧
        (((cwWTPAssociationRequestTimerExpiredHandler s b i).BSSList b).staList i).IsFree)

variable (info : Fin n → BSSInfo)

def StaysEvictable (s : WTPStations n) (event : StationEvent n) : Prop :=
  ∀ s', StationStep info s event s' → Evictable s'

/-- An authentication request is not given the memory for an address. -/
def IsNotStored : WTPStations n → StationEvent n → Prop
  | _, .authentication _ _ allocated => allocated = false
  | _, .association _ _ _ _ | _, .reassociation _ _ _ | _, .disassociation _ _ _ _
  | _, .deauthentication _ _ _ | _, .authResponse _ _ _ | _, .addStation _ _ _ _
  | _, .delStation _ _ _ | _, .timerExpired _ _ => True

/-- No slot of the BSS has ever been taken. -/
structure BSS.IsUnused (bss : BSS) : Prop where
  vacant : ∀ i, (bss.staList i).address = none
  unflagged : ∀ i, (bss.staList i).radioAdd = cwFalse
  idle : ∀ i, bss.timers i = 0

def Unused (s : WTPStations n) : Prop := ∀ b, (s.BSSList b).IsUnused

theorem unused_created : Unused (WTPStations.created n) :=
  fun _ => ⟨fun _ => rfl, fun _ => rfl, fun _ => rfl⟩

variable {info} {s s' : WTPStations n} {b : Fin n} {i : Fin wtpMaxSta}

theorem Unused.evictable (unused : Unused s) : Evictable s := by
  intro b i address holds
  rw [(unused b).vacant i] at holds
  cases holds

theorem Unused.findSTABySA (unused : Unused s) (b : Fin n) (sa : EthAddr) :
    WTP.findSTABySA (s.BSSList b).staList sa = none := by
  refine Slots.first_eq_none_iff.mpr fun i address holds => ?_
  rw [StationTable.addresses, (unused b).vacant i] at holds
  cases holds

theorem Unused.freeSlot (unused : Unused s) (b : Fin n) :
    WTP.freeSlot (s.BSSList b).staList = some 0 := by
  refine Fin.find?_eq_some_iff.mpr ⟨by simp [(unused b).vacant 0], fun j before => ?_⟩
  cases Fin.not_lt_zero j before

/-- An authentication request alone may take a slot. -/
theorem Unused.step (unused : Unused s) {event : StationEvent n} (notStored : IsNotStored s event)
    (step : StationStep info s event s') : Unused s' := by
  cases event with
  | authentication b SA allocated =>
    cases notStored
    cases step
    have table : authenticated false (s.BSSList b).staList SA = Function.update
        (s.BSSList b).staList 0 { (s.BSSList b).staList 0 with address := none } := by
      simp [authenticated, addSTABySA, unused.findSTABySA b SA, unused.freeSlot b]
    intro b'
    by_cases here : b' = b
    · subst here
      obtain ⟨vacant, unflagged, idle⟩ := unused b'
      rw [setTable_BSSList_self, table]
      refine ⟨fun i => ?_, fun i => ?_, idle⟩
      · by_cases first : i = 0
        · simp [first]
        · simp [first, vacant]
      · by_cases first : i = 0
        · simp [first, unflagged]
        · simp [first, unflagged]
    · rw [setTable_BSSList_of_ne _ _ _ here]
      exact unused b'
  | association b request ratesAllocated extRatesAllocated =>
    simp only [StationStep, StationEvent.exec, hearRequest, unused.findSTABySA] at step
    cases step
    exact unused
  | reassociation b request ratesAllocated =>
    simp only [StationStep, StationEvent.exec, hearRequest, unused.findSTABySA] at step
    cases step
    exact unused
  | disassociation b SA kernelDeletes timerAdded =>
    simp only [StationStep, StationEvent.exec, unused.findSTABySA] at step
    cases step
    exact unused
  | deauthentication b SA kernelDeletes =>
    simp only [StationStep, StationEvent.exec, unused.findSTABySA] at step
    cases step
    exact unused
  | authResponse b DA timerAdded =>
    simp only [StationStep, StationEvent.exec, unused.findSTABySA] at step
    cases step
  | addStation b i kernelAdds cell =>
    simp only [StationStep, StationEvent.exec, cwWTPAddNewStation, (unused b).vacant i] at step
    cases step
    exact unused
  | delStation b i kernelDeletes =>
    simp only [StationStep, StationEvent.exec, cwWTPDelStation, (unused b).unflagged i, if_true] at step
    cases step
    exact unused
  | timerExpired b i =>
    simp only [StationStep, StationEvent.exec, (unused b).idle i, if_true] at step
    cases step

/-- The handler leaves the slot of a station that has not been added. -/
theorem handler_of_unflagged (unflagged : ((s.BSSList b).staList i).radioAdd = cwFalse) :
    cwWTPAssociationRequestTimerExpiredHandler s b i = s := by
  simp [cwWTPAssociationRequestTimerExpiredHandler, unflagged]

theorem Unused.authentication_breaks (unused : Unused s) (SA : EthAddr) :
    ¬ StaysEvictable info s (.authentication b SA true) := by
  intro stays
  have table : authenticated true (s.BSSList b).staList SA = Function.update
      (s.BSSList b).staList 0
      { (s.BSSList b).staList 0 with address := some SA, state := .auth } := by
    simp [authenticated, addSTABySA, unused.findSTABySA b SA, unused.freeSlot b]
  have evictable := stays _ rfl b 0 SA
  simp only [table, setTable_BSSList_self, Function.update_self, true_implies] at evictable
  obtain ⟨flagged, -⟩ | ⟨armed, -⟩ := evictable
  · rw [(unused b).unflagged] at flagged
    cases flagged
  · rw [(unused b).idle] at armed
    cases armed

theorem Unused.staysEvictable_iff (unused : Unused s) (event : StationEvent n) :
    StaysEvictable info s event ↔ IsNotStored s event := by
  refine ⟨fun stays => ?_, fun notStored s' step => (unused.step notStored step).evictable⟩
  cases event with
  | authentication b SA allocated =>
    cases allocated with
    | false => rfl
    | true => exact absurd stays (unused.authentication_breaks SA)
  | association b request ratesAllocated extRatesAllocated => trivial
  | reassociation b request ratesAllocated => trivial
  | disassociation b SA kernelDeletes timerAdded => trivial
  | deauthentication b SA kernelDeletes => trivial
  | authResponse b DA timerAdded => trivial
  | addStation b i kernelAdds cell => trivial
  | delStation b i kernelDeletes => trivial
  | timerExpired b i => trivial

/-- Along every run every slot can be recovered exactly as long as no authentication
    request is given the memory for an address. -/
theorem run_staysEvictable_iff (info : Fin n → BSSInfo) (events : List (StationEvent n)) :
    Run.AllSteps (StationStep info) (StaysEvictable info) (.created n) events ↔
      Run.AllSteps (StationStep info) IsNotStored (.created n) events :=
  Run.AllSteps.congr_of_kept (fun _ event unused => unused.staysEvictable_iff event)
    (fun _ event _ unused stays step => unused.step ((unused.staysEvictable_iff event).mp stays) step)
    unused_created events

/-- Two requests and the timer: the station keeps its slot. -/
theorem authentication_not_staysEvictable :
    ¬ Run.AllSteps (StationStep oneBSS) (StaysEvictable oneBSS) (.created 1)
      [.authentication 0 (privateAddr 1) true, .authResponse 0 (privateAddr 1) true,
        .timerExpired 0 0] :=
  fun all => unused_created.authentication_breaks (privateAddr 1) all.1

/-! ## Slots that are taken for ever -/

/-- No station has been added to the radio, and a station that has a slot is not off. -/
structure StationTable.IsUnadded (staList : StationTable) : Prop where
  unflagged : ∀ i, (staList i).radioAdd = cwFalse
  live : ∀ i, (staList i).address ≠ none → (staList i).state ≠ .off

def Unadded (s : WTPStations n) : Prop := ∀ b, (s.BSSList b).staList.IsUnadded

/-- The access controller adds no station that the kernel takes. -/
def AddsNone : StationEvent n → Prop
  | .addStation _ _ kernelAdds _ => kernelAdds = false
  | .authentication _ _ _ | .association _ _ _ _ | .reassociation _ _ _ | .disassociation _ _ _ _
  | .deauthentication _ _ _ | .authResponse _ _ _ | .delStation _ _ _ | .timerExpired _ _ => True

/-- The second table has the stations of the first in their slots. -/
def KeepsStations (staList staList' : StationTable) : Prop :=
  ∀ i address, (staList i).address = some address → (staList' i).address = some address

section Tables

variable {staList : StationTable} {slot : WTPSTAInfo}

theorem StationTable.IsUnadded.update (unadded : staList.IsUnadded)
    (address : slot.address = (staList i).address ∨ (staList i).address = none)
    (unflagged : slot.radioAdd = cwFalse) (live : slot.address ≠ none → slot.state ≠ .off) :
    StationTable.IsUnadded (Function.update staList i slot) ∧
      KeepsStations staList (Function.update staList i slot) := by
  refine ⟨⟨fun j => ?_, fun j => ?_⟩, fun j stored holds => ?_⟩
  all_goals by_cases here : j = i
  · simp [here, unflagged]
  · simp [here, unadded.unflagged]
  · subst here
    simpa using live
  · simpa [here] using unadded.live j
  · subst here
    rw [Function.update_self]
    obtain same | vacant := address
    · rw [same, holds]
    · rw [vacant] at holds
      cases holds
  · simpa [here] using holds

theorem StationTable.IsUnadded.authenticated (unadded : staList.IsUnadded) (allocated : Bool)
    (SA : EthAddr) : StationTable.IsUnadded (WTP.authenticated allocated staList SA) ∧
      KeepsStations staList (WTP.authenticated allocated staList SA) := by
  rw [WTP.authenticated, addSTABySA]
  cases findSTABySA staList SA with
  | some foundSTA =>
    simp only [Function.update_self, Function.update_idem]
    exact unadded.update (.inl rfl) (unadded.unflagged foundSTA) fun _ => by simp
  | none =>
    cases free : WTP.freeSlot staList with
    | none => exact ⟨unadded, fun _ _ holds => holds⟩
    | some indexSTA =>
      have vacant : (staList indexSTA).address = none := by
        obtain vacant | off := free_of_freeSlot free
        · exact vacant
        · by_contra present
          exact unadded.live indexSTA present off
      cases allocated with
      | false =>
        exact unadded.update (.inr vacant) (unadded.unflagged indexSTA) fun present => absurd rfl present
      | true =>
        simp only [if_true, Function.update_self, Function.update_idem]
        exact unadded.update (.inr vacant) (unadded.unflagged indexSTA) fun _ => by simp

end Tables

theorem Unadded.setTable (unadded : Unadded s) {staList : StationTable}
    (table : staList.IsUnadded ∧ KeepsStations (s.BSSList b).staList staList) :
    Unadded (s.setTable b staList) ∧ ∀ b', KeepsStations (s.BSSList b').staList
      ((s.setTable b staList).BSSList b').staList := by
  constructor
  · intro b'
    by_cases here : b' = b
    · subst here
      simpa using table.1
    · simpa [here] using unadded b'
  · intro b'
    by_cases here : b' = b
    · subst here
      simpa using table.2
    · simp [here, KeepsStations]

theorem Unadded.hearRequest (unadded : Unadded s) (b : Fin n) (SA : EthAddr)
    {store : WTPSTAInfo → WTPSTAInfo} (address : ∀ slot, (store slot).address = slot.address)
    (flag : ∀ slot, (store slot).radioAdd = slot.radioAdd)
    (state : ∀ slot, (store slot).state = .association) :
    Unadded (WTP.hearRequest s b SA store) ∧ ∀ b', KeepsStations (s.BSSList b').staList
      ((WTP.hearRequest s b SA store).BSSList b').staList := by
  rw [WTP.hearRequest]
  cases WTP.findSTABySA (s.BSSList b).staList SA with
  | none => exact ⟨unadded, fun _ _ _ holds => holds⟩
  | some i =>
    simp only
    split
    next =>
      exact unadded.setTable ((unadded b).update (.inl (address _))
        ((flag _).trans ((unadded b).unflagged i)) fun _ => by simp [state])
    next => exact ⟨unadded, fun _ _ _ holds => holds⟩

/-- Timers are nothing that a table shows. -/
theorem Unadded.timers (unadded : Unadded s) (timers : Fin wtpMaxSta → Nat) :
    Unadded (s.put b { s.BSSList b with timers } s.avlTree) ∧ ∀ b', KeepsStations
      (s.BSSList b').staList ((s.put b { s.BSSList b with timers } s.avlTree).BSSList b').staList := by
  have table : ∀ b', ((s.put b { s.BSSList b with timers } s.avlTree).BSSList b').staList =
      (s.BSSList b').staList := by
    intro b'
    by_cases here : b' = b
    · subst here
      simp
    · simp [here]
  refine ⟨fun b' => ?_, fun b' => ?_⟩
  · rw [table]
    exact unadded b'
  · rw [table]
    exact fun _ _ holds => holds

/-- Nothing but an addition to the radio makes a slot that is taken change hands. -/
theorem Unadded.step (unadded : Unadded s) {event : StationEvent n} (addsNone : AddsNone event)
    (step : StationStep info s event s') :
    Unadded s' ∧ ∀ b, KeepsStations (s.BSSList b).staList (s'.BSSList b).staList := by
  have stays : Unadded s ∧ ∀ b, KeepsStations (s.BSSList b).staList (s.BSSList b).staList :=
    ⟨unadded, fun _ _ _ holds => holds⟩
  cases event with
  | authentication b SA allocated =>
    cases step
    exact unadded.setTable ((unadded b).authenticated allocated SA)
  | association b request ratesAllocated extRatesAllocated =>
    cases step
    exact unadded.hearRequest b request.SA (fun _ => rfl) (fun _ => rfl) fun _ => rfl
  | reassociation b request ratesAllocated =>
    cases step
    exact unadded.hearRequest b request.SA (fun _ => rfl) (fun _ => rfl) fun _ => rfl
  | disassociation b SA kernelDeletes timerAdded =>
    simp only [StationStep, StationEvent.exec] at step
    cases found : WTP.findSTABySA (s.BSSList b).staList SA with
    | none =>
      rw [found] at step
      cases step
      exact stays
    | some i =>
      have unflagged := (unadded b).unflagged i
      rw [found] at step
      simp only [cwWTPDisassociateStation, setTable_BSSList_self, Function.update_self,
        backToAuth_radioAdd, unflagged, if_true, Option.bind_eq_bind, Option.bind_some] at step
      cases step
      refine unadded.setTable ((unadded b).update (.inl rfl) unflagged fun present => ?_)
      have live := (unadded b).live i present
      simp only [backToAuth]
      split
      next => simp
      next => exact live
  | deauthentication b SA kernelDeletes =>
    simp only [StationStep, StationEvent.exec] at step
    cases found : WTP.findSTABySA (s.BSSList b).staList SA with
    | none =>
      rw [found] at step
      cases step
      exact stays
    | some i =>
      rw [found] at step
      simp only [(unadded b).unflagged i] at step
      cases step
      exact stays
  | authResponse b DA timerAdded =>
    obtain ⟨i, -, rfl⟩ := Option.map_eq_some_iff.mp step
    cases timerAdded with
    | false => exact stays
    | true => exact unadded.timers _
  | addStation b i kernelAdds cell =>
    cases addsNone
    simp only [StationStep, StationEvent.exec, cwWTPAddNewStation] at step
    cases holds : ((s.BSSList b).staList i).address with
    | none =>
      rw [holds] at step
      cases step
      exact stays
    | some address =>
      rw [holds] at step
      simp only [(unadded b).unflagged i, if_true] at step
      cases step
      exact stays
  | delStation b i kernelDeletes =>
    simp only [StationStep, StationEvent.exec, cwWTPDelStation, (unadded b).unflagged i, if_true] at step
    cases step
    exact stays
  | timerExpired b i =>
    simp only [StationStep, StationEvent.exec] at step
    split at step
    next => cases step
    next =>
      rw [handler_of_unflagged (by simpa using (unadded b).unflagged i)] at step
      cases step
      exact unadded.timers _

/-- A slot that a station has taken is never given to another, whatever frames come and
    whatever timers expire, until the access controller adds one to the radio. -/
theorem taken_for_ever {events : List (StationEvent n)}
    (addsNone : ∀ event ∈ events, AddsNone event)
    (trace : Run.Trace (StationStep info) s events s') (unadded : Unadded s) (b : Fin n) :
    KeepsStations (s.BSSList b).staList (s'.BSSList b).staList := by
  induction trace with
  | nil s => exact fun _ _ holds => holds
  | cons first _ inductionHypothesis =>
    rw [List.forall_mem_cons] at addsNone
    obtain ⟨unadded', keeps⟩ := unadded.step addsNone.1 first
    intro i address holds
    exact inductionHypothesis addsNone.2 unadded' i address (keeps b i address holds)

end WlanController.WTP
