import WlanController.WTP.Consistency

/-!
# Runs that keep the agreement

Three defects break it: the association timer gives up a slot but neither the kernel nor the
tree, a disassociation writes the state into the flag, and a station is deleted by the
string of its address.  A fourth lies in the tree, which holds an address only once.
-/

namespace WlanController.WTP

open Stations (StationTree stationIndex avlDeleteNode)

variable {n : Nat} (info : Fin n → BSSInfo)

/-- A slot is deleted: the kernel lets its station go and the tree is not followed past a
    leaf. -/
def Deletes (s : WTPStations n) (b : Fin n) (i : Fin wtpMaxSta) (kernelDeletes : Bool) : Prop :=
  ((s.BSSList b).staList i).radioAdd ≠ cwFalse ∧ kernelDeletes = true ∧
    ∃ address, ((s.BSSList b).staList i).address = some address ∧
      (avlDeleteNode s.avlTree address (info b).radioID).isSome

/-- The first slot whose address is the same string is the slot itself, or is not flagged. -/
def ClearsItself (s : WTPStations n) (b : Fin n) (i : Fin wtpMaxSta) : Prop :=
  ∀ address, ((s.BSSList b).staList i).address = some address →
    ∀ j, Slots.first (s.BSSList b).staList.addresses (sameString · address) = some j →
      j = i ∨ ((s.BSSList b).staList j).radioAdd = cwFalse

/-- The event meets none of the defects. -/
def Harmless (s : WTPStations n) : StationEvent n → Prop
  | .authentication _ _ _ | .association _ _ _ _ | .reassociation _ _ _ | .authResponse _ _ _ => True
  | .disassociation b SA kernelDeletes _ => ∀ i, findSTABySA (s.BSSList b).staList SA = some i →
      ¬ Deletes info s b i kernelDeletes
  | .deauthentication b SA kernelDeletes => ∀ i, findSTABySA (s.BSSList b).staList SA = some i →
      Deletes info s b i kernelDeletes → ClearsItself s b i
  | .delStation b i kernelDeletes => Deletes info s b i kernelDeletes → ClearsItself s b i
  | .addStation b i kernelAdds cell => ∀ address, ((s.BSSList b).staList i).address = some address →
      ((s.BSSList b).staList i).radioAdd = cwFalse → kernelAdds = true →
      (insertStation info s b cell address).isSome →
      cell.isSome ∧ stationIndex s.avlTree address = none
  | .timerExpired b i => (s.BSSList b).timers i ≠ 0 →
      ((s.BSSList b).staList i).address.isSome → ((s.BSSList b).staList i).radioAdd ≠ cwFalse →
      ((s.BSSList b).staList i).state = .association

/-- After the event everything agrees. -/
def Agrees (s : WTPStations n) (event : StationEvent n) : Prop :=
  ∀ s', StationStep info s event s' → Consistent s'

/-- The flagged slots account for the kernel and for the tree. -/
structure IsSound (s : WTPStations n) : Prop where
  tables : ∀ b, (s.BSSList b).staList.IsSound
  kernel : ∀ b address, address ∈ (s.BSSList b).kernel ↔ (s.BSSList b).staList.Marks address
  index : ∀ b address, Indexed s.avlTree b address ↔ (s.BSSList b).staList.Marks address
  tree : TreeSound info s.avlTree

variable {info} {s s' : WTPStations n} {b : Fin n} {i : Fin wtpMaxSta} {address : EthAddr}

theorem isSound_wtpCreated : IsSound info (WTPStations.created n) where
  tables := fun _ => isSound_created
  kernel := fun b address => by
    refine iff_of_false (by simp [WTPStations.created, BSS.created]) ?_
    rintro ⟨i, holds, -⟩
    cases holds
  index := fun b address => by
    refine iff_of_false ?_ ?_
    · rintro ⟨station, found, -⟩
      cases found
    · rintro ⟨i, holds, -⟩
      cases holds
  tree := treeSound_nil

theorem IsSound.consistent (sound : IsSound info s) : Consistent s where
  unique := fun b i j address holds holds' =>
    (sound.tables b).distinguished i j address address holds holds' (agree_refl address)
  added := by
    intro b i address holds added
    obtain ⟨j, holds', flagged⟩ := (sound.kernel b address).mp added.1
    obtain rfl := (sound.tables b).distinguished i j address address holds holds' (agree_refl address)
    exact flagged
  notAdded := by
    intro b i address holds notAdded
    by_contra flagged
    have marks : (s.BSSList b).staList.Marks address :=
      ⟨i, holds, ((sound.tables b).slots i).eq_true flagged⟩
    exact notAdded ⟨(sound.kernel b address).mpr marks, (sound.index b address).mpr marks⟩
  absent := by
    intro b address off
    have unmarked : ¬ (s.BSSList b).staList.Marks address := by
      rintro ⟨i, holds, -⟩
      exact ((sound.tables b).slots i).live (by simp [holds]) (off i holds)
    exact ⟨fun known => unmarked ((sound.kernel b address).mp known),
      fun indexed => unmarked ((sound.index b address).mp indexed)⟩

/-! ## Steps that keep the invariant -/

/-- Nothing but timers and what is not flagged changes. -/
theorem IsSound.keep (sound : IsSound info s) {bss : BSS} (table : bss.staList.IsSound)
    (marks : ∀ address, bss.staList.Marks address ↔ (s.BSSList b).staList.Marks address)
    (kernel : bss.kernel = (s.BSSList b).kernel) : IsSound info (s.put b bss s.avlTree) := by
  have everywhere : ∀ b', ((s.put b bss s.avlTree).BSSList b').staList.IsSound ∧
      (((s.put b bss s.avlTree).BSSList b').kernel = (s.BSSList b').kernel) ∧
      ∀ address, ((s.put b bss s.avlTree).BSSList b').staList.Marks address ↔
        (s.BSSList b').staList.Marks address := by
    intro b'
    by_cases here : b' = b
    · subst here
      simp [table, kernel, marks]
    · simp [here, sound.tables b']
  exact {
    tables := fun b' => (everywhere b').1
    kernel := fun b' address => by
      rw [(everywhere b').2.1, (everywhere b').2.2]
      exact sound.kernel b' address
    index := fun b' address => by
      rw [(everywhere b').2.2]
      exact sound.index b' address
    tree := sound.tree }

theorem IsSound.keepTable (sound : IsSound info s) {staList : StationTable}
    (table : staList.IsSound)
    (marks : ∀ address, staList.Marks address ↔ (s.BSSList b).staList.Marks address) :
    IsSound info (s.setTable b staList) :=
  sound.keep table marks rfl

theorem IsSound.startTimer (sound : IsSound info s) (b : Fin n) (i : Fin wtpMaxSta)
    (timerAdded : Bool) : IsSound info (cwStartAssociationRequestTimer s b i timerAdded) := by
  cases timerAdded with
  | false => exact sound
  | true => exact sound.keep (sound.tables b) (fun _ => Iff.rfl) rfl

/-- A handler that changes neither the address nor the flag of a slot. -/
theorem IsSound.setSlot (sound : IsSound info s) {slot : WTPSTAInfo}
    (address : slot.address = ((s.BSSList b).staList i).address)
    (flag : slot.radioAdd = ((s.BSSList b).staList i).radioAdd)
    (live : ((s.BSSList b).staList i).state ≠ .off → slot.state ≠ .off) :
    IsSound info (s.setTable b (Function.update (s.BSSList b).staList i slot)) := by
  have before := (sound.tables b).slots i
  refine sound.keepTable ((sound.tables b).update ⟨?_, ?_, ?_⟩ (.inr address))
    (marks_update fun _ => ?_)
  · rw [flag]
    exact before.flag
  · rw [flag, address]
    exact before.vacant
  · rw [address]
    exact fun present => live (before.live present)
  · rw [WTPSTAInfo.Marks, WTPSTAInfo.Marks, flag, address]

theorem IsSound.hearRequest (sound : IsSound info s) (b : Fin n) (SA : EthAddr)
    {store : WTPSTAInfo → WTPSTAInfo} (address : ∀ slot, (store slot).address = slot.address)
    (flag : ∀ slot, (store slot).radioAdd = slot.radioAdd)
    (state : ∀ slot, (store slot).state = .association) :
    IsSound info (WTP.hearRequest s b SA store) := by
  rw [WTP.hearRequest]
  cases findSTABySA (s.BSSList b).staList SA with
  | none => exact sound
  | some i =>
    simp only
    split
    next => exact sound.setSlot (address _) (flag _) fun _ => by simp [state]
    next => exact sound

/-- A station that is flagged nowhere else goes from everywhere. -/
theorem IsSound.delete (sound : IsSound info s) (marks : (s.BSSList b).staList.Marks address)
    {avlTree : StationTree}
    (returned : avlDeleteNode s.avlTree address (info b).radioID = some avlTree)
    {staList : StationTable} (table : staList.IsSound)
    (unmarked : ∀ other, staList.Marks other ↔
      (s.BSSList b).staList.Marks other ∧ other ≠ address) :
    IsSound info (s.put b
      { s.BSSList b with staList, kernel := (s.BSSList b).kernel.erase address } avlTree) := by
  have indexed := (sound.index b address).mpr marks
  obtain ⟨tree, found⟩ := sound.tree.delete indexed returned
  constructor
  case tables =>
    intro b'
    by_cases here : b' = b
    · subst here
      simpa using table
    · simpa [here] using sound.tables b'
  case kernel =>
    intro b' other
    by_cases here : b' = b
    · subst here
      simp [unmarked, sound.kernel, and_comm]
    · simpa [here] using sound.kernel b' other
  case index =>
    intro b' other
    rw [put_avlTree, found]
    by_cases here : b' = b
    · subst here
      simp [unmarked, sound.index]
    · rw [put_BSSList_of_ne s b _ _ here, ← sound.index]
      refine and_iff_left_of_imp fun indexed' => ?_
      rintro rfl
      exact here (indexed_unique indexed' indexed)
  case tree => exact tree

/-- A station that the tree does not hold is added everywhere. -/
theorem IsSound.add (sound : IsSound info s) (absent : stationIndex s.avlTree address = none)
    {cell : Nat} {avlTree : StationTree}
    (returned : Stations.avlInsert cell b address (info b).MACaddr (info b).radioID s.avlTree =
      some avlTree)
    {staList : StationTable} (table : staList.IsSound)
    (marked : ∀ other, staList.Marks other ↔
      (s.BSSList b).staList.Marks other ∨ other = address) :
    IsSound info (s.put b
      { s.BSSList b with staList, kernel := insert address (s.BSSList b).kernel } avlTree) := by
  obtain ⟨tree, found⟩ := sound.tree.insert cell absent returned
  constructor
  case tables =>
    intro b'
    by_cases here : b' = b
    · subst here
      simpa using table
    · simpa [here] using sound.tables b'
  case kernel =>
    intro b' other
    by_cases here : b' = b
    · subst here
      simp [marked, sound.kernel, or_comm]
    · simpa [here] using sound.kernel b' other
  case index =>
    intro b' other
    rw [put_avlTree, found]
    by_cases here : b' = b
    · subst here
      simp [marked, sound.index]
    · simp [here, sound.index]
  case tree => exact tree

/-- The deletion of a slot that clears itself. -/
theorem IsSound.delStation (sound : IsSound info s) {kernelDeletes returned : Bool}
    (clears : Deletes info s b i kernelDeletes → ClearsItself s b i)
    (deleted : cwWTPDelStation info s b i kernelDeletes = some (returned, s')) : IsSound info s' := by
  simp only [cwWTPDelStation] at deleted
  split at deleted
  next =>
    cases deleted
    exact sound
  next flagged =>
    cases holds : ((s.BSSList b).staList i).address with
    | none =>
      rw [holds] at deleted
      cases deleted
    | some address =>
      rw [holds] at deleted
      cases kernelDeletes with
      | false =>
        cases deleted
        exact sound
      | true =>
        obtain ⟨avlTree, removed, rest⟩ := Option.bind_eq_some_iff.mp deleted
        cases rest
        have itself := clears ⟨flagged, rfl, address, holds, by simp [removed]⟩ address holds
        have before := (sound.tables b).slots i
        have marks : (s.BSSList b).staList.Marks address := ⟨i, holds, before.eq_true flagged⟩
        -- the slot is unflagged before its address is searched
        have unflagged : StationTable.IsSound (Function.update (s.BSSList b).staList i
            (((s.BSSList b).staList i).setRadioAdd cwFalse)) :=
          (sound.tables b).update ⟨.inr rfl, fun _ => rfl, before.live⟩ (.inr rfl)
        have unmarked : ∀ other, ¬ (((s.BSSList b).staList i).setRadioAdd cwFalse).Marks other :=
          fun other => WTPSTAInfo.not_marks rfl other
        have remaining := marks_update_unflagged (sound.tables b).distinguished holds unmarked
        have firstUnflagged : ∀ j, Slots.first (StationTable.addresses (Function.update
            (s.BSSList b).staList i (((s.BSSList b).staList i).setRadioAdd cwFalse)))
            (sameString · address) = some j → (Function.update (s.BSSList b).staList i
            (((s.BSSList b).staList i).setRadioAdd cwFalse) j).radioAdd = cwFalse := by
          intro j first
          rw [addresses_update_same (by rfl)] at first
          by_cases here : j = i
          · rw [here, Function.update_self, setRadioAdd_radioAdd]
          · rw [Function.update_of_ne here]
            exact (itself j first).resolve_left here
        obtain ⟨table, kept⟩ := unflagged.deleted firstUnflagged
        exact sound.delete marks removed table fun other => (kept other).trans (remaining other)

theorem IsSound.addStation (sound : IsSound info s) {kernelAdds returned : Bool} {cell : Option Nat}
    (harmless : Harmless info s (.addStation b i kernelAdds cell))
    (added : cwWTPAddNewStation info s b i kernelAdds cell = some (returned, s')) :
    IsSound info s' := by
  simp only [cwWTPAddNewStation] at added
  cases holds : ((s.BSSList b).staList i).address with
  | none =>
    rw [holds] at added
    cases added
    exact sound
  | some address =>
    rw [holds] at added
    simp only at added
    split at added
    next unflagged =>
      cases kernelAdds with
      | false =>
        cases added
        exact sound
      | true =>
        obtain ⟨tmpRoot, inserted, rest⟩ := Option.bind_eq_some_iff.mp added
        cases rest
        obtain ⟨allocated, absent⟩ := harmless address holds unflagged rfl (by simp [inserted])
        cases cell with
        | none => cases allocated
        | some cell =>
          have before := (sound.tables b).slots i
          refine sound.add absent inserted ((sound.tables b).update
            ⟨.inl rfl, fun vacant => ?_, before.live⟩ (.inr rfl)) (marks_update_flagged holds ?_)
          · rw [setRadioAdd_address, holds] at vacant
            cases vacant
          · intro other
            simp [WTPSTAInfo.Marks, holds, eq_comm]
    next =>
      cases added
      exact sound

/-- A disassociation that does not delete the station. -/
theorem cwWTPDisassociateStation_refuses {kernelDeletes returned : Bool}
    (stays : ¬ Deletes info s b i kernelDeletes)
    (done : cwWTPDisassociateStation info s b i kernelDeletes = some (returned, s')) :
    returned = false ∧ s' = s := by
  simp only [cwWTPDisassociateStation] at done
  split at done
  next =>
    cases done
    exact ⟨rfl, rfl⟩
  next flagged =>
    cases holds : ((s.BSSList b).staList i).address with
    | none =>
      rw [holds] at done
      cases done
    | some address =>
      rw [holds] at done
      cases kernelDeletes with
      | false =>
        cases done
        exact ⟨rfl, rfl⟩
      | true =>
        obtain ⟨avlTree, removed, -⟩ := Option.bind_eq_some_iff.mp done
        exact absurd ⟨flagged, rfl, address, holds, by simp [removed]⟩ stays

/-- A disassociation leaves the flag at neither of its values. -/
theorem cwWTPDisassociateStation_deletes (flagged : ((s.BSSList b).staList i).radioAdd ≠ cwFalse)
    (holds : ((s.BSSList b).staList i).address = some address)
    (returns : (avlDeleteNode s.avlTree address (info b).radioID).isSome) :
    ∃ s', cwWTPDisassociateStation info s b i true = some (true, s') ∧
      ((s'.BSSList b).staList i).address = some address ∧
      ((s'.BSSList b).staList i).radioAdd = cw80211StaAuth ∧ address ∉ (s'.BSSList b).kernel := by
  obtain ⟨avlTree, removed⟩ := Option.isSome_iff_exists.mp returns
  refine ⟨s.put b
    { s.BSSList b with
      staList := Function.update (s.BSSList b).staList i
        (((s.BSSList b).staList i).setRadioAdd cw80211StaAuth)
      kernel := (s.BSSList b).kernel.erase address } avlTree, ?_, ?_⟩
  · simp [cwWTPDisassociateStation, flagged, holds, removed]
  · simp [holds]

/-- A deletion clears the first slot whose address is the same string. -/
theorem cwWTPDelStation_deletes (flagged : ((s.BSSList b).staList i).radioAdd ≠ cwFalse)
    (holds : ((s.BSSList b).staList i).address = some address)
    (returns : (avlDeleteNode s.avlTree address (info b).radioID).isSome) {j : Fin wtpMaxSta}
    (first : Slots.first (s.BSSList b).staList.addresses (sameString · address) = some j) :
    ∃ s', cwWTPDelStation info s b i true = some (true, s') ∧
      StationTable.addresses (s'.BSSList b).staList =
        Function.update (s.BSSList b).staList.addresses j none ∧
      (s'.BSSList b).kernel = (s.BSSList b).kernel.erase address := by
  obtain ⟨avlTree, removed⟩ := Option.isSome_iff_exists.mp returns
  have unflagged : StationTable.addresses (Function.update (s.BSSList b).staList i
      (((s.BSSList b).staList i).setRadioAdd cwFalse)) = (s.BSSList b).staList.addresses :=
    addresses_update_same rfl
  rw [← unflagged] at first
  refine ⟨s.put b
    { s.BSSList b with
      staList := (delSTABySA (Function.update (s.BSSList b).staList i
        (((s.BSSList b).staList i).setRadioAdd cwFalse)) address).2
      kernel := (s.BSSList b).kernel.erase address } avlTree, ?_, ?_, ?_⟩
  · simp [cwWTPDelStation, flagged, holds, removed, delSTABySA_of_first first]
  · rw [put_BSSList_self, addresses_delSTABySA first, unflagged]
  · rw [put_BSSList_self]

theorem deletes_backToAuth {kernelDeletes : Bool} :
    Deletes info (s.setTable b (Function.update (s.BSSList b).staList i
      (backToAuth ((s.BSSList b).staList i)))) b i kernelDeletes ↔
        Deletes info s b i kernelDeletes := by
  simp [Deletes]

theorem IsSound.step (sound : IsSound info s) {event : StationEvent n}
    (harmless : Harmless info s event) (step : StationStep info s event s') : IsSound info s' := by
  cases event with
  | authentication b SA allocated =>
    cases step
    obtain ⟨table, marks⟩ := (sound.tables b).authenticated allocated SA
    exact sound.keepTable table marks
  | association b request ratesAllocated extRatesAllocated =>
    cases step
    exact sound.hearRequest b request.SA (fun _ => rfl) (fun _ => rfl) fun _ => rfl
  | reassociation b request ratesAllocated =>
    cases step
    exact sound.hearRequest b request.SA (fun _ => rfl) (fun _ => rfl) fun _ => rfl
  | disassociation b SA kernelDeletes timerAdded =>
    simp only [StationStep, StationEvent.exec] at step
    cases found : findSTABySA (s.BSSList b).staList SA with
    | none =>
      rw [found] at step
      cases step
      exact sound
    | some i =>
      have stays := harmless i found
      rw [found] at step
      obtain ⟨⟨disassociated, middle⟩, done, rest⟩ := Option.bind_eq_some_iff.mp step
      have back : IsSound info (s.setTable b (Function.update (s.BSSList b).staList i
          (backToAuth ((s.BSSList b).staList i)))) := by
        refine sound.setSlot rfl rfl fun live => ?_
        simp only [backToAuth]
        split
        next => simp
        next => exact live
      obtain ⟨rfl, rfl⟩ := cwWTPDisassociateStation_refuses (mt deletes_backToAuth.mp stays) done
      cases rest
      exact back
  | deauthentication b SA kernelDeletes =>
    simp only [StationStep, StationEvent.exec] at step
    cases found : findSTABySA (s.BSSList b).staList SA with
    | none =>
      rw [found] at step
      cases step
      exact sound
    | some i =>
      rw [found] at step
      simp only at step
      split at step
      next =>
        obtain ⟨⟨returned, s'⟩, deleted, rfl⟩ := Option.map_eq_some_iff.mp step
        exact sound.delStation (harmless i found) deleted
      next =>
        cases step
        exact sound
  | authResponse b DA timerAdded =>
    obtain ⟨i, -, rfl⟩ := Option.map_eq_some_iff.mp step
    exact sound.startTimer b i timerAdded
  | addStation b i kernelAdds cell =>
    obtain ⟨⟨returned, s'⟩, added, rfl⟩ := Option.map_eq_some_iff.mp step
    exact sound.addStation harmless added
  | delStation b i kernelDeletes =>
    obtain ⟨⟨returned, s'⟩, deleted, rfl⟩ := Option.map_eq_some_iff.mp step
    exact sound.delStation harmless deleted
  | timerExpired b i =>
    simp only [StationStep, StationEvent.exec] at step
    split at step
    next => cases step
    next running =>
      cases step
      rw [cwWTPAssociationRequestTimerExpiredHandler, if_neg]
      · exact sound.keep (sound.tables b) (fun _ => Iff.rfl) rfl
      · rintro ⟨present, waiting, flagged⟩
        rw [put_BSSList_self] at present waiting flagged
        exact waiting (harmless running present flagged)

/-! ## Steps that break the agreement -/

/-- The station of a slot is unknown to the kernel, but the slot is flagged. -/
theorem not_consistent_of_flag (holds : ((s.BSSList b).staList i).address = some address)
    (notAdded : ¬ s.IsAdded b address) (flag : ((s.BSSList b).staList i).radioAdd ≠ cwFalse) :
    ¬ Consistent s :=
  fun consistent => flag (consistent.notAdded b i address holds notAdded)

/-- The kernel knows a station that has no slot, or whose slot is off. -/
theorem not_consistent_of_known (off : ∀ i, ((s.BSSList b).staList i).address = some address →
      ((s.BSSList b).staList i).state = .off) (known : address ∈ (s.BSSList b).kernel) :
    ¬ Consistent s :=
  fun consistent => (consistent.absent b address off).1 known

@[simp] theorem cwStartAssociationRequestTimer_staList (timerAdded : Bool) :
    ((cwStartAssociationRequestTimer s b i timerAdded).BSSList b).staList =
      (s.BSSList b).staList := by
  cases timerAdded <;> simp [cwStartAssociationRequestTimer]

@[simp] theorem cwStartAssociationRequestTimer_kernel (timerAdded : Bool) :
    ((cwStartAssociationRequestTimer s b i timerAdded).BSSList b).kernel =
      (s.BSSList b).kernel := by
  cases timerAdded <;> simp [cwStartAssociationRequestTimer]

theorem disassociation_breaks {SA : EthAddr} {kernelDeletes : Bool} (timerAdded : Bool)
    (found : findSTABySA (s.BSSList b).staList SA = some i)
    (deletes : Deletes info s b i kernelDeletes) :
    ¬ Agrees info s (.disassociation b SA kernelDeletes timerAdded) := by
  intro agrees
  obtain ⟨flagged, rfl, address, holds, returns⟩ := deletes_backToAuth.mpr deletes
  obtain ⟨s', done, holds', flag, unknown⟩ := cwWTPDisassociateStation_deletes flagged holds returns
  have step : StationStep info s (.disassociation b SA true timerAdded)
      (cwStartAssociationRequestTimer s' b i timerAdded) := by
    simp only [StationStep, StationEvent.exec, found]
    exact Option.bind_eq_some_iff.mpr ⟨_, done, rfl⟩
  refine @not_consistent_of_flag _ _ b i address ?_ ?_ ?_ (agrees _ step)
  · rw [cwStartAssociationRequestTimer_staList, holds']
  · rintro ⟨known, -⟩
    rw [cwStartAssociationRequestTimer_kernel] at known
    exact unknown known
  · rw [cwStartAssociationRequestTimer_staList, flag]
    simp [cw80211StaAuth, cwFalse]

theorem delStation_breaks (sound : IsSound info s) {kernelDeletes : Bool}
    (deletes : Deletes info s b i kernelDeletes) (other : ¬ ClearsItself s b i) :
    ∃ s', cwWTPDelStation info s b i kernelDeletes = some (true, s') ∧ ¬ Consistent s' := by
  obtain ⟨flagged, rfl, address, holds, returns⟩ := deletes
  simp only [ClearsItself, not_forall, not_or] at other
  obtain ⟨address', holds', j, first, ne, flagged'⟩ := other
  obtain rfl := Option.some.inj (holds.symm.trans holds')
  obtain ⟨⟨stored, holdsStored, -⟩, -⟩ := Slots.first_eq_some_iff.mp first
  have marks : (s.BSSList b).staList.Marks stored :=
    ⟨j, holdsStored, ((sound.tables b).slots j).eq_true flagged'⟩
  have distinguished := (sound.tables b).distinguished
  obtain ⟨s', deleted, after, kernel⟩ := cwWTPDelStation_deletes flagged holds returns first
  refine ⟨s', deleted, @not_consistent_of_known _ _ b stored ?_ ?_⟩
  · intro k holdsAfter
    -- the address is in no slot but the one that has been cleared
    have nowhere : Function.update (StationTable.addresses (s.BSSList b).staList) j none k =
        some stored := (congrFun after k).symm.trans holdsAfter
    by_cases here : k = j
    · rw [here, Function.update_self] at nowhere
      cases nowhere
    · rw [Function.update_of_ne here] at nowhere
      exact absurd (distinguished k j stored stored nowhere holdsStored (agree_refl stored)) here
  · rw [kernel]
    refine Finset.mem_erase.mpr ⟨?_, (sound.kernel b stored).mpr marks⟩
    rintro rfl
    exact ne (distinguished j i stored stored holdsStored holds (agree_refl stored))

theorem addStation_breaks (sound : IsSound info s) {kernelAdds : Bool} {cell : Option Nat}
    (harmful : ¬ Harmless info s (.addStation b i kernelAdds cell)) :
    ¬ Agrees info s (.addStation b i kernelAdds cell) := by
  intro agrees
  simp only [Harmless, not_forall] at harmful
  obtain ⟨address, holds, unflagged, rfl, returns, keeps⟩ := harmful
  obtain ⟨tmpRoot, inserted⟩ := Option.isSome_iff_exists.mp returns
  have step : StationStep info s (.addStation b i true cell) (s.put b
      { s.BSSList b with
        staList := Function.update (s.BSSList b).staList i
          (((s.BSSList b).staList i).setRadioAdd cwTrue)
        kernel := insert address (s.BSSList b).kernel } tmpRoot) := by
    simp [StationStep, StationEvent.exec, cwWTPAddNewStation, holds, unflagged, inserted]
  have kept : cell = none ∨ stationIndex s.avlTree address ≠ none := by
    cases cell with
    | none => exact .inl rfl
    | some cell => exact .inr fun absent => keeps ⟨rfl, absent⟩
  have same := insertStation_keeps sound.tree.search kept inserted
  refine @not_consistent_of_flag _ _ b i address ?_ ?_ ?_ (agrees _ step)
  · simpa using holds
  · rintro ⟨-, station, found, here⟩
    rw [put_avlTree, same] at found
    obtain ⟨j, holds', flagged⟩ := (sound.index b address).mp ⟨station, found, here⟩
    obtain rfl := (sound.tables b).distinguished i j address address holds holds' (agree_refl address)
    rw [unflagged] at flagged
    cases flagged
  · simp [cwTrue, cwFalse]

/-- A station whose timer expires before it has associated loses its slot, or keeps it with
    the state off; the kernel is not told. -/
theorem cwWTPAssociationRequestTimerExpiredHandler_deauth
    (flagged : ((s.BSSList b).staList i).radioAdd ≠ cwFalse)
    (holds : ((s.BSSList b).staList i).address = some address)
    (waiting : ((s.BSSList b).staList i).state ≠ .association) :
    ∃ staList, cwWTPAssociationRequestTimerExpiredHandler s b i = s.setTable b staList ∧
      (staList i).state = .off ∧
      ∀ k, staList.addresses k = none ∨ staList.addresses k = (s.BSSList b).staList.addresses k := by
  have unflagged : StationTable.addresses (Function.update (s.BSSList b).staList i
      (((s.BSSList b).staList i).setRadioAdd cwFalse)) = (s.BSSList b).staList.addresses :=
    addresses_update_same rfl
  obtain ⟨j, first, -⟩ : ∃ j, Slots.first (s.BSSList b).staList.addresses (sameString · address) =
      some j ∧ j ≤ i := Slots.exists_first holds (sameString_refl address)
  have cleared := addresses_delSTABySA (unflagged ▸ first)
  rw [unflagged] at cleared
  refine ⟨Function.update (delSTABySA (Function.update (s.BSSList b).staList i
      (((s.BSSList b).staList i).setRadioAdd cwFalse)) address).2 i
    { (delSTABySA (Function.update (s.BSSList b).staList i
        (((s.BSSList b).staList i).setRadioAdd cwFalse)) address).2 i with state := .off }, ?_, ?_, ?_⟩
  · rw [← unflagged] at first
    simp [cwWTPAssociationRequestTimerExpiredHandler, cwWTPDeauthStation, holds, waiting, flagged,
      delSTABySA_of_first first]
  · simp
  · intro k
    rw [addresses_update_same (by rfl), cleared]
    by_cases here : k = j
    · simp [here]
    · simp [here]

theorem timerExpired_breaks (sound : IsSound info s)
    (harmful : ¬ Harmless info s (.timerExpired b i)) : ¬ Agrees info s (.timerExpired b i) := by
  intro agrees
  simp only [Harmless, not_forall] at harmful
  obtain ⟨running, present, flagged, waiting⟩ := harmful
  obtain ⟨address, holds⟩ := Option.isSome_iff_exists.mp present
  have marks : (s.BSSList b).staList.Marks address :=
    ⟨i, holds, ((sound.tables b).slots i).eq_true flagged⟩
  obtain ⟨fewer, counted⟩ : ∃ fewer, fewer = s.put b { s.BSSList b with
      timers := Function.update (s.BSSList b).timers i ((s.BSSList b).timers i - 1) } s.avlTree :=
    ⟨_, rfl⟩
  have table : (fewer.BSSList b).staList = (s.BSSList b).staList := by simp [counted]
  have kernel : (fewer.BSSList b).kernel = (s.BSSList b).kernel := by simp [counted]
  obtain ⟨staList, expired, off, cleared⟩ :=
    @cwWTPAssociationRequestTimerExpiredHandler_deauth _ fewer b i address (by rwa [table])
      (by rwa [table]) (by rwa [table])
  rw [table] at cleared
  have step : StationStep info s (.timerExpired b i) (fewer.setTable b staList) := by
    rw [StationStep, StationEvent.exec, if_neg running, ← expired, counted]
  refine @not_consistent_of_known _ _ b address ?_ ?_ (agrees _ step)
  · intro k holdsAfter
    simp only [setTable_BSSList_self] at holdsAfter ⊢
    obtain none | same := cleared k
    · rw [StationTable.addresses, holdsAfter] at none
      cases none
    · have before : (s.BSSList b).staList.addresses k = some address := same.symm.trans holdsAfter
      rw [(sound.tables b).distinguished k i address address before holds (agree_refl address)]
      exact off
  · rw [setTable_BSSList_self, kernel]
    exact (sound.kernel b address).mpr marks

/-! ## Runs -/

theorem IsSound.agrees_iff (sound : IsSound info s) (event : StationEvent n) :
    Agrees info s event ↔ Harmless info s event := by
  refine ⟨fun agrees => ?_, fun harmless s' step => (sound.step harmless step).consistent⟩
  cases event with
  | authentication b SA allocated => trivial
  | association b request ratesAllocated extRatesAllocated => trivial
  | reassociation b request ratesAllocated => trivial
  | authResponse b DA timerAdded => trivial
  | disassociation b SA kernelDeletes timerAdded =>
    intro i found deletes
    exact disassociation_breaks timerAdded found deletes agrees
  | deauthentication b SA kernelDeletes =>
    intro i found deletes
    by_contra other
    obtain ⟨s', deleted, broken⟩ := delStation_breaks sound deletes other
    refine broken (agrees s' ?_)
    simp only [StationStep, StationEvent.exec, found,
      if_pos (((sound.tables b).slots i).eq_true deletes.1), deleted, Option.map_some]
  | addStation b i kernelAdds cell =>
    by_contra harmful
    exact addStation_breaks sound harmful agrees
  | delStation b i kernelDeletes =>
    intro deletes
    by_contra other
    obtain ⟨s', deleted, broken⟩ := delStation_breaks sound deletes other
    refine broken (agrees s' ?_)
    simp only [StationStep, StationEvent.exec, deleted, Option.map_some]
  | timerExpired b i =>
    by_contra harmful
    exact timerExpired_breaks sound harmful agrees

/-- Along every run of a WTP the tables, the kernel and the tree agree after every event
    exactly when no event meets a defect. -/
theorem run_agrees_iff (info : Fin n → BSSInfo) (events : List (StationEvent n)) :
    Run.AllSteps (StationStep info) (Agrees info) (.created n) events ↔
      Run.AllSteps (StationStep info) (Harmless info) (.created n) events :=
  Run.AllSteps.congr_of_kept (fun _ event sound => sound.agrees_iff event)
    (fun _ event _ sound agrees step => sound.step ((sound.agrees_iff event).mp agrees) step)
    isSound_wtpCreated events

def plainRequest (SA : EthAddr) : CWFrameAssociationRequest where
  SA := SA
  capabilityBit := 0
  listenInterval := 0
  supportedRates := []
  extSupportedRates := []

/-- A station that is added and then disassociates stays flagged. -/
theorem disassociation_not_agrees : ¬ Run.AllSteps (StationStep oneBSS) (Agrees oneBSS) (.created 1)
    [.authentication 0 (privateAddr 1) true, .association 0 (plainRequest (privateAddr 1)) true true,
      .addStation 0 0 true (some 0), .disassociation 0 (privateAddr 1) true true] := by
  intro all
  have last := (all.2 _ rfl).2 _ rfl |>.2 _ rfl |>.1 _ rfl
  have flag := last.notAdded 0 0 (privateAddr 1) (by decide) (by
    rintro ⟨known, -⟩
    revert known
    decide)
  revert flag
  decide

end WlanController.WTP
