import WlanController.WTP.StationEvents

/-!
# Agreement of the table, the kernel and the tree

A slot is flagged when its station has been added to the kernel and to the tree.  The
invariant of a run says that the flagged slots account for everything that is there.
-/

namespace WlanController.WTP

open Stations (StationTree IsSearchTree stationIndex avlDeleteNode avlInsertOutOfMemory)

variable {n : Nat}

/-- The tree finds the station at the BSS. -/
def Indexed (avlTree : StationTree) (BSSIndex : Fin n) (address : EthAddr) : Prop :=
  ∃ station, stationIndex avlTree address = some station ∧ station.index = (BSSIndex : Nat)

/-- The kernel knows the station at the BSS and the tree finds it there. -/
def WTPStations.IsAdded (s : WTPStations n) (BSSIndex : Fin n) (address : EthAddr) : Prop :=
  address ∈ (s.BSSList BSSIndex).kernel ∧ Indexed s.avlTree BSSIndex address

/-- No address is in two slots, the flag of a station says whether it has been added, and
    what is off or absent is neither in the kernel nor in the tree. -/
structure Consistent (s : WTPStations n) : Prop where
  unique : ∀ b i j address, ((s.BSSList b).staList i).address = some address →
    ((s.BSSList b).staList j).address = some address → i = j
  added : ∀ b i address, ((s.BSSList b).staList i).address = some address →
    s.IsAdded b address → ((s.BSSList b).staList i).radioAdd = cwTrue
  notAdded : ∀ b i address, ((s.BSSList b).staList i).address = some address →
    ¬ s.IsAdded b address → ((s.BSSList b).staList i).radioAdd = cwFalse
  absent : ∀ b address, (∀ i, ((s.BSSList b).staList i).address = some address →
      ((s.BSSList b).staList i).state = .off) →
    address ∉ (s.BSSList b).kernel ∧ ¬ Indexed s.avlTree b address

/-! ## Tables -/

/-- The address of a slot that is flagged. -/
def WTPSTAInfo.Marks (slot : WTPSTAInfo) (address : EthAddr) : Prop :=
  slot.address = some address ∧ slot.radioAdd = cwTrue

def StationTable.Marks (staList : StationTable) (address : EthAddr) : Prop :=
  ∃ i, (staList i).Marks address

/-- The flag is a truth value and false in a free slot, and a station that has a slot is
    not off. -/
structure WTPSTAInfo.IsSound (slot : WTPSTAInfo) : Prop where
  flag : slot.radioAdd = cwTrue ∨ slot.radioAdd = cwFalse
  vacant : slot.address = none → slot.radioAdd = cwFalse
  live : slot.address ≠ none → slot.state ≠ .off

structure StationTable.IsSound (staList : StationTable) : Prop where
  distinguished : Distinguished staList
  slots : ∀ i, (staList i).IsSound

section Tables

variable {staList : StationTable} {slot : WTPSTAInfo} {i : Fin wtpMaxSta} {address : EthAddr}

theorem isSound_created : StationTable.IsSound .created where
  distinguished := distinguished_created
  slots := fun _ => ⟨.inr rfl, fun _ => rfl, fun present => absurd rfl present⟩

theorem StationTable.IsSound.update (sound : staList.IsSound) (slotSound : slot.IsSound)
    (same : slot.address = none ∨ slot.address = (staList i).address) :
    StationTable.IsSound (Function.update staList i slot) where
  distinguished := sound.distinguished.update same
  slots := fun j => by
    by_cases here : j = i
    · subst here
      simpa using slotSound
    · simpa [here] using sound.slots j

/-- Slots that mark the same keep what the table marks. -/
theorem marks_update (same : ∀ address, slot.Marks address ↔ (staList i).Marks address)
    (address : EthAddr) :
    StationTable.Marks (Function.update staList i slot) address ↔ staList.Marks address := by
  refine exists_congr fun j => ?_
  by_cases here : j = i
  · subst here
    simpa using same address
  · simp [here]

theorem marks_update_flagged (holds : (staList i).address = some address)
    (slotMarks : ∀ other, slot.Marks other ↔ other = address) (other : EthAddr) :
    StationTable.Marks (Function.update staList i slot) other ↔
      staList.Marks other ∨ other = address := by
  constructor
  · rintro ⟨j, marks⟩
    by_cases here : j = i
    · subst here
      rw [Function.update_self] at marks
      exact .inr ((slotMarks other).mp marks)
    · rw [Function.update_of_ne here] at marks
      exact .inl ⟨j, marks⟩
  · rintro (⟨j, marks⟩ | rfl)
    · by_cases here : j = i
      · subst here
        refine ⟨j, ?_⟩
        rw [Function.update_self, slotMarks]
        exact Option.some.inj (marks.1.symm.trans holds)
      · refine ⟨j, ?_⟩
        rw [Function.update_of_ne here]
        exact marks
    · refine ⟨i, ?_⟩
      rw [Function.update_self, slotMarks]

theorem marks_update_unflagged (distinguished : Distinguished staList)
    (holds : (staList i).address = some address) (slotMarks : ∀ other, ¬ slot.Marks other)
    (other : EthAddr) :
    StationTable.Marks (Function.update staList i slot) other ↔
      staList.Marks other ∧ other ≠ address := by
  constructor
  · rintro ⟨j, marks⟩
    by_cases here : j = i
    · subst here
      rw [Function.update_self] at marks
      exact absurd marks (slotMarks other)
    · rw [Function.update_of_ne here] at marks
      refine ⟨⟨j, marks⟩, ?_⟩
      rintro rfl
      exact here (distinguished j i other other marks.1 holds (agree_refl other))
  · rintro ⟨⟨j, marks⟩, ne⟩
    by_cases here : j = i
    · subst here
      exact absurd (Option.some.inj (marks.1.symm.trans holds)) ne
    · refine ⟨j, ?_⟩
      rw [Function.update_of_ne here]
      exact marks

theorem WTPSTAInfo.IsSound.eq_true (sound : slot.IsSound) (flagged : slot.radioAdd ≠ cwFalse) :
    slot.radioAdd = cwTrue := by
  obtain true | false := sound.flag
  · exact true
  · exact absurd false flagged

theorem WTPSTAInfo.not_marks (unflagged : slot.radioAdd = cwFalse) (address : EthAddr) :
    ¬ slot.Marks address := by
  rintro ⟨-, flagged⟩
  rw [unflagged] at flagged
  cases flagged

/-- A slot that an authentication request takes is not flagged. -/
theorem StationTable.IsSound.authenticated (sound : staList.IsSound) (allocated : Bool)
    (SA : EthAddr) :
    StationTable.IsSound (WTP.authenticated allocated staList SA) ∧
      ∀ address, StationTable.Marks (WTP.authenticated allocated staList SA) address ↔
        staList.Marks address := by
  rw [WTP.authenticated, addSTABySA]
  cases found : findSTABySA staList SA with
  | some foundSTA =>
    have before := sound.slots foundSTA
    simp only [Function.update_self, Function.update_idem]
    exact ⟨sound.update ⟨before.flag, before.vacant, fun _ => by simp⟩ (.inr rfl),
      marks_update fun _ => Iff.rfl⟩
  | none =>
    cases free : freeSlot staList with
    | none => exact ⟨sound, fun _ => Iff.rfl⟩
    | some indexSTA =>
      have before := sound.slots indexSTA
      have vacant : (staList indexSTA).address = none := by
        obtain vacant | off := free_of_freeSlot free
        · exact vacant
        · by_contra present
          exact before.live present off
      have unflagged := before.vacant vacant
      cases allocated with
      | false =>
        refine ⟨sound.update ⟨before.flag, fun _ => unflagged, fun present => absurd rfl present⟩
          (.inl rfl), marks_update fun address => ?_⟩
        exact iff_of_false (WTPSTAInfo.not_marks (by exact unflagged) address)
          (WTPSTAInfo.not_marks unflagged address)
      | true =>
        have added := sound.distinguished.add true SA
        rw [addSTABySA, found, free] at added
        simp only [if_true, Function.update_self, Function.update_idem] at added ⊢
        have stored : Distinguished (Function.update staList indexSTA
            { staList indexSTA with address := some SA, state := .auth }) := by
          rw [Distinguished, addresses_update] at added ⊢
          exact added
        refine ⟨⟨stored, fun j => ?_⟩, marks_update fun address => ?_⟩
        · by_cases here : j = indexSTA
          · subst here
            rw [Function.update_self]
            exact ⟨before.flag, fun _ => unflagged, fun _ => by simp⟩
          · rw [Function.update_of_ne here]
            exact sound.slots j
        · exact iff_of_false (WTPSTAInfo.not_marks (by exact unflagged) address)
            (WTPSTAInfo.not_marks unflagged address)

/-- Deleting the first slot of the same string, which is not flagged, clears no mark. -/
theorem StationTable.IsSound.deleted (sound : staList.IsSound) {sa : EthAddr}
    (unflagged : ∀ j, Slots.first staList.addresses (sameString · sa) = some j →
      (staList j).radioAdd = cwFalse) :
    StationTable.IsSound (delSTABySA staList sa).2 ∧
      ∀ address, StationTable.Marks (delSTABySA staList sa).2 address ↔ staList.Marks address := by
  rw [delSTABySA]
  cases found : Slots.first staList.addresses (sameString · sa) with
  | none => exact ⟨sound, fun _ => Iff.rfl⟩
  | some j =>
    have before := sound.slots j
    refine ⟨sound.update ⟨before.flag, fun _ => unflagged j found, fun present => absurd rfl present⟩
      (.inl rfl), marks_update fun address => ?_⟩
    exact iff_of_false (fun marks => by cases marks.1)
      (WTPSTAInfo.not_marks (unflagged j found) address)

end Tables

/-! ## The tree -/

section Tree

variable {info : Fin n → BSSInfo} {avlTree avlTree' : StationTree} {BSSIndex : Fin n}
  {address : EthAddr}

/-- The stations of the tree are at BSSs of the WTP. -/
structure TreeSound (info : Fin n → BSSInfo) (avlTree : StationTree) : Prop where
  search : IsSearchTree avlTree
  known : ∀ address station, stationIndex avlTree address = some station →
    ∃ b : Fin n, station.index = (b : Nat) ∧ station.radioID = (info b).radioID

theorem treeSound_nil : TreeSound info .nil where
  search := Stations.isSearchTree_nil
  known := fun _ _ found => by cases found

theorem TreeSound.of_stationIndex {map : Stations.StationIndex} (sound : TreeSound info avlTree)
    (search : IsSearchTree avlTree') (same : stationIndex avlTree' = map)
    (known : ∀ address station, map address = some station →
      stationIndex avlTree address = some station ∨
        ∃ b : Fin n, station.index = (b : Nat) ∧ station.radioID = (info b).radioID) :
    TreeSound info avlTree' where
  search := search
  known := fun address station found => by
    rw [same] at found
    obtain before | here := known address station found
    · exact sound.known address station before
    · exact here

theorem indexed_unique {b b' : Fin n} (indexed : Indexed avlTree b address)
    (indexed' : Indexed avlTree b' address) : b = b' := by
  obtain ⟨station, found, here⟩ := indexed
  obtain ⟨station', found', here'⟩ := indexed'
  obtain rfl := Option.some.inj (found.symm.trans found')
  rw [here] at here'
  exact Fin.ext (by exact_mod_cast here')

/-- A deletion at the BSS of a station takes it out of the tree. -/
theorem TreeSound.delete (sound : TreeSound info avlTree) (indexed : Indexed avlTree BSSIndex address)
    (returned : avlDeleteNode avlTree address (info BSSIndex).radioID = some avlTree') :
    TreeSound info avlTree' ∧
      ∀ b other, Indexed avlTree' b other ↔ Indexed (n := n) avlTree b other ∧ other ≠ address := by
  have step : Stations.Step avlTree (.deleteNode address (info BSSIndex).radioID) avlTree' := returned
  have updated := step.stationIndex sound.search
  obtain ⟨station, found, here⟩ := indexed
  obtain ⟨b, there, radio⟩ := sound.known address station found
  obtain rfl : b = BSSIndex := by
    rw [here] at there
    exact Fin.ext (by exact_mod_cast there.symm)
  rw [Stations.StationOp.update, found] at updated
  simp only [Option.any_some, radio, beq_self_eq_true, if_true] at updated
  refine ⟨sound.of_stationIndex (step.isSearchTree sound.search) updated ?_, ?_⟩
  · intro other station holds
    by_cases same : other = address
    · simp [same] at holds
    · exact .inl (by simpa [same] using holds)
  · intro b other
    rw [Indexed, updated]
    by_cases same : other = address
    · simp [same]
    · simp [same, Indexed]

/-- An insertion of a station that is not in the tree. -/
theorem TreeSound.insert (sound : TreeSound info avlTree) (cell : Nat)
    (absent : stationIndex avlTree address = none)
    (returned : Stations.avlInsert cell BSSIndex address (info BSSIndex).MACaddr
      (info BSSIndex).radioID avlTree = some avlTree') :
    TreeSound info avlTree' ∧ ∀ b other, Indexed avlTree' b other ↔
      Indexed avlTree b other ∨ b = BSSIndex ∧ other = address := by
  have step : Stations.Step avlTree
    (.insert cell BSSIndex address (info BSSIndex).MACaddr (info BSSIndex).radioID) avlTree' := returned
  have updated := step.stationIndex sound.search
  rw [Stations.StationOp.update, absent] at updated
  simp only [Option.isSome_none, Bool.false_eq_true, if_false] at updated
  refine ⟨sound.of_stationIndex (step.isSearchTree sound.search) updated ?_, ?_⟩
  · intro other station holds
    by_cases same : other = address
    · simp only [same, Function.update_self, Option.some.injEq] at holds
      exact .inr ⟨BSSIndex, by simp [← holds]⟩
    · exact .inl (by simpa [same] using holds)
  · intro b other
    rw [Indexed, updated]
    by_cases same : other = address
    · subst same
      simp [Indexed, absent, eq_comm, Fin.ext_iff]
    · simp [same, Indexed]

/-- An insertion that finds the address in the tree, or no memory, changes no station. -/
theorem insertStation_keeps {s : WTPStations n} (search : IsSearchTree s.avlTree)
    {cell : Option Nat} (keeps : cell = none ∨ stationIndex s.avlTree address ≠ none)
    (returned : insertStation info s BSSIndex cell address = some avlTree') :
    stationIndex avlTree' = stationIndex s.avlTree := by
  cases cell with
  | none => exact (Stations.avlInsertOutOfMemory_keeps search returned).2
  | some cell =>
    obtain impossible | present := keeps
    · cases impossible
    · have step : Stations.Step s.avlTree
        (.insert cell BSSIndex address (info BSSIndex).MACaddr (info BSSIndex).radioID) avlTree' :=
        returned
      rw [step.stationIndex search, Stations.StationOp.update, if_pos (Option.isSome_iff_ne_none.mpr present)]

end Tree

end WlanController.WTP
