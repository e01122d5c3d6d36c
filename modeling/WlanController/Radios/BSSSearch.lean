import WlanController.Common.EthAddrMatch
import WlanController.Foundation.BoundedScan
import WlanController.Foundation.Slots
import WlanController.Radios.RadiosInfo

/-!
# Searching the BSS of an address

The AC looks for the BSSID of a frame in three places.  Each compares addresses as strings,
the bounds differ, and only one of them asks after the loops whether anything was found.
-/

namespace WlanController.Radios

open BoundedScan

/-- What is done with the two indices after the loops. -/
inductive Resolution where
  | selected (indexRadio : Nat) (indexWlan : Fin wtpMaxInterfaces)
  | nothing
  /-- `radiosInfo` is used outside its filled elements. -/
  | outside
  deriving DecidableEq, Repr

/-- `strcmp` finds no difference between a stored BSSID, which a zero byte follows, and an
    address that is followed by another byte. -/
def equalStrings (next : UInt8) (stored address : EthAddr) : Bool :=
  stored.bytes.takeWhile (· != 0) == (address.bytes ++ [next]).takeWhile (· != 0)

/-- The inner loop where only the interfaces of access points are compared. -/
def accessPointLoop (test : EthAddr → Bool) (radio : CWWTPRadioInfoValues) :
    Option (Fin wtpMaxInterfaces) :=
  Slots.first (fun indexWlan =>
    if (radio.interfaces indexWlan).typeInterface = .cwAPMode then
      (radio.interfaces indexWlan).BSSID
    else none) test

/-- The inner loop where every interface with a BSSID is compared. -/
def interfaceLoop (test : EthAddr → Bool) (radio : CWWTPRadioInfoValues) :
    Option (Fin wtpMaxInterfaces) :=
  Slots.first (fun indexWlan => (radio.interfaces indexWlan).BSSID) test

/-- `ACEnterRun` on an association request, in split MAC. -/
def searchAssociationRequest (table : CWWTPRadiosInfo) (bssid : EthAddr) : Resolution :=
  match scan (accessPointLoop (sameString · bssid)) table.radioCount table.radiosInfo with
  | .found indexRadio indexWlan => .selected indexRadio indexWlan
  | .exhausted => .nothing
  | .outside => .outside

/-- `ACEnterRun` on an association response, in local MAC. -/
def searchAssociationResponse (table : CWWTPRadiosInfo) (bssid : EthAddr) : Resolution :=
  match scan (accessPointLoop (sameString · bssid)) table.radioCount table.radiosInfo with
  | .found indexRadio indexWlan => .selected indexRadio indexWlan
  -- `stop` is not tested, and `indexRadio` is `radioCount`
  | .exhausted => .outside
  | .outside => .outside

/-- `CWAssembleStationConfigurationRequest`: in the record of the association response the
    BSSID is followed by the low byte of the sequence control. -/
def searchStationConfiguration (table : CWWTPRadiosInfo) (bssid : EthAddr) (seqCtrl : UInt16) :
    Resolution :=
  match scan (interfaceLoop (equalStrings seqCtrl.toUInt8 · bssid)) wtpRadioMax
    table.radiosInfo with
  | .found indexRadio indexWlan => .selected indexRadio indexWlan
  -- `stop` is not tested, and `indexRadio` is `WTP_RADIO_MAX`
  | .exhausted => .outside
  | .outside => .outside

/-- The selected interface has exactly this BSSID, and nothing is selected only if there is
    no such interface. -/
def Resolves (table : CWWTPRadiosInfo) (bssid : EthAddr) : Resolution → Prop
  | .selected indexRadio indexWlan => table.storedBSSID indexRadio indexWlan = some bssid
  | .nothing => ∀ indexRadio indexWlan, table.storedBSSID indexRadio indexWlan ≠ some bssid
  | .outside => False

/-! ## What the loops find -/

/-- In the order of the loops, the first stored BSSID that passes the test. -/
structure FirstMatch (table : CWWTPRadiosInfo) (test : EthAddr → Bool) (indexRadio : Nat)
    (indexWlan : Fin wtpMaxInterfaces) (bssid : EthAddr) : Prop where
  stored : table.storedBSSID indexRadio indexWlan = some bssid
  passes : test bssid = true
  earlierRadio : ∀ r < indexRadio, ∀ w other,
    table.storedBSSID r w = some other → test other = false
  earlierWlan : ∀ w < indexWlan, ∀ other,
    table.storedBSSID indexRadio w = some other → test other = false

/-- No stored BSSID passes the test. -/
def NoMatch (table : CWWTPRadiosInfo) (test : EthAddr → Bool) : Prop :=
  ∀ indexRadio indexWlan bssid,
    table.storedBSSID indexRadio indexWlan = some bssid → test bssid = false

variable {table : CWWTPRadiosInfo} {test : EthAddr → Bool} {bssid : EthAddr}
  {radio : CWWTPRadioInfoValues} {indexRadio : Nat} {indexWlan : Fin wtpMaxInterfaces}

theorem accessPointLoop_eq : accessPointLoop test = interfaceLoop test := by
  funext radio
  have same : (fun indexWlan => if (radio.interfaces indexWlan).typeInterface = .cwAPMode then
      (radio.interfaces indexWlan).BSSID else none) =
      fun indexWlan => (radio.interfaces indexWlan).BSSID := by
    funext indexWlan
    cases stored : (radio.interfaces indexWlan).BSSID with
    | none => simp
    | some bssid =>
      have accessPoint := (radio.interfaces indexWlan).accessPoint (by simp [stored])
      simp [accessPoint]
  simp only [accessPointLoop, interfaceLoop, same]

theorem storedBSSID_of_radio (here : table.radiosInfo[indexRadio]? = some radio) :
    table.storedBSSID indexRadio indexWlan = (radio.interfaces indexWlan).BSSID := by
  simp [CWWTPRadiosInfo.storedBSSID, here]

theorem interfaceLoop_eq_none_iff (here : table.radiosInfo[indexRadio]? = some radio) :
    interfaceLoop test radio = none ↔
      ∀ w other, table.storedBSSID indexRadio w = some other → test other = false := by
  simp only [interfaceLoop, Slots.first_eq_none_iff, storedBSSID_of_radio here]

theorem first_interfaceLoop_iff :
    First (interfaceLoop test) table.radiosInfo indexRadio indexWlan ↔
      ∃ bssid, FirstMatch table test indexRadio indexWlan bssid := by
  constructor
  · intro ⟨⟨radio, here, found⟩, before⟩
    obtain ⟨⟨bssid, stored, passes⟩, earlier⟩ := Slots.first_eq_some_iff.mp found
    refine ⟨bssid, ⟨?_, passes, ?_, ?_⟩⟩
    · rw [storedBSSID_of_radio here, stored]
    · intro r below w other stored'
      cases there : table.radiosInfo[r]? with
      | none => simp [CWWTPRadiosInfo.storedBSSID, there] at stored'
      | some radio' =>
        exact (interfaceLoop_eq_none_iff there).mp (before r below radio' there) w other stored'
    · intro w below other stored'
      rw [storedBSSID_of_radio here] at stored'
      exact earlier w below other stored'
  · intro ⟨bssid, first⟩
    cases here : table.radiosInfo[indexRadio]? with
    | none =>
      have stored := first.stored
      simp [CWWTPRadiosInfo.storedBSSID, here] at stored
    | some radio =>
      have same (w : Fin wtpMaxInterfaces) :
          table.storedBSSID indexRadio w = (radio.interfaces w).BSSID := storedBSSID_of_radio here
      refine ⟨⟨radio, here, Slots.first_eq_some_iff.mpr ⟨⟨bssid, ?_, first.passes⟩, ?_⟩⟩, ?_⟩
      · rw [← same, first.stored]
      · intro w below other stored
        rw [← same] at stored
        exact first.earlierWlan w below other stored
      · intro r below radio' there
        exact (interfaceLoop_eq_none_iff there).mpr (first.earlierRadio r below)

theorem length_le_wtpRadioMax : table.radiosInfo.length ≤ wtpRadioMax := by
  rw [table.filled]
  exact min_le_right _ _

theorem length_le_radioCount : table.radiosInfo.length ≤ table.radioCount := by
  rw [table.filled]
  exact min_le_left _ _

theorem scan_found_iff {bound : Nat} (long : table.radiosInfo.length ≤ bound) :
    scan (interfaceLoop test) bound table.radiosInfo = .found indexRadio indexWlan ↔
      ∃ bssid, FirstMatch table test indexRadio indexWlan bssid := by
  rw [scan_eq_found, first_interfaceLoop_iff, and_iff_right_iff_imp]
  intro ⟨bssid, first⟩
  have stored := first.stored
  by_contra beyond
  have absent : table.radiosInfo[indexRadio]? = none := List.getElem?_eq_none (by omega)
  simp [CWWTPRadiosInfo.storedBSSID, absent] at stored

theorem scan_exhausted_iff {bound : Nat} (long : table.radiosInfo.length ≤ bound) :
    scan (interfaceLoop test) bound table.radiosInfo = .exhausted ↔
      bound ≤ table.radiosInfo.length ∧ NoMatch table test := by
  rw [scan_eq_exhausted, List.take_of_length_le long]
  refine and_congr_right fun _ => ?_
  constructor
  · intro none r w other stored
    cases here : table.radiosInfo[r]? with
    | none => simp [CWWTPRadiosInfo.storedBSSID, here] at stored
    | some radio =>
      exact (interfaceLoop_eq_none_iff here).mp (none radio (List.mem_of_getElem? here)) w other stored
  · intro none radio member
    obtain ⟨r, here⟩ := List.mem_iff_getElem?.mp member
    exact (interfaceLoop_eq_none_iff here).mpr (none r)

/-! ## The three searches -/

/-- The first stored BSSID that passes the test is the one that is searched. -/
def FirstIs (table : CWWTPRadiosInfo) (test : EthAddr → Bool) (bssid : EthAddr) : Prop :=
  ∃ indexRadio indexWlan, FirstMatch table test indexRadio indexWlan bssid

/-- A selection is right exactly if the first match is. -/
theorem resolves_selected_iff {bound : Nat} (long : table.radiosInfo.length ≤ bound)
    (found : scan (interfaceLoop test) bound table.radiosInfo = .found indexRadio indexWlan) :
    Resolves table bssid (.selected indexRadio indexWlan) ↔ FirstIs table test bssid := by
  obtain ⟨other, first⟩ := (scan_found_iff long).mp found
  rw [Resolves, first.stored]
  constructor
  · intro same
    cases same
    exact ⟨indexRadio, indexWlan, first⟩
  · intro ⟨r, w, first'⟩
    -- the loops stop in one place only
    have found' := (scan_found_iff long).mpr ⟨bssid, first'⟩
    rw [found] at found'
    cases found'
    exact first.stored.symm.trans first'.stored

theorem FirstIs.not_noMatch (first : FirstIs table test bssid) : ¬ NoMatch table test := by
  intro none
  obtain ⟨r, w, first⟩ := first
  have fails := none r w bssid first.stored
  rw [first.passes] at fails
  cases fails

theorem not_firstIs_of_scan {bound : Nat} (long : table.radiosInfo.length ≤ bound)
    (notFound : ∀ r w, scan (interfaceLoop test) bound table.radiosInfo ≠ .found r w) :
    ¬ FirstIs table test bssid :=
  fun ⟨r, w, first⟩ => notFound r w ((scan_found_iff long).mpr ⟨bssid, first⟩)

/-- A search that uses its indices in any case is right if its first match is. -/
theorem unchecked_resolves_iff {bound : Nat} (long : table.radiosInfo.length ≤ bound) :
    Resolves table bssid (match scan (interfaceLoop test) bound table.radiosInfo with
      | .found indexRadio indexWlan => .selected indexRadio indexWlan
      | .exhausted => .outside
      | .outside => .outside) ↔ FirstIs table test bssid := by
  cases found : scan (interfaceLoop test) bound table.radiosInfo with
  | found indexRadio indexWlan => exact resolves_selected_iff long found
  | exhausted => exact iff_of_false id (not_firstIs_of_scan long (by simp [found]))
  | outside => exact iff_of_false id (not_firstIs_of_scan long (by simp [found]))

/-- A search that stops without a match is also right if there is none, as long as the loop
    stays inside the array. -/
theorem checked_resolves_iff (complete : test bssid = true) :
    Resolves table bssid (match scan (interfaceLoop test) table.radioCount table.radiosInfo with
      | .found indexRadio indexWlan => .selected indexRadio indexWlan
      | .exhausted => .nothing
      | .outside => .outside) ↔
      FirstIs table test bssid ∨ table.radioCount ≤ wtpRadioMax ∧ NoMatch table test := by
  have long : table.radiosInfo.length ≤ table.radioCount := length_le_radioCount
  have inside : table.radioCount ≤ table.radiosInfo.length ↔ table.radioCount ≤ wtpRadioMax := by
    rw [table.filled]
    omega
  cases found : scan (interfaceLoop test) table.radioCount table.radiosInfo with
  | found indexRadio indexWlan =>
    obtain ⟨other, first⟩ := (scan_found_iff long).mp found
    have matched : ¬ NoMatch table test := FirstIs.not_noMatch ⟨_, _, first⟩
    simp only [resolves_selected_iff long found, matched, and_false, or_false]
  | exhausted =>
    obtain ⟨within, none⟩ := (scan_exhausted_iff long).mp found
    refine iff_of_true (fun r w stored => ?_) (.inr ⟨inside.mp within, none⟩)
    have fails := none r w bssid stored
    rw [complete] at fails
    cases fails
  | outside =>
    refine iff_of_false id ?_
    intro right
    cases right with
    | inl first => exact not_firstIs_of_scan long (by simp [found]) first
    | inr none =>
      have exhausted := (scan_exhausted_iff long).mpr ⟨inside.mpr none.1, none.2⟩
      rw [found] at exhausted
      cases exhausted

/-- When the searches are right.  An association request may name a BSSID that no stored one
    resembles; the other two searches leave the array then. -/
theorem searches_resolve_iff (table : CWWTPRadiosInfo) (bssid : EthAddr) :
    (Resolves table bssid (searchAssociationRequest table bssid) ↔
      FirstIs table (sameString · bssid) bssid ∨
        table.radioCount ≤ wtpRadioMax ∧ NoMatch table (sameString · bssid)) ∧
    (Resolves table bssid (searchAssociationResponse table bssid) ↔
      FirstIs table (sameString · bssid) bssid) ∧
    ∀ seqCtrl : UInt16, Resolves table bssid (searchStationConfiguration table bssid seqCtrl) ↔
      FirstIs table (equalStrings seqCtrl.toUInt8 · bssid) bssid := by
  simp only [searchAssociationRequest, searchAssociationResponse, searchStationConfiguration,
    accessPointLoop_eq]
  exact ⟨checked_resolves_iff (sameString_refl bssid),
    unchecked_resolves_iff length_le_radioCount,
    fun _ => unchecked_resolves_iff length_le_wtpRadioMax⟩

/-- A WTP with one radio, whose WLAN has a BSSID with a zero byte. -/
def zeroByteTable : Option CWWTPRadiosInfo :=
  assignBSSID (cwSaveJoinRequestMessage 1 fun _ => 0) 0 0 ⟨[2, 0, 0, 0, 0, 1], rfl⟩

/-- A request to a BSSID that shares the bytes before the zero is taken for the WLAN's own,
    and a station of an unknown BSSID is looked up outside the array. -/
theorem searches_not_resolve : ∃ table, zeroByteTable = some table ∧
    ¬ Resolves table ⟨[2, 0, 9, 9, 9, 9], rfl⟩
      (searchAssociationRequest table ⟨[2, 0, 9, 9, 9, 9], rfl⟩) ∧
    ¬ Resolves table ⟨[4, 9, 9, 9, 9, 9], rfl⟩
      (searchStationConfiguration table ⟨[4, 9, 9, 9, 9, 9], rfl⟩ 0) := by
  refine ⟨_, rfl, fun selected => ?_, id⟩
  cases selected

end WlanController.Radios
