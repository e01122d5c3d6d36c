import WlanController.Common.EthAddrMatch
import WlanController.Foundation.Run
import WlanController.Foundation.Slots

/-!
# The station table of a BSS

A WTP keeps a few slots for the stations of each BSS.  A slot is free when it has no
address, or when the state of its station is off.
-/

namespace WlanController.WTP

abbrev wtpMaxSta : Nat := 3

inductive CW80211StateSTA
  | off
  | probe
  | auth
  | association
  | data
  deriving DecidableEq

/-- A `CWBool` of the source, which is assigned integers. -/
abbrev CWBool := Int

def cwFalse : CWBool := 0

def cwTrue : CWBool := 1

structure WTPSTAInfo where
  state : CW80211StateSTA
  address : Option EthAddr
  staAID : Int
  capabilityBit : Int
  listenInterval : Int
  flags : Int
  radioAdd : CWBool
  supportedRates : Option (List UInt8)
  lenSupportedRates : Int
  extSupportedRates : Option (List UInt8)
  extSupportedRatesLen : Int

abbrev StationTable := Fin wtpMaxSta → WTPSTAInfo

/-- The slots of a BSS that has just been created. -/
def StationTable.created : StationTable := fun _ =>
  { state := .off, address := none, staAID := 0, capabilityBit := 0, listenInterval := 0, flags := 0,
    radioAdd := cwFalse, supportedRates := none, lenSupportedRates := 0, extSupportedRates := none,
    extSupportedRatesLen := 0 }

/-- The addresses in the slots. -/
def StationTable.addresses (staList : StationTable) : Fin wtpMaxSta → Option EthAddr :=
  fun indexSTA => (staList indexSTA).address

def findSTABySA (staList : StationTable) (sa : EthAddr) : Option (Fin wtpMaxSta) :=
  Slots.first staList.addresses (agree · sa)

/-- The first slot that is free. -/
def freeSlot (staList : StationTable) : Option (Fin wtpMaxSta) :=
  Fin.find? fun indexSTA => (staList indexSTA).address.isNone || (staList indexSTA).state == .off

/-- `allocated` is whether there is memory for an address. -/
def addSTABySA (allocated : Bool) (staList : StationTable) (sa : EthAddr) :
    Option (Fin wtpMaxSta) × StationTable :=
  match findSTABySA staList sa with
  | some foundSTA =>
    (some foundSTA, Function.update staList foundSTA { staList foundSTA with state := .off })
  | none =>
    match freeSlot staList with
    | none => (none, staList)
    | some indexSTA =>
      if allocated then
        (some indexSTA,
          Function.update staList indexSTA { staList indexSTA with address := some sa })
      else (none, Function.update staList indexSTA { staList indexSTA with address := none })

def WTPSTAInfo.cleared (slot : WTPSTAInfo) : WTPSTAInfo :=
  { slot with address := none, state := .off }

def delSTABySA (staList : StationTable) (sa : EthAddr) : Bool × StationTable :=
  match Slots.first staList.addresses (sameString · sa) with
  | none => (false, staList)
  | some indexSTA => (true, Function.update staList indexSTA (staList indexSTA).cleared)

/-! ## Operations on the table -/

inductive TableOp
  | find (sa : EthAddr)
  | add (allocated : Bool) (sa : EthAddr)
  | del (sa : EthAddr)
  /-- what the handlers do with a slot they have been given -/
  | setState (indexSTA : Fin wtpMaxSta) (state : CW80211StateSTA)

def TableOp.apply : TableOp → StationTable → StationTable
  | .find _, staList => staList
  | .add allocated sa, staList => (addSTABySA allocated staList sa).2
  | .del sa, staList => (delSTABySA staList sa).2
  | .setState indexSTA state, staList =>
    Function.update staList indexSTA { staList indexSTA with state := state }

def TableStep (staList : StationTable) (op : TableOp) (staList' : StationTable) : Prop :=
  op.apply staList = staList'

/-- The operation is about the station with the address and no other. -/
def Exact (staList : StationTable) : TableOp → Prop
  | .find sa => ∀ i, findSTABySA staList sa = some i ↔ (staList i).address = some sa
  | .add allocated sa => ∀ i address, (staList i).address = some address → address ≠ sa →
      (staList i).state ≠ .off → (addSTABySA allocated staList sa).2 i = staList i
  | .del sa => ∀ i, (delSTABySA staList sa).2 i =
      if (staList i).address = some sa then (staList i).cleared else staList i
  | .setState _ _ => True

/-- No other address agrees with the one that is searched, the first that agrees with an
    added one is itself or that of a station which is off, and the first that is the same
    string as a deleted one is itself. -/
def OnlyItself (staList : StationTable) : TableOp → Prop
  | .find sa => ∀ i address, (staList i).address = some address → agree address sa = true →
      address = sa
  | .add _ sa => ∀ i address, (staList i).address = some address → agree address sa = true →
      (∀ j < i, ∀ earlier, (staList j).address = some earlier → agree earlier sa = false) →
      address = sa ∨ (staList i).state = .off
  | .del sa => ∀ i address, (staList i).address = some address → sameString address sa = true →
      (∀ j < i, ∀ earlier, (staList j).address = some earlier → sameString earlier sa = false) →
      address = sa
  | .setState _ _ => True

/-- No two stations have addresses that agree. -/
def Distinguished (staList : StationTable) : Prop := Slots.Apart agree staList.addresses

theorem distinguished_created : Distinguished .created := by
  intro i j address address' holds
  cases holds

/-! ## What the operations keep -/

section Operations

variable {staList : StationTable} {sa : EthAddr} {i : Fin wtpMaxSta}

theorem addresses_update (slot : WTPSTAInfo) :
    StationTable.addresses (Function.update staList i slot) =
      Function.update staList.addresses i slot.address := by
  funext j
  simp only [StationTable.addresses, Function.update_apply]
  split <;> rfl

theorem addresses_update_same {slot : WTPSTAInfo} (same : slot.address = (staList i).address) :
    StationTable.addresses (Function.update staList i slot) = staList.addresses := by
  rw [addresses_update, same]
  exact Function.update_eq_self i staList.addresses

/-- A slot whose address stays or is cleared. -/
theorem Distinguished.update (distinguished : Distinguished staList) {slot : WTPSTAInfo}
    (address : slot.address = none ∨ slot.address = (staList i).address) :
    Distinguished (Function.update staList i slot) := by
  rw [Distinguished, addresses_update]
  refine distinguished.of_cleared fun j => ?_
  by_cases here : j = i
  · subst here
    simpa [StationTable.addresses] using address
  · simp [here]

theorem Distinguished.add (distinguished : Distinguished staList) (allocated : Bool)
    (sa : EthAddr) : Distinguished (addSTABySA allocated staList sa).2 := by
  rw [addSTABySA]
  cases found : findSTABySA staList sa with
  | some foundSTA => exact distinguished.update (.inr rfl)
  | none =>
    cases freeSlot staList with
    | none => exact distinguished
    | some indexSTA =>
      cases allocated with
      | false => exact distinguished.update (.inl rfl)
      | true =>
        have absent := Slots.first_eq_none_iff.mp found
        rw [Distinguished]
        simp only [if_true, addresses_update]
        exact Slots.Apart.store (fun _ _ => agree_symm) distinguished absent indexSTA

theorem Distinguished.del (distinguished : Distinguished staList) (sa : EthAddr) :
    Distinguished (delSTABySA staList sa).2 := by
  rw [delSTABySA]
  cases Slots.first staList.addresses (sameString · sa) with
  | none => exact distinguished
  | some indexSTA => exact distinguished.update (.inl rfl)

theorem Distinguished.step {op : TableOp} {staList' : StationTable}
    (distinguished : Distinguished staList) (step : TableStep staList op staList') :
    Distinguished staList' := by
  cases step
  cases op with
  | find sa => exact distinguished
  | add allocated sa => exact distinguished.add allocated sa
  | del sa => exact distinguished.del sa
  | setState indexSTA state => exact distinguished.update (.inr rfl)

theorem delSTABySA_of_first (first : Slots.first staList.addresses (sameString · sa) = some i) :
    delSTABySA staList sa = (true, Function.update staList i (staList i).cleared) := by
  rw [delSTABySA, first]

theorem addresses_delSTABySA (first : Slots.first staList.addresses (sameString · sa) = some i) :
    StationTable.addresses (delSTABySA staList sa).2 = Function.update staList.addresses i none := by
  rw [delSTABySA_of_first first, addresses_update]
  rfl

/-! ## Exactness -/

theorem free_of_freeSlot (free : freeSlot staList = some i) :
    (staList i).address = none ∨ (staList i).state = .off := by
  have passes := (Fin.find?_eq_some_iff.mp free).1
  simpa using passes

theorem exact_add_iff (allocated : Bool) (staList : StationTable) (sa : EthAddr) :
    Exact staList (.add allocated sa) ↔ OnlyItself staList (.add allocated sa) := by
  simp only [Exact, OnlyItself, addSTABySA]
  cases found : findSTABySA staList sa with
  | some foundSTA =>
    obtain ⟨⟨stored, holds, agrees⟩, earlier⟩ := Slots.first_eq_some_iff.mp found
    constructor
    · intro exact i address holds' agrees' earlier'
      have first : findSTABySA staList sa = some i :=
        Slots.first_eq_some_iff.mpr ⟨⟨address, holds', agrees'⟩, earlier'⟩
      obtain rfl := Option.some.inj (found.symm.trans first)
      by_cases itself : address = sa
      · exact .inl itself
      · by_cases off : (staList foundSTA).state = .off
        · exact .inr off
        · have same := congrArg WTPSTAInfo.state (exact foundSTA address holds' itself off)
          simp only [Function.update_self] at same
          exact absurd same.symm off
    · intro only i address holds' other live
      by_cases here : i = foundSTA
      · subst here
        obtain itself | off := only i stored holds agrees earlier
        · exact absurd (Option.some.inj (holds'.symm.trans (itself ▸ holds))) other
        · exact absurd off live
      · exact Function.update_of_ne here _ _
  | none =>
    have absent := Slots.first_eq_none_iff.mp found
    have only : ∀ i address, (staList i).address = some address → agree address sa = true →
        (∀ j < i, ∀ earlier, (staList j).address = some earlier → agree earlier sa = false) →
        address = sa ∨ (staList i).state = .off := by
      intro i address holds agrees _
      rw [absent i address holds] at agrees
      cases agrees
    refine iff_of_true ?_ only
    intro i address holds _ live
    cases free : freeSlot staList with
    | none => rfl
    | some indexSTA =>
      -- the slot that is overwritten has no live station
      have other : i ≠ indexSTA := by
        rintro rfl
        obtain none | off := free_of_freeSlot free
        · rw [none] at holds
          cases holds
        · exact live off
      cases allocated with
      | false => simp [other]
      | true => simp [other]

theorem exact_del_iff (distinguished : Distinguished staList) (sa : EthAddr) :
    Exact staList (.del sa) ↔ OnlyItself staList (.del sa) := by
  simp only [Exact, OnlyItself]
  cases found : Slots.first staList.addresses (sameString · sa) with
  | none =>
    have absent := Slots.first_eq_none_iff.mp found
    have kept : (delSTABySA staList sa).2 = staList := by rw [delSTABySA, found]
    rw [kept]
    refine iff_of_true ?_ ?_
    · intro i
      split
      next holds =>
        have differs := absent i sa holds
        simp at differs
      next => rfl
    · intro i address holds same _
      rw [absent i address holds] at same
      cases same
  | some indexSTA =>
    obtain ⟨⟨stored, holds, same⟩, earlier⟩ := Slots.first_eq_some_iff.mp found
    have deleted : (delSTABySA staList sa).2 =
        Function.update staList indexSTA (staList indexSTA).cleared := by
      rw [delSTABySA_of_first found]
    rw [deleted]
    constructor
    · intro exact i address holds' same' earlier'
      have first : Slots.first staList.addresses (sameString · sa) = some i :=
        Slots.first_eq_some_iff.mpr ⟨⟨address, holds', same'⟩, earlier'⟩
      obtain rfl := Option.some.inj (found.symm.trans first)
      have after := exact indexSTA
      rw [Function.update_self] at after
      by_cases itself : (staList indexSTA).address = some sa
      · exact Option.some.inj (holds'.symm.trans itself)
      · rw [if_neg itself] at after
        have cleared := congrArg WTPSTAInfo.address after
        rw [holds'] at cleared
        cases cleared
    · intro only i
      obtain rfl := only indexSTA stored holds same earlier
      by_cases here : i = indexSTA
      · subst here
        rw [Function.update_self]
        exact (if_pos holds).symm
      · have other : (staList i).address ≠ some stored := fun holds' =>
          here (distinguished i indexSTA stored stored holds' holds (agree_refl stored))
        rw [Function.update_of_ne here, if_neg other]

theorem Distinguished.exact_iff (distinguished : Distinguished staList) (op : TableOp) :
    Exact staList op ↔ OnlyItself staList op := by
  cases op with
  | find sa => exact Slots.first_exact_iff agree_refl distinguished
  | add allocated sa => exact exact_add_iff allocated staList sa
  | del sa => exact exact_del_iff distinguished sa
  | setState indexSTA state => exact Iff.rfl

end Operations

/-- Along every run from a created table the operations are about the station they are
    given exactly when no other station is taken for it. -/
theorem run_exact_iff (ops : List TableOp) :
    Run.AllSteps TableStep Exact .created ops ↔ Run.AllSteps TableStep OnlyItself .created ops :=
  Run.AllSteps.congr_of_invariant (fun _ _ _ distinguished step => distinguished.step step)
    (fun _ op distinguished => distinguished.exact_iff op) distinguished_created ops

def privateAddr (last : UInt8) : EthAddr where
  bytes := [2, 0, 0, 0, 0, last]
  length_bytes := rfl

/-- The second of two stations is deleted, and the first one goes. -/
theorem delSTABySA_not_exact : ¬ Run.AllSteps TableStep Exact .created
    [.add true (privateAddr 1), .setState 0 .auth, .add true (privateAddr 2), .setState 1 .auth,
      .del (privateAddr 2)] := by
  intro all
  have deleted := (all.2 _ rfl).2 _ rfl |>.2 _ rfl |>.2 _ rfl |>.1 0
  have cleared := congrArg WTPSTAInfo.address deleted
  revert cleared
  decide

end WlanController.WTP
