import Mathlib.Data.List.Lex
import Mathlib.Order.Defs.LinearOrder
import WlanController.Common.EthAddr

/-!
# The order of Ethernet addresses

`compareEthAddr` compares byte by byte from the first one on, so addresses are ordered
lexicographically.
-/

namespace WlanController

def compareBytes : List UInt8 → List UInt8 → Int
  | byte :: staAddr, byte' :: AVLaddr =>
    if byte.toNat > byte'.toNat then 1
    else if byte.toNat < byte'.toNat then -1
    else compareBytes staAddr AVLaddr
  | _, _ => 0

def compareEthAddr (staAddr AVLaddr : EthAddr) : Int := compareBytes staAddr.bytes AVLaddr.bytes

namespace EthAddr

def toNats (address : EthAddr) : List Nat := address.bytes.map UInt8.toNat

theorem toNats_injective : Function.Injective toNats := by
  intro address other same
  exact ext_bytes (List.map_injective_iff.mpr (fun _ _ => UInt8.toNat_inj.mp) same)

instance : LinearOrder EthAddr := LinearOrder.lift' toNats toNats_injective

theorem lt_iff_toNats {address other : EthAddr} : address < other ↔ address.toNats < other.toNats :=
  Iff.rfl

end EthAddr

/-- The three outcomes of comparing byte strings of one length. -/
theorem compareBytes_cases {staAddr AVLaddr : List UInt8}
    (length : staAddr.length = AVLaddr.length) :
    (compareBytes staAddr AVLaddr = -1 ∧ staAddr.map UInt8.toNat < AVLaddr.map UInt8.toNat) ∨
    (compareBytes staAddr AVLaddr = 1 ∧ AVLaddr.map UInt8.toNat < staAddr.map UInt8.toNat) ∨
    (compareBytes staAddr AVLaddr = 0 ∧ staAddr = AVLaddr) := by
  induction staAddr generalizing AVLaddr with
  | nil =>
    cases AVLaddr with
    | nil => exact .inr (.inr ⟨rfl, rfl⟩)
    | cons => cases length
  | cons byte staAddr inductionHypothesis =>
    cases AVLaddr with
    | nil => cases length
    | cons byte' AVLaddr =>
      simp only [List.length_cons, Nat.add_right_cancel_iff] at length
      simp only [compareBytes, List.map_cons, List.cons_lt_cons_iff]
      rcases Nat.lt_trichotomy byte.toNat byte'.toNat with less | same | more
      · rw [if_neg (Nat.not_lt_of_gt less), if_pos less]
        exact .inl ⟨rfl, .inl less⟩
      · rw [if_neg same.not_gt, if_neg same.not_lt]
        rcases inductionHypothesis length with ⟨compared, rest⟩ | ⟨compared, rest⟩ | ⟨compared, rest⟩
        · exact .inl ⟨compared, .inr ⟨same, rest⟩⟩
        · exact .inr (.inl ⟨compared, .inr ⟨same.symm, rest⟩⟩)
        · exact .inr (.inr ⟨compared, by rw [UInt8.toNat_inj.mp same, rest]⟩)
      · rw [if_pos more]
        exact .inr (.inl ⟨rfl, .inl more⟩)

theorem compareEthAddr_cases (staAddr AVLaddr : EthAddr) :
    (compareEthAddr staAddr AVLaddr = -1 ∧ staAddr < AVLaddr) ∨
    (compareEthAddr staAddr AVLaddr = 1 ∧ AVLaddr < staAddr) ∨
    (compareEthAddr staAddr AVLaddr = 0 ∧ staAddr = AVLaddr) := by
  have length : staAddr.bytes.length = AVLaddr.bytes.length := by simp
  rcases compareBytes_cases length with ⟨compared, less⟩ | ⟨compared, more⟩ | ⟨compared, same⟩
  · exact .inl ⟨compared, less⟩
  · exact .inr (.inl ⟨compared, more⟩)
  · exact .inr (.inr ⟨compared, EthAddr.ext_bytes same⟩)

@[simp] theorem compareEthAddr_neg_iff {staAddr AVLaddr : EthAddr} :
    compareEthAddr staAddr AVLaddr < 0 ↔ staAddr < AVLaddr := by
  rcases compareEthAddr_cases staAddr AVLaddr with ⟨compared, less⟩ | ⟨compared, more⟩ |
    ⟨compared, rfl⟩
  · simp [compared, less]
  · simp [compared, more.le]
  · simp [compared]

@[simp] theorem compareEthAddr_pos_iff {staAddr AVLaddr : EthAddr} :
    0 < compareEthAddr staAddr AVLaddr ↔ AVLaddr < staAddr := by
  rcases compareEthAddr_cases staAddr AVLaddr with ⟨compared, less⟩ | ⟨compared, more⟩ |
    ⟨compared, rfl⟩
  · simp [compared, less.le]
  · simp [compared, more]
  · simp [compared]

end WlanController
