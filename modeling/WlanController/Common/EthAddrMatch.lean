import Mathlib.Data.List.Zip
import Mathlib.Tactic.Tauto
import WlanController.Common.EthAddr

/-!
# Matching addresses

Three comparisons of the source that are not the equality of all bytes: one passes over
zero bytes, and those of the string library stop at the first.
-/

namespace WlanController

/-- The comparison passes over every position in which one of the bytes is zero. -/
def cwCompareEthernetAddress (address1 address2 : EthAddr) : Int :=
  if (address1.bytes.zip address2.bytes).any fun pair =>
      pair.1 != 0 && pair.2 != 0 && pair.1 != pair.2 then -1
  else 0

/-- `strcmp` finds no difference between two arrays that are followed by a zero, and
    `strncmp` none in their `ETH_ALEN` bytes. -/
def sameString (s1 s2 : EthAddr) : Bool :=
  s1.bytes.takeWhile (· != 0) == s2.bytes.takeWhile (· != 0)

/-- The addresses agree wherever both have a byte other than zero. -/
def agree (address1 address2 : EthAddr) : Bool := cwCompareEthernetAddress address1 address2 == 0

theorem agree_iff {address1 address2 : EthAddr} :
    agree address1 address2 = true ↔ ∀ pair ∈ address1.bytes.zip address2.bytes,
      pair.1 = 0 ∨ pair.2 = 0 ∨ pair.1 = pair.2 := by
  have differing : ∀ pair : UInt8 × UInt8,
      ¬ (pair.1 ≠ 0 ∧ pair.2 ≠ 0 ∧ pair.1 ≠ pair.2) ↔ pair.1 = 0 ∨ pair.2 = 0 ∨ pair.1 = pair.2 := by
    intro pair
    tauto
  simp only [agree, cwCompareEthernetAddress]
  split
  next differ =>
    simp only [List.any_eq_true, Bool.and_eq_true, bne_iff_ne, and_assoc] at differ
    obtain ⟨pair, member, differs⟩ := differ
    constructor
    · intro same
      cases same
    · intro all
      exact absurd differs ((differing pair).mpr (all pair member))
  next none =>
    simp only [List.any_eq_true, Bool.and_eq_true, bne_iff_ne, and_assoc, not_exists, not_and]
      at none
    constructor
    · intro _ pair member
      exact (differing pair).mp fun ⟨nonzero, nonzero', differs⟩ =>
        none pair member nonzero nonzero' differs
    · intro _
      rfl

@[simp] theorem agree_refl (address : EthAddr) : agree address address = true := by
  rw [agree_iff]
  intro pair member
  rw [List.zip_eq_zipWith, List.zipWith_self] at member
  obtain ⟨byte, -, rfl⟩ := List.mem_map.mp member
  exact .inr (.inr rfl)

theorem agree_symm {address1 address2 : EthAddr} (same : agree address1 address2 = true) :
    agree address2 address1 = true := by
  rw [agree_iff] at same ⊢
  intro pair member
  have swapped : pair.swap ∈ address1.bytes.zip address2.bytes := by
    rw [← List.zip_swap]
    exact List.mem_map_of_mem member
  obtain zero | zero | equal := same _ swapped
  · exact .inr (.inl zero)
  · exact .inl zero
  · exact .inr (.inr equal.symm)

@[simp] theorem sameString_refl (s : EthAddr) : sameString s s = true := by simp [sameString]

theorem sameString_symm {s1 s2 : EthAddr} (same : sameString s1 s2 = true) :
    sameString s2 s1 = true := by
  simp only [sameString, beq_iff_eq] at same ⊢
  exact same.symm

end WlanController
