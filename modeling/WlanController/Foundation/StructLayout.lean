import Mathlib.Data.Nat.Notation

/-!
# The layout of structures

An object of a type takes so many bytes at an address that its alignment divides.  The members
of a structure follow one another in the order of their declaration, each at the next address
that suits it, and the structure is padded so that the next one in an array suits as well.
-/

structure CType where
  size : ℕ
  align : ℕ
  deriving DecidableEq, Repr

namespace CType

/-- The next address that the alignment divides. -/
def roundUp (address align : ℕ) : ℕ := (address + align - 1) / align * align

def scalar (size : ℕ) : CType := ⟨size, size⟩

def array (count : ℕ) (element : CType) : CType := ⟨count * element.size, element.align⟩

/-- Behind the members. -/
def membersEnd (members : List CType) : ℕ :=
  members.foldl (fun behind member => roundUp behind member.align + member.size) 0

def struct (members : List CType) : CType :=
  let align := (members.map align).foldl max 1
  ⟨roundUp (membersEnd members) align, align⟩

/-- Where a member is that others precede. -/
def offset (preceding : List CType) (member : CType) : ℕ :=
  roundUp (membersEnd preceding) member.align

end CType
