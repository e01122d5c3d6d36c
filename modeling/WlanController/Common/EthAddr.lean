import Mathlib.Data.UInt

/-!
# Ethernet addresses

The source keeps addresses in arrays of `ETH_ALEN` bytes.
-/

namespace WlanController

def ethALen : Nat := 6

structure EthAddr where
  bytes : List UInt8
  length_bytes : bytes.length = ethALen
  deriving DecidableEq, Repr

namespace EthAddr

attribute [simp] length_bytes

theorem ext_bytes {address other : EthAddr} (same : address.bytes = other.bytes) :
    address = other := by
  cases address
  cases other
  cases same
  rfl

/-- The array after its first bytes have been overwritten. -/
def overwrite (address : EthAddr) (bytes : List UInt8) : EthAddr where
  bytes := (bytes ++ address.bytes.drop bytes.length).take ethALen
  length_bytes := by
    simp only [List.length_take, List.length_append, List.length_drop, length_bytes]
    omega

theorem overwrite_all (address other : EthAddr) : address.overwrite other.bytes = other := by
  apply ext_bytes
  have long : ethALen ≤ other.bytes.length := by simp
  calc (address.overwrite other.bytes).bytes
      = (other.bytes ++ address.bytes.drop other.bytes.length).take ethALen := rfl
    _ = other.bytes.take ethALen := List.take_append_of_le_length long
    _ = other.bytes := List.take_of_length_le (by simp)

end EthAddr

end WlanController
