import Mathlib.Algebra.Order.Group.Nat
import Mathlib.Tactic.Ring

/-!
# Big-endian numbers

A number is written most significant byte first in a fixed number of bytes; what
does not fit is cut off, as a conversion to a narrower unsigned type does.
-/

namespace BigEndian

/-- The low `count` bytes of `value`, most significant first. -/
def encode : Nat → Nat → List UInt8
  | 0, _ => []
  | count + 1, value => UInt8.ofNat (value / 256 ^ count) :: encode count value

/-- The number a byte string stands for. -/
def decode : List UInt8 → Nat
  | [] => 0
  | byte :: bytes => byte.toNat * 256 ^ bytes.length + decode bytes

@[simp] theorem length_encode (count value : Nat) : (encode count value).length = count := by
  induction count with
  | zero => rfl
  | succ count inductionHypothesis => simp [encode, inductionHypothesis]

theorem decode_encode (count value : Nat) :
    decode (encode count value) = value % 256 ^ count := by
  induction count with
  | zero => simp [encode, decode, Nat.mod_one]
  | succ count inductionHypothesis =>
    have byte : (UInt8.ofNat (value / 256 ^ count)).toNat = value / 256 ^ count % 256 := by simp
    rw [encode, decode, inductionHypothesis, length_encode, byte, Nat.mod_pow_succ]
    ring

theorem decode_encode_of_lt {count value : Nat} (fits : value < 256 ^ count) :
    decode (encode count value) = value := by
  rw [decode_encode, Nat.mod_eq_of_lt fits]

theorem decode_lt (bytes : List UInt8) : decode bytes < 256 ^ bytes.length := by
  induction bytes with
  | nil => simp [decode]
  | cons byte bytes inductionHypothesis =>
    have small : byte.toNat + 1 ≤ 256 := byte.toNat_lt
    calc byte.toNat * 256 ^ bytes.length + decode bytes
        < byte.toNat * 256 ^ bytes.length + 256 ^ bytes.length := by omega
      _ = (byte.toNat + 1) * 256 ^ bytes.length := by ring
      _ ≤ 256 * 256 ^ bytes.length := Nat.mul_le_mul_right _ small
      _ = 256 ^ (byte :: bytes).length := by rw [List.length_cons, Nat.pow_succ, Nat.mul_comm]

/-- What lies above the encoded bytes is cut off. -/
theorem encode_add_mul (count value above : Nat) :
    encode count (value + above * 256 ^ count) = encode count value := by
  induction count generalizing value above with
  | zero => rfl
  | succ count inductionHypothesis =>
    have shifted : value + above * 256 ^ (count + 1) = value + (above * 256) * 256 ^ count := by
      ring
    have positive : 0 < 256 ^ count := Nat.pow_pos (by omega)
    have byte : UInt8.ofNat ((value + above * 256 * 256 ^ count) / 256 ^ count) =
        UInt8.ofNat (value / 256 ^ count) := by
      rw [Nat.add_mul_div_right _ _ positive]
      apply UInt8.toNat_inj.mp
      simp
    rw [shifted, encode, inductionHypothesis, byte, encode]

/-- Every byte string is the encoding of its number. -/
theorem encode_decode (bytes : List UInt8) : encode bytes.length (decode bytes) = bytes := by
  induction bytes with
  | nil => rfl
  | cons byte bytes inductionHypothesis =>
    have positive : 0 < 256 ^ bytes.length := Nat.pow_pos (by omega)
    have head : (byte.toNat * 256 ^ bytes.length + decode bytes) / 256 ^ bytes.length =
        byte.toNat := by
      rw [Nat.add_comm, Nat.add_mul_div_right _ _ positive, Nat.div_eq_of_lt (decode_lt bytes),
        Nat.zero_add]
    rw [decode, List.length_cons, encode, head, Nat.add_comm, encode_add_mul, inductionHypothesis,
      UInt8.ofNat_toNat]

end BigEndian
