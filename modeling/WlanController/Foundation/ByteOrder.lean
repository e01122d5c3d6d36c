import WlanController.Foundation.BigEndian

/-!
# Numbers in memory

A little-endian machine keeps a number least significant byte first.  `htonl` returns the
number whose bytes in memory are the big-endian ones of its argument, and `ntohl` the number
that has its argument's bytes for big-endian ones.
-/

namespace ByteOrder

/-- The `count` bytes a number is kept in. -/
def store (count value : Nat) : List UInt8 := (BigEndian.encode count value).reverse

/-- The number kept in the bytes. -/
def load (bytes : List UInt8) : Nat := BigEndian.decode bytes.reverse

def htonl (value : Nat) : Nat := load (BigEndian.encode 4 value)

def ntohl (value : Nat) : Nat := BigEndian.decode (store 4 value)

/-- A `char` as an operand: it is extended by its sign to the 32 bits of an `int`. -/
def charToInt (byte : UInt8) : Nat := if byte < 128 then byte.toNat else 0xFFFFFF00 + byte.toNat

/-- The byte that the sign of a `char` fills the higher bytes of an `int` with. -/
def signByte (byte : UInt8) : UInt8 := if byte < 128 then 0 else 255

theorem ntohl_eq_htonl (value : Nat) : ntohl value = htonl value := rfl

/-- A number turned around lies in memory as it goes over the network. -/
theorem store_htonl (value : Nat) : store 4 (htonl value) = BigEndian.encode 4 value := by
  have bytes := BigEndian.encode_decode (BigEndian.encode 4 value).reverse
  rw [List.length_reverse, BigEndian.length_encode] at bytes
  rw [store, htonl, load, bytes, List.reverse_reverse]

/-- A number in memory is turned around byte by byte. -/
theorem store_htonl_load {bytes : List UInt8} (four : bytes.length = 4) :
    store 4 (htonl (load bytes)) = bytes.reverse := by
  have loaded := BigEndian.encode_decode bytes.reverse
  rw [List.length_reverse, four] at loaded
  rw [store_htonl, load, loaded]

/-- What is left of a turned number in a single byte is its highest byte. -/
theorem ofNat_htonl (value : Nat) : UInt8.ofNat (htonl value) = UInt8.ofNat (value / 256 ^ 3) := by
  apply UInt8.toNat_inj.mp
  simp only [htonl, load, BigEndian.encode, List.reverse_cons, List.reverse_nil, List.nil_append,
    List.cons_append, BigEndian.decode, List.length_cons, List.length_nil, UInt8.toNat_ofNat']
  omega

theorem encode_charToInt (byte : UInt8) :
    BigEndian.encode 4 (charToInt byte) = [signByte byte, signByte byte, signByte byte, byte] := by
  have small := byte.toNat_lt
  by_cases positive : byte < 128
  · have below : byte.toNat < 128 := positive
    have first : byte.toNat / 16777216 = 0 := by omega
    have second : byte.toNat / 65536 = 0 := by omega
    have third : byte.toNat / 256 = 0 := by omega
    simp [charToInt, signByte, positive, BigEndian.encode, first, second, third]
  · have first : (4294967040 + byte.toNat) / 16777216 = 255 := by omega
    have second : (4294967040 + byte.toNat) / 65536 = 65535 := by omega
    have third : (4294967040 + byte.toNat) / 256 = 16777215 := by omega
    simp [charToInt, signByte, positive, BigEndian.encode, first, second, third]

/-- A `char` that is turned around as an `int` and stored as a `char` keeps its sign alone. -/
theorem ofNat_htonl_charToInt (byte : UInt8) :
    UInt8.ofNat (htonl (charToInt byte)) = signByte byte := by
  have encoded := encode_charToInt byte
  rw [BigEndian.encode] at encoded
  rw [ofNat_htonl]
  exact (List.cons.inj encoded).1

theorem signByte_eq_self_iff (byte : UInt8) : signByte byte = byte ↔ byte = 0 ∨ byte = 255 := by
  by_cases positive : byte < 128
  · have different : byte ≠ 255 := by
      rintro rfl
      exact absurd positive (by decide)
    simp [signByte, positive, different, eq_comm]
  · have different : byte ≠ 0 := by
      rintro rfl
      exact positive (by decide)
    simp [signByte, positive, different, eq_comm]

theorem signByte_signByte (byte : UInt8) : signByte (signByte byte) = signByte byte := by
  rw [signByte_eq_self_iff, signByte]
  split <;> simp

end ByteOrder
