import Mathlib.Data.BitVec

/-!
# Bit fields of a machine word

A word of `w` bits is cut into fields, counted from the most significant bit as
protocol drawings do: the field `(start, len)` holds the bits `start` to
`start + len - 1`.  Writing a field into a word whose field is still clear and
reading it back are inverse, and writing one field leaves every disjoint field
alone.
-/

namespace BitField

variable {w : Nat}

/-- `len` ones in the least significant positions. -/
def mask (w len : Nat) : BitVec w := ~~~(BitVec.allOnes w <<< len)

/-- Or the low `len` bits of `value` into the field `(start, len)`. -/
def put (word : BitVec w) (start len : Nat) (value : BitVec w) : BitVec w :=
  word ||| ((mask w len &&& value) <<< (w - start - len))

/-- The field `(start, len)` of a word. -/
def get (word : BitVec w) (start len : Nat) : BitVec w :=
  mask w len &&& (word >>> (w - start - len))

@[simp] theorem getLsbD_mask (w len i : Nat) :
    (mask w len).getLsbD i = (decide (i < w) && decide (i < len)) := by
  simp only [mask, BitVec.getLsbD_not, BitVec.getLsbD_shiftLeft, BitVec.getLsbD_allOnes]
  by_cases inWord : i < w
  · have shifted : i - len < w := by omega
    simp [inWord, shifted]
  · simp [inWord]

@[simp] theorem getLsbD_get (word : BitVec w) (start len i : Nat) :
    (get word start len).getLsbD i =
      (decide (i < w) && decide (i < len) && word.getLsbD (w - start - len + i)) := by
  simp [get]

@[simp] theorem getLsbD_put (word : BitVec w) (start len i : Nat) (value : BitVec w) :
    (put word start len value).getLsbD i =
      (word.getLsbD i ||
        (decide (i < w) && !decide (i < w - start - len) &&
          decide (i - (w - start - len) < len) && value.getLsbD (i - (w - start - len)))) := by
  by_cases inWord : i < w
  · have shifted : i - (w - start - len) < w := by omega
    simp only [put, BitVec.getLsbD_or, BitVec.getLsbD_shiftLeft, BitVec.getLsbD_and, getLsbD_mask,
      shifted, inWord, decide_true, Bool.true_and, Bool.and_assoc]
  · simp [put, inWord]

/-- Only the low `len` bits of a value are written. -/
theorem put_ofNat_mod (word : BitVec w) (start len value : Nat) :
    put word start len (BitVec.ofNat w (value % 2 ^ len)) =
      put word start len (BitVec.ofNat w value) := by
  unfold put
  congr 2
  apply BitVec.eq_of_getLsbD_eq
  intro i inWord
  by_cases inField : i < len
  · simp [inField, BitVec.getLsbD_ofNat, Nat.testBit_mod_two_pow]
  · simp [inField]

/-- Reading back the field just written into a word where it was clear. -/
theorem get_put_self (word value : BitVec w) {start len : Nat} (fits : start + len ≤ w)
    (clear : get word start len = 0) :
    get (put word start len value) start len = mask w len &&& value := by
  apply BitVec.eq_of_getLsbD_eq
  intro i inWord
  have clearBit := congrArg (fun field => field.getLsbD i) clear
  by_cases inField : i < len
  · have position : w - start - len + i < w := by omega
    have notBelow : ¬ w - start - len + i < w - start - len := by omega
    have back : w - start - len + i - (w - start - len) = i := by omega
    simp only [getLsbD_get, inWord, inField, decide_true, Bool.true_and] at clearBit
    simp only [getLsbD_get, getLsbD_put, BitVec.getLsbD_and, getLsbD_mask, inWord, inField,
      position, notBelow, back, clearBit, decide_true, Bool.true_and, decide_false, Bool.not_false]
    simp
  · simp only [getLsbD_get, BitVec.getLsbD_and, getLsbD_mask, inField, decide_false,
      Bool.and_false, Bool.false_and]

/-- Writing a field leaves a disjoint field alone. -/
theorem get_put_of_disjoint (word value : BitVec w) {start len start' len' : Nat}
    (fits : start + len ≤ w) (fits' : start' + len' ≤ w)
    (disjoint : start + len ≤ start' ∨ start' + len' ≤ start) :
    get (put word start len value) start' len' = get word start' len' := by
  apply BitVec.eq_of_getLsbD_eq
  intro i inWord
  by_cases inField : i < len'
  · simp only [getLsbD_get, getLsbD_put, inWord, inField, decide_true, Bool.true_and]
    by_cases below : w - start' - len' + i < w - start - len
    · simp [below]
    · have outside : ¬ w - start' - len' + i - (w - start - len) < len := by omega
      simp [outside]
  · simp [inField]

@[simp] theorem get_zero (start len : Nat) : get (0 : BitVec w) start len = 0 := by
  apply BitVec.eq_of_getLsbD_eq
  intro i inWord
  simp

@[simp] theorem put_zero (word : BitVec w) (start len : Nat) : put word start len 0 = word := by
  simp [put]

theorem toNat_mask_and (value : BitVec w) {len : Nat} (fits : len ≤ w) :
    (mask w len &&& value).toNat = value.toNat % 2 ^ len := by
  apply Nat.eq_of_testBit_eq
  intro i
  rw [Nat.testBit_mod_two_pow, BitVec.testBit_toNat, BitVec.testBit_toNat, BitVec.getLsbD_and,
    getLsbD_mask]
  by_cases inField : i < len
  · have inWord : i < w := by omega
    simp [inField, inWord]
  · simp [inField]

/-- A field of a word read through an arithmetic shift is the field itself: the sign
    bits a signed shift brings in lie above the field. -/
theorem mask_and_sshiftRight (word : BitVec w) {start len : Nat} (fits : start + len ≤ w) :
    mask w len &&& word.sshiftRight (w - start - len) = get word start len := by
  apply BitVec.eq_of_getLsbD_eq
  intro i inWord
  by_cases inField : i < len
  · have position : w - start - len + i < w := by omega
    have notSign : ¬ w ≤ i := by omega
    simp only [BitVec.getLsbD_and, getLsbD_mask, getLsbD_get, BitVec.getLsbD_sshiftRight, inWord,
      inField, position, notSign, decide_true, decide_false, Bool.true_and, Bool.not_false, if_true]
  · simp only [BitVec.getLsbD_and, getLsbD_mask, getLsbD_get, inField, decide_false,
      Bool.and_false, Bool.false_and]

/-! ## Packing a word field by field -/

/-- The position of a field: its first bit and its number of bits. -/
structure Field where
  start : Nat
  len : Nat
  deriving DecidableEq, Repr

/-- No bit belongs to both fields. -/
def Field.Apart (field other : Field) : Prop :=
  field.start + field.len ≤ other.start ∨ other.start + other.len ≤ field.start

instance (field other : Field) : Decidable (field.Apart other) :=
  inferInstanceAs (Decidable (_ ∨ _))

/-- Put the values into the fields of `word`, one after the other. -/
def packInto (word : BitVec w) (entries : List (Field × BitVec w)) : BitVec w :=
  entries.foldl (fun packed entry => put packed entry.1.start entry.1.len entry.2) word

theorem get_packInto_of_apart {field : Field} (fits : field.start + field.len ≤ w)
    (entries : List (Field × BitVec w)) (word : BitVec w)
    (entriesFit : ∀ entry ∈ entries, entry.1.start + entry.1.len ≤ w)
    (apart : ∀ entry ∈ entries, entry.1.Apart field) :
    get (packInto word entries) field.start field.len = get word field.start field.len := by
  induction entries generalizing word with
  | nil => rfl
  | cons entry entries inductionHypothesis =>
    simp only [List.forall_mem_cons] at entriesFit apart
    rw [packInto, List.foldl_cons, ← packInto,
      inductionHypothesis _ entriesFit.2 apart.2,
      get_put_of_disjoint _ _ entriesFit.1 fits apart.1]

/-- Each field of a word packed from pairwise disjoint fields reads back as it was
    written, cut to its length. -/
theorem get_packInto_of_mem {field : Field} {value : BitVec w}
    (entries : List (Field × BitVec w)) (word : BitVec w)
    (entriesFit : ∀ entry ∈ entries, entry.1.start + entry.1.len ≤ w)
    (apart : entries.Pairwise fun entry other => entry.1.Apart other.1)
    (clear : get word field.start field.len = 0) (member : (field, value) ∈ entries) :
    get (packInto word entries) field.start field.len = mask w field.len &&& value := by
  induction entries generalizing word with
  | nil => cases member
  | cons entry entries inductionHypothesis =>
    simp only [List.forall_mem_cons, List.pairwise_cons] at entriesFit apart
    rw [packInto, List.foldl_cons, ← packInto]
    rcases List.mem_cons.mp member with rfl | member
    · rw [get_packInto_of_apart entriesFit.1 entries _ entriesFit.2
        (fun other inside => (apart.1 other inside).symm)]
      exact get_put_self word value entriesFit.1 clear
    · apply inductionHypothesis _ entriesFit.2 apart.2 _ member
      rw [get_put_of_disjoint _ _ entriesFit.1 (entriesFit.2 _ member) (apart.1 _ member), clear]

/-- The word with these fields and zeros elsewhere. -/
def pack (entries : List (Field × BitVec w)) : BitVec w := packInto 0 entries

/-- Fields that lie inside the word, no two of them sharing a bit. -/
structure Layout (w : Nat) (fields : List Field) : Prop where
  inside : ∀ field ∈ fields, field.start + field.len ≤ w
  apart : fields.Pairwise Field.Apart

instance (w : Nat) (fields : List Field) : Decidable (Layout w fields) :=
  decidable_of_iff ((∀ field ∈ fields, field.start + field.len ≤ w) ∧ fields.Pairwise Field.Apart)
    ⟨fun ⟨inside, apart⟩ => ⟨inside, apart⟩, fun ⟨inside, apart⟩ => ⟨inside, apart⟩⟩

theorem toNat_get_pack {field : Field} {value : Nat} {entries : List (Field × BitVec w)}
    (layout : Layout w (entries.map Prod.fst)) (member : (field, BitVec.ofNat w value) ∈ entries) :
    (get (pack entries) field.start field.len).toNat = value % 2 ^ field.len := by
  have inside : ∀ entry ∈ entries, entry.1.start + entry.1.len ≤ w := fun entry member =>
    layout.inside entry.1 (List.mem_map_of_mem member)
  have room : field.len ≤ w := by
    have fits := inside _ member
    simp only at fits
    omega
  rw [pack, get_packInto_of_mem entries 0 inside (List.pairwise_map.mp layout.apart)
      (get_zero _ _) member,
    toNat_mask_and _ room, BitVec.toNat_ofNat, Nat.mod_mod_of_dvd _ (Nat.pow_dvd_pow 2 room)]

end BitField
