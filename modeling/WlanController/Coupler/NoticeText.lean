import WlanController.Coupler.NoticeRelay

/-!
# The addresses in a notice

Addresses are copied up to their first zero byte only.  What is behind it in the text of a notice
comes from the notices before.
-/

namespace WlanController.Coupler

/-! ## Copies -/

theorem length_strcpy {array source copied : List UInt8} (copy : strcpy array source = some copied) :
    copied.length = array.length := by
  obtain ⟨fits, same⟩ := Option.ite_none_right_eq_some.mp copy
  cases same
  simp only [List.length_append, List.length_cons, List.length_drop]
  omega

/-- Every byte that is behind a zero is in the array already. -/
def Remembered (array bytes : List UInt8) : Prop :=
  ∀ i j, i < j → j < bytes.length → bytes[i]? = some 0 → bytes[j]? = array[j]?

theorem remembered_zero {byte : UInt8} {array bytes : List UInt8} :
    Remembered (byte :: array) (0 :: bytes) ↔ ∀ j < bytes.length, bytes[j]? = array[j]? := by
  constructor
  · intro remembered j inside
    exact remembered 0 (j + 1) (Nat.succ_pos j) (Nat.succ_lt_succ inside) rfl
  · intro same i j before inside _
    cases j with
    | zero => omega
    | succ j => exact same j (Nat.lt_of_succ_lt_succ inside)

theorem remembered_cons {old byte : UInt8} (some : byte ≠ 0) {array bytes : List UInt8} :
    Remembered (old :: array) (byte :: bytes) ↔ Remembered array bytes := by
  constructor
  · intro remembered i j before inside zero
    exact remembered (i + 1) (j + 1) (Nat.succ_lt_succ before) (Nat.succ_lt_succ inside) zero
  · intro remembered i j before inside zero
    cases i with
    | zero => exact absurd (Option.some.inj zero) some
    | succ i =>
      cases j with
      | zero => omega
      | succ j =>
        exact remembered i j (Nat.lt_of_succ_lt_succ before) (Nat.lt_of_succ_lt_succ inside) zero

theorem take_eq_iff {bytes array : List UInt8} :
    array.take bytes.length = bytes ↔ ∀ j < bytes.length, bytes[j]? = array[j]? := by
  constructor
  · intro taken j inside
    have at_j := congrArg (fun bytes => bytes[j]?) taken
    simp only [List.getElem?_take_of_lt inside] at at_j
    exact at_j.symm
  · intro same
    apply List.ext_getElem?
    intro j
    by_cases inside : j < bytes.length
    · rw [List.getElem?_take_of_lt inside, same j inside]
    · rw [List.getElem?_eq_none (by simp; omega), List.getElem?_eq_none (by omega)]

/-- The bytes arrive whole just where the array has what `strcpy` leaves out. -/
theorem strcpy_whole {array bytes behind copied : List UInt8} (room : bytes.length ≤ array.length)
    (copy : strcpy array (bytes ++ behind) = some copied) :
    copied.take bytes.length = bytes ↔ Remembered array bytes := by
  obtain ⟨fits, same⟩ := Option.ite_none_right_eq_some.mp copy
  cases same
  clear copy
  induction bytes generalizing array with
  | nil => simp [Remembered]
  | cons byte bytes inductionHypothesis =>
    cases array with
    | nil => exact absurd room (Nat.not_succ_le_zero _)
    | cons old array =>
      have room := Nat.le_of_succ_le_succ room
      by_cases zero : byte = 0
      · -- The rest of the array stays.
        rw [zero, remembered_zero]
        have taken : array.take bytes.length = bytes ↔
            ∀ j < bytes.length, bytes[j]? = array[j]? := take_eq_iff
        simpa using taken
      · have fits : ((bytes ++ behind).takeWhile (· ≠ 0)).length < array.length := by
          simpa [zero] using fits
        rw [remembered_cons zero, ← inductionHypothesis room fits]
        simp [zero]

/-! ## The text of an address -/

theorem hexDigit_injective {m n : Nat} (small : m < 16) (small' : n < 16)
    (same : hexDigit m = hexDigit n) : m = n := by
  have value := congrArg UInt8.toNat same
  simp only [hexDigit, UInt8.toNat_ofNat'] at value
  split at value <;> split at value <;> omega

theorem hex_injective : Function.Injective hex := by
  intro byte other same
  have size := byte.toNat_lt
  have size' := other.toNat_lt
  have high := hexDigit_injective (by omega) (by omega) (List.head_eq_of_cons_eq same)
  have low := hexDigit_injective (by omega) (by omega)
    (List.head_eq_of_cons_eq (List.tail_eq_of_cons_eq same))
  apply UInt8.toNat_inj.mp
  omega

theorem intercalate_cons (separator first : List UInt8) (rest : List (List UInt8)) :
    separator.intercalate (first :: rest) = first ++ rest.flatMap (separator ++ ·) := by
  induction rest generalizing first with
  | nil => simp [List.intercalate]
  | cons next rest inductionHypothesis =>
    have others := inductionHypothesis next
    simp [List.intercalate] at others ⊢
    exact others

theorem flatMap_hex_injective {bytes others : List UInt8} (length : bytes.length = others.length)
    (same : (bytes.map hex).flatMap ([58] ++ ·) = (others.map hex).flatMap ([58] ++ ·)) :
    bytes = others := by
  induction bytes generalizing others with
  | nil => exact (List.length_eq_zero_iff.mp length.symm).symm
  | cons byte bytes inductionHypothesis =>
    cases others with
    | nil => cases length
    | cons other others =>
      obtain ⟨first, rest⟩ := List.append_inj same rfl
      rw [hex_injective (List.append_cancel_left first),
        inductionHypothesis (Nat.succ.inj length) rest]

theorem intercalate_hex_injective {bytes others : List UInt8} (length : bytes.length = others.length)
    (same : [58].intercalate (bytes.map hex) = [58].intercalate (others.map hex)) :
    bytes = others := by
  cases bytes with
  | nil => exact (List.length_eq_zero_iff.mp length.symm).symm
  | cons byte bytes =>
    cases others with
    | nil => cases length
    | cons other others =>
      simp only [List.map_cons, intercalate_cons] at same
      obtain ⟨first, rest⟩ := List.append_inj same rfl
      rw [hex_injective first, flatMap_hex_injective (Nat.succ.inj length) rest]

theorem hexAddress_inj {array other : List UInt8} (size : ethALen ≤ array.length)
    (size' : ethALen ≤ other.length) :
    hexAddress array = hexAddress other ↔ array.take ethALen = other.take ethALen := by
  constructor
  · intro same
    exact intercalate_hex_injective (by simp [size, size']) same
  · intro same
    rw [hexAddress, hexAddress, same]

theorem length_intercalate_hex (bytes : List UInt8) :
    ([58].intercalate (bytes.map hex)).length = 3 * bytes.length - 1 := by
  cases bytes with
  | nil => rfl
  | cons byte bytes =>
    simp [intercalate_cons, hex, List.length_flatMap, Function.comp_def]
    omega

theorem length_hexAddress {array : List UInt8} (size : ethALen ≤ array.length) :
    (hexAddress array).length = 17 := by
  rw [hexAddress, length_intercalate_hex, List.length_take_of_le size]
  rfl

/-! ## Associations -/

/-- The text that names the addresses of a frame. -/
def associationText (frame : NoticeFrame) : Text :=
  ascii "Association received from UE:" ++ hexAddress frame.SA.bytes ++ ascii " at AP:" ++
    hexAddress frame.BSSID.bytes ++ [10]

/-- A noted association is described as it was. -/
def Names (d : Deployment) (s : Coupling) (event : CouplingEvent) : Prop :=
  ∀ frame s', event = .noted (.association frame) → CouplingStep d s event s' →
    s'.writer.buffer = associationText frame

/-- No byte of its addresses is missing in the arrays once their strings are there. -/
def Remembers (d : Deployment) (s : Coupling) (event : CouplingEvent) : Prop :=
  ∀ frame s', event = .noted (.association frame) → CouplingStep d s event s' →
    Remembered s.writer.bmSourceAddr frame.SA.bytes ∧ Remembered s.writer.bmBssid frame.BSSID.bytes

/-- The arrays keep their size. -/
def Writer.Sized (writer : Writer) : Prop :=
  writer.bmBssid.length = 50 ∧ writer.bmSourceAddr.length = 50

/-- What an association leaves in the variables. -/
theorem notify_association {writer writer' : Writer} {frame : NoticeFrame}
    (notified : writer.notify (.association frame) = some writer') :
    strcpy writer.bmBssid (frame.BSSID.bytes ++ frame.behind) = some writer'.bmBssid ∧
      strcpy writer.bmSourceAddr (frame.SA.bytes ++ (frame.BSSID.bytes ++ frame.behind)) =
        some writer'.bmSourceAddr ∧
      writer'.buffer = ascii "Association received from UE:" ++ hexAddress writer'.bmSourceAddr ++
        ascii " at AP:" ++ hexAddress writer'.bmBssid ++ [10] := by
  obtain ⟨bmBssid, first, notified⟩ := Option.bind_eq_some_iff.mp notified
  obtain ⟨bmSourceAddr, second, notified⟩ := Option.bind_eq_some_iff.mp notified
  obtain ⟨_, same⟩ := Option.ite_none_right_eq_some.mp notified
  cases same
  exact ⟨first, second, rfl⟩

theorem notify_sized {writer writer' : Writer} {notice : Notice} (sized : writer.Sized)
    (notified : writer.notify notice = some writer') : writer'.Sized := by
  cases notice with
  | association frame =>
    obtain ⟨first, second, _⟩ := notify_association notified
    exact ⟨(length_strcpy first).trans sized.1, (length_strcpy second).trans sized.2⟩
  | probe SSID plain frame =>
    obtain ⟨bmBssid, first, notified⟩ := Option.bind_eq_some_iff.mp notified
    obtain ⟨bmSourceAddr, second, notified⟩ := Option.bind_eq_some_iff.mp notified
    obtain ⟨_, same⟩ := Option.ite_none_right_eq_some.mp notified
    cases same
    exact ⟨(length_strcpy first).trans sized.1, (length_strcpy second).trans sized.2⟩

/-- The text is right just where both addresses arrive whole. -/
theorem associationText_iff {writer writer' : Writer} {frame : NoticeFrame} (sized : writer.Sized)
    (notified : writer.notify (.association frame) = some writer') :
    writer'.buffer = associationText frame ↔
      Remembered writer.bmSourceAddr frame.SA.bytes ∧
        Remembered writer.bmBssid frame.BSSID.bytes := by
  have sized' := notify_sized sized notified
  obtain ⟨first, second, buffer⟩ := notify_association notified
  have room (address : EthAddr) : address.bytes.length ≤ 50 := by simp [ethALen]
  have whole := strcpy_whole (by rw [sized.1]; exact room frame.BSSID) first
  have whole' := strcpy_whole (by rw [sized.2]; exact room frame.SA) second
  rw [frame.BSSID.length_bytes] at whole
  rw [frame.SA.length_bytes] at whole'
  have size : ethALen ≤ writer'.bmBssid.length := by rw [sized'.1]; decide
  have size' : ethALen ≤ writer'.bmSourceAddr.length := by rw [sized'.2]; decide
  have six (address : EthAddr) : ethALen ≤ address.bytes.length := address.length_bytes.ge
  have all (address : EthAddr) : address.bytes.take ethALen = address.bytes :=
    List.take_of_length_le address.length_bytes.le
  have source := hexAddress_inj size' (six frame.SA)
  have bssid := hexAddress_inj size (six frame.BSSID)
  rw [all, whole'] at source
  rw [all, whole] at bssid
  rw [← source, ← bssid, buffer, associationText]
  constructor
  · intro same
    simp only [List.append_assoc, List.append_cancel_left_eq] at same
    obtain ⟨same, rest⟩ := List.append_inj same
      ((length_hexAddress size').trans (length_hexAddress (six frame.SA)).symm)
    exact ⟨same, List.append_cancel_right (List.append_cancel_left rest)⟩
  · intro same
    rw [same.1, same.2]

namespace Deployment

end Deployment

end WlanController.Coupler
