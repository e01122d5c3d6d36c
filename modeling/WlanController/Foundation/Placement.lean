import Mathlib.Data.List.Nodup
import Mathlib.Data.List.Perm.Basic

/-!
# Placing records by key

Records that carry a key are placed in the entries of a table that have the same key, one record
after another.  An entry ends up with the last record for its key, wherever it stands in the table
and whatever else is placed, and an entry without a record stays as it is.
-/

namespace Placement

universe u v w

variable {κ : Type u} {ν : Type v} {ε : Type w} [DecidableEq κ]

/-- The value of the last record with a key. -/
def lastWith : List (κ × ν) → κ → Option ν
  | [], _ => none
  | record :: records, key =>
      (lastWith records key).or (if record.1 = key then some record.2 else none)

theorem lastWith_cons (record : κ × ν) (records : List (κ × ν)) (key : κ) :
    lastWith (record :: records) key =
      (lastWith records key).or (if record.1 = key then some record.2 else none) :=
  rfl

theorem lastWith_eq_none_iff {records : List (κ × ν)} {key : κ} :
    lastWith records key = none ↔ ∀ record ∈ records, record.1 ≠ key := by
  induction records with
  | nil => simp [lastWith]
  | cons record records inductionHypothesis =>
    rw [lastWith_cons, Option.or_eq_none_iff, inductionHypothesis, List.forall_mem_cons]
    by_cases same : record.1 = key
    · simp [same]
    · simp [same]

/-- A record that is last has been among the records. -/
theorem mem_of_lastWith {records : List (κ × ν)} {key : κ} {value : ν}
    (last : lastWith records key = some value) : (key, value) ∈ records := by
  induction records with
  | nil => cases last
  | cons record records inductionHypothesis =>
    rw [lastWith_cons, Option.or_eq_some_iff] at last
    cases last with
    | inl later => exact List.mem_cons_of_mem _ (inductionHypothesis later)
    | inr here =>
      obtain ⟨_, first⟩ := here
      by_cases same : record.1 = key
      · rw [if_pos same] at first
        cases first
        rw [← same]
        exact List.mem_cons_self
      · rw [if_neg same] at first
        cases first

theorem lastWith_append (records records' : List (κ × ν)) (key : κ) :
    lastWith (records ++ records') key = (lastWith records' key).or (lastWith records key) := by
  induction records with
  | nil => simp [lastWith]
  | cons record records inductionHypothesis =>
    rw [List.cons_append, lastWith_cons, lastWith_cons, inductionHypothesis, Option.or_assoc]

/-- With one record for a key there is no need to say which is last. -/
theorem lastWith_eq_some_iff {records : List (κ × ν)} (distinct : (records.map Prod.fst).Nodup)
    {key : κ} {value : ν} : lastWith records key = some value ↔ (key, value) ∈ records := by
  constructor
  · exact mem_of_lastWith
  · intro inside
    cases last : lastWith records key with
    | none => exact absurd rfl (lastWith_eq_none_iff.mp last (key, value) inside)
    | some value' =>
      have same := List.inj_on_of_nodup_map distinct (mem_of_lastWith last) inside rfl
      rw [(Prod.mk.inj same).2]

theorem lastWith_perm {records records' : List (κ × ν)} (perm : records.Perm records')
    (distinct : (records.map Prod.fst).Nodup) (key : κ) :
    lastWith records key = lastWith records' key := by
  have distinct' : (records'.map Prod.fst).Nodup := (perm.map Prod.fst).nodup_iff.mp distinct
  apply Option.ext
  intro value
  rw [lastWith_eq_some_iff distinct, lastWith_eq_some_iff distinct', perm.mem_iff]

/-- What is placed replaces what was placed before and leaves the key. -/
structure Slot (κ : Type u) (ν : Type v) (ε : Type w) where
  keyOf : ε → κ
  put : ν → ε → ε
  keyOf_put : ∀ value entry, keyOf (put value entry) = keyOf entry
  put_put : ∀ value value' entry, put value (put value' entry) = put value entry

namespace Slot

variable (slot : Slot κ ν ε)

/-- One record goes to every entry with its key. -/
def place (record : κ × ν) (entry : ε) : ε :=
  if slot.keyOf entry = record.1 then slot.put record.2 entry else entry

def placeAll (records : List (κ × ν)) (entries : List ε) : List ε :=
  records.foldl (fun entries record => entries.map (slot.place record)) entries

/-- An entry with the value that it is given, if there is one. -/
def update (value : Option ν) (entry : ε) : ε :=
  match value with
  | some value => slot.put value entry
  | none => entry

omit [DecidableEq κ] in
@[simp] theorem update_none (entry : ε) : slot.update none entry = entry := rfl

theorem place_keyOf (record : κ × ν) (entry : ε) :
    slot.keyOf (slot.place record entry) = slot.keyOf entry := by
  unfold place
  split
  case isTrue => exact slot.keyOf_put _ _
  case isFalse => rfl

/-- A record placed first is replaced by a later one with its key. -/
theorem update_place (records : List (κ × ν)) (record : κ × ν) (entry : ε) :
    slot.update (lastWith records (slot.keyOf entry)) (slot.place record entry) =
      slot.update (lastWith (record :: records) (slot.keyOf entry)) entry := by
  rw [lastWith_cons, place]
  cases lastWith records (slot.keyOf entry) with
  | some value =>
    by_cases here : slot.keyOf entry = record.1
    · rw [if_pos here]
      exact slot.put_put value record.2 entry
    · rw [if_neg here]
      rfl
  | none =>
    by_cases here : slot.keyOf entry = record.1
    · rw [if_pos here, if_pos here.symm]
      rfl
    · rw [if_neg here, if_neg (Ne.symm here)]
      rfl

/-- Every entry ends up with the last record for its key. -/
theorem placeAll_eq (records : List (κ × ν)) (entries : List ε) :
    slot.placeAll records entries =
      entries.map fun entry => slot.update (lastWith records (slot.keyOf entry)) entry := by
  induction records generalizing entries with
  | nil =>
    show entries = _
    simp [lastWith]
  | cons record records inductionHypothesis =>
    show slot.placeAll records (entries.map (slot.place record)) = _
    rw [inductionHypothesis, List.map_map]
    apply List.map_congr_left
    intro entry _
    rw [Function.comp_apply, place_keyOf, update_place]

omit [DecidableEq κ] in
/-- The table stays as it is if the last record for each entry is what the entry has. -/
theorem map_update_eq_self_iff (values : ε → Option ν) (entries : List ε) :
    (entries.map fun entry => slot.update (values entry) entry) = entries ↔
      ∀ entry ∈ entries, slot.update (values entry) entry = entry := by
  induction entries with
  | nil => simp
  | cons entry entries inductionHypothesis =>
    rw [List.map_cons, List.cons.injEq, inductionHypothesis, List.forall_mem_cons]

end Slot

end Placement
