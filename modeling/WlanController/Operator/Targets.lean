import Mathlib.Data.List.Perm.Subperm
import Mathlib.Data.List.Nodup
import WlanController.Operator.TargetSelection

/-!
# What the operator's string selects

The string is a list of fields.  The empty fields do not count, and neither do the fields that name
no WTP.  Deleting an entry of the working list shifts the entries behind it, so the list is followed
as what lives at its front.
-/

namespace WlanController.Operator

/-! ## Strings and fields -/

/-- What stands between the commas, without the empty fields. -/
def fields (text : List Char) : List (List Char) := (text.splitOn ',').filter fun field => field ≠ []

/-- The string begins with a field. -/
def Plain (text : List Char) : Prop := text ≠ [] ∧ text.head? ≠ some ','

instance (text : List Char) : Decidable (Plain text) :=
  inferInstanceAs (Decidable (text ≠ [] ∧ text.head? ≠ some ','))

theorem not_plain_nil : ¬ Plain [] := fun plain => plain.1 rfl

theorem plain_cons {c : Char} {text : List Char} : Plain (c :: text) ↔ c ≠ ',' := by
  simp [Plain]

theorem fields_nil : fields [] = [] := by simp [fields]

theorem fields_comma (text : List Char) : fields (',' :: text) = fields text := by
  simp [fields, List.splitOn_cons_eq_if_modifyHead]

theorem fields_append_comma {token : List Char} (inner : ',' ∉ token) (inhabited : token ≠ [])
    (text : List Char) : fields (token ++ ',' :: text) = token :: fields text := by
  rw [fields, List.splitOn_append_cons_self_of_not_mem inner]
  simp [inhabited, fields]

theorem fields_last {token : List Char} (inner : ',' ∉ token) (inhabited : token ≠ []) :
    fields token = [token] := by
  rw [fields, List.splitOn_eq_singleton inner]
  simp [inhabited]

theorem fields_dropWhile (text : List Char) :
    fields (text.dropWhile (· = ',')) = fields text := by
  induction text with
  | nil => rfl
  | cons c text inductionHypothesis =>
    by_cases comma : c = ','
    · subst comma
      simp [fields_comma, inductionHypothesis]
    · simp [comma]

theorem plain_dropWhile (text : List Char) :
    text.dropWhile (· = ',') = [] ∨ Plain (text.dropWhile (· = ',')) := by
  induction text with
  | nil => exact Or.inl rfl
  | cons c text inductionHypothesis =>
    by_cases comma : c = ','
    · simpa [comma] using inductionHypothesis
    · right
      simp [comma, plain_cons]

/-- A string that begins with a field is this field, alone or with a comma behind it. -/
theorem fields_of_plain {text : List Char} (plain : Plain text) :
    fields text = text.takeWhile (· ≠ ',') :: fields (text.dropWhile (· ≠ ',')).tail := by
  have inner : ',' ∉ text.takeWhile (· ≠ ',') := by
    intro member
    simpa using List.mem_takeWhile_imp member
  have inhabited : text.takeWhile (· ≠ ',') ≠ [] := by
    cases text with
    | nil => exact absurd plain not_plain_nil
    | cons c text => simp [plain_cons.mp plain]
  have parts := List.takeWhile_append_dropWhile (p := fun c => decide (c ≠ ',')) (l := text)
  cases rest : text.dropWhile (· ≠ ',') with
  | nil =>
    rw [rest, List.append_nil] at parts
    have last := fields_last inner inhabited
    rw [parts] at last ⊢
    simpa [fields_nil] using last
  | cons c behind =>
    have comma : c = ',' := by
      have stops := List.head?_dropWhile_not (fun c => decide (c ≠ ',')) text
      rw [rest] at stops
      simpa using stops
    subst comma
    rw [rest] at parts
    have begins := fields_append_comma inner inhabited behind
    rw [parts] at begins
    exact begins

theorem strtok_none {text : List Char} (ended : strtok text = none) : fields text = [] := by
  cases front : text.dropWhile (· = ',') with
  | nil => rw [← fields_dropWhile, front, fields_nil]
  | cons c text' =>
    rw [strtok, front] at ended
    cases ended

theorem strtok_some {text token text' : List Char} (next : strtok text = some (token, text')) :
    fields text = token :: fields text' := by
  have plain : Plain (text.dropWhile (· = ',')) := by
    cases plain_dropWhile text with
    | inl ended =>
      rw [strtok, ended] at next
      cases next
    | inr plain => exact plain
  have first := fields_of_plain plain
  cases front : text.dropWhile (· = ',') with
  | nil => exact absurd (front ▸ plain) not_plain_nil
  | cons c behind =>
    rw [strtok, front] at next
    cases next
    rw [← fields_dropWhile, ← front]
    exact first

/-! ## The number of tokens -/

/-- The commas that count are those that a field follows. -/
theorem countCommas_fields (text : List Char) :
    (Plain text → countCommas text + 1 = (fields text).length) ∧
      (¬ Plain text → countCommas text = (fields text).length) := by
  induction text with
  | nil => exact ⟨fun plain => absurd plain not_plain_nil, fun _ => rfl⟩
  | cons c text inductionHypothesis =>
    by_cases comma : c = ','
    · subst comma
      have outside : ¬ Plain (',' :: text) := fun plain => plain_cons.mp plain rfl
      refine ⟨fun plain => absurd plain outside, fun _ => ?_⟩
      rw [fields_comma]
      by_cases plain : Plain text
      · rw [← inductionHypothesis.1 plain]
        simp [countCommas, plain.1, plain.2]
      · rw [← inductionHypothesis.2 plain]
        have uncounted : ¬ (text.head? ≠ some ',' ∧ text ≠ []) := fun both => plain ⟨both.2, both.1⟩
        simp only [countCommas, true_and, if_neg uncounted]
    · refine ⟨fun _ => ?_, fun outside => absurd (plain_cons.mpr comma) outside⟩
      have first := fields_of_plain (plain_cons.mpr comma : Plain (c :: text))
      simp only [countCommas, comma, false_and, if_false]
      by_cases plain : Plain text
      · have second := fields_of_plain plain
        rw [inductionHypothesis.1 plain, first, second]
        simp [comma]
      · rw [inductionHypothesis.2 plain, first]
        cases text with
        | nil => simp [comma, fields_nil]
        | cons d text =>
          have comma' : d = ',' := by
            by_contra other
            exact plain (plain_cons.mpr other)
          simp [comma, comma', fields_comma]

/-! ## Reading the tokens -/

section Reading

variable {convert : List Char → Int}

theorem readTokens_of_le {rounds : Nat} {text : List Char} (enough : rounds ≤ (fields text).length) :
    readTokens convert rounds text = some (((fields text).take rounds).map convert) := by
  induction rounds generalizing text with
  | zero => simp [readTokens]
  | succ rounds inductionHypothesis =>
    cases next : strtok text with
    | none =>
      rw [strtok_none next] at enough
      exact absurd enough (Nat.not_succ_le_zero rounds)
    | some both =>
      have first : fields text = both.1 :: fields both.2 := strtok_some next
      rw [first, List.length_cons] at enough
      have later := @inductionHypothesis both.2 (by omega)
      simp [readTokens, next, later, first]

theorem readTokens_of_lt {rounds : Nat} {text : List Char} (short : (fields text).length < rounds) :
    readTokens convert rounds text = none := by
  induction rounds generalizing text with
  | zero => exact absurd short (Nat.not_lt_zero _)
  | succ rounds inductionHypothesis =>
    cases next : strtok text with
    | none => simp [readTokens, next]
    | some both =>
      have first : fields text = both.1 :: fields both.2 := strtok_some next
      rw [first, List.length_cons] at short
      have later := @inductionHypothesis both.2 (by omega)
      simp [readTokens, next, later]

/-- The first token and as many more as have been counted. -/
theorem readTokens_counted (convert : List Char → Int) {text token text' : List Char} (next : strtok text = some (token, text')) :
    (readTokens convert (countCommas text) text').map (convert token :: ·) =
      if Plain text then some ((fields text).map convert) else none := by
  have first := strtok_some next
  by_cases plain : Plain text
  · have counted := (countCommas_fields text).1 plain
    rw [first, List.length_cons] at counted
    have count : countCommas text = (fields text').length := by omega
    rw [if_pos plain, count, readTokens_of_le le_rfl, first]
    simp
  · have counted := (countCommas_fields text).2 plain
    rw [first, List.length_cons] at counted
    rw [if_neg plain, readTokens_of_lt (by omega)]
    rfl

end Reading

/-! ## The working list -/

section Sanitizing

theorem wtpId2name_none {wtpList : List WTPInfo} {id : Int} : wtpId2name wtpList id = none ↔ id ∉ allWTPs wtpList := by
  simp [wtpId2name, allWTPs]

theorem getD_front (front behind : List Int) (c : Int) :
    (front ++ c :: behind).getD front.length 0 = c := by
  simp

/-- What was behind the deleted entry moves to the front.  Something is left at the end. -/
theorem shiftDown_live (front back junk : List Int) (c : Int) :
    ∃ junk', shiftDown (front ++ c :: (back ++ junk)) front.length (front.length + back.length + 1) =
      front ++ (back ++ junk') := by
  induction back generalizing front c with
  | nil =>
    refine ⟨c :: junk, ?_⟩
    rw [shiftDown, if_neg (by simp)]
    rfl
  | cons d back inductionHypothesis =>
    obtain ⟨junk', moved⟩ := inductionHypothesis (front ++ [d]) d
    have next : (front ++ c :: (d :: back ++ junk)).getD (front.length + 1) 0 = d := by simp
    have written : (front ++ c :: (d :: back ++ junk)).set front.length d =
        front ++ [d] ++ d :: (back ++ junk) := by
      simp
    have length : (front ++ [d]).length = front.length + 1 := by simp
    refine ⟨junk', ?_⟩
    rw [shiftDown, if_pos (by simp), next, written, ← length, List.length_cons]
    have size : front.length + (back.length + 1) + 1 = (front ++ [d]).length + back.length + 1 := by
      rw [length]
      omega
    rw [size, moved]
    simp

theorem deleteUnknown_live (wtpList : List WTPInfo) (front back junk : List Int) :
    ∃ junk', deleteUnknown wtpList (front ++ (back ++ junk)) front.length
        (front.length + back.length) =
      (front ++ back.filter (· ∈ allWTPs wtpList) ++ junk',
        (front ++ back.filter (· ∈ allWTPs wtpList)).length) := by
  induction back generalizing front junk with
  | nil =>
    refine ⟨junk, ?_⟩
    rw [deleteUnknown, if_neg (by simp)]
    simp
  | cons c back inductionHypothesis =>
    rw [deleteUnknown, if_pos (by simp), List.cons_append, getD_front]
    by_cases known : c ∈ allWTPs wtpList
    · obtain ⟨junk', later⟩ := inductionHypothesis (front ++ [c]) junk
      refine ⟨junk', ?_⟩
      rw [if_neg (fun unknown => wtpId2name_none.mp unknown known)]
      have length : (front ++ [c]).length = front.length + 1 := by simp
      have size : front.length + (c :: back).length = (front ++ [c]).length + back.length := by
        rw [length, List.length_cons]
        omega
      have work : front ++ c :: (back ++ junk) = front ++ [c] ++ (back ++ junk) := by simp
      rw [size, work, ← length, later]
      simp [known]
    · obtain ⟨junk', moved⟩ := shiftDown_live front back junk c
      obtain ⟨junk'', later⟩ := inductionHypothesis front junk'
      refine ⟨junk'', ?_⟩
      rw [if_pos (wtpId2name_none.mpr known), List.length_cons, ← Nat.add_assoc, moved,
        Nat.add_sub_cancel, later]
      simp [known]

theorem deleteEqual_live (front middle back junk : List Int) (c : Int) :
    ∃ junk', deleteEqual (front ++ c :: (middle ++ (back ++ junk))) front.length
        (front.length + 1 + middle.length) (front.length + 1 + middle.length + back.length) =
      (front ++ c :: (middle ++ back.filter (fun d => !d == c)) ++ junk',
        (front ++ c :: (middle ++ back.filter (fun d => !d == c))).length) := by
  induction back generalizing middle junk with
  | nil =>
    refine ⟨junk, ?_⟩
    rw [deleteEqual, if_neg (by simp)]
    simp
    omega
  | cons d back inductionHypothesis =>
    have split : front ++ c :: (middle ++ (d :: back ++ junk)) =
        (front ++ c :: middle) ++ d :: (back ++ junk) := by
      simp
    have length : (front ++ c :: middle).length = front.length + 1 + middle.length := by
      simp
      omega
    have second : (front ++ c :: (middle ++ (d :: back ++ junk))).getD
        (front.length + 1 + middle.length) 0 = d := by
      rw [split, ← length, getD_front]
    rw [deleteEqual, if_pos (by simp), getD_front, second]
    by_cases same : c = d
    · obtain ⟨junk', moved⟩ := shiftDown_live (front ++ c :: middle) back junk d
      obtain ⟨junk'', later⟩ := inductionHypothesis middle junk'
      refine ⟨junk'', ?_⟩
      rw [if_pos same, List.length_cons, ← Nat.add_assoc, split, ← length, moved,
        Nat.add_sub_cancel, List.append_assoc, List.cons_append, length, later]
      simp [same]
    · obtain ⟨junk', later⟩ := inductionHypothesis (middle ++ [d]) junk
      have other : ¬ d = c := fun equal => same equal.symm
      have work : front ++ c :: (middle ++ (d :: back ++ junk)) =
          front ++ c :: (middle ++ [d] ++ (back ++ junk)) := by
        simp
      have index : front.length + 1 + middle.length + 1 =
          front.length + 1 + (middle ++ [d]).length := by
        simp
        omega
      have size : front.length + 1 + middle.length + (d :: back).length =
          front.length + 1 + (middle ++ [d]).length + back.length := by
        simp
        omega
      refine ⟨junk', ?_⟩
      rw [if_neg same, work, index, size, later]
      simp [other]

theorem deleteDuplicates_live (front back junk : List Int) :
    ∃ junk', deleteDuplicates (front ++ (back ++ junk)) front.length (front.length + back.length) =
      (front ++ back.eraseDups ++ junk', (front ++ back.eraseDups).length) := by
  -- Deleting what equals the first entry makes the rest shorter, not a tail of it.
  induction sized : back.length using Nat.strong_induction_on generalizing front back junk with
  | _ size inductionHypothesis =>
    cases back with
    | nil =>
      refine ⟨junk, ?_⟩
      subst sized
      rw [deleteDuplicates, if_neg (by simp)]
      simp
    | cons c back =>
      obtain ⟨junk', deleted⟩ := deleteEqual_live front [] back junk c
      have shorter : (back.filter fun d => !d == c).length < size := by
        have bound := List.length_filter_le (fun d => !d == c) back
        rw [← sized, List.length_cons]
        omega
      obtain ⟨junk'', later⟩ := inductionHypothesis _ shorter (front ++ [c])
        (back.filter fun d => !d == c) junk' rfl
      have length : (front ++ [c]).length = front.length + 1 := by simp
      have work : front ++ c :: ([] ++ back.filter (fun d => !d == c)) ++ junk' =
          front ++ [c] ++ (back.filter (fun d => !d == c) ++ junk') := by
        simp
      have live : (front ++ c :: ([] ++ back.filter (fun d => !d == c))).length =
          (front ++ [c]).length + (back.filter fun d => !d == c).length := by
        simp
        omega
      have size' : front.length + size = front.length + 1 + 0 + back.length := by
        rw [← sized]
        simp
        omega
      have start : front ++ (c :: back ++ junk) = front ++ c :: ([] ++ (back ++ junk)) := by simp
      refine ⟨junk'', ?_⟩
      rw [deleteDuplicates, if_pos (by rw [← sized]; simp), size', start]
      rw [List.length_nil] at deleted
      rw [deleted, work, live, ← length, later, List.eraseDups_cons]
      simp

/-- The known entries without the later ones of the same value, in their order. -/
theorem sanitize_live (wtpList : List WTPInfo) (work : List Int) :
    ∃ junk, sanitizeWtpList wtpList work work.length =
      ((work.filter (· ∈ allWTPs wtpList)).eraseDups ++ junk,
        (work.filter (· ∈ allWTPs wtpList)).eraseDups.length) := by
  obtain ⟨junk, unknown⟩ := deleteUnknown_live wtpList [] work []
  obtain ⟨junk', duplicates⟩ := deleteDuplicates_live [] (work.filter (· ∈ allWTPs wtpList)) junk
  refine ⟨junk', ?_⟩
  simp only [List.nil_append, List.append_nil, List.length_nil, Nat.zero_add] at unknown duplicates
  rw [sanitizeWtpList, unknown]
  exact duplicates

end Sanitizing

/-! ## Selections -/

section Selecting

variable (wtpList : List WTPInfo)

def named (name : List Char) : Option Int :=
  (wtpList.find? fun wtp => wtp.name = name).map WTPInfo.wtpId

/-- The first field is an id that stands for all WTPs. -/
def AllIds (text : List Char) : Prop := (fields text).head?.map atoi = some (-1)

def AllNames (text : List Char) : Prop := (fields text).head? = some all

instance (text : List Char) : Decidable (AllIds text) :=
  inferInstanceAs (Decidable ((fields text).head?.map atoi = some (-1)))

instance (text : List Char) : Decidable (AllNames text) :=
  inferInstanceAs (Decidable ((fields text).head? = some all))

/-- The ids of the WTPs that the operator's string names, each once, in the order of the string. -/
def targets (wtpIds wtpNames : Option (List Char)) : List Int :=
  match wtpIds, wtpNames with
  | some text, _ =>
    if AllIds text then allWTPs wtpList
    else (((fields text).map atoi).filter (· ∈ allWTPs wtpList)).eraseDups
  | none, some text =>
    if AllNames text then allWTPs wtpList
    else ((fields text).filterMap (named wtpList)).eraseDups
  | none, none => []

/-- The entries that the commands read are these ids. -/
def Selection.Lists : Selection → List Int → Prop
  | .fault, _ => False
  | .null, ids => ids = []
  | .list ret n, ids => n = ids.length ∧ ret.take n = ids

/-- The working list is the list of the targets, and each command calls the AC once for each. -/
structure Selects (wtpIds wtpNames : Option (List Char)) : Prop where
  lists : (getIdList wtpList wtpIds wtpNames).Lists (targets wtpList wtpIds wtpNames)
  distinct : (targets wtpList wtpIds wtpNames).Nodup
  addressed : ∀ command ∈ [doVersionCmd, doUpdateCmd, doCancelCmd, doWlanAddCmd, doWlanDelCmd],
    ∃ ids, command wtpList wtpIds wtpNames = some ids ∧ ids.Perm (targets wtpList wtpIds wtpNames)

/-- In the form for all WTPs, the string has as many fields as there are WTPs.  A comma in front
counts for one more. -/
def AsManyFields (text : List Char) : Prop :=
  (fields text).length + (if Plain text then 0 else 1) = wtpList.length

/-- An unknown name is written into the working list as -1. -/
def NamesKnown (text : List Char) : Prop :=
  (-1) ∉ allWTPs wtpList ∨ ∀ field ∈ fields text, (named wtpList field).isSome

def WellFormed (wtpIds wtpNames : Option (List Char)) : Prop :=
  match wtpIds, wtpNames with
  | some text, _ => if AllIds text then AsManyFields wtpList text else Plain text
  | none, some text =>
    if AllNames text then AsManyFields wtpList text else Plain text ∧ NamesKnown wtpList text
  | none, none => True

/-- The ids of the targets are the first indices, in some order. -/
def FirstIndices (ids : List Int) : Prop := ids.Perm ((List.range ids.length).map fun i : Nat => (i : Int))

variable {wtpList}

theorem firstIndices_nil : FirstIndices [] := List.Perm.nil

theorem FirstIndices.nodup {ids : List Int} (first : FirstIndices ids) : ids.Nodup := by
  apply first.nodup_iff.mpr
  apply List.nodup_range.map
  intro i j same
  exact Int.ofNat_inj.mp same

theorem FirstIndices.bounds {ids : List Int} (first : FirstIndices ids) {id : Int} (member : id ∈ ids) :
    0 ≤ id ∧ id < ids.length := by
  obtain ⟨i, inside, rfl⟩ := List.mem_map.mp (first.mem_iff.mp member)
  rw [List.mem_range] at inside
  omega

theorem wtpName2id_eq (name : List Char) :
    wtpName2id wtpList name = (named wtpList name).getD (-1) := rfl

theorem named_known {name : List Char} {id : Int} (found : named wtpList name = some id) :
    id ∈ allWTPs wtpList := by
  obtain ⟨wtp, first, rfl⟩ := Option.map_eq_some_iff.mp found
  exact List.mem_map_of_mem (List.mem_of_find?_eq_some first)

theorem targets_known {wtpIds wtpNames : Option (List Char)} {id : Int}
    (member : id ∈ targets wtpList wtpIds wtpNames) : id ∈ allWTPs wtpList := by
  cases wtpIds with
  | some text =>
    by_cases form : AllIds text
    · simpa [targets, form] using member
    · have chosen : id ∈ (fields text).map atoi ∧ id ∈ allWTPs wtpList := by
        simpa [targets, form] using member
      exact chosen.2
  | none =>
    cases wtpNames with
    | some text =>
      by_cases form : AllNames text
      · simpa [targets, form] using member
      · have chosen : ∃ name ∈ fields text, named wtpList name = some id := by
          simpa [targets, form] using member
        obtain ⟨name, _, found⟩ := chosen
        exact named_known found
    | none => cases member

/-- Distinct targets are no more than there are WTPs. -/
theorem targets_length_le {wtpIds wtpNames : Option (List Char)}
    (distinct : (targets wtpList wtpIds wtpNames).Nodup) :
    (targets wtpList wtpIds wtpNames).length ≤ wtpList.length := by
  have within : targets wtpList wtpIds wtpNames ⊆ allWTPs wtpList := fun _ => targets_known
  have bound := (List.subperm_of_subset distinct within).length_le
  rwa [allWTPs, List.length_map] at bound

/-! ### What the working list becomes -/

theorem fields_ne_nil {text : List Char} (plain : Plain text) : fields text ≠ [] := by
  simp [fields_of_plain plain]

theorem count_fields (text : List Char) :
    countCommas text + 1 = (fields text).length + if Plain text then 0 else 1 := by
  by_cases plain : Plain text
  · rw [(countCommas_fields text).1 plain, if_pos plain, Nat.add_zero]
  · rw [(countCommas_fields text).2 plain, if_neg plain]

theorem asManyFields_iff {text : List Char} :
    AsManyFields wtpList text ↔ countCommas text + 1 = (allWTPs wtpList).length := by
  rw [AsManyFields, count_fields, allWTPs, List.length_map]

theorem strtok_of_fields {text : List Char} (inhabited : fields text ≠ []) :
    ∃ token text', strtok text = some (token, text') ∧ fields text = token :: fields text' := by
  cases next : strtok text with
  | none => exact absurd (strtok_none next) inhabited
  | some both => exact ⟨both.1, both.2, rfl, strtok_some next⟩

theorem lists_all {text : List Char} :
    (Selection.list (allWTPs wtpList) (countCommas text + 1)).Lists (allWTPs wtpList) ↔
      AsManyFields wtpList text := by
  rw [asManyFields_iff, Selection.Lists]
  constructor
  · intro both
    exact both.1
  · intro many
    refine ⟨many, ?_⟩
    rw [many, List.take_length]

/-- What the conversions come to, without the unknown ids and the duplicates. -/
def kept (wtpList : List WTPInfo) (convert : List Char → Int) (text : List Char) : List Int :=
  (((fields text).map convert).filter (· ∈ allWTPs wtpList)).eraseDups

theorem sanitized_lists {convert : List Char → Int} {text : List Char} (plain : Plain text)
    (ids : List Int) :
    (sanitized wtpList (countCommas text + 1) (some ((fields text).map convert))).Lists ids ↔
      kept wtpList convert text = ids := by
  obtain ⟨junk, live⟩ := sanitize_live wtpList ((fields text).map convert)
  have length : countCommas text + 1 = ((fields text).map convert).length := by
    rw [List.length_map, (countCommas_fields text).1 plain]
  rw [sanitized, length, live, ← kept, Selection.Lists, List.take_left]
  constructor
  · intro both
    exact both.2
  · rintro rfl
    exact ⟨rfl, rfl⟩

theorem getIdList_allIds {text : List Char} {wtpNames : Option (List Char)} (form : AllIds text) :
    getIdList wtpList (some text) wtpNames = .list (allWTPs wtpList) (countCommas text + 1) := by
  have inhabited : fields text ≠ [] := by
    intro empty
    simp [AllIds, empty] at form
  obtain ⟨token, text', next, first⟩ := strtok_of_fields inhabited
  have standsForAll : atoi token = -1 := by simpa [AllIds, first] using form
  simp [getIdList, countTokens, next, standsForAll]

theorem getIdList_allNames {text : List Char} (form : AllNames text) :
    getIdList wtpList none (some text) = .list (allWTPs wtpList) (countCommas text + 1) := by
  have inhabited : fields text ≠ [] := by
    intro empty
    simp [AllNames, empty] at form
  obtain ⟨token, text', next, first⟩ := strtok_of_fields inhabited
  have standsForAll : token = all := by simpa [AllNames, first] using form
  simp [getIdList, countTokens, next, standsForAll]

theorem getIdList_ids {text : List Char} {wtpNames : Option (List Char)} (other : ¬ AllIds text) :
    getIdList wtpList (some text) wtpNames =
      sanitized wtpList (countCommas text + 1)
        (if Plain text then some ((fields text).map atoi) else none) := by
  cases next : strtok text with
  | none =>
    have outside : ¬ Plain text := fun plain => fields_ne_nil plain (strtok_none next)
    simp [getIdList, next, outside, sanitized]
  | some both =>
    obtain ⟨token, text'⟩ := both
    have notAll : ¬ atoi token = -1 := by simpa [AllIds, strtok_some next] using other
    have counted := readTokens_counted atoi next
    simp [getIdList, countTokens, next, notAll, counted]

theorem getIdList_names {text : List Char} (other : ¬ AllNames text) :
    getIdList wtpList none (some text) =
      sanitized wtpList (countCommas text + 1)
        (if Plain text then some ((fields text).map (wtpName2id wtpList)) else none) := by
  cases next : strtok text with
  | none =>
    have outside : ¬ Plain text := fun plain => fields_ne_nil plain (strtok_none next)
    simp [getIdList, next, outside, sanitized]
  | some both =>
    obtain ⟨token, text'⟩ := both
    have notAll : ¬ token = all := by simpa [AllNames, strtok_some next] using other
    have counted := readTokens_counted (wtpName2id wtpList) next
    simp [getIdList, countTokens, next, notAll, counted]

/-- A name that is not known converts to an id that is not known. -/
theorem filter_names {names : List (List Char)}
    (known : (-1) ∉ allWTPs wtpList ∨ ∀ name ∈ names, (named wtpList name).isSome) :
    (names.map (wtpName2id wtpList)).filter (· ∈ allWTPs wtpList) =
      names.filterMap (named wtpList) := by
  induction names with
  | nil => rfl
  | cons name names inductionHypothesis =>
    have later := inductionHypothesis
      (known.imp_right fun each other member => each other (List.mem_cons_of_mem name member))
    rw [List.map_cons, wtpName2id_eq]
    cases found : named wtpList name with
    | some id =>
      have member : id ∈ allWTPs wtpList := named_known found
      simp [found, member, later]
    | none =>
      have unlisted : (-1) ∉ allWTPs wtpList := by
        cases known with
        | inl unlisted => exact unlisted
        | inr each => simpa [found] using each name List.mem_cons_self
      simp [found, unlisted, later]

theorem kept_names {text : List Char} (known : NamesKnown wtpList text) :
    kept wtpList (wtpName2id wtpList) text = ((fields text).filterMap (named wtpList)).eraseDups := by
  rw [kept, filter_names known]

theorem minusOne_kept {text : List Char} (unknown : ¬ NamesKnown wtpList text) :
    (-1) ∈ kept wtpList (wtpName2id wtpList) text := by
  rw [NamesKnown, not_or, not_not] at unknown
  obtain ⟨listed, each⟩ := unknown
  push Not at each
  obtain ⟨name, member, missing⟩ := each
  have converted : wtpName2id wtpList name = -1 := by
    rw [wtpName2id_eq, Option.not_isSome_iff_eq_none.mp missing]
    rfl
  rw [kept, List.mem_eraseDups, List.mem_filter, List.mem_map]
  exact ⟨⟨name, member, converted⟩, decide_eq_true listed⟩

/-- With the first indices as targets, the working list is right exactly for these strings. -/
theorem lists_iff {wtpIds wtpNames : Option (List Char)}
    (first : FirstIndices (targets wtpList wtpIds wtpNames)) :
    (getIdList wtpList wtpIds wtpNames).Lists (targets wtpList wtpIds wtpNames) ↔
      WellFormed wtpList wtpIds wtpNames := by
  cases wtpIds with
  | some text =>
    by_cases form : AllIds text
    · rw [getIdList_allIds form, WellFormed, if_pos form, targets, if_pos form]
      exact lists_all
    · rw [getIdList_ids form, WellFormed, if_neg form, targets, if_neg form]
      by_cases plain : Plain text
      · rw [if_pos plain, sanitized_lists plain]
        exact ⟨fun _ => plain, fun _ => rfl⟩
      · rw [if_neg plain]
        exact ⟨False.elim, plain⟩
  | none =>
    cases wtpNames with
    | none => exact ⟨fun _ => trivial, fun _ => rfl⟩
    | some text =>
      by_cases form : AllNames text
      · rw [getIdList_allNames form, WellFormed, if_pos form, targets, if_pos form]
        exact lists_all
      · rw [getIdList_names form, WellFormed, if_neg form]
        by_cases plain : Plain text
        · rw [if_pos plain, sanitized_lists plain]
          constructor
          · intro same
            refine ⟨plain, ?_⟩
            by_contra unknown
            have member := minusOne_kept unknown
            rw [same] at member
            have bound := (first.bounds member).1
            omega
          · intro both
            rw [kept_names both.2, targets, if_neg form]
        · rw [if_neg plain]
          exact ⟨False.elim, fun both => plain both.1⟩

/-! ### What the commands address -/

theorem mapM_some {α β : Type} {f : α → Option β} {g : α → β} {l : List α}
    (each : ∀ x ∈ l, f x = some (g x)) : l.mapM f = some (l.map g) := by
  induction l with
  | nil => rfl
  | cons x l inductionHypothesis =>
    have later := inductionHypothesis fun y member => each y (List.mem_cons_of_mem x member)
    simp [each x List.mem_cons_self, later]

theorem mapM_inv {α β : Type} {f : α → Option β} {g : α → β} {l : List α} {out : List β}
    (each : ∀ x ∈ l, ∀ y, f x = some y → y = g x) (done : l.mapM f = some out) :
    out = l.map g := by
  induction l generalizing out with
  | nil =>
    cases done
    rfl
  | cons x l inductionHypothesis =>
    simp only [List.mapM_cons, Option.bind_eq_bind, Option.bind_eq_some_iff, Option.pure_def,
      Option.some.injEq] at done
    obtain ⟨y, first, out', later, rfl⟩ := done
    rw [each x List.mem_cons_self y first, List.map_cons,
      inductionHypothesis (fun z member => each z (List.mem_cons_of_mem x member)) later]

section Commands

variable {selection : Selection} {ids : List Int}

theorem overList_listed {address : Nat → Int → Option Int} (lists : selection.Lists ids)
    (each : ∀ i, ∀ id ∈ ids, address i id = some id) : overList address selection = some ids := by
  cases selection with
  | fault => exact False.elim lists
  | null =>
    have none : ids = [] := lists
    rw [none]
    rfl
  | list ret n =>
    obtain ⟨rfl, front⟩ := lists
    have entries : ∀ i ∈ List.range ids.length,
        (ret[i]?).bind (address i) = some (ids.getD i 0) := by
      intro i member
      have inside : i < ids.length := List.mem_range.mp member
      have entry : ret[i]? = some ids[i] := by
        rw [← List.getElem?_take_of_lt inside, front]
        exact List.getElem?_eq_getElem inside
      simp [entry, each i ids[i] (List.getElem_mem inside), inside]
    rw [overList, mapM_some entries]
    congr 1
    apply List.ext_getElem
    · simp
    · intro i inside inside'
      simp [inside']

theorem printVersionInfo_inside {id : Int} (bounds : 0 ≤ id ∧ id < wtpList.length) :
    printVersionInfo wtpList id = some id := if_pos bounds

variable {wtpIds wtpNames : Option (List Char)}

/-- The update goes to the first indices, whatever the working list holds. -/
theorem update_addressed (lists : (getIdList wtpList wtpIds wtpNames).Lists ids) {out : List Int}
    (done : doUpdateCmd wtpList wtpIds wtpNames = some out) :
    out = (List.range ids.length).map fun i : Nat => (i : Int) := by
  rw [doUpdateCmd] at done
  cases selected : getIdList wtpList wtpIds wtpNames with
  | fault =>
    rw [selected] at lists
    exact False.elim lists
  | null =>
    rw [selected] at lists done
    have none : ids = [] := lists
    cases done
    rw [none]
    rfl
  | list ret n =>
    rw [selected] at lists done
    obtain ⟨rfl, _⟩ := lists
    apply mapM_inv _ done
    intro i _ id found
    obtain ⟨_, _, rfl⟩ := Option.map_eq_some_iff.mp found
    rfl

theorem update_done (lists : (getIdList wtpList wtpIds wtpNames).Lists ids)
    (room : ids.length ≤ wtpList.length) :
    doUpdateCmd wtpList wtpIds wtpNames = some ((List.range ids.length).map fun i : Nat => (i : Int)) := by
  rw [doUpdateCmd]
  cases selected : getIdList wtpList wtpIds wtpNames with
  | fault =>
    rw [selected] at lists
    exact False.elim lists
  | null =>
    rw [selected] at lists
    have none : ids = [] := lists
    rw [none]
    rfl
  | list ret n =>
    rw [selected] at lists
    obtain ⟨rfl, _⟩ := lists
    apply mapM_some
    intro i member
    have inside : i < wtpList.length := (List.mem_range.mp member).trans_le room
    simp [inside]

/-- Nothing to do is what the list of no targets means as well. -/
theorem wlanAdd_listed (lists : (getIdList wtpList wtpIds wtpNames).Lists ids) :
    doWlanAddCmd wtpList wtpIds wtpNames = some ids := by
  have others := overList_listed lists fun (_ : Nat) id _ => (rfl : some id = some id)
  rw [doWlanAddCmd]
  cases selected : getIdList wtpList wtpIds wtpNames with
  | fault =>
    rw [selected] at others
    exact others
  | null =>
    rw [selected] at others
    exact others
  | list ret n =>
    rw [selected] at others lists
    cases n with
    | zero =>
      have none : ids = [] := List.length_eq_zero_iff.mp lists.1.symm
      rw [none]
      rfl
    | succ n => exact others

end Commands

theorem Selects.firstIndices {wtpIds wtpNames : Option (List Char)}
    (selects : Selects wtpList wtpIds wtpNames) :
    FirstIndices (targets wtpList wtpIds wtpNames) := by
  obtain ⟨out, done, same⟩ := selects.addressed doUpdateCmd (by simp)
  rw [update_addressed selects.lists done] at same
  exact same.symm

theorem Selects.of_firstIndices {wtpIds wtpNames : Option (List Char)}
    (first : FirstIndices (targets wtpList wtpIds wtpNames))
    (lists : (getIdList wtpList wtpIds wtpNames).Lists (targets wtpList wtpIds wtpNames)) :
    Selects wtpList wtpIds wtpNames := by
  have room := targets_length_le first.nodup
  have version : doVersionCmd wtpList wtpIds wtpNames = some (targets wtpList wtpIds wtpNames) := by
    apply overList_listed lists
    intro _ id member
    apply printVersionInfo_inside
    have bounds := first.bounds member
    omega
  have listed := overList_listed lists fun (_ : Nat) id _ => (rfl : some id = some id)
  refine ⟨lists, first.nodup, ?_⟩
  intro command member
  simp only [List.mem_cons, List.not_mem_nil, or_false] at member
  rcases member with rfl | rfl | rfl | rfl | rfl
  · exact ⟨_, version, List.Perm.refl _⟩
  · exact ⟨_, update_done lists room, first.symm⟩
  · exact ⟨_, listed, List.Perm.refl _⟩
  · exact ⟨_, wlanAdd_listed lists, List.Perm.refl _⟩
  · exact ⟨_, listed, List.Perm.refl _⟩

/-- The tool addresses exactly the WTPs that the string names when the string begins with a field,
when `all` stands for as many WTPs as there are fields, when no unknown name is taken for a WTP with
the id -1, and when the targets are the first entries of the list: the update addresses these. -/
theorem commands_select_iff (wtpList : List WTPInfo) (wtpIds wtpNames : Option (List Char)) :
    Selects wtpList wtpIds wtpNames ↔
      WellFormed wtpList wtpIds wtpNames ∧ FirstIndices (targets wtpList wtpIds wtpNames) := by
  constructor
  · intro selects
    have first := selects.firstIndices
    exact ⟨(lists_iff first).mp selects.lists, first⟩
  · intro both
    exact Selects.of_firstIndices both.2 ((lists_iff both.2).mpr both.1)

/-- The update for the second WTP goes to the first one. -/
theorem secondWTP_not_selected :
    ¬ Selects [⟨0, ['a']⟩, ⟨1, ['b']⟩] (some ['1']) none := by
  intro selects
  have named : targets [⟨0, ['a']⟩, ⟨1, ['b']⟩] (some ['1']) none = [1] := by decide
  have first := selects.firstIndices
  rw [named] at first
  have bounds := first.bounds List.mem_cons_self
  exact absurd bounds.2 (by decide)

end Selecting

end WlanController.Operator
