import WlanController.Settings.ConfigValues

/-!
# The two passes over a configuration file

Both passes meet the same items: lines that begin with a code, each with the section behind it.  A
setting gets the last of its items.  The strings of a list are counted over all of its sections, but
every section is stored from the first entry on, so that a list with two sections has entries that
nothing is stored in.
-/

namespace WlanController.Settings

/-! ## Maps that may fail -/

section Maps

universe u

variable {α : Type u}

/-- Nothing fails that does nothing. -/
theorem mapM_eq_self {xs : List α} {g : α → Option α} (same : ∀ x ∈ xs, g x = some x) :
    xs.mapM g = some xs := by
  induction xs with
  | nil => rfl
  | cons x xs inductionHypothesis =>
    have later := inductionHypothesis fun x' member => same x' (List.mem_cons_of_mem _ member)
    simp [List.mapM_cons, same x List.mem_cons_self, later]

/-- It does not matter which of the two passes an entry fails in. -/
theorem mapM_bind (xs : List α) (g h : α → Option α) :
    ((xs.mapM g).bind fun ys => ys.mapM h) = xs.mapM fun x => (g x).bind h := by
  induction xs with
  | nil => rfl
  | cons x xs inductionHypothesis =>
    simp only [List.mapM_cons, Option.bind_eq_bind]
    cases here : g x with
    | none => rfl
    | some y =>
      simp only [Option.bind_some]
      rw [← inductionHypothesis]
      cases later : xs.mapM g with
      | none => cases h y <;> rfl
      | some ys => simp

theorem mapM_congr {xs : List α} {g h : α → Option α} (same : ∀ x ∈ xs, g x = h x) :
    xs.mapM g = xs.mapM h := by
  induction xs with
  | nil => rfl
  | cons x xs inductionHypothesis =>
    have later := inductionHypothesis fun x' member => same x' (List.mem_cons_of_mem _ member)
    simp [List.mapM_cons, same x List.mem_cons_self, later]

/-- What all entries keep under a pass, the list keeps. -/
theorem map_of_mapM {β : Type u} {xs ys : List α} {g : α → Option α} {key : α → β}
    (keeps : ∀ x y, g x = some y → key y = key x) (made : xs.mapM g = some ys) :
    ys.map key = xs.map key := by
  induction xs generalizing ys with
  | nil =>
    cases made
    rfl
  | cons x xs inductionHypothesis =>
    simp only [List.mapM_cons, Option.bind_eq_bind, Option.bind_eq_some_iff] at made
    obtain ⟨y, here, ys', later, same⟩ := made
    cases same
    simp [keeps x y here, inductionHypothesis later]

end Maps

/-! ## Items -/

/-- The code of a value, and the one that its section ends with. -/
def CWConfigValue.shape (configValue : CWConfigValue) : List UInt8 × Option (List UInt8) :=
  (configValue.code, configValue.value.endCode?)

/-- The items of a file, each with its code. -/
def itemsOf (shapes : List (List UInt8 × Option (List UInt8))) (configFile : List UInt8) :
    Option (List (List UInt8 × Item)) :=
  match _got : cwGetCommand configFile with
  | none => none
  | some (none, _) => some []
  | some (some line, configFile) =>
      match shapes.find? fun shape => shape.1.isPrefixOf line with
      | none => itemsOf shapes configFile
      | some shape =>
          match _read : linesBehind shape.2 configFile with
          | none => none
          | some (lines, configFile) =>
              (itemsOf shapes configFile).map
                ((shape.1, ⟨line.drop shape.1.length, lines⟩) :: ·)
termination_by configFile.length
decreasing_by
  · exact cwGetCommand_length _got
  · exact Nat.lt_of_le_of_lt (linesBehind_length _read) (cwGetCommand_length _got)

/-- The items of one value. -/
def itemsFor (code : List UInt8) (items : List (List UInt8 × Item)) : List Item :=
  items.filterMap fun item => if item.1 = code then some item.2 else none

def CWConfigUnion.takeAll (isCount : Bool) (items : List Item) (value : CWConfigUnion) :
    Option CWConfigUnion :=
  items.foldlM (fun value item => value.take isCount item) value

def CWConfigValue.takeAll (isCount : Bool) (items : List Item) (configValue : CWConfigValue) :
    Option CWConfigValue :=
  (configValue.value.takeAll isCount items).map fun value => { configValue with value }

theorem CWConfigUnion.take_endCode {isCount : Bool} {item : Item} {value value' : CWConfigUnion}
    (took : value.take isCount item = some value') : value'.endCode? = value.endCode? := by
  cases value with
  | integer int_value =>
    cases took
    rfl
  | string str_value =>
    cases took
    rfl
  | stringArray endCode count entries =>
    cases isCount with
    | true =>
      cases took
      rfl
    | false =>
      simp only [take, Bool.false_eq_true, if_false, Option.map_eq_some_iff] at took
      obtain ⟨entries', _, same⟩ := took
      cases same
      rfl

section Taking

variable {isCount : Bool} {values : List CWConfigValue} {line f : List UInt8}

/-- An item goes to the value with its code. -/
def giveItem (isCount : Bool) (code : List UInt8) (item : Item) (configValue : CWConfigValue) :
    Option CWConfigValue :=
  if configValue.code = code then configValue.takeAll isCount [item] else some configValue

theorem giveItem_shape {code : List UInt8} {item : Item} (configValue given : CWConfigValue)
    (gave : giveItem isCount code item configValue = some given) :
    given.shape = configValue.shape := by
  rw [giveItem] at gave
  split at gave
  next =>
    simp only [CWConfigValue.takeAll, CWConfigUnion.takeAll, List.foldlM_cons, List.foldlM_nil,
      Option.bind_eq_bind, Option.map_eq_some_iff, Option.bind_eq_some_iff] at gave
    obtain ⟨value, ⟨value', took, same⟩, made⟩ := gave
    cases same
    cases made
    simp [CWConfigValue.shape, CWConfigUnion.take_endCode took]
  next =>
    cases gave
    rfl

theorem takeLine_unknown
    (unknown : (values.map CWConfigValue.shape).find? (fun shape => shape.1.isPrefixOf line) = none) :
    takeLine isCount line f values = some (values, f) := by
  induction values with
  | nil => rfl
  | cons configValue values inductionHypothesis =>
    rw [List.map_cons, List.find?_cons] at unknown
    split at unknown
    next => cases unknown
    next other =>
      have notBegun : ¬ configValue.code.isPrefixOf line = true := by
        rw [show configValue.code.isPrefixOf line = false from other]
        exact Bool.false_ne_true
      rw [takeLine, if_neg notBegun, inductionHypothesis unknown]
      rfl

theorem takeLine_known {shape : List UInt8 × Option (List UInt8)}
    (distinct : (values.map CWConfigValue.code).Nodup)
    (known : (values.map CWConfigValue.shape).find? (fun shape => shape.1.isPrefixOf line) =
      some shape) :
    takeLine isCount line f values = (linesBehind shape.2 f).bind fun read =>
      (values.mapM (giveItem isCount shape.1 ⟨line.drop shape.1.length, read.1⟩)).map
        fun values => (values, read.2) := by
  induction values with
  | nil => cases known
  | cons configValue values inductionHypothesis =>
    rw [List.map_cons, List.nodup_cons] at distinct
    rw [List.map_cons, List.find?_cons] at known
    split at known
    next begun =>
      -- it is the first of the values, and no other has its code
      cases known
      have begins : configValue.code.isPrefixOf line = true := begun
      rw [takeLine, if_pos begins]
      simp only [CWConfigValue.shape]
      cases linesBehind configValue.value.endCode? f with
      | none => rfl
      | some read =>
        obtain ⟨lines, behind⟩ := read
        have others : values.mapM
            (giveItem isCount configValue.code ⟨line.drop configValue.code.length, lines⟩) =
              some values := by
          apply mapM_eq_self
          intro other member
          apply if_neg
          intro same
          exact distinct.1 (same ▸ List.mem_map_of_mem member)
        simp only [Option.bind_eq_bind, Option.bind_some, List.mapM_cons, others, giveItem,
          if_true, CWConfigValue.takeAll, CWConfigUnion.takeAll, List.foldlM_cons, List.foldlM_nil]
        cases configValue.value.take isCount ⟨line.drop configValue.code.length, lines⟩ <;> rfl
    next other =>
      have notBegun : ¬ configValue.code.isPrefixOf line = true := by
        rw [show configValue.code.isPrefixOf line = false from other]
        exact Bool.false_ne_true
      -- the value that is found is another one, whose code is not that of the first
      have member := List.mem_of_find?_eq_some known
      obtain ⟨found, inside, same⟩ := List.mem_map.mp member
      have apart : configValue.code ≠ shape.1 := by
        intro equal
        rw [← same] at equal
        exact distinct.1 (List.mem_map.mpr ⟨found, inside, equal.symm⟩)
      rw [takeLine, if_neg notBegun, inductionHypothesis distinct.2 known]
      cases linesBehind shape.2 f with
      | none => rfl
      | some read =>
        have kept : giveItem isCount shape.1 ⟨line.drop shape.1.length, read.1⟩ configValue =
            some configValue := if_neg apart
        simp only [Option.bind_eq_bind, Option.bind_some, List.mapM_cons, kept]
        cases values.mapM (giveItem isCount shape.1 ⟨line.drop shape.1.length, read.1⟩) <;> rfl

end Taking

/-! ## A pass meets the items -/

section Passes

variable {isCount : Bool} {values : List CWConfigValue} {line f f' : List UInt8}
  {shapes : List (List UInt8 × Option (List UInt8))}

theorem parse_overrun (got : cwGetCommand f = none) : parseLines isCount values f = none := by
  rw [parseLines]
  split <;> simp_all

theorem parse_end (got : cwGetCommand f = some (none, f')) :
    parseLines isCount values f = some values := by
  rw [parseLines]
  split <;> simp_all

theorem parse_line (got : cwGetCommand f = some (some line, f')) :
    parseLines isCount values f = (takeLine isCount line f' values).bind
      fun taken => parseLines isCount taken.1 taken.2 := by
  rw [parseLines]
  split
  next same => simp_all
  next same => simp_all
  next line' behind same =>
    rw [got] at same
    cases same
    split
    next none => simp [none]
    next some => simp [some]

theorem items_overrun (got : cwGetCommand f = none) : itemsOf shapes f = none := by
  rw [itemsOf]
  split <;> simp_all

theorem items_end (got : cwGetCommand f = some (none, f')) : itemsOf shapes f = some [] := by
  rw [itemsOf]
  split <;> simp_all

theorem items_unknown (got : cwGetCommand f = some (some line, f'))
    (unknown : shapes.find? (fun shape => shape.1.isPrefixOf line) = none) :
    itemsOf shapes f = itemsOf shapes f' := by
  rw [itemsOf]
  split
  next same => simp_all
  next same => simp_all
  next line' behind same =>
    rw [got] at same
    cases same
    rw [unknown]

theorem items_known {shape : List UInt8 × Option (List UInt8)}
    (got : cwGetCommand f = some (some line, f'))
    (known : shapes.find? (fun shape => shape.1.isPrefixOf line) = some shape) :
    itemsOf shapes f = (linesBehind shape.2 f').bind fun read =>
      (itemsOf shapes read.2).map ((shape.1, ⟨line.drop shape.1.length, read.1⟩) :: ·) := by
  rw [itemsOf]
  split
  next same => simp_all
  next same => simp_all
  next line' behind same =>
    rw [got] at same
    cases same
    simp only [known]
    split
    next none => simp [none]
    next some => simp [some]

/-- A value takes the items that have its code, one after the other. -/
theorem giveItem_bind {code : List UInt8} {item : Item} {items : List (List UInt8 × Item)}
    (configValue : CWConfigValue) :
    ((giveItem isCount code item configValue).bind fun given =>
        given.takeAll isCount (itemsFor given.code items)) =
      configValue.takeAll isCount (itemsFor configValue.code ((code, item) :: items)) := by
  by_cases same : configValue.code = code
  · have mine : itemsFor configValue.code ((code, item) :: items) =
        item :: itemsFor configValue.code items := by
      simp [itemsFor, same]
    rw [mine, giveItem, if_pos same]
    simp only [CWConfigValue.takeAll, CWConfigUnion.takeAll, List.foldlM_cons, List.foldlM_nil,
      Option.bind_eq_bind]
    cases configValue.value.take isCount item <;> rfl
  · have others : itemsFor configValue.code ((code, item) :: items) =
        itemsFor configValue.code items := by
      simp [itemsFor, Ne.symm same]
    rw [others, giveItem, if_neg same]
    rfl

theorem parseLines_eq (shaped : values.map CWConfigValue.shape = shapes)
    (distinct : (values.map CWConfigValue.code).Nodup) :
    parseLines isCount values f = (itemsOf shapes f).bind fun items =>
      values.mapM fun configValue => configValue.takeAll isCount (itemsFor configValue.code items) := by
  induction f using itemsOf.induct shapes generalizing values with
  | case1 f got => rw [parse_overrun got, items_overrun got, Option.bind_none]
  | case2 f f' got =>
    rw [parse_end got, items_end got]
    exact (mapM_eq_self fun configValue _ => rfl).symm
  | case3 f line f' got unknown inductionHypothesis =>
    rw [parse_line got, items_unknown got unknown, takeLine_unknown (by rw [shaped]; exact unknown)]
    exact inductionHypothesis shaped distinct
  | case4 f line f' got shape known read =>
    rw [parse_line got, items_known got known, takeLine_known distinct (by rw [shaped]; exact known),
      read]
    rfl
  | case5 f line f' got shape known lines behind read inductionHypothesis =>
    rw [parse_line got, items_known got known, takeLine_known distinct (by rw [shaped]; exact known),
      read]
    simp only [Option.bind_some]
    have whole : ∀ items, (values.mapM (giveItem isCount shape.1 ⟨line.drop shape.1.length, lines⟩)).bind
        (fun given => given.mapM fun configValue =>
          configValue.takeAll isCount (itemsFor configValue.code items)) =
        values.mapM fun configValue => configValue.takeAll isCount
          (itemsFor configValue.code ((shape.1, ⟨line.drop shape.1.length, lines⟩) :: items)) := by
      intro items
      rw [mapM_bind]
      exact mapM_congr fun configValue _ => giveItem_bind configValue
    cases gave : values.mapM (giveItem isCount shape.1 ⟨line.drop shape.1.length, lines⟩) with
    | none =>
      rw [gave] at whole
      cases itemsOf shapes behind with
      | none => rfl
      | some items => exact whole items
    | some given =>
      rw [gave] at whole
      -- the values that have taken the item have the shapes that they had
      have shaped' : given.map CWConfigValue.shape = shapes :=
        (map_of_mapM giveItem_shape gave).trans shaped
      have codes : given.map CWConfigValue.code = values.map CWConfigValue.code := by
        have same := congrArg (List.map Prod.fst) (shaped'.trans shaped.symm)
        rw [List.map_map, List.map_map] at same
        exact same
      have later := inductionHypothesis shaped' (codes ▸ distinct)
      simp only [Option.map_some, Option.bind_some]
      rw [later]
      cases itemsOf shapes behind with
      | none => rfl
      | some items => exact whole items

end Passes

end WlanController.Settings
