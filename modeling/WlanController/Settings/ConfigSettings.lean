import WlanController.Settings.ConfigPasses

/-!
# The settings that a configuration file makes

Every setting is what the last of its lines says.  A list of strings has what is in its sections, and
nothing is taken that has not been stored, exactly where no more than one of the sections has strings.
-/

namespace WlanController.Settings

/-! ## Lists of strings -/

section Storing

variable {lines : List (List UInt8)} {entries : List (Option (List UInt8))}
  {sections : List (List (List UInt8))}

theorem storeLines_eq (room : lines.length ≤ entries.length) :
    storeLines lines entries = some (lines.map some ++ entries.drop lines.length) := by
  induction lines generalizing entries with
  | nil => rfl
  | cons line lines inductionHypothesis =>
    cases entries with
    | nil => simp at room
    | cons entry entries =>
      have later := inductionHypothesis (Nat.le_of_succ_le_succ room)
      simp [storeLines, later]

/-- The sections of a list are stored one after the other. -/
def storeAll (sections : List (List (List UInt8))) (entries : List (Option (List UInt8))) :
    Option (List (Option (List UInt8))) :=
  sections.foldlM (fun entries lines => storeLines lines entries) entries

/-- Sections that are short leave the entries behind them as they are. -/
theorem storeAll_short {bound : Nat} (short : ∀ lines ∈ sections, lines.length ≤ bound)
    (room : bound ≤ entries.length) : ∃ stored, storeAll sections entries = some stored ∧
      stored.length = entries.length ∧ stored.drop bound = entries.drop bound := by
  induction sections generalizing entries with
  | nil => exact ⟨entries, rfl, rfl, rfl⟩
  | cons lines sections inductionHypothesis =>
    have first := short lines List.mem_cons_self
    have length : (lines.map some ++ entries.drop lines.length).length = entries.length := by
      simp only [List.length_append, List.length_map, List.length_drop]
      omega
    obtain ⟨stored, all, length', behind⟩ := inductionHypothesis
      (fun lines' member => short lines' (List.mem_cons_of_mem _ member)) (length ▸ room)
    refine ⟨stored, ?_, length'.trans length, ?_⟩
    · rw [storeAll, List.foldlM_cons, storeLines_eq (Nat.le_trans first room)]
      exact all
    · have none : (lines.map some).drop bound = [] := by simpa using first
      rw [behind, List.drop_append, none, List.length_map, List.drop_drop, List.nil_append,
        Nat.add_sub_cancel' first]

/-- Sections without strings store nothing. -/
theorem storeAll_filter (sections : List (List (List UInt8)))
    (entries : List (Option (List UInt8))) :
    storeAll (sections.filter fun lines => lines ≠ []) entries = storeAll sections entries := by
  induction sections generalizing entries with
  | nil => rfl
  | cons lines sections inductionHypothesis =>
    cases lines with
    | nil => exact inductionHypothesis entries
    | cons line lines =>
      have inhabited : decide (line :: lines ≠ []) = true := by simp
      rw [List.filter_cons, if_pos inhabited, storeAll, storeAll, List.foldlM_cons, List.foldlM_cons]
      cases storeLines (line :: lines) entries with
      | none => rfl
      | some stored => exact inductionHypothesis stored

theorem copies_map_some (lines : List (List UInt8)) : copies (lines.map some) = some lines := by
  rw [copies, List.mapM_map]
  exact mapM_eq_self fun line _ => rfl

theorem copies_eq_none (missing : none ∈ entries) : copies entries = none := by
  induction entries with
  | nil => cases missing
  | cons entry entries inductionHypothesis =>
    rw [copies, List.mapM_cons]
    cases missing with
    | head => rfl
    | tail _ later =>
      have rest : entries.mapM (fun entry => entry) = none := inductionHypothesis later
      rw [rest]
      cases entry <;> rfl

/-- No more than one of the sections has strings. -/
def OneSection (sections : List (List (List UInt8))) : Prop :=
  (sections.filter fun lines => lines ≠ []).length ≤ 1

instance (sections : List (List (List UInt8))) : Decidable (OneSection sections) :=
  inferInstanceAs (Decidable (_ ≤ _))

/-- The array has as many entries as there are strings in all of the sections. -/
theorem storeAll_whole (sections : List (List (List UInt8))) :
    ∃ stored, storeAll sections (List.replicate sections.flatten.length none) = some stored ∧
      (OneSection sections → copies stored = some sections.flatten) ∧
      (¬ OneSection sections → copies stored = none) := by
  unfold OneSection
  rw [← storeAll_filter, ← List.flatten_filter_ne_nil]
  have inhabited : ∀ lines ∈ sections.filter (fun lines => lines ≠ []), lines ≠ [] := by
    intro lines member
    simpa using (List.mem_filter.mp member).2
  generalize sections.filter (fun lines => lines ≠ []) = sections at inhabited ⊢
  cases sections with
  | nil => exact ⟨[], rfl, fun _ => rfl, fun several => absurd (Nat.zero_le 1) several⟩
  | cons first sections =>
  cases sections with
  | nil =>
    refine ⟨first.map some, ?_, fun _ => ?_, fun several => absurd (Nat.le_refl 1) several⟩
    · have room : first.length ≤ (List.replicate first.length (none : Option (List UInt8))).length :=
        (List.length_replicate ..).ge
      simp [storeAll, storeLines_eq room]
    · simpa using copies_map_some first
  | cons second sections =>
    have first_pos := List.length_pos_iff.mpr (inhabited first (by simp))
    have second_pos := List.length_pos_iff.mpr (inhabited second (by simp))
    -- no section reaches the last entry, since there is another one
    have short : ∀ lines ∈ first :: second :: sections,
        lines.length ≤ (first :: second :: sections).flatten.length - 1 := by
      intro lines member
      cases member with
      | head =>
        simp only [List.flatten_cons, List.length_append]
        omega
      | tail _ member =>
        have inside := (List.sublist_flatten_of_mem member).length_le
        rw [List.flatten_cons, List.length_append]
        omega
    have positive : 0 < (first :: second :: sections).flatten.length := by
      simp only [List.flatten_cons, List.length_append]
      omega
    generalize (first :: second :: sections).flatten.length = total at short positive ⊢
    have room : total - 1 ≤ (List.replicate total (none : Option (List UInt8))).length := by simp
    obtain ⟨stored, all, -, behind⟩ := storeAll_short short room
    refine ⟨stored, all, fun one => absurd one (by simp), fun _ => ?_⟩
    have last : none ∈ stored := by
      apply List.mem_of_mem_drop
      rw [behind, List.drop_replicate, show total - (total - 1) = 1 by omega]
      exact List.mem_singleton_self _
    exact copies_eq_none last

end Storing

/-! ## One value -/

/-- What the last line with a code says. -/
def lastLine (items : List Item) : Option (List UInt8) := items.getLast?.map Item.myLine

/-- The sections of a value. -/
def sectionsOf (items : List Item) : List (List (List UInt8)) := items.map Item.lines

section Values

variable {isCount : Bool} {items : List Item}

theorem takeAll_integer (int_value : Int) : (CWConfigUnion.integer int_value).takeAll isCount items =
    some (.integer (((lastLine items).map atoiLine).getD int_value)) := by
  induction items generalizing int_value with
  | nil => rfl
  | cons item items inductionHypothesis =>
    rw [CWConfigUnion.takeAll, List.foldlM_cons]
    have later := inductionHypothesis (atoiLine item.myLine)
    simp only [CWConfigUnion.take, Option.bind_eq_bind, Option.bind_some]
    refine later.trans ?_
    cases items with
    | nil => rfl
    | cons next items => simp [lastLine, List.getLast?_cons]

theorem takeAll_string_count (str_value : Option (List UInt8)) :
    (CWConfigUnion.string str_value).takeAll true items = some (.string str_value) := by
  induction items with
  | nil => rfl
  | cons item items inductionHypothesis => exact inductionHypothesis

theorem takeAll_string (str_value : Option (List UInt8)) :
    (CWConfigUnion.string str_value).takeAll false items =
      some (.string ((lastLine items).or str_value)) := by
  induction items generalizing str_value with
  | nil => rfl
  | cons item items inductionHypothesis =>
    have later := inductionHypothesis (some item.myLine)
    refine later.trans ?_
    cases items with
    | nil => rfl
    | cons next items => simp [lastLine, List.getLast?_cons]

theorem takeAll_count (endCode : List UInt8) (count : Nat) (entries : List (Option (List UInt8))) :
    (CWConfigUnion.stringArray endCode count entries).takeAll true items =
      some (.stringArray endCode (count + (sectionsOf items).flatten.length) entries) := by
  induction items generalizing count with
  | nil => rfl
  | cons item items inductionHypothesis =>
    have later := inductionHypothesis (count + item.lines.length)
    refine later.trans ?_
    simp [sectionsOf, Nat.add_assoc]

theorem takeAll_store (endCode : List UInt8) (count : Nat) (entries : List (Option (List UInt8))) :
    (CWConfigUnion.stringArray endCode count entries).takeAll false items =
      (storeAll (sectionsOf items) entries).map (.stringArray endCode count) := by
  induction items generalizing entries with
  | nil => rfl
  | cons item items inductionHypothesis =>
    rw [CWConfigUnion.takeAll, List.foldlM_cons, sectionsOf, List.map_cons, storeAll, List.foldlM_cons]
    simp only [CWConfigUnion.take, Bool.false_eq_true, if_false, Option.bind_eq_bind]
    cases storeLines item.lines entries with
    | none => rfl
    | some stored => exact inductionHypothesis stored

end Values

/-- Both passes, as one value sees them. -/
def CWConfigValue.parse (items : List Item) (configValue : CWConfigValue) : Option CWConfigValue := do
  let counted ← (configValue.value.begin true).takeAll true items
  let value ← (counted.begin false).takeAll false items
  return { configValue with value }

section Parsing

variable (items : List Item) (code : String)

theorem parse_integer (int_value : Int) : (integer code int_value).parse items =
    some (integer code (((lastLine items).map atoiLine).getD int_value)) := by
  simp only [CWConfigValue.parse, integer, CWConfigUnion.begin, takeAll_integer, Option.bind_eq_bind,
    Option.bind_some]
  cases lastLine items <;> rfl

theorem parse_string : (string code).parse items = some ⟨tag code, .string (lastLine items)⟩ := by
  simp only [CWConfigValue.parse, string, CWConfigUnion.begin, takeAll_string_count, takeAll_string,
    Option.bind_eq_bind, Option.bind_some, Option.or_none]
  rfl

theorem parse_stringArray (endCode : String) :
    ∃ count stored, (stringArray code endCode).parse items =
        some ⟨tag code, .stringArray (tag endCode) count stored⟩ ∧
      (OneSection (sectionsOf items) → copies stored = some (sectionsOf items).flatten) ∧
      (¬ OneSection (sectionsOf items) → copies stored = none) := by
  obtain ⟨stored, all, kept⟩ := storeAll_whole (sectionsOf items)
  refine ⟨(sectionsOf items).flatten.length, stored, ?_, kept⟩
  have begun : (if (sectionsOf items).flatten.length = 0 then ([] : List (Option (List UInt8)))
      else List.replicate (sectionsOf items).flatten.length none) =
        List.replicate (sectionsOf items).flatten.length none := by
    split
    next empty => rw [empty, List.replicate_zero]
    next => rfl
  simp only [CWConfigValue.parse, stringArray, CWConfigUnion.begin, if_true, takeAll_count,
    takeAll_store, Option.bind_eq_bind, Option.bind_some, Nat.zero_add, Bool.false_eq_true, if_false,
    begun, all, Option.map_some]
  rfl

end Parsing

/-! ## The whole file -/

section Files

variable {isCount : Bool} {values : List CWConfigValue} {configFile : List UInt8}

theorem CWConfigUnion.begin_endCode (value : CWConfigUnion) :
    (value.begin isCount).endCode? = value.endCode? := by
  cases value with
  | integer int_value => rfl
  | string str_value => rfl
  | stringArray endCode count entries => cases isCount <;> rfl

theorem CWConfigUnion.takeAll_endCode {items : List Item} {value taken : CWConfigUnion}
    (took : value.takeAll isCount items = some taken) : taken.endCode? = value.endCode? := by
  induction items generalizing value with
  | nil =>
    cases took
    rfl
  | cons item items inductionHypothesis =>
    rw [takeAll, List.foldlM_cons, Option.bind_eq_bind, Option.bind_eq_some_iff] at took
    obtain ⟨value', first, later⟩ := took
    exact (inductionHypothesis later).trans (take_endCode first)

/-- A value at the beginning of a pass. -/
def CWConfigValue.begin (isCount : Bool) (configValue : CWConfigValue) : CWConfigValue :=
  { configValue with value := configValue.value.begin isCount }

theorem CWConfigValue.begin_shape (configValue : CWConfigValue) :
    (configValue.begin isCount).shape = configValue.shape := by
  simp [begin, shape, CWConfigUnion.begin_endCode]

theorem CWConfigValue.takeAll_shape {items : List Item} {configValue taken : CWConfigValue}
    (took : configValue.takeAll isCount items = some taken) : taken.shape = configValue.shape := by
  rw [takeAll, Option.map_eq_some_iff] at took
  obtain ⟨value, took, same⟩ := took
  cases same
  simp [shape, CWConfigUnion.takeAll_endCode took]

/-- What one value takes in the one pass and in the other. -/
theorem CWConfigValue.takeAll_bind (items : List (List UInt8 × Item)) (configValue : CWConfigValue) :
    (((configValue.begin true).takeAll true (itemsFor configValue.code items)).bind fun counted =>
        (counted.begin false).takeAll false (itemsFor counted.code items)) =
      configValue.parse (itemsFor configValue.code items) := by
  simp only [parse, takeAll, begin, Option.bind_eq_bind, Option.bind_map]
  refine congrArg (Option.bind _) (funext fun counted => ?_)
  exact Option.map_eq_bind

theorem parseTheFile_eq (distinct : (values.map CWConfigValue.code).Nodup) :
    cwParseTheFile isCount values configFile =
      (itemsOf (values.map CWConfigValue.shape) configFile).bind fun items =>
        values.mapM fun configValue : CWConfigValue =>
          (configValue.begin isCount).takeAll isCount (itemsFor configValue.code items) := by
  have shaped : (values.map (CWConfigValue.begin isCount)).map CWConfigValue.shape =
      values.map CWConfigValue.shape := by
    rw [List.map_map]
    exact List.map_congr_left fun configValue _ => CWConfigValue.begin_shape configValue
  have codes : (values.map (CWConfigValue.begin isCount)).map CWConfigValue.code =
      values.map CWConfigValue.code := by
    rw [List.map_map]
    rfl
  refine (parseLines_eq shaped (codes ▸ distinct)).trans ?_
  simp only [List.mapM_map]
  rfl

/-- Both passes meet the same items, whatever the first has made of the values. -/
theorem cwParseConfigFile_eq (distinct : (values.map CWConfigValue.code).Nodup) :
    cwParseConfigFile values configFile =
      (itemsOf (values.map CWConfigValue.shape) configFile).bind fun items =>
        values.mapM fun configValue => configValue.parse (itemsFor configValue.code items) := by
  rw [cwParseConfigFile, parseTheFile_eq distinct]
  cases met : itemsOf (values.map CWConfigValue.shape) configFile with
  | none => rfl
  | some items =>
    simp only [Option.bind_some, Option.bind_eq_bind]
    -- The first pass only counts, so the second one meets the same items.
    have keeps : ∀ configValue counted : CWConfigValue,
        (configValue.begin true).takeAll true (itemsFor configValue.code items) = some counted →
        counted.shape = configValue.shape := by
      intro configValue counted took
      exact (CWConfigValue.takeAll_shape took).trans configValue.begin_shape
    have second : ∀ counted, values.mapM (fun configValue =>
          (configValue.begin true).takeAll true (itemsFor configValue.code items)) = some counted →
        cwParseTheFile false counted configFile = counted.mapM fun configValue =>
          (configValue.begin false).takeAll false (itemsFor configValue.code items) := by
      intro counted passed
      have shaped := map_of_mapM keeps passed
      have codes : counted.map CWConfigValue.code = values.map CWConfigValue.code := by
        have same := congrArg (List.map Prod.fst) shaped
        rw [List.map_map, List.map_map] at same
        exact same
      rw [parseTheFile_eq (codes ▸ distinct), shaped, met]
      rfl
    have together := mapM_bind values
      (fun configValue => (configValue.begin true).takeAll true (itemsFor configValue.code items))
      (fun configValue => (configValue.begin false).takeAll false (itemsFor configValue.code items))
    -- For each name the two passes come one after the other.
    calc
      _ = (values.mapM fun configValue : CWConfigValue =>
            (configValue.begin true).takeAll true (itemsFor configValue.code items)).bind
          fun counted => counted.mapM fun configValue : CWConfigValue =>
            (configValue.begin false).takeAll false (itemsFor configValue.code items) := by
        cases passed : values.mapM fun configValue : CWConfigValue =>
            (configValue.begin true).takeAll true (itemsFor configValue.code items) with
        | none => rfl
        | some counted => exact second counted passed
      _ = _ := together
      _ = _ := mapM_congr fun configValue _ => CWConfigValue.takeAll_bind items configValue

end Files

/-! ## What is configured -/

/-- The items of a file under their codes. -/
abbrev Items := List (List UInt8 × Item)

section Items

variable (items : Items) (code : String)

def Items.line : Option (List UInt8) := lastLine (itemsFor (tag code) items)

def Items.int (default : Int) : Int := ((Items.line items code).map atoiLine).getD default

def Items.str : Option (List UInt8) := (Items.line items code).map behindBlanks

def Items.sections : List (List (List UInt8)) := sectionsOf (itemsFor (tag code) items)

/-- The settings of a WTP, with what stands in front for those without a line. -/
def wtpSettings : WTPSettings where
  gCWACAddresses := (Items.sections items "<AC_ADDRESSES>").flatten
  gCWForceMTU := Items.int items "</WTP_FORCE_MTU>" 0
  gNetworkPreferredFamily := preferredFamily (Items.line items "</WTP_LEV3_PROTOCOL>")
  gWTPName := Items.str items "</WTP_NAME>"
  gWTPLocation := Items.str items "</WTP_LOCATION>"
  gWTPForceACAddress := Items.str items "</WTP_FORCE_AC_ADDRESS>"
  gWTPForceSecurity := (Items.line items "</WTP_FORCE_SECURITY>").map securityOf
  gEnabledLog := Items.int items "</WTP_LOG_FILE_ENABLE>" 0
  gMaxLogFileSize := Items.int items "</WTP_LOG_FILE_SIZE>" defaultLogSize
  gWTPCertificate := Items.str items "</WTP_SECURITY_CERTIFICATE>"
  gWTPKeyfile := Items.str items "</WTP_SECURITY_KEYFILE>"
  gWTPPassword := Items.str items "</WTP_SECURITY_PASSWORD>"
  wtpPortControl := Items.int items "</WTP_PORT_CONTROL>" (-1)
  wtpPortData := Items.int items "</WTP_PORT_DATA>" (-1)

def acSettings : ACSettings where
  gACHWVersion := Items.int items "</AC_HW_VERSION>" 0
  gACSWVersion := Items.int items "</AC_SW_VERSION>" 0
  gLimit := Items.int items "</AC_MAX_STATIONS>" 0
  gMaxWTPs := Items.int items "</AC_MAX_WTPS>" 0
  gACDescriptorSecurity := (Items.line items "</AC_SECURITY>").map securityOf
  gACName := Items.str items "</AC_NAME>"
  gMulticastGroups := (Items.sections items "<AC_MCAST_GROUPS>").flatten
  gCWForceMTU := Items.int items "</AC_FORCE_MTU>" 0
  gNetworkPreferredFamily := preferredFamily (Items.line items "</AC_LEV3_PROTOCOL>")
  gEnabledLog := Items.int items "</AC_LOG_FILE_ENABLE>" 0
  gMaxLogFileSize := Items.int items "</AC_LOG_FILE_SIZE>" defaultLogSize
  gACCertificate := Items.str items "</AC_SECURITY_CERTIFICATE>"
  gACKeyfile := Items.str items "</AC_SECURITY_KEYFILE>"
  gACPassword := Items.str items "</AC_SECURITY_PASSWORD>"

end Items

theorem wtpCodes_nodup : (wtpConfigValues.map CWConfigValue.code).Nodup := by decide

theorem acCodes_nodup : (acConfigValues.map CWConfigValue.code).Nodup := by decide

def wtpItems (configFile : List UInt8) : Option Items :=
  itemsOf (wtpConfigValues.map CWConfigValue.shape) configFile

def acItems (configFile : List UInt8) : Option Items :=
  itemsOf (acConfigValues.map CWConfigValue.shape) configFile

theorem integer_code (code : String) (int_value : Int) : (integer code int_value).code = tag code := rfl

theorem string_code (code : String) : (string code).code = tag code := rfl

theorem stringArray_code (code endCode : String) : (stringArray code endCode).code = tag code := rfl

section Programs

variable {configFile : List UInt8} {items : Items}

theorem wtpParse_items (met : wtpItems configFile = some items) :
    (OneSection (Items.sections items "<AC_ADDRESSES>") →
      wtpParseConfigFile configFile = some (wtpSettings items)) ∧
    (¬ OneSection (Items.sections items "<AC_ADDRESSES>") → wtpParseConfigFile configFile = none) := by
  have parsed : cwParseConfigFile wtpConfigValues configFile = _ := cwParseConfigFile_eq wtpCodes_nodup
  rw [show itemsOf _ configFile = some items from met, Option.bind_some] at parsed
  obtain ⟨count, stored, array, one, several⟩ := parse_stringArray
    (itemsFor (tag "<AC_ADDRESSES>") items) "<AC_ADDRESSES>" "</AC_ADDRESSES>"
  simp only [wtpConfigValues, List.mapM_cons, List.mapM_nil, integer_code, string_code,
    stringArray_code, parse_integer, parse_string, array, Option.bind_eq_bind, Option.bind_some,
    Option.pure_def] at parsed
  rw [wtpParseConfigFile, wtpConfigValues, parsed, Option.bind_some]
  constructor
  · intro alone
    have addresses := one alone
    unfold wtpConfigFileDestroyLib
    change Option.bind (copies stored) _ = _
    rw [addresses]
    rfl
  · intro split
    have addresses := several split
    unfold wtpConfigFileDestroyLib
    change Option.bind (copies stored) _ = _
    rw [addresses]
    rfl

theorem acParse_items (met : acItems configFile = some items) :
    (OneSection (Items.sections items "<AC_MCAST_GROUPS>") →
      acParseConfigFile configFile = some (acSettings items)) ∧
    (¬ OneSection (Items.sections items "<AC_MCAST_GROUPS>") → acParseConfigFile configFile = none) := by
  have parsed : cwParseConfigFile acConfigValues configFile = _ := cwParseConfigFile_eq acCodes_nodup
  rw [show itemsOf _ configFile = some items from met, Option.bind_some] at parsed
  obtain ⟨count, stored, array, one, several⟩ := parse_stringArray
    (itemsFor (tag "<AC_MCAST_GROUPS>") items) "<AC_MCAST_GROUPS>" "</AC_MCAST_GROUPS>"
  simp only [acConfigValues, List.mapM_cons, List.mapM_nil, integer_code, string_code,
    stringArray_code, parse_integer, parse_string, array, Option.bind_eq_bind, Option.bind_some,
    Option.pure_def] at parsed
  rw [acParseConfigFile, acConfigValues, parsed, Option.bind_some]
  constructor
  · intro alone
    have groups := one alone
    unfold acConfigFileDestroyLib
    change Option.bind (copies stored) _ = _
    rw [groups]
    rfl
  · intro split
    have groups := several split
    unfold acConfigFileDestroyLib
    change Option.bind (copies stored) _ = _
    rw [groups]
    rfl

end Programs

end WlanController.Settings
