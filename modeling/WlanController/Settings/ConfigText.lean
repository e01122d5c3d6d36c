import WlanController.Settings.ConfigLines
import WlanController.Settings.ConfigSettings

/-!
# Configuration files of text

A file of text consists of lines that fit the buffer, each with a line feed behind it, and has no zeros
and no bytes that look like the end of the file.  What it configures can be seen from its lines.
-/

namespace WlanController.Settings

/-! ## Text -/

structure TextLine (line : List UInt8) : Prop where
  clean : Clean line
  noZero : 0 ∉ line
  room : line.length < cwBufferSize

def textOf (lines : List (List UInt8)) : List UInt8 := lines.flatMap (· ++ [newline])

/-- The line is not blank and no comment. -/
def Useful (line : List UInt8) : Prop := line ≠ [] ∧ line.head? ≠ some hash

instance (line : List UInt8) : Decidable (Useful line) := inferInstanceAs (Decidable (_ ∧ _))

def usefulOnes (lines : List (List UInt8)) : List (List UInt8) := lines.filter fun line => Useful line

section Text

variable {line : List UInt8} {lines : List (List UInt8)}

theorem textOf_cons (line : List UInt8) (lines : List (List UInt8)) :
    textOf (line :: lines) = line ++ newline :: textOf lines := by
  simp [textOf]

theorem newline_ends : IsLineEnd newline := .inl rfl

theorem usefulOnes_useful (useful : Useful line) :
    usefulOnes (line :: lines) = line :: usefulOnes lines := by
  simp [usefulOnes, useful]

theorem usefulOnes_useless (useless : ¬ Useful line) :
    usefulOnes (line :: lines) = usefulOnes lines := by
  simp [usefulOnes, useless]

theorem getCommand_nil : cwGetCommand [] = some (none, []) :=
  getCommand_end (fgets_nil positive_bufferSize)

theorem getCommand_useful (text : TextLine line) (useful : Useful line) :
    cwGetCommand (textOf (line :: lines)) = some (some line, textOf lines) := by
  rw [textOf_cons, getCommand_kept (fgets_lineEnd text.clean newline_ends text.room)
    (not_skipped text.clean useful.1 useful.2 [newline]), withoutLast_line text.noZero newline_ends]
  rfl

theorem getCommand_useless (text : TextLine line) (useless : ¬ Useful line) :
    cwGetCommand (textOf (line :: lines)) = cwGetCommand (textOf lines) := by
  rw [textOf_cons]
  apply getCommand_skipped (fgets_lineEnd text.clean newline_ends text.room)
  by_cases blank : line = []
  · subst blank
    exact skipped_lineEnd newline_ends []
  · have isComment : line.head? = some hash := by
      by_contra other
      exact useless ⟨blank, other⟩
    exact skipped_comment isComment [newline]

end Text

/-! ## Items of lines -/

/-- A section that has been begun. -/
structure OpenSection where
  code : List UInt8
  endCode : List UInt8
  item : Item

/-- The items of useful lines, one line after the other. -/
def scanLines (shapes : List (List UInt8 × Option (List UInt8))) :
    (begun : Option OpenSection) → (lines : List (List UInt8)) → Items
  | none, [] => []
  | some begun, [] => [(begun.code, begun.item)]
  | none, line :: lines =>
      match shapes.find? fun shape => shape.1.isPrefixOf line with
      | none => scanLines shapes none lines
      | some (code, none) => (code, ⟨line.drop code.length, []⟩) :: scanLines shapes none lines
      | some (code, some endCode) =>
          scanLines shapes (some ⟨code, endCode, ⟨line.drop code.length, []⟩⟩) lines
  | some begun, line :: lines =>
      if line = begun.endCode then (begun.code, begun.item) :: scanLines shapes none lines
      else
        scanLines shapes
          (some { begun with item := { begun.item with lines := begun.item.lines ++ [line] } }) lines

section Scanning

variable {shapes : List (List UInt8 × Option (List UInt8))} {lines : List (List UInt8)}

/-- A section goes on up to the line that ends it. -/
theorem scanLines_begun (begun : OpenSection) (lines : List (List UInt8)) :
    scanLines shapes (some begun) lines =
      (begun.code, { begun.item with
        lines := begun.item.lines ++ lines.takeWhile (· ≠ begun.endCode) }) ::
        scanLines shapes none (lines.dropWhile (· ≠ begun.endCode)).tail := by
  induction lines generalizing begun with
  | nil => simp [scanLines]
  | cons line lines inductionHypothesis =>
    by_cases ends : line = begun.endCode
    · simp [scanLines, ends]
    · rw [scanLines, if_neg ends, inductionHypothesis]
      simp [ends]

/-- What is read depends on the next line alone. -/
theorem section_congr {endCode f g : List UInt8} (same : cwGetCommand f = cwGetCommand g) :
    sectionLines endCode f = sectionLines endCode g := by
  cases got : cwGetCommand g with
  | none => rw [section_overrun got, section_overrun (same.trans got)]
  | some read =>
    obtain ⟨command, behind⟩ := read
    cases command with
    | none => rw [section_end got, section_end (same.trans got)]
    | some line => rw [section_line got, section_line (same.trans got)]

theorem items_congr {f g : List UInt8} (same : cwGetCommand f = cwGetCommand g) :
    itemsOf shapes f = itemsOf shapes g := by
  cases got : cwGetCommand g with
  | none => rw [items_overrun got, items_overrun (same.trans got)]
  | some read =>
    obtain ⟨command, behind⟩ := read
    cases command with
    | none => rw [items_end got, items_end (same.trans got)]
    | some line =>
      cases known : shapes.find? (fun shape => shape.1.isPrefixOf line) with
      | none =>
        rw [items_unknown got known, items_unknown (same.trans got) known]
      | some shape => rw [items_known got known, items_known (same.trans got) known]

theorem sectionLines_text (endCode : List UInt8) (text : ∀ line ∈ lines, TextLine line) :
    ∃ rest, rest <:+ lines ∧
      usefulOnes rest = ((usefulOnes lines).dropWhile (· ≠ endCode)).tail ∧
      sectionLines endCode (textOf lines) =
        some ((usefulOnes lines).takeWhile (· ≠ endCode), textOf rest) := by
  induction lines with
  | nil => exact ⟨[], List.suffix_refl _, rfl, section_end getCommand_nil⟩
  | cons line lines inductionHypothesis =>
    have here := text line List.mem_cons_self
    obtain ⟨rest, suffix, later, read⟩ := inductionHypothesis
      fun line' member => text line' (List.mem_cons_of_mem _ member)
    by_cases useful : Useful line
    · rw [section_line (getCommand_useful here useful), usefulOnes_useful useful]
      by_cases ends : line = endCode
      · exact ⟨lines, List.suffix_cons _ _, by simp [ends], by simp [ends]⟩
      · refine ⟨rest, suffix.trans (List.suffix_cons _ _), ?_, ?_⟩
        · simpa [ends] using later
        · simp [ends, read]
    · have same : sectionLines endCode (textOf (line :: lines)) =
          sectionLines endCode (textOf lines) :=
        section_congr (getCommand_useless here useful)
      rw [same, usefulOnes_useless useful]
      exact ⟨rest, suffix.trans (List.suffix_cons _ _), later, read⟩

theorem items_text (text : ∀ line ∈ lines, TextLine line) :
    itemsOf shapes (textOf lines) = some (scanLines shapes none (usefulOnes lines)) := by
  induction count : lines.length using Nat.strong_induction_on generalizing lines with
  | _ count inductionHypothesis =>
  subst count
  cases lines with
  | nil => exact items_end getCommand_nil
  | cons line lines =>
    have here := text line List.mem_cons_self
    have rest : ∀ line ∈ lines, TextLine line :=
      fun line' member => text line' (List.mem_cons_of_mem _ member)
    have shorter : lines.length < (line :: lines).length := Nat.lt_succ_self _
    by_cases useful : Useful line
    · have got : cwGetCommand (textOf (line :: lines)) = some (some line, textOf lines) :=
        getCommand_useful here useful
      rw [usefulOnes_useful useful]
      cases known : shapes.find? (fun shape => shape.1.isPrefixOf line) with
      | none =>
        rw [items_unknown got known, inductionHypothesis _ shorter rest rfl]
        simp only [scanLines, known]
      | some shape =>
        obtain ⟨code, endCode?⟩ := shape
        rw [items_known got known]
        cases endCode? with
        | none =>
          simp only [scanLines, known, linesBehind, Option.bind_some]
          rw [inductionHypothesis _ shorter rest rfl]
          rfl
        | some endCode =>
          -- the lines of the section are read, and the loop goes on behind it
          obtain ⟨behind, suffix, later, read⟩ := sectionLines_text endCode rest
          have text' : ∀ line ∈ behind, TextLine line :=
            fun line' member => rest line' (suffix.mem member)
          have shorter' := Nat.lt_of_le_of_lt suffix.length_le shorter
          simp only [scanLines, known, linesBehind, read, Option.bind_some]
          rw [inductionHypothesis _ shorter' text' rfl, scanLines_begun, later]
          rfl
    · rw [items_congr (getCommand_useless here useful), usefulOnes_useless useful]
      exact inductionHypothesis _ shorter rest rfl

end Scanning

/-! ## What a file of text configures -/

/-- The items of the lines of a file, as the table of a program finds them. -/
def itemsIn (configValues : List CWConfigValue) (lines : List (List UInt8)) : Items :=
  scanLines (configValues.map CWConfigValue.shape) none (usefulOnes lines)

/-- A program takes from a file the last line of each setting and all lines of the sections; it uses
strings that have never been stored if and only if more than one section has some. -/
theorem configured_iff {lines : List (List UInt8)} (text : ∀ line ∈ lines, TextLine line) :
    (∀ settings, wtpParseConfigFile (textOf lines) = some settings ↔
      OneSection (Items.sections (itemsIn wtpConfigValues lines) "<AC_ADDRESSES>") ∧
        settings = wtpSettings (itemsIn wtpConfigValues lines)) ∧
    ∀ settings, acParseConfigFile (textOf lines) = some settings ↔
      OneSection (Items.sections (itemsIn acConfigValues lines) "<AC_MCAST_GROUPS>") ∧
        settings = acSettings (itemsIn acConfigValues lines) := by
  constructor
  · intro settings
    obtain ⟨one, several⟩ := wtpParse_items (items_text text)
    by_cases alone : OneSection (Items.sections (itemsIn wtpConfigValues lines) "<AC_ADDRESSES>")
    · rw [one alone]
      exact ⟨fun same => ⟨alone, (Option.some.inj same).symm⟩, fun both => both.2 ▸ rfl⟩
    · rw [several alone]
      exact ⟨nofun, fun both => absurd both.1 alone⟩
  · intro settings
    obtain ⟨one, several⟩ := acParse_items (items_text text)
    by_cases alone : OneSection (Items.sections (itemsIn acConfigValues lines) "<AC_MCAST_GROUPS>")
    · rw [one alone]
      exact ⟨fun same => ⟨alone, (Option.some.inj same).symm⟩, fun both => both.2 ▸ rfl⟩
    · rw [several alone]
      exact ⟨nofun, fun both => absurd both.1 alone⟩

/-- A file with two addresses, a comment and a name behind blanks. -/
def campusLines : List (List UInt8) :=
  [tag "# campus", tag "<AC_ADDRESSES>", tag "10.0.0.1", [], tag "10.0.0.2", tag "</AC_ADDRESSES>",
    tag "</WTP_NAME>  lab", tag "</WTP_PORT_DATA> 5247"]

theorem text_campusLines : ∀ line ∈ campusLines, TextLine line := by
  -- The bytes of a line are listed, since `decide` would go through all bytes there are.
  have clean : ∀ line ∈ campusLines, line.all fun b => ¬ IsLineEnd b ∧ b ≠ endOfFile := by decide
  have zero : ∀ line ∈ campusLines, 0 ∉ line := by decide
  have room : ∀ line ∈ campusLines, line.length < cwBufferSize := by decide
  intro line member
  refine ⟨fun b inside => ?_, zero line member, room line member⟩
  exact of_decide_eq_true (List.all_eq_true.mp (clean line member) b inside)

theorem configured_campus : (∀ line ∈ campusLines, TextLine line) ∧
    ∃ settings, wtpParseConfigFile (textOf campusLines) = some settings ∧
      settings.gCWACAddresses = [tag "10.0.0.1", tag "10.0.0.2"] ∧
      settings.gWTPName = some (tag "lab") ∧ settings.wtpPortData = 5247 := by
  refine ⟨text_campusLines, wtpSettings (itemsIn wtpConfigValues campusLines), ?_, ?_⟩
  · exact ((configured_iff text_campusLines).1 _).mpr ⟨by decide, rfl⟩
  · decide

end WlanController.Settings
