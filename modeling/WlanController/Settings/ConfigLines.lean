import Mathlib.Data.List.TakeWhile
import WlanController.Settings.ConfigFile

/-!
# Which configuration files are read

A file is read up to a line end, to a byte that looks like the end of the file, or to the end of the
buffer.  The last byte of what was read is then removed.  So a line that is to be returned has to end
with a line end inside the buffer and to be free of zeros and of bytes that look like the end.
-/

namespace WlanController.Settings

/-- There is nothing that ends a line or looks like the end of the file. -/
def Clean (part : List UInt8) : Prop := ∀ b ∈ part, ¬ IsLineEnd b ∧ b ≠ endOfFile

theorem Clean.cons {b : UInt8} {part : List UInt8} (clean : Clean (b :: part)) :
    ¬ IsLineEnd b ∧ b ≠ endOfFile ∧ Clean part :=
  ⟨(clean b List.mem_cons_self).1, (clean b List.mem_cons_self).2,
    fun b' member => clean b' (List.mem_cons_of_mem _ member)⟩

theorem clean_nil : Clean [] := nofun

theorem IsLineEnd.ne_endOfFile {c : UInt8} (lineEnd : IsLineEnd c) : c ≠ endOfFile := by
  cases lineEnd with
  | inl same => rw [same]; decide
  | inr same => rw [same]; decide

theorem not_lineEnd_hash : ¬ IsLineEnd hash := by decide

/-! ## The reader -/

section Reader

variable {bufSize i : Nat} {part f : List UInt8} {c : UInt8}

theorem loop_lineEnd (clean : Clean part) (lineEnd : IsLineEnd c) (room : i + part.length ≤ bufSize) :
    fgetsLoop bufSize (part ++ c :: f) i = some (part ++ [c], f) := by
  induction part generalizing i with
  | nil =>
    have inside : ¬ bufSize < i := Nat.not_lt.mpr room
    simp [fgetsLoop, inside, lineEnd.ne_endOfFile, lineEnd]
  | cons b part inductionHypothesis =>
    obtain ⟨inner, other, clean'⟩ := clean.cons
    rw [List.length_cons] at room
    have later := inductionHypothesis (i := i + 1) clean' (by omega)
    have inside : ¬ bufSize < i := by omega
    have more : i < bufSize := by omega
    simp [fgetsLoop, inside, other, more, inner, later]

theorem loop_end (clean : Clean part) (room : i + part.length ≤ bufSize) :
    fgetsLoop bufSize part i = some (part, []) := by
  induction part generalizing i with
  | nil => exact if_pos room
  | cons b part inductionHypothesis =>
    obtain ⟨inner, other, clean'⟩ := clean.cons
    rw [List.length_cons] at room
    have later := inductionHypothesis (i := i + 1) clean' (by omega)
    have inside : ¬ bufSize < i := by omega
    have more : i < bufSize := by omega
    simp [fgetsLoop, inside, other, more, inner, later]

theorem loop_cut (clean : Clean part) (room : i + part.length ≤ bufSize) :
    fgetsLoop bufSize (part ++ endOfFile :: f) i = some (part, f) := by
  induction part generalizing i with
  | nil =>
    have inside : ¬ bufSize < i := Nat.not_lt.mpr room
    simp [fgetsLoop, inside]
  | cons b part inductionHypothesis =>
    obtain ⟨inner, other, clean'⟩ := clean.cons
    rw [List.length_cons] at room
    have later := inductionHypothesis (i := i + 1) clean' (by omega)
    have inside : ¬ bufSize < i := by omega
    have more : i < bufSize := by omega
    simp [fgetsLoop, inside, other, more, inner, later]

/-- The buffer is full before the part has been read. -/
theorem loop_full (clean : Clean part) (begins : i ≤ bufSize) (full : bufSize < i + part.length) :
    ∃ stored f', fgetsLoop bufSize (part ++ f) i = some (stored, f') ∧
      stored.length + i = bufSize + 1 := by
  induction part generalizing i with
  | nil => exact absurd full (Nat.not_lt.mpr begins)
  | cons b part inductionHypothesis =>
    obtain ⟨inner, other, clean'⟩ := clean.cons
    rw [List.length_cons] at full
    have inside : ¬ bufSize < i := Nat.not_lt.mpr begins
    by_cases more : i < bufSize
    · obtain ⟨stored, f', later, length⟩ := inductionHypothesis (i := i + 1) clean' more (by omega)
      refine ⟨b :: stored, f', ?_, ?_⟩
      · simp [fgetsLoop, inside, other, more, inner, later]
      · rw [List.length_cons]
        omega
    · refine ⟨[b], part ++ f, ?_, ?_⟩
      · simp [fgetsLoop, inside, other, more]
      · rw [List.length_singleton]
        omega

theorem fgets_of_loop {stored f' : List UInt8} (looped : fgetsLoop bufSize f 0 = some (stored, f'))
    (inhabited : stored ≠ []) (fits : stored.length ≤ bufSize) :
    cwFgets bufSize f = some (some stored, f') := by
  have positive : bufSize ≠ 0 := by
    have length := List.length_pos_iff.mpr inhabited
    omega
  simp [cwFgets, positive, looped, inhabited, fits]

/-- The zero is written behind the buffer. -/
theorem fgets_of_long {stored f' : List UInt8} (positive : bufSize ≠ 0)
    (looped : fgetsLoop bufSize f 0 = some (stored, f')) (long : bufSize < stored.length) :
    cwFgets bufSize f = none := by
  have inhabited : stored ≠ [] := by
    rintro rfl
    exact absurd long (Nat.not_lt_zero _)
  simp [cwFgets, positive, looped, inhabited, long]

theorem fgets_lineEnd (clean : Clean part) (lineEnd : IsLineEnd c) (room : part.length < bufSize) :
    cwFgets bufSize (part ++ c :: f) = some (some (part ++ [c]), f) := by
  have looped : fgetsLoop bufSize (part ++ c :: f) 0 = some (part ++ [c], f) :=
    loop_lineEnd clean lineEnd (by omega)
  apply fgets_of_loop looped
  · simp
  · rw [List.length_append, List.length_singleton]
    omega

theorem fgets_end (clean : Clean part) (inhabited : part ≠ []) (room : part.length ≤ bufSize) :
    cwFgets bufSize part = some (some part, []) := by
  have looped : fgetsLoop bufSize part 0 = some (part, []) := loop_end clean (by omega)
  exact fgets_of_loop looped inhabited room

theorem fgets_nil (positive : bufSize ≠ 0) : cwFgets bufSize [] = some (none, []) := by
  simp [cwFgets, positive, fgetsLoop]

theorem fgets_cut (clean : Clean part) (inhabited : part ≠ []) (room : part.length ≤ bufSize) :
    cwFgets bufSize (part ++ endOfFile :: f) = some (some part, f) := by
  have looped : fgetsLoop bufSize (part ++ endOfFile :: f) 0 = some (part, f) :=
    loop_cut clean (by omega)
  exact fgets_of_loop looped inhabited room

theorem fgets_endOfFile (positive : bufSize ≠ 0) :
    cwFgets bufSize (endOfFile :: f) = some (none, f) := by
  simp [cwFgets, positive, fgetsLoop]

theorem fgets_full (positive : bufSize ≠ 0) (clean : Clean part) (full : bufSize < part.length) :
    cwFgets bufSize (part ++ f) = none := by
  obtain ⟨stored, f', looped, length⟩ :=
    loop_full (f := f) clean (Nat.zero_le bufSize) ((Nat.zero_add _).symm ▸ full)
  exact fgets_of_long positive looped (by omega)

theorem fgets_lineEnd_full (positive : bufSize ≠ 0) (clean : Clean part) (lineEnd : IsLineEnd c)
    (full : bufSize ≤ part.length) : cwFgets bufSize (part ++ c :: f) = none := by
  by_cases same : part.length = bufSize
  · have looped : fgetsLoop bufSize (part ++ c :: f) 0 = some (part ++ [c], f) :=
      loop_lineEnd clean lineEnd (by omega)
    apply fgets_of_long positive looped
    rw [List.length_append, same]
    exact Nat.lt_succ_self bufSize
  · exact fgets_full positive clean (by omega)

end Reader

/-! ## Lines -/

section Lines

variable {part f g : List UInt8} {c : UInt8}

theorem firstLine_append (within : ∀ b ∈ part, ¬ IsLineEnd b) (g : List UInt8) :
    firstLine (part ++ g) = (part ++ (firstLine g).1, (firstLine g).2) := by
  induction part with
  | nil => rfl
  | cons b part inductionHypothesis =>
    have inner : ¬ IsLineEnd b := within b List.mem_cons_self
    have later := inductionHypothesis fun b' member => within b' (List.mem_cons_of_mem _ member)
    rw [List.cons_append, firstLine, if_neg inner, later]
    rfl

theorem firstLine_lineEnd (lineEnd : IsLineEnd c) (f : List UInt8) : firstLine (c :: f) = ([], f) :=
  if_pos lineEnd

theorem firstLine_le (f : List UInt8) : (firstLine f).2.length ≤ f.length := by
  cases f with
  | nil => exact Nat.le_refl 0
  | cons c f => exact Nat.le_of_lt (firstLine_length c f)

theorem useful_blank (lineEnd : IsLineEnd c) (f : List UInt8) :
    usefulLines (c :: f) = usefulLines f := by
  rw [usefulLines, firstLine_lineEnd lineEnd]
  exact if_pos (.inl rfl)

theorem useful_comment (within : ∀ b ∈ part, ¬ IsLineEnd b) (isComment : part.head? = some hash)
    (g : List UInt8) : usefulLines (part ++ g) = usefulLines (firstLine g).2 := by
  cases part with
  | nil => cases isComment
  | cons b part =>
    have line := firstLine_append within g
    rw [List.cons_append] at line ⊢
    rw [usefulLines, line]
    exact if_pos (.inr isComment)

theorem useful_line (within : ∀ b ∈ part, ¬ IsLineEnd b) (inhabited : part ≠ [])
    (notComment : part.head? ≠ some hash) (g : List UInt8) :
    usefulLines (part ++ g) =
      (part ++ (firstLine g).1, (firstLine g).2) :: usefulLines (firstLine g).2 := by
  cases part with
  | nil => exact absurd rfl inhabited
  | cons b part =>
    have line := firstLine_append within g
    rw [List.cons_append] at line ⊢
    rw [usefulLines, line]
    apply if_neg
    simpa using notComment

/-- What is behind a useful line is less than all. -/
theorem useful_shorter (f : List UInt8) : ∀ line ∈ usefulLines f, line.2.length < f.length := by
  induction f using usefulLines.induct with
  | case1 =>
    rw [usefulLines]
    exact nofun
  | case2 c f skipped inductionHypothesis =>
    rw [usefulLines, if_pos skipped]
    intro line member
    exact Nat.lt_trans (inductionHypothesis line member) (firstLine_length c f)
  | case3 c f useful inductionHypothesis =>
    rw [usefulLines, if_neg useful]
    intro line member
    cases member with
    | head => exact firstLine_length c f
    | tail _ later => exact Nat.lt_trans (inductionHypothesis line later) (firstLine_length c f)

/-- A file is read up to a line end, to a byte that looks like its end, or to its end. -/
theorem exists_part (f : List UInt8) :
    ∃ part g, f = part ++ g ∧ Clean part ∧
      (g = [] ∨ ∃ c f', g = c :: f' ∧ (IsLineEnd c ∨ c = endOfFile)) := by
  induction f with
  | nil => exact ⟨[], [], rfl, clean_nil, .inl rfl⟩
  | cons b f inductionHypothesis =>
    by_cases stops : IsLineEnd b ∨ b = endOfFile
    · exact ⟨[], b :: f, rfl, clean_nil, .inr ⟨b, f, rfl, stops⟩⟩
    · obtain ⟨part, g, rfl, clean, stop⟩ := inductionHypothesis
      refine ⟨b :: part, g, rfl, ?_, stop⟩
      intro b' member
      cases member with
      | head => exact not_or.mp stops
      | tail _ later => exact clean b' later

end Lines

/-! ## Commands -/

section Commands

variable {part f f' buff : List UInt8} {c : UInt8}

theorem commands_overrun (got : cwGetCommand f = none) : commands f = none := by
  rw [commands]
  split <;> simp_all

theorem commands_end (got : cwGetCommand f = some (none, f')) : commands f = some [] := by
  rw [commands]
  split <;> simp_all

theorem commands_next {command : List UInt8} (got : cwGetCommand f = some (some command, f')) :
    commands f = (commands f').map ((command, f') :: ·) := by
  rw [commands]
  split <;> simp_all

theorem commands_skipped (read : cwFgets cwBufferSize f = some (some buff, f'))
    (skipped : IsSkipped buff) : commands f = commands f' := by
  have same := getCommand_skipped read skipped
  cases got : cwGetCommand f' with
  | none =>
    rw [got] at same
    rw [commands_overrun same, commands_overrun got]
  | some after =>
    obtain ⟨command, f''⟩ := after
    rw [got] at same
    cases command with
    | none => rw [commands_end same, commands_end got]
    | some command => rw [commands_next same, commands_next got]

theorem withoutLast_length {command : List UInt8} (removed : withoutLast buff = some command) :
    command.length < strlen buff := by
  rw [withoutLast] at removed
  split at removed
  next => cases removed
  next positive =>
    cases removed
    rw [List.length_take]
    omega

theorem strlen_le (buff : List UInt8) : strlen buff ≤ buff.length :=
  List.Sublist.length_le (List.takeWhile_sublist _)

theorem strlen_lt (zero : 0 ∈ part) (buff : List UInt8) : strlen (part ++ buff) < part.length := by
  induction part with
  | nil => cases zero
  | cons b part inductionHypothesis =>
    rw [strlen, List.cons_append, List.takeWhile_cons]
    split
    next nonzero =>
      cases zero with
      | head => simp at nonzero
      | tail _ later => exact Nat.succ_lt_succ (inductionHypothesis later)
    next => exact Nat.succ_pos _

theorem withoutLast_line (noZero : 0 ∉ part) (lineEnd : IsLineEnd c) :
    withoutLast (part ++ [c]) = some part := by
  have nonzero : ∀ b ∈ part ++ [c], b ≠ 0 := by
    intro b member same
    subst same
    cases List.mem_append.mp member with
    | inl inside => exact noZero inside
    | inr last =>
      rw [← List.mem_singleton.mp last] at lineEnd
      exact absurd lineEnd (by decide)
  have length : strlen (part ++ [c]) = part.length + 1 := by
    rw [strlen, List.takeWhile_eq_self_iff.mpr (by simpa using nonzero), List.length_append]
    rfl
  rw [withoutLast, length, if_neg (Nat.succ_ne_zero _), Nat.add_sub_cancel, List.take_left]

end Commands

/-! ## Files that are read -/

/-- The lines that are returned end inside the buffer and consist of bytes that stay in a string.  A
    comment may be cut by bytes that look like the end of the file, if each of its parts is a
    comment again, or if there is nothing to be returned behind it. -/
inductive Readable : List UInt8 → Prop where
  | nothing : Readable []
  | blank {c : UInt8} {f : List UInt8} (lineEnd : IsLineEnd c) (rest : Readable f) : Readable (c :: f)
  | line {part f : List UInt8} {c : UInt8} (clean : Clean part) (inhabited : part ≠ [])
      (notComment : part.head? ≠ some hash) (noZero : 0 ∉ part) (room : part.length < cwBufferSize)
      (lineEnd : IsLineEnd c) (rest : Readable f) : Readable (part ++ c :: f)
  | comment {part f : List UInt8} {c : UInt8} (clean : Clean part) (isComment : part.head? = some hash)
      (room : part.length < cwBufferSize) (lineEnd : IsLineEnd c) (rest : Readable f) :
      Readable (part ++ c :: f)
  | lastComment {part : List UInt8} (clean : Clean part) (isComment : part.head? = some hash)
      (room : part.length ≤ cwBufferSize) : Readable part
  | cutComment {part f : List UInt8} (clean : Clean part) (isComment : part.head? = some hash)
      (room : part.length ≤ cwBufferSize) (skipped : f = [] ∨ IsSkipped f) (rest : Readable f) :
      Readable (part ++ endOfFile :: f)
  | abandoned {part f : List UInt8} (clean : Clean part) (isComment : part.head? = some hash)
      (room : part.length ≤ cwBufferSize) (noneBehind : usefulLines (firstLine f).2 = []) :
      Readable (part ++ endOfFile :: endOfFile :: f)

section Readable

variable {part f g : List UInt8} {c : UInt8}

theorem Clean.within (clean : Clean part) : ∀ b ∈ part, ¬ IsLineEnd b :=
  fun b member => (clean b member).1

theorem ne_nil_of_comment (isComment : part.head? = some hash) : part ≠ [] := by
  rintro rfl
  cases isComment

theorem skipped_comment (isComment : part.head? = some hash) (g : List UInt8) :
    IsSkipped (part ++ g) := by
  cases part with
  | nil => cases isComment
  | cons b part => exact ⟨b, rfl, .inr (Option.some.inj isComment)⟩

theorem skipped_lineEnd (lineEnd : IsLineEnd c) (f : List UInt8) : IsSkipped (c :: f) :=
  ⟨c, rfl, .inl lineEnd⟩

theorem not_skipped (clean : Clean part) (inhabited : part ≠ []) (notComment : part.head? ≠ some hash)
    (g : List UInt8) : ¬ IsSkipped (part ++ g) := by
  cases part with
  | nil => exact absurd rfl inhabited
  | cons b part =>
    rintro ⟨b', same, skipped⟩
    cases same
    cases skipped with
    | inl lineEnd => exact clean.cons.1 lineEnd
    | inr isHash => exact notComment (congrArg some isHash)

theorem positive_bufferSize : cwBufferSize ≠ 0 := by decide

theorem commands_nil : commands [] = some [] :=
  commands_end (getCommand_end (fgets_nil positive_bufferSize))

theorem commands_blank (lineEnd : IsLineEnd c) (f : List UInt8) : commands (c :: f) = commands f := by
  have read : cwFgets cwBufferSize ([] ++ c :: f) = some (some ([] ++ [c]), f) :=
    fgets_lineEnd clean_nil lineEnd (Nat.pos_of_ne_zero positive_bufferSize)
  exact commands_skipped read (skipped_lineEnd lineEnd [])

theorem commands_comment (clean : Clean part) (isComment : part.head? = some hash)
    (room : part.length < cwBufferSize) (lineEnd : IsLineEnd c) (f : List UInt8) :
    commands (part ++ c :: f) = commands f :=
  commands_skipped (fgets_lineEnd clean lineEnd room) (skipped_comment isComment [c])

theorem commands_lastComment (clean : Clean part) (isComment : part.head? = some hash)
    (room : part.length ≤ cwBufferSize) : commands part = some [] := by
  rw [commands_skipped (fgets_end clean (ne_nil_of_comment isComment) room)
    (List.append_nil part ▸ skipped_comment isComment []), commands_nil]

theorem commands_cutComment (clean : Clean part) (isComment : part.head? = some hash)
    (room : part.length ≤ cwBufferSize) (f : List UInt8) :
    commands (part ++ endOfFile :: f) = commands f :=
  commands_skipped (fgets_cut clean (ne_nil_of_comment isComment) room)
    (List.append_nil part ▸ skipped_comment isComment [])

theorem commands_endOfFile (f : List UInt8) : commands (endOfFile :: f) = some [] :=
  commands_end (getCommand_end (fgets_endOfFile positive_bufferSize))

/-- A comment that has been cut is skipped as a whole. -/
theorem useful_behind_comment (skipped : f = [] ∨ IsSkipped f) :
    usefulLines (firstLine f).2 = usefulLines f := by
  cases skipped with
  | inl empty =>
    subst empty
    rfl
  | inr skipped =>
    obtain ⟨c, same, kind⟩ := skipped
    cases f with
    | nil => cases same
    | cons b f =>
      cases same
      cases kind with
      | inl lineEnd => rw [firstLine_lineEnd lineEnd, useful_blank lineEnd]
      | inr isHash =>
        have within : ∀ b ∈ [c], ¬ IsLineEnd b := by
          intro b member
          rw [List.mem_singleton.mp member, isHash]
          exact not_lineEnd_hash
        have comment := useful_comment within (congrArg some isHash) f
        rw [List.singleton_append] at comment
        have line := firstLine_append within f
        rw [List.singleton_append] at line
        rw [comment, line]

theorem endOfFile_within : ∀ b ∈ [endOfFile], ¬ IsLineEnd b := by
  simp [IsLineEnd, endOfFile, newline, carriageReturn]

theorem reads_of_readable (readable : Readable f) : ReadsUsefulLines f := by
  induction readable with
  | nothing => rw [ReadsUsefulLines, commands_nil, usefulLines]
  | blank lineEnd rest reads =>
    rw [ReadsUsefulLines, commands_blank lineEnd, useful_blank lineEnd]
    exact reads
  | @line part f c clean inhabited notComment noZero room lineEnd rest reads =>
    have kept := not_skipped clean inhabited notComment [c]
    have got := getCommand_kept (fgets_lineEnd (f := f) clean lineEnd room) kept
    rw [withoutLast_line noZero lineEnd, Option.map_some] at got
    rw [ReadsUsefulLines, commands_next got, reads, useful_line clean.within inhabited notComment,
      firstLine_lineEnd lineEnd, List.append_nil]
    rfl
  | @comment part f c clean isComment room lineEnd rest reads =>
    rw [ReadsUsefulLines, commands_comment clean isComment room lineEnd,
      useful_comment clean.within isComment, firstLine_lineEnd lineEnd]
    exact reads
  | @lastComment part clean isComment room =>
    have comment := useful_comment clean.within isComment []
    rw [List.append_nil] at comment
    rw [ReadsUsefulLines, commands_lastComment clean isComment room, comment, firstLine, usefulLines]
  | @cutComment part f clean isComment room skipped rest reads =>
    have line := firstLine_append endOfFile_within f
    rw [List.singleton_append] at line
    rw [ReadsUsefulLines, commands_cutComment clean isComment room,
      useful_comment clean.within isComment, line, useful_behind_comment skipped]
    exact reads
  | @abandoned part f clean isComment room noneBehind =>
    have within : ∀ b ∈ [endOfFile, endOfFile], ¬ IsLineEnd b := by
      simp [IsLineEnd, endOfFile, newline, carriageReturn]
    have line := firstLine_append within f
    rw [List.cons_append, List.singleton_append] at line
    rw [ReadsUsefulLines, commands_cutComment clean isComment room, commands_endOfFile,
      useful_comment clean.within isComment, line, noneBehind]

/-! ## Files that are not read -/

/-- A line that is not skipped is returned without its last byte, if at all. -/
theorem commands_kept {buff f' : List UInt8} (read : cwFgets cwBufferSize f = some (some buff, f'))
    (kept : ¬ IsSkipped buff) :
    commands f = none ∨ ∃ command rest, withoutLast buff = some command ∧
      commands f = some ((command, f') :: rest) := by
  have got := getCommand_kept read kept
  cases removed : withoutLast buff with
  | none =>
    rw [removed] at got
    exact .inl (commands_overrun got)
  | some command =>
    rw [removed, Option.map_some] at got
    rw [commands_next got]
    cases commands f' with
    | none => exact .inl rfl
    | some rest => exact .inr ⟨command, rest, rfl, rfl⟩

/-- A line that is read without its end loses a byte. -/
theorem not_reads_of_cut {f' : List UInt8} (clean : Clean part) (inhabited : part ≠ [])
    (notComment : part.head? ≠ some hash)
    (read : cwFgets cwBufferSize (part ++ g) = some (some part, f')) :
    ¬ ReadsUsefulLines (part ++ g) := by
  intro reads
  rw [ReadsUsefulLines, useful_line clean.within inhabited notComment] at reads
  have kept : ¬ IsSkipped part := List.append_nil part ▸ not_skipped clean inhabited notComment []
  cases commands_kept read kept with
  | inl overrun =>
    rw [overrun] at reads
    cases reads
  | inr returned =>
    obtain ⟨command, rest, removed, some⟩ := returned
    rw [some] at reads
    have same : command = part ++ (firstLine g).1 := by
      simp only [Option.some.injEq, List.cons.injEq, Prod.mk.injEq] at reads
      exact reads.1.1
    have shorter := Nat.lt_of_lt_of_le (withoutLast_length removed) (strlen_le part)
    rw [same, List.length_append] at shorter
    omega

/-- A zero in a line ends the string. -/
theorem not_reads_of_zero (clean : Clean part) (inhabited : part ≠ [])
    (notComment : part.head? ≠ some hash) (room : part.length < cwBufferSize) (lineEnd : IsLineEnd c)
    (zero : 0 ∈ part) : ¬ ReadsUsefulLines (part ++ c :: f) := by
  intro reads
  rw [ReadsUsefulLines, useful_line clean.within inhabited notComment,
    firstLine_lineEnd lineEnd, List.append_nil] at reads
  cases commands_kept (fgets_lineEnd clean lineEnd room)
      (not_skipped clean inhabited notComment [c]) with
  | inl overrun =>
    rw [overrun] at reads
    cases reads
  | inr returned =>
    obtain ⟨command, rest, removed, some⟩ := returned
    rw [some] at reads
    have same : command = part := by
      simp only [Option.some.injEq, List.cons.injEq, Prod.mk.injEq] at reads
      exact reads.1.1
    have shorter := Nat.lt_trans (withoutLast_length removed) (strlen_lt zero [c])
    rw [same] at shorter
    exact Nat.lt_irrefl _ shorter

/-- What is behind the first command is not less than what is behind the first line. -/
theorem commands_behind (inhabited : f ≠ []) (kept : ¬ IsSkipped f)
    (begins : f.head? ≠ some endOfFile) :
    commands f = none ∨ ∃ command f' rest, commands f = some ((command, f') :: rest) ∧
      (firstLine f).2.length ≤ f'.length := by
  obtain ⟨part, g, rfl, clean, stop⟩ := exists_part f
  have partInhabited : part ≠ [] := by
    rintro rfl
    cases stop with
    | inl nothing => exact inhabited nothing
    | inr stop =>
      obtain ⟨c, f', rfl, kind⟩ := stop
      cases kind with
      | inl lineEnd => exact kept (skipped_lineEnd lineEnd f')
      | inr isEnd => exact begins (congrArg some isEnd)
  have notComment : part.head? ≠ some hash := fun isComment => kept (skipped_comment isComment g)
  have keptPart (g : List UInt8) : ¬ IsSkipped (part ++ g) :=
    not_skipped clean partInhabited notComment g
  by_cases full : cwBufferSize < part.length
  · exact .inl (commands_overrun (getCommand_overrun (fgets_full positive_bufferSize clean full)))
  rw [firstLine_append clean.within]
  cases stop with
  | inl nothing =>
    subst nothing
    rw [List.append_nil]
    cases commands_kept (fgets_end clean partInhabited (Nat.not_lt.mp full))
        (List.append_nil part ▸ keptPart []) with
    | inl overrun => exact .inl overrun
    | inr returned =>
      obtain ⟨command, rest, _, some⟩ := returned
      exact .inr ⟨command, [], rest, some, Nat.le_refl 0⟩
  | inr stop =>
    obtain ⟨c, f', rfl, kind⟩ := stop
    cases kind with
    | inr isEnd =>
      subst isEnd
      cases commands_kept (fgets_cut (f := f') clean partInhabited (Nat.not_lt.mp full))
          (List.append_nil part ▸ keptPart []) with
      | inl overrun => exact .inl overrun
      | inr returned =>
        obtain ⟨command, rest, _, some⟩ := returned
        refine .inr ⟨command, f', rest, some, ?_⟩
        have line := firstLine_append endOfFile_within f'
        rw [List.singleton_append] at line
        rw [line]
        exact firstLine_le f'
    | inl lineEnd =>
      rw [firstLine_lineEnd lineEnd]
      by_cases exact : part.length < cwBufferSize
      · cases commands_kept (fgets_lineEnd (f := f') clean lineEnd exact) (keptPart [c]) with
        | inl overrun => exact .inl overrun
        | inr returned =>
          obtain ⟨command, rest, _, some⟩ := returned
          exact .inr ⟨command, f', rest, some, Nat.le_refl _⟩
      · have overrun := fgets_lineEnd_full (f := f') positive_bufferSize clean lineEnd
          (Nat.not_lt.mp exact)
        exact .inl (commands_overrun (getCommand_overrun overrun))

theorem not_reads_of_overrun (read : cwFgets cwBufferSize f = none) : ¬ ReadsUsefulLines f := by
  intro reads
  rw [ReadsUsefulLines, commands_overrun (getCommand_overrun read)] at reads
  cases reads

/-- A comment that has been cut is followed by a comment, or by nothing that is returned. -/
theorem readable_of_cut (clean : Clean part) (isComment : part.head? = some hash)
    (room : part.length ≤ cwBufferSize) (rest : ReadsUsefulLines f → Readable f)
    (reads : ReadsUsefulLines (part ++ endOfFile :: f)) : Readable (part ++ endOfFile :: f) := by
  have line := firstLine_append endOfFile_within f
  rw [List.singleton_append] at line
  rw [ReadsUsefulLines, commands_cutComment clean isComment room,
    useful_comment clean.within isComment, line] at reads
  by_cases skipped : f = [] ∨ IsSkipped f
  · rw [useful_behind_comment skipped] at reads
    exact .cutComment clean isComment room skipped (rest reads)
  rw [not_or] at skipped
  by_cases begins : f.head? = some endOfFile
  · obtain ⟨f', rfl⟩ : ∃ f', f = endOfFile :: f' := by
      cases f with
      | nil => cases begins
      | cons b f' =>
        cases begins
        exact ⟨f', rfl⟩
    have line' := firstLine_append endOfFile_within f'
    rw [List.singleton_append] at line'
    rw [commands_endOfFile, line'] at reads
    exact .abandoned clean isComment room (Option.some.inj reads).symm
  · -- a command is returned from within the comment
    exfalso
    cases commands_behind skipped.1 skipped.2 begins with
    | inl overrun =>
      rw [overrun] at reads
      cases reads
    | inr returned =>
      obtain ⟨command, f', rest, some, behind⟩ := returned
      rw [some] at reads
      have member : (command, f') ∈ usefulLines (firstLine f).2 := by
        rw [← Option.some.inj reads]
        exact List.mem_cons_self
      have shorter : f'.length < (firstLine f).2.length := useful_shorter _ _ member
      omega

theorem readable_of_reads (reads : ReadsUsefulLines f) : Readable f := by
  induction length : f.length using Nat.strong_induction_on generalizing f with
  | _ size inductionHypothesis =>
  subst length
  obtain ⟨part, g, rfl, clean, stop⟩ := exists_part f
  by_cases full : cwBufferSize < part.length
  · exact absurd reads (not_reads_of_overrun (fgets_full positive_bufferSize clean full))
  have room := Nat.not_lt.mp full
  cases stop with
  | inl nothing =>
    subst nothing
    by_cases inhabited : part = []
    · subst inhabited
      exact .nothing
    by_cases isComment : part.head? = some hash
    · rw [List.append_nil]
      exact .lastComment clean isComment room
    · have read : cwFgets cwBufferSize (part ++ []) = some (some part, []) := by
        rw [List.append_nil]
        exact fgets_end clean inhabited room
      exact absurd reads (not_reads_of_cut clean inhabited isComment read)
  | inr stop =>
    obtain ⟨c, f', rfl, kind⟩ := stop
    have less : f'.length < (part ++ c :: f').length := by
      rw [List.length_append, List.length_cons]
      omega
    have rest (reads : ReadsUsefulLines f') : Readable f' :=
      inductionHypothesis f'.length less reads rfl
    cases kind with
    | inr isEnd =>
      subst isEnd
      by_cases inhabited : part = []
      · subst inhabited
        have line := useful_line endOfFile_within (List.cons_ne_nil _ _) (by decide) f'
        rw [ReadsUsefulLines, List.nil_append, commands_endOfFile] at reads
        rw [List.singleton_append] at line
        rw [line] at reads
        cases reads
      by_cases isComment : part.head? = some hash
      · exact readable_of_cut clean isComment room rest reads
      · exact absurd reads (not_reads_of_cut clean inhabited isComment
          (fgets_cut clean inhabited room))
    | inl lineEnd =>
      by_cases inhabited : part = []
      · subst inhabited
        rw [List.nil_append] at reads ⊢
        rw [ReadsUsefulLines, commands_blank lineEnd, useful_blank lineEnd] at reads
        exact .blank lineEnd (rest reads)
      by_cases fits : part.length < cwBufferSize
      case neg =>
        have overrun := fgets_lineEnd_full (f := f') positive_bufferSize clean lineEnd
          (Nat.not_lt.mp fits)
        exact absurd reads (not_reads_of_overrun overrun)
      case pos =>
        by_cases isComment : part.head? = some hash
        · rw [ReadsUsefulLines, commands_comment clean isComment fits lineEnd,
            useful_comment clean.within isComment, firstLine_lineEnd lineEnd] at reads
          exact .comment clean isComment fits lineEnd (rest reads)
        by_cases zero : 0 ∈ part
        · exact absurd reads (not_reads_of_zero clean inhabited isComment fits lineEnd zero)
        · have kept := not_skipped clean inhabited isComment [c]
          have got := getCommand_kept (fgets_lineEnd (f := f') clean lineEnd fits) kept
          rw [withoutLast_line zero lineEnd, Option.map_some] at got
          rw [ReadsUsefulLines, commands_next got, useful_line clean.within inhabited isComment,
            firstLine_lineEnd lineEnd, List.append_nil, Option.map_eq_some_iff] at reads
          obtain ⟨later, reads', same⟩ := reads
          rw [List.cons.injEq] at same
          rw [same.2] at reads'
          exact .line clean inhabited isComment zero fits lineEnd (rest reads')

/-- Which files are read as they are written. -/
theorem configFile_reads_iff (f : List UInt8) : ReadsUsefulLines f ↔ Readable f :=
  ⟨readable_of_reads, reads_of_readable⟩

/-- A last line without a terminator. -/
theorem lastLine_not_reads : ¬ ReadsUsefulLines [97, 98] := by
  have clean : Clean [97, 98] := by
    simp [Clean, IsLineEnd, endOfFile, newline, carriageReturn]
  have cut : ¬ ReadsUsefulLines ([97, 98] ++ []) :=
    not_reads_of_cut clean (by decide) (by decide) (fgets_end clean (by decide) (by decide))
  exact cut

end Readable

end WlanController.Settings
