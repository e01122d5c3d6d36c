import Mathlib.Tactic.Common

/-!
# Reading a configuration file

The lines of a configuration file are read byte by byte into a buffer of a fixed size.  The reader
takes `getc` for a `char`, which is signed.
-/

namespace WlanController.Settings

def newline : UInt8 := 10

def carriageReturn : UInt8 := 13

def hash : UInt8 := 35

/-- What `getc` returns at the end of a file, as a `char`. -/
def endOfFile : UInt8 := 0xff

def cwBufferSize : Nat := 65536

def IsLineEnd (c : UInt8) : Prop := c = newline ∨ c = carriageReturn

instance (c : UInt8) : Decidable (IsLineEnd c) := inferInstanceAs (Decidable (_ ∨ _))

/-! ## The reader -/

/-- The loop from the index `i` on, with the bytes that stay in the buffer and what is left of the
    file.  `none` where a byte is written outside of the `bufSize + 1` bytes of the buffer. -/
def fgetsLoop (bufSize : Nat) : (f : List UInt8) → (i : Nat) → Option (List UInt8 × List UInt8)
  | [], i => if i ≤ bufSize then some ([], []) else none
  | c :: f, i =>
      if bufSize < i then none
      else if c = endOfFile then some ([], f)
      else if i < bufSize ∧ ¬ IsLineEnd c then do
        let (stored, f) ← fgetsLoop bufSize f (i + 1)
        return (c :: stored, f)
      else some ([c], f)

def cwFgets (bufSize : Nat) (f : List UInt8) : Option (Option (List UInt8) × List UInt8) :=
  if bufSize = 0 then some (none, f)
  else do
    let (stored, f) ← fgetsLoop bufSize f 0
    if stored = [] then return (none, f)
    -- the zero behind the bytes
    else if stored.length ≤ bufSize then return (some stored, f)
    else none

def strlen (buff : List UInt8) : Nat := (buff.takeWhile (· ≠ 0)).length

/-- The last byte is overwritten, whatever it is.  `none` where that is the byte in front of the
    buffer. -/
def withoutLast (buff : List UInt8) : Option (List UInt8) :=
  if strlen buff = 0 then none else some (buff.take (strlen buff - 1))

/-- A comment or a blank line. -/
def IsSkipped (buff : List UInt8) : Prop := ∃ c ∈ buff.head?, IsLineEnd c ∨ c = hash

instance (buff : List UInt8) : Decidable (IsSkipped buff) :=
  inferInstanceAs (Decidable (∃ c ∈ buff.head?, _))

theorem fgetsLoop_length {bufSize i : Nat} {f stored f' : List UInt8}
    (read : fgetsLoop bufSize f i = some (stored, f')) : stored.length + f'.length ≤ f.length := by
  induction f generalizing i stored with
  | nil =>
    rw [fgetsLoop] at read
    split at read
    next =>
      cases read
      exact Nat.le_refl 0
    next => cases read
  | cons c f inductionHypothesis =>
    rw [fgetsLoop] at read
    split at read
    next => cases read
    next =>
      split at read
      next =>
        cases read
        simp
      next =>
        split at read
        next =>
          rw [Option.bind_eq_bind, Option.bind_eq_some_iff] at read
          obtain ⟨⟨stored', f''⟩, later, same⟩ := read
          cases same
          have shorter := inductionHypothesis later
          simp only [List.length_cons]
          omega
        next =>
          cases read
          simp only [List.length_cons, List.length_nil]
          omega

theorem cwFgets_length {bufSize : Nat} {f buff f' : List UInt8}
    (read : cwFgets bufSize f = some (some buff, f')) : f'.length < f.length := by
  rw [cwFgets] at read
  split at read
  next => cases read
  next =>
    rw [Option.bind_eq_bind, Option.bind_eq_some_iff] at read
    obtain ⟨⟨stored, f''⟩, looped, kept⟩ := read
    have length := fgetsLoop_length looped
    simp only at kept
    split at kept
    next => cases kept
    next inhabited =>
      split at kept
      next =>
        cases kept
        have positive := List.length_pos_iff.mpr inhabited
        omega
      next => cases kept

/-- The next line that is no comment and not blank. -/
def cwGetCommand (configFile : List UInt8) : Option (Option (List UInt8) × List UInt8) :=
  match _read : cwFgets cwBufferSize configFile with
  | none => none
  | some (none, configFile) => some (none, configFile)
  | some (some buff, configFile) =>
      if IsSkipped buff then cwGetCommand configFile
      else (withoutLast buff).map fun command => (some command, configFile)
termination_by configFile.length
decreasing_by exact cwFgets_length _read

section Unfolding

variable {f f' buff : List UInt8}

theorem getCommand_overrun (read : cwFgets cwBufferSize f = none) : cwGetCommand f = none := by
  rw [cwGetCommand]
  split <;> simp_all

theorem getCommand_end (read : cwFgets cwBufferSize f = some (none, f')) :
    cwGetCommand f = some (none, f') := by
  rw [cwGetCommand]
  split <;> simp_all

theorem getCommand_skipped (read : cwFgets cwBufferSize f = some (some buff, f'))
    (skipped : IsSkipped buff) : cwGetCommand f = cwGetCommand f' := by
  rw [cwGetCommand]
  split <;> simp_all

theorem getCommand_kept (read : cwFgets cwBufferSize f = some (some buff, f'))
    (kept : ¬ IsSkipped buff) :
    cwGetCommand f = (withoutLast buff).map fun command => (some command, f') := by
  rw [cwGetCommand]
  split <;> simp_all

theorem cwGetCommand_length {command : List UInt8}
    (got : cwGetCommand f = some (some command, f')) : f'.length < f.length := by
  induction f using cwGetCommand.induct with
  | case1 f read =>
    rw [getCommand_overrun read] at got
    cases got
  | case2 f f'' read =>
    rw [getCommand_end read] at got
    cases got
  | case3 f buff f'' read skipped inductionHypothesis =>
    rw [getCommand_skipped read skipped] at got
    exact Nat.lt_trans (inductionHypothesis got) (cwFgets_length read)
  | case4 f buff f'' read kept =>
    rw [getCommand_kept read kept, Option.map_eq_some_iff] at got
    obtain ⟨_, _, same⟩ := got
    cases same
    exact cwFgets_length read

end Unfolding

/-- The lines that the calls return one after the other, up to the first `NULL`, each with what is
    left of the file behind it. -/
def commands (configFile : List UInt8) : Option (List (List UInt8 × List UInt8)) :=
  match _got : cwGetCommand configFile with
  | none => none
  | some (none, _) => some []
  | some (some command, configFile) => (commands configFile).map ((command, configFile) :: ·)
termination_by configFile.length
decreasing_by exact cwGetCommand_length _got

/-! ## The lines of a file -/

/-- A line ends with a line feed or with a carriage return.  Between the two of them there is a
    blank line. -/
def firstLine : (f : List UInt8) → List UInt8 × List UInt8
  | [] => ([], [])
  | c :: f => if IsLineEnd c then ([], f) else (c :: (firstLine f).1, (firstLine f).2)

theorem firstLine_length (c : UInt8) (f : List UInt8) : (firstLine (c :: f)).2.length < (c :: f).length := by
  induction f generalizing c with
  | nil =>
    rw [firstLine]
    split <;> simp [firstLine]
  | cons c' f inductionHypothesis =>
    rw [firstLine]
    split
    next => exact Nat.lt_succ_self _
    next => exact Nat.lt_trans (inductionHypothesis c') (Nat.lt_succ_self _)

/-- The lines that are not blank and no comments, each with what is behind it. -/
def usefulLines (f : List UInt8) : List (List UInt8 × List UInt8) :=
  match f with
  | [] => []
  | c :: f =>
      if (firstLine (c :: f)).1 = [] ∨ (firstLine (c :: f)).1.head? = some hash then
        usefulLines (firstLine (c :: f)).2
      else firstLine (c :: f) :: usefulLines (firstLine (c :: f)).2
termination_by f.length
decreasing_by all_goals exact firstLine_length c f

/-- The calls return the useful lines, in order and complete, and access no byte outside of a
    buffer. -/
def ReadsUsefulLines (f : List UInt8) : Prop := commands f = some (usefulLines f)

end WlanController.Settings
