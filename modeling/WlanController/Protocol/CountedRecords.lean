import WlanController.Protocol.Acceptance

/-!
# Records that are counted before they are read

The end of a message element is often a list of records that says nowhere how long it is.  A
parser goes through the headers of the records once to count them, returns to where it
started, and reads as many records as it has counted.

The count pass compares offsets, so it is verified with `ReadsFrom`: what a program reads
when it starts at a given offset.
-/

namespace WlanController.Protocol

variable {α β : Type}

/-! ## The two passes -/

/-- Reads the header of a record and moves `msgPtr->offset` past the value it announces. -/
def skipRecord (header : MessageM Nat) : MessageM Unit := do
  let tmp ← header
  modify fun message => message.advance tmp

/-- The loop `while((msgPtr->offset-oldOffset) < len)`.  Every round moves on, so there are no
    more rounds than bytes. -/
def countRecords (header : MessageM Nat) (oldOffset len : Nat) : (rounds : Nat) → MessageM Nat
  | 0 => return 0
  | rounds + 1 => do
    if (← get).offset - oldOffset < len then
      skipRecord header
      return (← countRecords header oldOffset len rounds) + 1
    else return 0

def readRecords (record : MessageM α) : (count : Nat) → MessageM (List α)
  | 0 => return []
  | count + 1 => do
    let first ← record
    let rest ← readRecords record count
    return first :: rest

/-- Both passes over the records of an element that started at `oldOffset`. -/
def cwParseRecords (header : MessageM Nat) (record : MessageM α) (oldOffset len : Nat) :
    MessageM (List α) := do
  let theOffset := (← get).offset
  let count ← countRecords header oldOffset len len
  modify fun message => { message with offset := theOffset }
  readRecords record count

/-- An element whose parser uses the `oldOffset` of `CWParseMessageElementStart`. -/
def cwParseMessageElementFrom (len : Nat) (body : (oldOffset : Nat) → MessageM α) : MessageM α :=
  cwParseMessageElement len do body (← get).offset

/-! ## Reading from an offset -/

/-- From the offset `start` on, which is inside the message, and with `bytes` at the cursor the
    program returns `value` and moves past them. -/
def ReadsFrom (start : Nat) (program : MessageM α) (bytes : List UInt8) (value : α) : Prop :=
  ∀ (message : CWProtocolMessage) (rest : List UInt8), message.Valid → message.offset = start →
    message.ahead = bytes ++ rest → program.run message = .ok value (message.advance bytes.length)

theorem Reads.from {program : MessageM α} {bytes : List UInt8} {value : α}
    (reads : Reads program bytes value none) (start : Nat) : ReadsFrom start program bytes value := by
  intro message rest _ _ ahead
  exact reads message rest ahead

/-- Where there are bytes to read the cursor is inside the message. -/
theorem ReadsFrom.reads {program : MessageM α} {bytes : List UInt8} {value : α}
    (reads : ∀ start, ReadsFrom start program bytes value) (inside : bytes ≠ []) :
    Reads program bytes value none := by
  intro message rest ahead
  have within := length_of_drop_eq ahead inside
  exact reads message.offset message rest (Nat.le_of_add_right_le within) rfl ahead

theorem ReadsFrom.bind {start : Nat} {first : MessageM α} {next : α → MessageM β}
    {bytes bytes' : List UInt8} {value : α} {value' : β}
    (reads : ReadsFrom start first bytes value)
    (reads' : ReadsFrom (start + bytes.length) (next value) bytes' value') :
    ReadsFrom start (first >>= next) (bytes ++ bytes') value' := by
  intro message rest valid at_start ahead
  rw [List.append_assoc] at ahead
  have behind : (message.advance bytes.length).ahead = bytes' ++ rest := by
    rw [ahead_advance, ahead, List.drop_left]
  have moved : (message.advance bytes.length).offset = start + bytes.length := by
    rw [advance_offset, at_start]
  have valid' := valid.advance ⟨bytes' ++ rest, ahead.symm⟩
  rw [EStateM.run_bind, reads message _ valid at_start ahead, List.length_append, ← advance_advance]
  exact reads' _ rest valid' moved behind

theorem readsFrom_pure (start : Nat) (value : α) : ReadsFrom start (pure value) [] value :=
  (reads_pure value).from start

theorem ReadsFrom.map {start : Nat} {program : MessageM α} {bytes : List UInt8} {value : α}
    (reads : ReadsFrom start program bytes value) (f : α → β) :
    ReadsFrom start (f <$> program) bytes (f value) := by
  have both : ReadsFrom start (do return f (← program)) (bytes ++ []) (f value) :=
    reads.bind (readsFrom_pure _ (f value))
  rwa [bind_pure_comp, List.append_nil] at both

/-- Any number of bytes, none included. -/
theorem readsFrom_rawBytes (start : Nat) (bytes : List UInt8) :
    ReadsFrom start (cwProtocolRetrieveRawBytes bytes.length) bytes bytes := by
  intro message rest valid _ ahead
  exact (accepts_rawBytes bytes.length message valid bytes _).mpr
    ⟨bytes, ⟨rest, ahead.symm⟩, ⟨rfl, rfl⟩, rfl⟩

/-- A program that looks where it starts. -/
theorem ReadsFrom.get {start : Nat} {next : Nat → MessageM α} {bytes : List UInt8} {value : α}
    (reads : ReadsFrom start (next start) bytes value) :
    ReadsFrom start (do next (← get).offset) bytes value := by
  intro message rest valid at_start ahead
  have run := reads message rest valid at_start ahead
  rw [← at_start] at run
  exact run

/-- The element is read if the body reads as many bytes as are announced. -/
theorem ReadsFrom.messageElement {start len : Nat} {body : MessageM α} {bytes : List UInt8}
    {value : α} (reads : ReadsFrom start body bytes value) (length : bytes.length = len) :
    ReadsFrom start (cwParseMessageElement len body) bytes value := by
  intro message rest valid at_start ahead
  have run := reads message rest valid at_start ahead
  have exact : (message.advance bytes.length).offset - message.offset = len := by
    rw [advance_offset, length]
    omega
  simp only [cwParseMessageElement, EStateM.run_bind, EStateM.run_get, run, exact, if_pos,
    EStateM.run_pure]

theorem ReadsFrom.messageElementFrom {start len : Nat} {body : Nat → MessageM α}
    {bytes : List UInt8} {value : α} (reads : ReadsFrom start (body start) bytes value)
    (length : bytes.length = len) : ReadsFrom start (cwParseMessageElementFrom len body) bytes value :=
  ReadsFrom.messageElement (ReadsFrom.get reads) length

/-- An element that is read has moved the cursor past as many bytes as it announces. -/
theorem offset_of_messageElement {len : Nat} {body : MessageM α} {message after : CWProtocolMessage}
    {value : α} (ran : (cwParseMessageElement len body).run message = .ok value after) :
    after.offset - message.offset = len := by
  simp only [cwParseMessageElement, EStateM.run_bind, EStateM.run_get] at ran
  cases parsed : body.run message with
  | error failure middle =>
    rw [parsed] at ran
    cases ran
  | ok value' middle =>
    rw [parsed] at ran
    dsimp only at ran
    split at ran
    next exact =>
      cases ran
      exact exact
    next different => cases ran

/-! ## The records of an element -/

section Records

variable {ρ : Type} {header : MessageM Nat} {record : MessageM α} {headerBytes value : ρ → List UInt8}
  {parsed : ρ → α}

/-- The bytes of a list of records. -/
def recordBytes (headerBytes value : ρ → List UInt8) (records : List ρ) : List UInt8 :=
  records.flatMap fun r => headerBytes r ++ value r

/-- A record is passed over whatever its value holds. -/
theorem readsFrom_skipRecord {r : ρ}
    (reads : ∀ start, ReadsFrom start header (headerBytes r) (value r).length) (start : Nat) :
    ReadsFrom start (skipRecord header) (headerBytes r ++ value r) () := by
  apply (reads start).bind
  intro message rest _ _ _
  simp [EStateM.run_modify]

/-- The first pass counts the records that end where the element does. -/
theorem readsFrom_countRecords (records : List ρ)
    (reads : ∀ r ∈ records, ∀ start, ReadsFrom start header (headerBytes r) (value r).length)
    (inside : ∀ r ∈ records, headerBytes r ≠ []) (oldOffset len : Nat) :
    ∀ (start rounds : Nat),
      start + (recordBytes headerBytes value records).length = oldOffset + len → oldOffset ≤ start →
      records.length ≤ rounds →
      ReadsFrom start (countRecords header oldOffset len rounds)
        (recordBytes headerBytes value records) records.length := by
  induction records with
  | nil =>
    intro start rounds ends begins _
    cases rounds with
    | zero => exact readsFrom_pure start 0
    | succ rounds =>
      have done : ¬ start - oldOffset < len := by
        simp only [recordBytes, List.flatMap_nil, List.length_nil] at ends
        omega
      intro message rest _ at_start ahead
      simp [countRecords, EStateM.run_get, at_start, done, recordBytes]
  | cons r records inductionHypothesis =>
    intro start rounds ends begins enough
    have positive : 0 < (headerBytes r).length := List.length_pos_iff.mpr (inside r (by simp))
    have split : recordBytes headerBytes value (r :: records) =
        headerBytes r ++ value r ++ recordBytes headerBytes value records := rfl
    rw [split] at ends ⊢
    rw [List.length_append] at ends
    have wide : (headerBytes r ++ value r).length = (headerBytes r).length + (value r).length :=
      List.length_append
    cases rounds with
    | zero => exact absurd enough (by simp)
    | succ rounds =>
      have more : start - oldOffset < len := by omega
      have skipped : ReadsFrom start (skipRecord header) (headerBytes r ++ value r) () :=
        readsFrom_skipRecord (reads r (by simp)) start
      have counted := inductionHypothesis (fun r' member => reads r' (List.mem_cons_of_mem _ member))
        (fun r' member => inside r' (List.mem_cons_of_mem _ member))
        (start + (headerBytes r ++ value r).length) rounds (by omega) (by omega)
        (Nat.le_of_succ_le_succ enough)
      -- one round of the loop, then the rest of it
      have both : ReadsFrom start (do
          skipRecord header
          return (← countRecords header oldOffset len rounds) + 1)
          (headerBytes r ++ value r ++ (recordBytes headerBytes value records ++ []))
          (records.length + 1) :=
        skipped.bind (counted.bind (readsFrom_pure _ _))
      rw [List.append_nil] at both
      intro message rest valid at_start ahead
      have run := both message rest valid at_start ahead
      simp only [countRecords, EStateM.run_bind, EStateM.run_get, at_start, more, if_true] at run ⊢
      exact run

/-- The second pass reads each of them. -/
theorem readsFrom_readRecords (records : List ρ)
    (reads : ∀ r ∈ records, ∀ start,
      ReadsFrom start record (headerBytes r ++ value r) (parsed r)) :
    ∀ start, ReadsFrom start (readRecords record records.length)
      (recordBytes headerBytes value records) (records.map parsed) := by
  induction records with
  | nil => exact fun start => readsFrom_pure start []
  | cons r records inductionHypothesis =>
    intro start
    have rest := inductionHypothesis (fun r' member => reads r' (List.mem_cons_of_mem _ member))
      (start + (headerBytes r ++ value r).length)
    have both : ReadsFrom start (readRecords record (records.length + 1))
        (headerBytes r ++ value r ++ (recordBytes headerBytes value records ++ []))
        (parsed r :: records.map parsed) :=
      (reads r (by simp) start).bind (rest.bind (readsFrom_pure _ _))
    rw [List.append_nil] at both
    exact both

/-- The two passes find the records, however many there are. -/
theorem readsFrom_parseRecords (records : List ρ)
    (headers : ∀ r ∈ records, ∀ start, ReadsFrom start header (headerBytes r) (value r).length)
    (reads : ∀ r ∈ records, ∀ start,
      ReadsFrom start record (headerBytes r ++ value r) (parsed r))
    (inside : ∀ r ∈ records, headerBytes r ≠ []) {oldOffset len start : Nat}
    (begins : oldOffset ≤ start)
    (ends : start + (recordBytes headerBytes value records).length = oldOffset + len) :
    ReadsFrom start (cwParseRecords header record oldOffset len)
      (recordBytes headerBytes value records) (records.map parsed) := by
  have enough : records.length ≤ len := by
    have each : records.length ≤ (recordBytes headerBytes value records).length := by
      clear headers reads ends
      induction records with
      | nil => simp
      | cons r records inductionHypothesis =>
        have positive : 0 < (headerBytes r).length := List.length_pos_iff.mpr (inside r (by simp))
        have rest := inductionHypothesis fun r' member => inside r' (List.mem_cons_of_mem _ member)
        simp only [recordBytes, List.flatMap_cons, List.length_append, List.length_cons] at rest ⊢
        omega
    omega
  have counted := readsFrom_countRecords records headers inside oldOffset len start len ends begins
    enough
  have read := readsFrom_readRecords records reads start
  intro message rest valid at_start ahead
  have back : { message.advance (recordBytes headerBytes value records).length with
      offset := message.offset } = message := rfl
  have ran := read message rest valid at_start ahead
  simp only [cwParseRecords, EStateM.run_bind, EStateM.run_get, counted message rest valid at_start ahead,
    EStateM.run_modify, back]
  exact ran

end Records

end WlanController.Protocol
