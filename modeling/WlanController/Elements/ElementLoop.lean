import Mathlib.Logic.Relation
import WlanController.Elements.MessageElement
import WlanController.Protocol.Layout

/-!
# Loops over message elements

The parsers of the AC go through the elements of a message in a loop: the header of an element
gives its type and length, the type decides what is done about the bytes behind it, and the
loop ends where `msgElemsLen` bytes have been passed.  The bytes are taken as they come, so
whether a parser stays inside the message depends on what the elements say.

A treatment says what becomes of one element, and the walk of a message takes the elements it
meets one after the other.  The loop stays inside the message exactly where every element that
is met lies inside it.
-/

namespace WlanController.Elements

open Protocol

/-! ## Parsers that assign -/

/-- How a parser ends that does not return. -/
inductive Stop where
  | failed (failure : Failure)
  /-- An access outside an array. -/
  | overrun
  /-- The rounds are used up. -/
  | unfinished
  deriving DecidableEq, Repr

/-- The message and what has been assigned so far. -/
structure Parsing (σ : Type) where
  message : CWProtocolMessage
  values : σ

abbrev ParserM (σ : Type) := EStateM Stop (Parsing σ)

variable {σ τ α β : Type}

def reading (program : MessageM α) : ParserM σ α := fun s =>
  match program.run s.message with
  | .ok value message => .ok value { s with message }
  | .error failure message => .error (.failed failure) { s with message }

def assigning (assign : σ → σ) : ParserM σ Unit :=
  modify fun s => { s with values := assign s.values }

/-- `msgPtr->offset += count`. -/
def skipping (count : Nat) : ParserM σ Unit :=
  modify fun s => { s with message := s.message.advance count }

def refusing (code : CWErrorCode) (text : Option String) : ParserM σ α :=
  throw (.failed (.raised code text))

/-- `CWParseMessageElementStart` and `CWParseMessageElementEnd` around assignments, which stay
    when the element turns out to be malformed. -/
def parseInto (len : Nat) (body : MessageM α) (assign : α → σ → σ) : ParserM σ Unit := do
  let oldOffset := (← get).message.offset
  let value ← reading body
  assigning (assign value)
  if (← get).message.offset - oldOffset = len then return ()
  refusing .invalidFormat (some "Message Element Malformed")

/-- An element with its header. -/
def parseElement (element : (elemType elemLen : Nat) → ParserM σ Unit) : ParserM σ Unit := do
  let (elemType, elemLen) ← reading cwParseFormatMsgElem
  element elemType elemLen

/-- The loop `while((offset-offsetTillMessages) < msgElemsLen)`. -/
def parseElements (element : (elemType elemLen : Nat) → ParserM σ Unit)
    (msgElemsLen offsetTillMessages : Nat) : (rounds : Nat) → ParserM σ Unit
  | 0 => throw .unfinished
  | rounds + 1 => do
    if (← get).message.offset - offsetTillMessages < msgElemsLen then
      parseElement element
      parseElements element msgElemsLen offsetTillMessages rounds

/-- The loop from where the cursor is.  Every round moves on, so there are no more rounds than
    bytes. -/
def cwParseElements (element : (elemType elemLen : Nat) → ParserM σ Unit) (msgElemsLen : Nat) :
    ParserM σ Unit := do
  parseElements element msgElemsLen (← get).message.offset (msgElemsLen + 1)

theorem run_reading_ok {program : MessageM α} {s : Parsing σ} {value : α}
    {message : CWProtocolMessage} (ran : program.run s.message = .ok value message) :
    (reading program).run s = .ok value { s with message } := by
  simp only [EStateM.run, reading] at ran ⊢
  rw [ran]

theorem run_reading_error {program : MessageM α} {s : Parsing σ} {failure : Failure}
    {message : CWProtocolMessage} (ran : program.run s.message = .error failure message) :
    (reading program : ParserM σ α).run s = .error (.failed failure) { s with message } := by
  simp only [EStateM.run, reading] at ran ⊢
  rw [ran]

/-- Reading two parts is reading both. -/
theorem reading_bind (program : MessageM α) (next : α → MessageM β) :
    (reading (program >>= next) : ParserM σ β) =
      reading program >>= fun value => reading (next value) := by
  apply funext
  intro s
  simp only [reading, Bind.bind, EStateM.bind, EStateM.run]
  cases program s.message with
  | ok value message => rfl
  | error failure message => rfl

theorem parseInto_of_ok (len : Nat) {body : MessageM α} (assign : α → σ → σ) {s : Parsing σ}
    {value : α} {message : CWProtocolMessage} {count : Nat}
    (ran : body.run s.message = .ok value message)
    (moved : message.offset = s.message.offset + count) :
    (parseInto len body assign).run s =
      if count = len then .ok () ⟨message, assign value s.values⟩
      else .error (.failed (.raised .invalidFormat (some "Message Element Malformed")))
        ⟨message, assign value s.values⟩ := by
  have gone : message.offset - s.message.offset = count := by omega
  simp only [parseInto, EStateM.run_bind, EStateM.run_get, run_reading_ok ran, assigning,
    EStateM.run_modify, gone]
  split <;> rfl

theorem parseInto_of_error (len : Nat) {body : MessageM α} (assign : α → σ → σ) {s : Parsing σ}
    {failure : Failure} {message : CWProtocolMessage}
    (ran : body.run s.message = .error failure message) :
    (parseInto len body assign).run s = .error (.failed failure) { s with message } := by
  simp only [parseInto, EStateM.run_bind, EStateM.run_get, run_reading_error ran]

/-- The comparison with the length of the message behind the loop. -/
def expectingEnd : ParserM σ Unit := do
  let s ← get
  if s.message.offset ≠ s.message.msg.length then
    refusing .invalidFormat (some "Garbage at the End of the Message")

/-! ## How a parser ends -/

/-- Nothing outside the message or an array is accessed.  If the parser returns `post` holds,
    and if it raises an error `refused` holds of what has been assigned. -/
def EndsWith (post : α → Parsing σ → Prop) (refused : σ → Prop) :
    EStateM.Result Stop (Parsing σ) α → Prop
  | .ok value s => post value s
  | .error (.failed (.raised _ _)) s => refused s.values
  | .error (.failed (.outOfBounds _)) _ => False
  | .error .overrun _ => False
  | .error .unfinished _ => False

theorem endsWith_bind {program : ParserM σ α} {next : α → ParserM σ β}
    {post : β → Parsing σ → Prop} {refused : σ → Prop} (s : Parsing σ) :
    EndsWith post refused ((program >>= next).run s) ↔
      EndsWith (fun value s' => EndsWith post refused ((next value).run s')) refused
        (program.run s) := by
  rw [EStateM.run_bind]
  cases program.run s with
  | ok value s' => exact Iff.rfl
  | error stop s' => cases stop with
    | failed failure => cases failure <;> exact Iff.rfl
    | overrun => exact Iff.rfl
    | unfinished => exact Iff.rfl

theorem endsWith_reading {program : MessageM α} {layout : Layout α} (spans : Spans program layout)
    {post : α → Parsing σ → Prop} {refused : σ → Prop} (post' : α → Prop) {s : Parsing σ}
    (valid : s.message.Valid)
    (posts : ∀ value (s' : Parsing σ), s'.message.msg = s.message.msg →
      s'.message.offset = s.message.offset + layout.span s.message → s'.values = s.values →
        (post value s' ↔ post' value)) :
    EndsWith post refused ((reading program).run s) ↔
      s.message.offset + layout.span s.message ≤ s.message.msg.length ∧
        match layout.value s.message.msg s.message.offset with
        | .ok value => post' value
        | .error _ => refused s.values := by
  by_cases inside : s.message.offset + layout.span s.message ≤ s.message.msg.length
  · have returned := spans.inside inside
    rw [and_iff_right inside]
    cases read : layout.value s.message.msg s.message.offset with
    | ok value =>
      rw [read] at returned
      obtain ⟨after, same, moved, ran⟩ := returned
      rw [run_reading_ok ran]
      exact posts value { s with message := after } same moved rfl
    | error refusal =>
      rw [read] at returned
      obtain ⟨after, ran⟩ := returned
      rw [run_reading_error ran]
      exact Iff.rfl
  · obtain ⟨after, ran⟩ := spans.leaves valid inside
    rw [run_reading_error ran]
    exact iff_of_false id fun both => inside both.1

theorem endsWith_expectingEnd {next : Unit → ParserM σ α} {post : α → Parsing σ → Prop}
    {refused : σ → Prop} (s : Parsing σ) :
    EndsWith post refused ((expectingEnd >>= next).run s) ↔
      if s.message.offset ≠ s.message.msg.length then refused s.values
      else EndsWith post refused ((next ()).run s) := by
  rw [endsWith_bind]
  simp only [expectingEnd, EStateM.run_bind, EStateM.run_get]
  split <;> exact Iff.rfl

/-! ## Treatments -/

/-- What becomes of an element: how many bytes behind its header are looked at, how far the
    cursor is moved on, whether what is stored fits its array, whether the element is accepted,
    and what is known of the values afterwards. -/
structure Treatment (τ : Type) where
  reads : Nat
  moves : Nat
  fits : Prop
  accepted : Prop
  next : τ

namespace Treatment

def refused (state : τ) : Treatment τ := ⟨0, 0, True, False, state⟩

/-- The element is passed over without a look at it. -/
def skipped (count : Nat) (state : τ) : Treatment τ := ⟨0, count, True, True, state⟩

/-- What the values become with those that were read. -/
def noted (value : Except Refusal α) (note : α → τ → τ) (state : τ) : τ :=
  match value with
  | .ok value => note value state
  | .error _ => state

/-- The element has to be as long as announced, and what was read is kept in either case. -/
def announced (len : Nat) (layout : Layout α) (note : α → τ → τ) (bytes : List UInt8)
    (offset : Nat) (state : τ) : Treatment τ where
  reads := layout.size bytes offset
  moves := layout.size bytes offset
  fits := True
  accepted := (layout.value bytes offset).isOk ∧ layout.size bytes offset = len
  next := noted (layout.value bytes offset) note state

/-- What is read is kept, however long the element was announced to be. -/
def taken (layout : Layout α) (note : α → τ → τ) (bytes : List UInt8) (offset : Nat) (state : τ) :
    Treatment τ where
  reads := layout.size bytes offset
  moves := layout.size bytes offset
  fits := True
  accepted := (layout.value bytes offset).isOk
  next := noted (layout.value bytes offset) note state

/-- With the cursor of the message behind its header. -/
def Inside (treatment : Treatment τ) (message : CWProtocolMessage) : Prop :=
  message.offset + treatment.reads ≤ message.msg.length ∧ treatment.fits

/-- An end that is no raised error. -/
def Astray (result : EStateM.Result Stop (Parsing σ) α) : Prop :=
  ∃ stop after, result = .error stop after ∧ ∀ code text, stop ≠ .failed (.raised code text)

/-- The treatment is what a parser does, where `abs` is what is known of its values. -/
structure Describes (treatment : Treatment τ) (abs : σ → τ) (s : Parsing σ)
    (result : EStateM.Result Stop (Parsing σ) Unit) : Prop where
  passes : treatment.Inside s.message → treatment.accepted → ∃ after : Parsing σ,
    result = .ok () after ∧ after.message.msg = s.message.msg ∧
      after.message.offset = s.message.offset + treatment.moves ∧
        abs after.values = treatment.next
  refuses : treatment.Inside s.message → ¬ treatment.accepted → ∃ code text after,
    result = .error (.failed (.raised code text)) after ∧ abs after.values = treatment.next
  strays : ¬ treatment.Inside s.message → Astray result

end Treatment

/-- What an element is treated with at an offset of the bytes. -/
abbrev Treats (τ : Type) :=
  (bytes : List UInt8) → (offset elemType elemLen : Nat) → τ → Treatment τ

def Conforms (element : (elemType elemLen : Nat) → ParserM σ Unit) (treat : Treats τ)
    (abs : σ → τ) : Prop :=
  ∀ elemType elemLen (s : Parsing σ), s.message.Valid →
    (treat s.message.msg s.message.offset elemType elemLen (abs s.values)).Describes abs s
      ((element elemType elemLen).run s)

namespace Treatment

variable {abs : σ → τ} {s : Parsing σ}

theorem describes_refusing (code : CWErrorCode) (text : Option String) (valid : s.message.Valid) :
    (refused (abs s.values)).Describes abs s ((refusing code text).run s) where
  passes _ accepted := accepted.elim
  refuses _ _ := ⟨code, text, s, rfl, rfl⟩
  strays outside := (outside ⟨valid, trivial⟩).elim

theorem describes_skipping (count : Nat) (valid : s.message.Valid) :
    (skipped count (abs s.values)).Describes abs s ((skipping count).run s) where
  passes _ _ := ⟨_, rfl, rfl, rfl, rfl⟩
  refuses _ refused := (refused trivial).elim
  strays outside := (outside ⟨valid, trivial⟩).elim

/-- What the parser of an element does that reads straight on. -/
theorem describes_parseInto {body : MessageM α} {layout : Layout α} (spans : Spans body layout)
    (len : Nat) (valid : s.message.Valid) {assign : α → σ → σ} {note : α → τ → τ}
    (noted : ∀ value, abs (assign value s.values) = note value (abs s.values)) :
    (announced len layout note s.message.msg s.message.offset (abs s.values)).Describes abs s
      ((parseInto len body assign).run s) := by
  constructor
  case passes =>
    rintro ⟨inside, _⟩ ⟨read, exact⟩
    have returned := spans.inside inside
    cases value : layout.value s.message.msg s.message.offset with
    | error refusal =>
      rw [value] at read
      cases read
    | ok got =>
      rw [value] at returned
      obtain ⟨after, same, moved, ran⟩ := returned
      refine ⟨⟨after, assign got s.values⟩, ?_, same, moved, ?_⟩
      · rw [parseInto_of_ok len assign ran moved]
        exact if_pos exact
      · simp [announced, Treatment.noted, value, noted]
  case refuses =>
    rintro ⟨inside, _⟩ refused
    have returned := spans.inside inside
    cases value : layout.value s.message.msg s.message.offset with
    | error refusal =>
      rw [value] at returned
      obtain ⟨after, ran⟩ := returned
      refine ⟨_, _, _, parseInto_of_error len assign ran, ?_⟩
      simp [announced, Treatment.noted, value]
    | ok got =>
      rw [value] at returned
      obtain ⟨after, same, moved, ran⟩ := returned
      have different : ¬ layout.size s.message.msg s.message.offset = len := by
        intro exact
        apply refused
        simp [announced, value, exact, Except.isOk, Except.toBool]
      refine ⟨.invalidFormat, some "Message Element Malformed", ⟨after, assign got s.values⟩, ?_, ?_⟩
      · rw [parseInto_of_ok len assign ran moved]
        exact if_neg different
      · simp [announced, Treatment.noted, value, noted]
  case strays =>
    intro outside
    obtain ⟨after, ran⟩ := spans.leaves valid fun inside => outside ⟨inside, trivial⟩
    exact ⟨_, _, parseInto_of_error len assign ran, nofun⟩

/-- What a parser does that does not compare lengths. -/
theorem describes_taken {body : MessageM α} {layout : Layout α} (spans : Spans body layout)
    (valid : s.message.Valid) {assign : α → σ → σ} {note : α → τ → τ}
    (noted : ∀ value, abs (assign value s.values) = note value (abs s.values)) :
    (taken layout note s.message.msg s.message.offset (abs s.values)).Describes abs s
      ((do assigning (assign (← reading body))).run s) := by
  constructor
  case passes =>
    rintro ⟨inside, _⟩ read
    have returned := spans.inside inside
    cases value : layout.value s.message.msg s.message.offset with
    | error refusal =>
      simp only [taken, value] at read
      cases read
    | ok got =>
      rw [value] at returned
      obtain ⟨after, same, moved, ran⟩ := returned
      refine ⟨⟨after, assign got s.values⟩, ?_, same, moved, ?_⟩
      · rw [EStateM.run_bind, run_reading_ok ran]
        rfl
      · simp [taken, Treatment.noted, value, noted]
  case refuses =>
    rintro ⟨inside, _⟩ refused
    have returned := spans.inside inside
    cases value : layout.value s.message.msg s.message.offset with
    | error refusal =>
      rw [value] at returned
      obtain ⟨after, ran⟩ := returned
      refine ⟨refusal.1, refusal.2, { s with message := after }, ?_, ?_⟩
      · rw [EStateM.run_bind, run_reading_error ran]
      · simp [taken, Treatment.noted, value]
    | ok got =>
      simp only [taken, value] at refused
      exact absurd rfl refused
  case strays =>
    intro outside
    obtain ⟨after, ran⟩ := spans.leaves valid fun inside => outside ⟨inside, trivial⟩
    refine ⟨.failed (.outOfBounds .receiveBuffer), { s with message := after }, ?_, nofun⟩
    rw [EStateM.run_bind, run_reading_error ran]

theorem Describes.congr {treatment treatment' : Treatment τ}
    {result : EStateM.Result Stop (Parsing σ) Unit} (describes : treatment.Describes abs s result)
    (reads : treatment'.reads = treatment.reads) (moves : treatment'.moves = treatment.moves)
    (fits : treatment'.fits ↔ treatment.fits)
    (accepted : treatment'.accepted ↔ treatment.accepted)
    (next : treatment'.next = treatment.next) : treatment'.Describes abs s result := by
  have same : treatment' = treatment := by
    cases treatment
    cases treatment'
    dsimp only at reads moves fits accepted next
    rw [reads, moves, next, propext fits, propext accepted]
  rw [same]
  exact describes

theorem describes_assigning (f : σ → σ) {next : τ} (known : abs (f s.values) = next)
    (valid : s.message.Valid) :
    (skipped 0 next).Describes abs s ((assigning f).run s) where
  passes _ _ := ⟨_, rfl, rfl, rfl, known⟩
  refuses _ refused := (refused trivial).elim
  strays outside := (outside ⟨valid, trivial⟩).elim

/-- An assignment behind a parser, which only takes place if that accepts the element. -/
theorem Describes.assigning {treatment : Treatment τ} {program : ParserM σ Unit}
    (describes : treatment.Describes abs s (program.run s)) (f : σ → σ) (next : τ)
    (passed : treatment.accepted → ∀ values, abs values = treatment.next → abs (f values) = next)
    (refused : ¬ treatment.accepted → treatment.next = next) :
    ({ treatment with next } : Treatment τ).Describes abs s
      ((do program; assigning f).run s) where
  passes inside accepted := by
    obtain ⟨after, ran, same, moved, known⟩ := describes.passes inside accepted
    refine ⟨{ after with values := f after.values }, ?_, same, moved, passed accepted _ known⟩
    rw [EStateM.run_bind, ran]
    rfl
  refuses inside notAccepted := by
    obtain ⟨code, text, after, ran, known⟩ := describes.refuses inside notAccepted
    refine ⟨code, text, after, ?_, known.trans (refused notAccepted)⟩
    rw [EStateM.run_bind, ran]
  strays outside := by
    obtain ⟨stop, after, ran, other⟩ := describes.strays outside
    refine ⟨stop, after, ?_, other⟩
    rw [EStateM.run_bind, ran]

theorem describes_overrun {treatment : Treatment τ} (overruns : ¬ treatment.fits) :
    treatment.Describes abs s ((throw .overrun : ParserM σ Unit).run s) where
  passes inside := absurd inside.2 overruns
  refuses inside := absurd inside.2 overruns
  strays _ := ⟨.overrun, s, rfl, nofun⟩

end Treatment

end WlanController.Elements
