import WlanController.Protocol.CountedRecords

/-!
# Layouts

A layout says how many of the bytes at an offset belong together and what they stand for,
which may be that they are refused.  How long a later part is may depend on what an earlier
part says.  Bytes behind the end of a message are not there, so a layout that needs them is
about no message at all.

A program spans a layout if it reads just these bytes: where all of them lie inside the
message it returns what they stand for and ends behind them, elsewhere it leaves the message.
-/

namespace WlanController.Protocol

variable {α β : Type}

/-- What `CWErrorRaise` is called with. -/
abbrev Refusal := CWErrorCode × Option String

def numberAt (bytes : List UInt8) (offset count : Nat) : Nat :=
  BigEndian.decode ((bytes.drop offset).take count)

structure Layout (α : Type) where
  size : (bytes : List UInt8) → (offset : Nat) → Nat
  value : (bytes : List UInt8) → (offset : Nat) → Except Refusal α

namespace Layout

/-- The bytes themselves. -/
def raw (count : Nat) : Layout (List UInt8) where
  size _ _ := count
  value bytes offset := .ok ((bytes.drop offset).take count)

/-- What is read is refused. -/
def refuse (code : CWErrorCode) (text : Option String) : Layout α where
  size _ _ := 0
  value _ _ := .error (code, text)

/-- The offset. -/
def here : Layout Nat where
  size _ _ := 0
  value _ offset := .ok offset

instance : Monad Layout where
  pure value := ⟨fun _ _ => 0, fun _ _ => .ok value⟩
  bind first next :=
    { size := fun bytes offset => first.size bytes offset +
        match first.value bytes offset with
        | .ok value => (next value).size bytes (offset + first.size bytes offset)
        | .error _ => 0
      value := fun bytes offset =>
        match first.value bytes offset with
        | .ok value => (next value).value bytes (offset + first.size bytes offset)
        | .error refusal => .error refusal }

/-- A number of so many bytes. -/
def number (count : Nat) : Layout Nat := do return BigEndian.decode (← raw count)

variable {first : Layout α} {next : α → Layout β} {bytes : List UInt8} {offset count : Nat}

@[simp] theorem size_raw : (raw count).size bytes offset = count := rfl

@[simp] theorem value_raw :
    (raw count).value bytes offset = .ok ((bytes.drop offset).take count) := rfl

@[simp] theorem size_pure (value : α) : (pure value : Layout α).size bytes offset = 0 := rfl

@[simp] theorem value_pure (value : α) :
    (pure value : Layout α).value bytes offset = .ok value := rfl

@[simp] theorem size_refuse (code : CWErrorCode) (text : Option String) :
    (refuse code text : Layout α).size bytes offset = 0 := rfl

@[simp] theorem value_refuse (code : CWErrorCode) (text : Option String) :
    (refuse code text : Layout α).value bytes offset = .error (code, text) := rfl

@[simp] theorem size_here : here.size bytes offset = 0 := rfl

@[simp] theorem value_here : here.value bytes offset = .ok offset := rfl

theorem size_bind_ok {value : α} (read : first.value bytes offset = .ok value) :
    (first >>= next).size bytes offset =
      first.size bytes offset + (next value).size bytes (offset + first.size bytes offset) := by
  simp [Bind.bind, read]

theorem value_bind_ok {value : α} (read : first.value bytes offset = .ok value) :
    (first >>= next).value bytes offset =
      (next value).value bytes (offset + first.size bytes offset) := by
  simp [Bind.bind, read]

theorem size_bind_error {refusal : Refusal} (read : first.value bytes offset = .error refusal) :
    (first >>= next).size bytes offset = first.size bytes offset := by
  simp [Bind.bind, read]

theorem value_bind_error {refusal : Refusal} (read : first.value bytes offset = .error refusal) :
    (first >>= next).value bytes offset = .error refusal := by
  simp [Bind.bind, read]

@[simp] theorem size_number : (number count).size bytes offset = count := rfl

@[simp] theorem value_number : (number count).value bytes offset =
    .ok (numberAt bytes offset count) := rfl

end Layout

/-! ## Programs that span a layout -/

/-- `count` bytes have been read that stand for `value`. -/
def Fetches (message : CWProtocolMessage) (count : Nat) (value : Except Refusal α)
    (result : EStateM.Result Failure CWProtocolMessage α) : Prop :=
  match value with
  | .ok value =>
      ∃ after : CWProtocolMessage, after.msg = message.msg ∧
        after.offset = message.offset + count ∧ result = .ok value after
  | .error (code, text) => ∃ after, result = .error (.raised code text) after

/-- Bytes outside the message have been read. -/
def Strays (result : EStateM.Result Failure CWProtocolMessage α) : Prop :=
  ∃ after, result = .error (.outOfBounds .receiveBuffer) after

/-- The number of bytes a layout has at the cursor. -/
def Layout.span (layout : Layout α) (message : CWProtocolMessage) : Nat :=
  layout.size message.msg message.offset

/-- Who reads nothing cannot leave the message, wherever the cursor is. -/
def Spans (program : MessageM α) (layout : Layout α) : Prop :=
  ∀ message : CWProtocolMessage,
    (message.offset + layout.span message ≤ message.msg.length ∨ layout.span message = 0) ∧
        Fetches message (layout.span message) (layout.value message.msg message.offset)
          (program.run message) ∨
      message.msg.length < message.offset + layout.span message ∧ Strays (program.run message)

variable {program : MessageM α} {layout : Layout α}

theorem Spans.inside (spans : Spans program layout) {message : CWProtocolMessage}
    (inside : message.offset + layout.span message ≤ message.msg.length) :
    Fetches message (layout.span message) (layout.value message.msg message.offset)
      (program.run message) := by
  cases spans message with
  | inl returned => exact returned.2
  | inr strayed => exact absurd inside (Nat.not_le.mpr strayed.1)

theorem Spans.outside (spans : Spans program layout) {message : CWProtocolMessage}
    (outside : message.msg.length < message.offset + layout.span message)
    (reads : layout.span message ≠ 0) : Strays (program.run message) := by
  cases spans message with
  | inl returned => exact (absurd returned.1 (by omega))
  | inr strayed => exact strayed.2

/-- From inside the message, every layout is left that does not lie in it. -/
theorem Spans.leaves (spans : Spans program layout) {message : CWProtocolMessage}
    (valid : message.Valid)
    (outside : ¬ message.offset + layout.span message ≤ message.msg.length) :
    Strays (program.run message) := by
  apply spans.outside (Nat.lt_of_not_le outside)
  intro zero
  rw [zero] at outside
  exact outside valid

/-- Only the bytes and the cursor count. -/
theorem Spans.same (spans : Spans program layout) {message message' : CWProtocolMessage}
    (bytes : message'.msg = message.msg) (offset : message'.offset = message.offset) :
    (message.offset + layout.span message ≤ message.msg.length ∨ layout.span message = 0) ∧
        Fetches message (layout.span message) (layout.value message.msg message.offset)
          (program.run message') ∨
      message.msg.length < message.offset + layout.span message ∧
        Strays (program.run message') := by
  have ended := spans message'
  simp only [Layout.span, Fetches, bytes, offset] at ended ⊢
  exact ended

theorem spans_pure (value : α) : Spans (pure value) (pure value) := by
  intro message
  exact .inl ⟨.inr rfl, message, rfl, rfl, rfl⟩

theorem spans_rawBytes (count : Nat) : Spans (cwProtocolRetrieveRawBytes count) (.raw count) := by
  intro message
  by_cases inside : message.offset + count ≤ message.msg.length
  · refine .inl ⟨.inl inside, message.advance count, rfl, rfl, ?_⟩
    simp [EStateM.run, cwProtocolRetrieveRawBytes, inside, CWProtocolMessage.advance]
  · refine .inr ⟨Nat.lt_of_not_le inside, message, ?_⟩
    simp [EStateM.run, cwProtocolRetrieveRawBytes, inside]

theorem spans_errorRaise (code : CWErrorCode) (text : Option String) :
    Spans (cwErrorRaise code text : MessageM α) (.refuse code text) := by
  intro message
  exact .inl ⟨.inr rfl, message, rfl⟩

theorem spans_offset : Spans (do return (← get).offset) .here := by
  intro message
  exact .inl ⟨.inr rfl, message, rfl, rfl, rfl⟩

theorem Spans.bind {next : α → MessageM β} {nextLayout : α → Layout β}
    (spans : Spans program layout) (spans' : ∀ value, Spans (next value) (nextLayout value)) :
    Spans (program >>= next) (layout >>= nextLayout) := by
  intro message
  rw [EStateM.run_bind]
  cases read : layout.value message.msg message.offset with
  | error refusal =>
    have size : (layout >>= nextLayout).span message = layout.span message :=
      Layout.size_bind_error read
    rw [size, Layout.value_bind_error read]
    cases spans message with
    | inl returned =>
      obtain ⟨here, ended⟩ := returned
      rw [read] at ended
      obtain ⟨after, ran⟩ := ended
      refine .inl ⟨here, after, ?_⟩
      rw [ran]
    | inr strayed =>
      obtain ⟨outside, after, ran⟩ := strayed
      refine .inr ⟨outside, after, ?_⟩
      rw [ran]
  | ok value =>
    have size : (layout >>= nextLayout).span message = layout.span message +
        (nextLayout value).size message.msg (message.offset + layout.span message) :=
      Layout.size_bind_ok read
    have value_eq : (layout >>= nextLayout).value message.msg message.offset =
        (nextLayout value).value message.msg (message.offset + layout.span message) :=
      Layout.value_bind_ok read
    rw [size, value_eq]
    cases spans message with
    | inr strayed =>
      obtain ⟨outside, after, ran⟩ := strayed
      refine .inr ⟨by omega, after, ?_⟩
      rw [ran]
    | inl returned =>
      obtain ⟨here, ended⟩ := returned
      rw [read] at ended
      obtain ⟨middle, same, moved, ran⟩ := ended
      -- the second program goes on behind the bytes of the first
      have second := spans' value middle
      rw [ran]
      simp only [Layout.span, same, moved] at second
      cases second with
      | inl returned =>
        obtain ⟨here', ended'⟩ := returned
        refine .inl ⟨by simp only [Layout.span] at here ⊢; omega, ?_⟩
        simp only [Layout.span] at ended' ⊢
        cases read' : (nextLayout value).value message.msg
            (message.offset + layout.size message.msg message.offset) with
        | error refusal =>
          rw [read'] at ended'
          exact ended'
        | ok value' =>
          rw [read'] at ended'
          obtain ⟨after, same', moved', ran'⟩ := ended'
          exact ⟨after, same'.trans same, by rw [moved', moved]; simp only [Layout.span]; omega, ran'⟩
      | inr strayed =>
        obtain ⟨outside, strays⟩ := strayed
        refine .inr ⟨by simp only [Layout.span]; omega, strays⟩

theorem Spans.map (spans : Spans program layout) (f : α → β) :
    Spans (f <$> program) (do return f (← layout)) := by
  rw [← bind_pure_comp]
  exact spans.bind fun value => spans_pure (f value)

theorem Spans.ite {condition : Prop} [Decidable condition] {program' : MessageM α}
    {layout' : Layout α} (spans : condition → Spans program layout)
    (spans' : ¬ condition → Spans program' layout') :
    Spans (if condition then program else program') (if condition then layout else layout') := by
  by_cases holds : condition
  · rw [if_pos holds, if_pos holds]
    exact spans holds
  · rw [if_neg holds, if_neg holds]
    exact spans' holds

theorem spans_number (count : Nat) :
    Spans (BigEndian.decode <$> cwProtocolRetrieveRawBytes count) (.number count) :=
  (spans_rawBytes count).map BigEndian.decode

theorem spans_retrieve8 : Spans cwProtocolRetrieve8 (.number 1) := spans_number 1

theorem spans_retrieve16 : Spans cwProtocolRetrieve16 (.number 2) := spans_number 2

theorem spans_retrieve32 : Spans cwProtocolRetrieve32 (.number 4) := spans_number 4

/-- A program that looks where it starts. -/
theorem Spans.from {body : Nat → MessageM α} {bodyLayout : Nat → Layout α}
    (spans : ∀ oldOffset, Spans (body oldOffset) (bodyLayout oldOffset)) :
    Spans (do body (← get).offset) (do bodyLayout (← Layout.here)) :=
  spans_offset.bind spans

/-! ## Elements -/

/-- An element has to be as long as it was announced. -/
def Layout.announced (len : Nat) (layout : Layout α) : Layout α where
  size := layout.size
  value bytes offset :=
    match layout.value bytes offset with
    | .ok value =>
        if layout.size bytes offset = len then .ok value
        else .error (.invalidFormat, some "Message Element Malformed")
    | .error refusal => .error refusal

theorem Spans.messageElement (spans : Spans program layout) (len : Nat) :
    Spans (cwParseMessageElement len program) (layout.announced len) := by
  intro message
  have size : (layout.announced len).span message = layout.span message := rfl
  rw [size]
  cases spans message with
  | inr strayed =>
    obtain ⟨outside, after, ran⟩ := strayed
    refine .inr ⟨outside, after, ?_⟩
    simp [cwParseMessageElement, EStateM.run_bind, EStateM.run_get, ran]
  | inl returned =>
    obtain ⟨here, ended⟩ := returned
    refine .inl ⟨here, ?_⟩
    simp only [Layout.announced]
    cases read : layout.value message.msg message.offset with
    | error refusal =>
      rw [read] at ended
      obtain ⟨after, ran⟩ := ended
      exact ⟨after, by simp [cwParseMessageElement, EStateM.run_bind, EStateM.run_get, ran]⟩
    | ok value =>
      rw [read] at ended
      obtain ⟨after, same, moved, ran⟩ := ended
      have gone : after.offset - message.offset = layout.size message.msg message.offset := by
        rw [moved, Layout.span]
        omega
      by_cases exact : layout.size message.msg message.offset = len
      · simp only [exact, if_true]
        refine ⟨after, same, moved, ?_⟩
        simp [cwParseMessageElement, EStateM.run_bind, EStateM.run_get, ran, gone, exact]
      · simp only [exact, if_false]
        refine ⟨after, ?_⟩
        simp only [cwParseMessageElement, EStateM.run_bind, EStateM.run_get, ran, gone, exact,
          if_false]
        rfl

/-! ## Records that are counted first -/

/-- So many of them. -/
def Layout.times (record : Layout α) : (count : Nat) → Layout (List α)
  | 0 => pure []
  | count + 1 => do
    let first ← record
    let rest ← record.times count
    return first :: rest

theorem spans_readRecords {record : MessageM α} {layout : Layout α} (spans : Spans record layout)
    (count : Nat) : Spans (readRecords record count) (layout.times count) := by
  induction count with
  | zero => exact spans_pure []
  | succ count inductionHypothesis =>
    exact spans.bind fun first => inductionHypothesis.bind fun rest => spans_pure _

/-- The number of headers met on the way to the announced end, each of them behind what the
    one before announces. -/
def Layout.headersAhead (header : Layout Nat) (bytes : List UInt8) (oldOffset len : Nat) :
    (rounds : Nat) → (offset : Nat) → Nat
  | 0, _ => 0
  | rounds + 1, offset =>
    if offset - oldOffset < len then
      match header.value bytes offset with
      | .ok tmp =>
          header.headersAhead bytes oldOffset len rounds (offset + header.size bytes offset + tmp) + 1
      | .error _ => 0
    else 0

def Layout.records (header : Layout Nat) (record : Layout α) (oldOffset len : Nat) :
    Layout (List α) where
  size bytes offset :=
    (record.times (header.headersAhead bytes oldOffset len len offset)).size bytes offset
  value bytes offset :=
    (record.times (header.headersAhead bytes oldOffset len len offset)).value bytes offset

/-- A record is its header and as many bytes as this announces. -/
structure Heads (header : Layout Nat) (record : Layout α) : Prop where
  positive : ∀ bytes offset, 0 < header.size bytes offset
  announces : ∀ bytes offset, ∃ tmp value, header.value bytes offset = .ok tmp ∧
    record.value bytes offset = .ok value ∧ record.size bytes offset = header.size bytes offset + tmp

/-- The count pass finds the headers or strays on the way.  Then the records do not lie inside
    the message either. -/
theorem countRecords_spans {header : MessageM Nat} {headerLayout : Layout Nat}
    {record : Layout α} (spans : Spans header headerLayout) (heads : Heads headerLayout record)
    (oldOffset len rounds : Nat) (message : CWProtocolMessage) :
    (∃ after : CWProtocolMessage, after.msg = message.msg ∧
        (countRecords header oldOffset len rounds).run message =
          .ok (headerLayout.headersAhead message.msg oldOffset len rounds message.offset) after) ∨
      message.msg.length < message.offset + (record.times
          (headerLayout.headersAhead message.msg oldOffset len rounds message.offset)).span message ∧
        Strays ((countRecords header oldOffset len rounds).run message) := by
  induction rounds generalizing message with
  | zero => exact .inl ⟨message, rfl, rfl⟩
  | succ rounds inductionHypothesis =>
    by_cases more : message.offset - oldOffset < len
    case neg =>
      refine .inl ⟨message, rfl, ?_⟩
      simp [countRecords, Layout.headersAhead, EStateM.run_bind, EStateM.run_get, more]
    case pos =>
      obtain ⟨tmp, value, announced, read, size⟩ := heads.announces message.msg message.offset
      have positive := heads.positive message.msg message.offset
      have count : headerLayout.headersAhead message.msg oldOffset len (rounds + 1) message.offset =
          headerLayout.headersAhead message.msg oldOffset len rounds
            (message.offset + headerLayout.size message.msg message.offset + tmp) + 1 := by
        simp [Layout.headersAhead, more, announced]
      have total (n : Nat) : (record.times (n + 1)).span message =
          headerLayout.size message.msg message.offset + tmp + (record.times n).size message.msg
            (message.offset + headerLayout.size message.msg message.offset + tmp) := by
        rw [Layout.span, Layout.times, Layout.size_bind_ok read, size, ← Nat.add_assoc message.offset]
        congr 1
        simp only [Bind.bind, pure]
        cases (record.times n).value message.msg
          (message.offset + headerLayout.size message.msg message.offset + tmp) <;> rfl
      rw [count, total]
      cases spans message with
      | inr strayed =>
        obtain ⟨outside, after, ran⟩ := strayed
        simp only [Layout.span] at outside
        refine .inr ⟨by omega, after, ?_⟩
        simp [countRecords, skipRecord, EStateM.run_bind, EStateM.run_get, more, ran]
      | inl returned =>
        obtain ⟨here, ended⟩ := returned
        rw [announced] at ended
        obtain ⟨middle, same, moved, ran⟩ := ended
        have behind : (middle.advance tmp).offset =
            message.offset + headerLayout.size message.msg message.offset + tmp := by
          rw [advance_offset, moved, Layout.span]
        have rest := inductionHypothesis (middle.advance tmp)
        rw [behind, show (middle.advance tmp).msg = message.msg from same] at rest
        cases rest with
        | inl counted =>
          obtain ⟨after, same', ran'⟩ := counted
          refine .inl ⟨after, same', ?_⟩
          simp only [countRecords, skipRecord, EStateM.run_bind, EStateM.run_get, EStateM.run_modify,
            if_pos more, ran, ran', EStateM.run_pure]
        | inr strayed =>
          obtain ⟨outside, after, ran'⟩ := strayed
          rw [Layout.span, behind, show (middle.advance tmp).msg = message.msg from same] at outside
          refine .inr ⟨by omega, after, ?_⟩
          simp only [countRecords, skipRecord, EStateM.run_bind, EStateM.run_get, EStateM.run_modify,
            if_pos more, ran, ran']

theorem spans_parseRecords {header : MessageM Nat} {headerLayout : Layout Nat} {record : MessageM α}
    {recordLayout : Layout α} (spans : Spans header headerLayout)
    (spans' : Spans record recordLayout) (heads : Heads headerLayout recordLayout)
    (oldOffset len : Nat) :
    Spans (cwParseRecords header record oldOffset len)
      (headerLayout.records recordLayout oldOffset len) := by
  intro message
  have size : (headerLayout.records recordLayout oldOffset len).span message =
      (recordLayout.times
        (headerLayout.headersAhead message.msg oldOffset len len message.offset)).span message := rfl
  rw [size]
  cases countRecords_spans spans heads oldOffset len len message with
  | inl counted =>
    obtain ⟨after, same, ran⟩ := counted
    -- the second pass starts where the first did
    have run : (cwParseRecords header record oldOffset len).run message =
        (readRecords record
          (headerLayout.headersAhead message.msg oldOffset len len message.offset)).run
            { after with offset := message.offset } := by
      simp [cwParseRecords, EStateM.run_bind, EStateM.run_get, EStateM.run_modify, ran]
    rw [run]
    exact (spans_readRecords spans' _).same same rfl
  | inr strayed =>
    obtain ⟨outside, after, ran⟩ := strayed
    refine .inr ⟨outside, after, ?_⟩
    simp [cwParseRecords, EStateM.run_bind, EStateM.run_get, ran]

end WlanController.Protocol
