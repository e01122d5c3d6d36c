import WlanController.Protocol.Layout

/-!
# Programs that read alike everywhere

A program that is put together from reads does the same with the same bytes wherever they stand.
What it makes of bytes that stand alone is what it makes of them in a message.
-/

namespace WlanController.Protocol

variable {α β : Type} {program : MessageM α}

def ReadsAlike (program : MessageM α) : Prop := ∃ language, Accepts program language

theorem readsAlike_pure (value : α) : ReadsAlike (pure value) := ⟨_, accepts_pure value⟩

theorem readsAlike_error (failure : Failure) : ReadsAlike (throw failure : MessageM α) :=
  ⟨_, accepts_error failure⟩

theorem readsAlike_rawBytes (count : Nat) : ReadsAlike (cwProtocolRetrieveRawBytes count) :=
  ⟨_, accepts_rawBytes count⟩

theorem ReadsAlike.bind {next : α → MessageM β} (alike : ReadsAlike program)
    (alike' : ∀ value, ReadsAlike (next value)) : ReadsAlike (program >>= next) := by
  obtain ⟨language, accepts⟩ := alike
  choose languages accepts' using alike'
  exact ⟨_, accepts.bind accepts'⟩

theorem ReadsAlike.ite {condition : Prop} [Decidable condition] {program' : MessageM α}
    (alike : ReadsAlike program) (alike' : ReadsAlike program') :
    ReadsAlike (if condition then program else program') := by
  by_cases holds : condition
  · rw [if_pos holds]
    exact alike
  · rw [if_neg holds]
    exact alike'

theorem readsAlike_number (count : Nat) :
    ReadsAlike (BigEndian.decode <$> cwProtocolRetrieveRawBytes count) := ⟨_, accepts_number count⟩

theorem readsAlike_retrieve8 : ReadsAlike cwProtocolRetrieve8 := readsAlike_number 1

theorem readsAlike_retrieve16 : ReadsAlike cwProtocolRetrieve16 := readsAlike_number 2

theorem readsAlike_retrieve32 : ReadsAlike cwProtocolRetrieve32 := readsAlike_number 4

/-- A message with these bytes from its beginning. -/
def received (bytes : List UInt8) : CWProtocolMessage := ⟨bytes, 0, none⟩

theorem valid_received (bytes : List UInt8) : (received bytes).Valid := Nat.zero_le _

theorem ahead_received (bytes : List UInt8) : (received bytes).ahead = bytes ++ [] := by
  rw [List.append_nil]
  rfl

/-- The bytes, all of them and no others, are read as the value. -/
def ReadsWhole (program : MessageM α) (bytes : List UInt8) (value : α) : Prop :=
  program.run (received bytes) = .ok value ((received bytes).advance bytes.length)

theorem ReadsAlike.readsFrom (alike : ReadsAlike program) {bytes : List UInt8} {value : α}
    (reads : ReadsWhole program bytes value) (start : Nat) : ReadsFrom start program bytes value := by
  obtain ⟨language, accepts⟩ := alike
  obtain ⟨word, here, accepted, behind⟩ := (accepts _ (Nat.zero_le _) value _).mp reads
  have length : bytes.length = word.length := by
    have moved := congrArg CWProtocolMessage.offset behind
    simpa [received] using moved
  have whole : word = bytes := here.eq_of_length length.symm
  intro message rest valid _ ahead
  refine (accepts message valid value _).mpr ⟨word, ?_, accepted, by rw [length]⟩
  rw [ahead, whole]
  exact List.prefix_append bytes rest

/-- What has been read is the whole of the bytes that were passed. -/
theorem ReadsAlike.readsWhole (alike : ReadsAlike program) {message after : CWProtocolMessage}
    {value : α} (valid : message.Valid) (ran : program.run message = .ok value after) :
    ∃ bytes, bytes <+: message.ahead ∧ after = message.advance bytes.length ∧
      ReadsWhole program bytes value := by
  obtain ⟨language, accepts⟩ := alike
  obtain ⟨word, here, accepted, behind⟩ := (accepts message valid value after).mp ran
  exact ⟨word, here, behind, (accepts _ (valid_received word) value _).mpr
    ⟨word, List.prefix_refl word, accepted, rfl⟩⟩

/-! ## Records of a fixed size -/

/-- The program reads so many bytes, whatever they are. -/
structure FixedSize (program : MessageM α) (size : Nat) : Prop where
  alike : ReadsAlike program
  returns : ∀ message : CWProtocolMessage, message.offset + size ≤ message.msg.length →
    ∃ value, program.run message = .ok value (message.advance size)
  leaves : ∀ message : CWProtocolMessage, message.Valid →
    message.msg.length < message.offset + size → Strays (program.run message)

theorem fixedSize_of_spans {layout : Layout α} {size : Nat}
    (alike : ReadsAlike program) (spans : Spans program layout)
    (sizes : ∀ bytes offset, layout.size bytes offset = size)
    (reads : ∀ bytes offset, ∃ value, layout.value bytes offset = .ok value) :
    FixedSize program size where
  alike := alike
  returns message inside := by
    have span : layout.span message = size := sizes _ _
    obtain ⟨value, read⟩ := reads message.msg message.offset
    have returned := spans.inside (show message.offset + layout.span message ≤ message.msg.length from
      span.symm ▸ inside)
    rw [read] at returned
    obtain ⟨after, _, moved, ran⟩ := returned
    have valid : message.Valid := Nat.le_of_add_right_le inside
    obtain ⟨bytes, _, behind, _⟩ := alike.readsWhole valid ran
    have length : bytes.length = size := by
      have offset := congrArg CWProtocolMessage.offset behind
      rw [advance_offset, moved, span] at offset
      omega
    exact ⟨value, by rw [ran, behind, length]⟩
  leaves message valid outside := by
    have span : layout.span message = size := sizes _ _
    apply spans.leaves valid
    rw [span]
    omega

/-- What bytes are read as, all of them. -/
def wholeValue (program : MessageM α) (bytes : List UInt8) : Option α :=
  match program.run (received bytes) with
  | .ok value after => if after.offset = bytes.length then some value else none
  | .error _ _ => none

theorem readsWhole_of_wholeValue {bytes : List UInt8} {value : α}
    (alike : ReadsAlike program) (whole : wholeValue program bytes = some value) :
    ReadsWhole program bytes value := by
  rw [wholeValue] at whole
  cases ran : program.run (received bytes) with
  | error failure after =>
    rw [ran] at whole
    cases whole
  | ok value' after =>
    rw [ran] at whole
    simp only [Option.ite_none_right_eq_some, Option.some.injEq] at whole
    obtain ⟨ends, rfl⟩ := whole
    obtain ⟨word, _, behind, _⟩ := alike.readsWhole (valid_received bytes) ran
    have offset := congrArg CWProtocolMessage.offset behind
    rw [advance_offset, ends] at offset
    have length : word.length = bytes.length := by
      rw [offset]
      exact (Nat.zero_add _).symm
    rw [ReadsWhole, ran, behind, length]

theorem wholeValue_of_readsWhole {bytes : List UInt8} {value : α}
    (reads : ReadsWhole program bytes value) : wholeValue program bytes = some value := by
  rw [ReadsWhole] at reads
  have ends : ((received bytes).advance bytes.length).offset = bytes.length := Nat.zero_add _
  simp only [wholeValue, reads, if_pos ends]

theorem FixedSize.wholeValue_isSome_iff {size : Nat}
    (fixed : FixedSize program size) (bytes : List UInt8) :
    (wholeValue program bytes).isSome ↔ bytes.length = size := by
  rw [wholeValue]
  by_cases enough : size ≤ bytes.length
  · obtain ⟨value, ran⟩ := fixed.returns (received bytes) (show 0 + size ≤ bytes.length by omega)
    have offset : ((received bytes).advance size).offset = size := Nat.zero_add size
    simp only [ran, offset]
    by_cases same : size = bytes.length
    · simp [same]
    · simp [same, Ne.symm same]
  · obtain ⟨after, ran⟩ := fixed.leaves (received bytes) (valid_received bytes)
      (show bytes.length < 0 + size by omega)
    simp only [ran]
    constructor
    · intro none
      cases none
    · intro same
      omega

end WlanController.Protocol
