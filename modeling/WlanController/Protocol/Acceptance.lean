import WlanController.Protocol.Message

/-!
# What a parser accepts

`Reads` says that a program gets a value out of certain bytes.  `Accepts` says which bytes
those are: a program returns exactly if its language has a word in front of the cursor, and
the word is what it moves past.  A parser that is put together from accepting programs
accepts the words put together from theirs.
-/

namespace WlanController.Protocol

/-- The bytes behind the cursor. -/
def CWProtocolMessage.ahead (message : CWProtocolMessage) : List UInt8 :=
  message.msg.drop message.offset

def CWProtocolMessage.advance (message : CWProtocolMessage) (count : Nat) : CWProtocolMessage :=
  { message with offset := message.offset + count }

/-- The program returns exactly the values of the words of its language, and it moves past
    the word. -/
def Accepts {α : Type} (program : MessageM α) (language : List UInt8 → α → Prop) : Prop :=
  ∀ message : CWProtocolMessage, message.Valid → ∀ value after,
    program.run message = .ok value after ↔
      ∃ word, word <+: message.ahead ∧ language word value ∧ after = message.advance word.length

variable {α β : Type} {program : MessageM α} {language : List UInt8 → α → Prop}

@[simp] theorem advance_zero (message : CWProtocolMessage) : message.advance 0 = message := rfl

@[simp] theorem advance_offset (message : CWProtocolMessage) (count : Nat) :
    (message.advance count).offset = message.offset + count := rfl

theorem advance_advance (message : CWProtocolMessage) (count count' : Nat) :
    (message.advance count).advance count' = message.advance (count + count') := by
  simp [CWProtocolMessage.advance, Nat.add_assoc]

theorem ahead_advance (message : CWProtocolMessage) (count : Nat) :
    (message.advance count).ahead = message.ahead.drop count := by
  simp [CWProtocolMessage.ahead, CWProtocolMessage.advance]

theorem length_ahead (message : CWProtocolMessage) :
    message.ahead.length = message.msg.length - message.offset := by
  simp [CWProtocolMessage.ahead]

theorem CWProtocolMessage.Valid.advance {message : CWProtocolMessage} (valid : message.Valid)
    {word : List UInt8} (here : word <+: message.ahead) : (message.advance word.length).Valid := by
  have short := here.length_le
  rw [length_ahead] at short
  simp only [CWProtocolMessage.Valid] at valid ⊢
  change message.offset + word.length ≤ message.msg.length
  omega

/-- Two words one after the other. -/
theorem prefix_append_iff {word word' bytes : List UInt8} :
    word ++ word' <+: bytes ↔ word <+: bytes ∧ word' <+: bytes.drop word.length := by
  constructor
  · rintro ⟨rest, same⟩
    rw [List.append_assoc] at same
    refine ⟨⟨word' ++ rest, same⟩, ⟨rest, ?_⟩⟩
    rw [← same, List.drop_left]
  · rintro ⟨⟨rest, same⟩, ⟨rest', same'⟩⟩
    rw [← same, List.drop_left] at same'
    exact ⟨rest', by rw [List.append_assoc, same', same]⟩

theorem Accepts.congr {language' : List UInt8 → α → Prop} (accepts : Accepts program language)
    (same : ∀ word value, language word value ↔ language' word value) :
    Accepts program language' := by
  intro message valid value after
  rw [accepts message valid value after]
  simp only [same]

theorem accepts_pure (value : α) :
    Accepts (pure value) fun word value' => word = [] ∧ value' = value := by
  intro message valid value' after
  simp only [EStateM.run_pure, EStateM.Result.ok.injEq]
  constructor
  · rintro ⟨same, same'⟩
    exact ⟨[], List.nil_prefix, ⟨rfl, same.symm⟩, same'.symm⟩
  · rintro ⟨word, _, ⟨empty, same⟩, after_eq⟩
    subst empty
    exact ⟨same.symm, after_eq.symm⟩

theorem accepts_error (failure : Failure) : Accepts (throw failure : MessageM α) fun _ _ => False := by
  intro message valid value after
  refine iff_of_false (fun ran => ?_) (fun ⟨_, _, impossible, _⟩ => impossible)
  cases ran

theorem accepts_errorRaise (code : CWErrorCode) (text : Option String) :
    Accepts (cwErrorRaise code text : MessageM α) fun _ _ => False :=
  accepts_error _

/-- The second program need only accept behind the words of the first. -/
theorem Accepts.bindOf {next : α → MessageM β} {languages : α → List UInt8 → β → Prop}
    (accepts : Accepts program language)
    (accepts' : ∀ word value, language word value → Accepts (next value) (languages value)) :
    Accepts (program >>= next) fun word value' =>
      ∃ first value second, word = first ++ second ∧ language first value ∧
        languages value second value' := by
  intro message valid value' after
  have split : (program >>= next).run message = .ok value' after ↔
      ∃ value middle, program.run message = .ok value middle ∧
        (next value).run middle = .ok value' after := by
    rw [EStateM.run_bind]
    cases program.run message with
    | ok value middle => simp
    | error failure middle => simp
  rw [split]
  constructor
  · rintro ⟨value, middle, ran, ran'⟩
    obtain ⟨first, here, accepted, rfl⟩ := (accepts message valid value middle).mp ran
    obtain ⟨second, here', accepted', rfl⟩ :=
      (accepts' first value accepted _ (valid.advance here) value' after).mp ran'
    rw [ahead_advance] at here'
    refine ⟨first ++ second, prefix_append_iff.mpr ⟨here, here'⟩,
      ⟨first, value, second, rfl, accepted, accepted'⟩, ?_⟩
    rw [advance_advance, List.length_append]
  · rintro ⟨word, here, ⟨first, value, second, same, accepted, accepted'⟩, after_eq⟩
    subst same
    obtain ⟨here, here'⟩ := prefix_append_iff.mp here
    have ran := (accepts message valid value _).mpr ⟨first, here, accepted, rfl⟩
    refine ⟨value, _, ran,
      (accepts' first value accepted _ (valid.advance here) value' after).mpr ?_⟩
    refine ⟨second, ?_, accepted', ?_⟩
    · rw [ahead_advance]
      exact here'
    · rw [after_eq, advance_advance, List.length_append]

theorem Accepts.bind {next : α → MessageM β} {languages : α → List UInt8 → β → Prop}
    (accepts : Accepts program language) (accepts' : ∀ value, Accepts (next value) (languages value)) :
    Accepts (program >>= next) fun word value' =>
      ∃ first value second, word = first ++ second ∧ language first value ∧
        languages value second value' :=
  accepts.bindOf fun _ value _ => accepts' value

theorem Accepts.map (accepts : Accepts program language) (f : α → β) :
    Accepts (f <$> program) fun word value' => ∃ value, language word value ∧ value' = f value := by
  rw [← bind_pure_comp]
  refine (accepts.bind fun value => accepts_pure (f value)).congr fun word value' => ?_
  constructor
  · rintro ⟨first, value, second, same, accepted, empty, same'⟩
    rw [empty, List.append_nil] at same
    exact ⟨value, same ▸ accepted, same'⟩
  · rintro ⟨value, accepted, same⟩
    exact ⟨word, value, [], (List.append_nil word).symm, accepted, rfl, same⟩

theorem Accepts.ite {condition : Prop} [Decidable condition] {program' : MessageM α}
    {language' : List UInt8 → α → Prop} (accepts : condition → Accepts program language)
    (accepts' : ¬ condition → Accepts program' language') :
    Accepts (if condition then program else program') fun word value =>
      condition ∧ language word value ∨ ¬ condition ∧ language' word value := by
  by_cases holds : condition
  · rw [if_pos holds]
    exact (accepts holds).congr fun word value => by simp [holds]
  · rw [if_neg holds]
    exact (accepts' holds).congr fun word value => by simp [holds]

theorem accepts_rawBytes (len : Nat) :
    Accepts (cwProtocolRetrieveRawBytes len) fun word value => word.length = len ∧ value = word := by
  intro message valid value after
  have inside : message.offset + len ≤ message.msg.length ↔ len ≤ message.ahead.length := by
    simp only [CWProtocolMessage.Valid] at valid
    rw [length_ahead]
    omega
  by_cases enough : len ≤ message.ahead.length
  · have taken : (message.ahead.take len).length = len := List.length_take_of_le enough
    have ran : (cwProtocolRetrieveRawBytes len).run message =
        .ok (message.ahead.take len) (message.advance len) := by
      simp [EStateM.run, cwProtocolRetrieveRawBytes, inside.mpr enough, CWProtocolMessage.ahead,
        CWProtocolMessage.advance]
    rw [ran, EStateM.Result.ok.injEq]
    constructor
    · rintro ⟨same, same'⟩
      exact ⟨_, List.take_prefix _ _, ⟨taken, same.symm⟩, by rw [taken, same']⟩
    · rintro ⟨word, here, ⟨length, same⟩, after_eq⟩
      rw [same, after_eq, length]
      refine ⟨?_, rfl⟩
      rw [← length]
      exact (List.prefix_iff_eq_take.mp here).symm
  · have ran : (cwProtocolRetrieveRawBytes len).run message =
        .error (.outOfBounds .receiveBuffer) message := by
      simp [EStateM.run, cwProtocolRetrieveRawBytes, mt inside.mp enough]
    rw [ran]
    refine iff_of_false (by simp) ?_
    rintro ⟨word, here, ⟨length, _⟩, _⟩
    exact enough (length ▸ here.length_le)

/-- Every byte string of the right length stands for a number. -/
theorem accepts_number (count : Nat) :
    Accepts (BigEndian.decode <$> cwProtocolRetrieveRawBytes count) fun word value =>
      word = BigEndian.encode count value ∧ value < 256 ^ count := by
  refine ((accepts_rawBytes count).map BigEndian.decode).congr fun word value => ?_
  constructor
  · rintro ⟨word', ⟨length, same⟩, same'⟩
    subst same
    rw [same', ← length]
    exact ⟨(BigEndian.encode_decode word').symm, BigEndian.decode_lt word'⟩
  · rintro ⟨same, small⟩
    refine ⟨word, ⟨?_, rfl⟩, ?_⟩
    · rw [same, BigEndian.length_encode]
    · rw [same, BigEndian.decode_encode_of_lt small]

theorem accepts_retrieve8 : Accepts cwProtocolRetrieve8 fun word value =>
    ∃ byte : UInt8, word = [byte] ∧ value = byte.toNat := by
  refine (accepts_number 1).congr fun word value => ?_
  constructor
  · rintro ⟨same, small⟩
    refine ⟨UInt8.ofNat value, ?_, ?_⟩
    · simp [same, BigEndian.encode]
    · simp only [UInt8.toNat_ofNat']
      omega
  · rintro ⟨byte, same, same'⟩
    rw [same, same']
    exact ⟨by simp [BigEndian.encode], byte.toNat_lt⟩

theorem accepts_retrieve16 : Accepts cwProtocolRetrieve16 fun word value =>
    ∃ number : UInt16, word = BigEndian.encode 2 number.toNat ∧ value = number.toNat := by
  refine (accepts_number 2).congr fun word value => ?_
  constructor
  · rintro ⟨same, small⟩
    have kept : (UInt16.ofNat value).toNat = value := by
      simp only [UInt16.toNat_ofNat']
      omega
    exact ⟨UInt16.ofNat value, by rw [kept, same], kept.symm⟩
  · rintro ⟨number, same, same'⟩
    rw [same, same']
    exact ⟨rfl, number.toNat_lt⟩

/-- `CWParseMessageElementStart` and `CWParseMessageElementEnd` around the body of a parser. -/
def cwParseMessageElement (len : Nat) (body : MessageM α) : MessageM α := do
  let oldOffset := (← get).offset
  let value ← body
  if (← get).offset - oldOffset = len then return value
  cwErrorRaise .invalidFormat (some "Message Element Malformed")

/-- An element is accepted if the body moves past as many bytes as it announces. -/
theorem Accepts.messageElement (accepts : Accepts program language) (len : Nat) :
    Accepts (cwParseMessageElement len program) fun word value =>
      word.length = len ∧ language word value := by
  intro message valid value after
  have split : (cwParseMessageElement len program).run message = .ok value after ↔
      program.run message = .ok value after ∧ after.offset - message.offset = len := by
    simp only [cwParseMessageElement, EStateM.run_bind, EStateM.run_get]
    cases program.run message with
    | error failure middle => simp
    | ok value' middle =>
      simp only [EStateM.Result.ok.injEq]
      split
      next exact =>
        simp only [EStateM.run_pure, EStateM.Result.ok.injEq]
        constructor
        · rintro ⟨same, same'⟩
          exact ⟨⟨same, same'⟩, same' ▸ exact⟩
        · exact And.left
      next different =>
        constructor
        · intro ran
          cases ran
        · rintro ⟨⟨_, same⟩, exact⟩
          exact absurd (same ▸ exact) different
  rw [split, accepts message valid value after]
  constructor
  · rintro ⟨⟨word, here, accepted, same⟩, exact⟩
    refine ⟨word, here, ⟨?_, accepted⟩, same⟩
    rw [same, advance_offset] at exact
    omega
  · rintro ⟨word, here, ⟨length, accepted⟩, same⟩
    refine ⟨⟨word, here, accepted, same⟩, ?_⟩
    rw [same, advance_offset]
    omega

end WlanController.Protocol
