import WlanController.Elements.ElementSequence
import WlanController.Protocol.ReadsAlike

/-!
# Elements that are gone through twice

A parser counts elements in a first loop, allocates, and fills what it allocated in a second loop
over the same bytes.  Where a loop that skips every element ends with the message, the message is a
list of elements.
-/

namespace WlanController.Elements

open Protocol

variable {σ ε : Type}

/-- The program writes to `offset` of its own cursor. -/
def rewinding (offset : Nat) : ParserM σ Unit :=
  modify fun s => { s with message := { s.message with offset } }

/-- The loops over the `len` bytes from the cursor. -/
def parsingTwice (count : (elemType elemLen : Nat) → ParserM σ Unit) (allocate : ParserM σ Unit)
    (fill : (type elemLen : Nat) → ParserM σ Unit) (len : Nat) : ParserM σ Unit := do
  let start := (← get).message.offset
  cwParseElements count len
  expectingEnd
  allocate
  rewinding start
  cwParseElements fill len

/-! ## Messages of elements -/

section Loop

variable {element : (elemType elemLen : Nat) → ParserM σ Unit} {bytes : ε → List UInt8}
  {take : ε → σ → Option σ}

theorem length_le_flatMap_bytes (inside : ∀ e, 4 ≤ (bytes e).length) (elements : List ε) :
    elements.length ≤ (elements.flatMap bytes).length := by
  induction elements with
  | nil => exact Nat.le_refl _
  | cons first elements inductionHypothesis =>
    have here := inside first
    rw [List.flatMap_cons, List.length_append, List.length_cons]
    omega

theorem bytes_ne_nil_of_header (inside : ∀ e, 4 ≤ (bytes e).length) (e : ε) : bytes e ≠ [] := by
  intro none
  have here := inside e
  rw [none, List.length_nil] at here
  omega

/-- The loop over a message of elements that are all taken. -/
theorem run_elements (takes : ∀ e values values', take e values = some values' →
      Takes element (bytes e) values values') (inside : ∀ e, 4 ≤ (bytes e).length)
    (elements : List ε) {values values' : σ}
    (folded : elements.foldlM (fun values e => take e values) values = some values') :
    (cwParseElements element (elements.flatMap bytes).length).run
        ⟨received (elements.flatMap bytes), values⟩ =
      .ok () ⟨(received (elements.flatMap bytes)).advance (elements.flatMap bytes).length,
        values'⟩ := by
  simp only [cwParseElements, EStateM.run_bind, EStateM.run_get]
  exact parseElements_of_takes take takes _ 0 elements _ _ [] values' (valid_received _)
    (ahead_received _) (Nat.le_refl _) (Nat.zero_add _)
    (Nat.lt_succ_of_le (length_le_flatMap_bytes inside elements))
    (fun e _ => bytes_ne_nil_of_header inside e) folded

/-- The loop over elements that are all taken, behind a control header. -/
theorem run_behindHeader (takes : ∀ e values values', take e values = some values' →
      Takes element (bytes e) values values') (inside : ∀ e, 4 ≤ (bytes e).length)
    {header : List UInt8} (eight : header.length = 8) (elements : List ε) {values values' : σ}
    (folded : elements.foldlM (fun values e => take e values) values = some values') :
    (parseElements element (elements.flatMap bytes).length 8
        ((elements.flatMap bytes).length + 1)).run
      ⟨⟨header ++ elements.flatMap bytes, 8, none⟩, values⟩ =
      .ok () ⟨(⟨header ++ elements.flatMap bytes, 8, none⟩ : CWProtocolMessage).advance
        (elements.flatMap bytes).length, values'⟩ := by
  have valid : CWProtocolMessage.Valid ⟨header ++ elements.flatMap bytes, 8, none⟩ := by
    show 8 ≤ _
    rw [List.length_append, eight]
    exact Nat.le_add_right _ _
  have ahead : CWProtocolMessage.ahead ⟨header ++ elements.flatMap bytes, 8, none⟩ =
      elements.flatMap bytes ++ [] := by
    rw [List.append_nil, CWProtocolMessage.ahead, ← eight]
    exact List.drop_left
  have rounds := length_le_flatMap_bytes inside elements
  exact parseElements_of_takes take takes _ 8 elements _ _ [] values' valid ahead (Nat.le_refl 8)
    (by simp only [Nat.sub_self, Nat.zero_add]) (Nat.lt_succ_of_le rounds)
    (fun e _ => bytes_ne_nil_of_header inside e) folded

/-- The loop over a message of one element. -/
theorem run_single {body : List UInt8} {values values' : σ}
    (takes : Takes element body values values') (inside : 4 ≤ body.length) :
    (cwParseElements element body.length).run ⟨received body, values⟩ =
      .ok () ⟨(received body).advance body.length, values'⟩ := by
  classical
  let take (_ : Unit) (given : σ) : Option σ := if given = values then some values' else none
  have taken (e : Unit) (given given' : σ) (here : take e given = some given') :
      Takes element body given given' := by
    simp only [take, Option.ite_none_right_eq_some, Option.some.injEq] at here
    obtain ⟨rfl, rfl⟩ := here
    exact takes
  have ran := @run_elements σ Unit element (fun _ => body) take taken (fun _ => inside) [()] values
    values' (by simp [take])
  simpa using ran

/-- A parser that comes to these bytes goes astray. -/
def Astrays (element : (elemType elemLen : Nat) → ParserM σ Unit) (bytes : List UInt8)
    (values : σ) : Prop :=
  ∀ (s : Parsing σ) (rest : List UInt8), s.message.Valid → s.message.ahead = bytes ++ rest →
    s.values = values → Treatment.Astray ((parseElement element).run s)

/-- An element is astray if its body is, behind the header. -/
theorem astrays_of_body {type : Nat} {body : List UInt8} {values : σ} (known : type < 65536)
    (short : body.length < 65536)
    (astray : ∀ (s : Parsing σ) (rest : List UInt8), s.message.Valid →
      s.message.ahead = body ++ rest → s.values = values →
        Treatment.Astray ((element type body.length).run s)) :
    Astrays element (elementBytes type body) values := by
  intro s rest valid ahead same
  rw [run_parseElement known short valid ahead]
  exact astray { s with message := s.message.advance 4 } rest (valid_body valid ahead)
    (ahead_body ahead) same

/-- Only values for which `Inv` holds are met. -/
theorem parseElements_of_astray (Inv : σ → Prop)
    (takes : ∀ e values values', Inv values → take e values = some values' →
      Takes element (bytes e) values values' ∧ Inv values')
    (astrays : ∀ e values, Inv values → take e values = none → Astrays element (bytes e) values)
    (inside : ∀ e, 4 ≤ (bytes e).length) (msgElemsLen start : Nat) :
    ∀ (elements : List ε) (rounds : Nat) (s : Parsing σ) (rest : List UInt8),
      Inv s.values → s.message.Valid → s.message.ahead = elements.flatMap bytes ++ rest →
      start ≤ s.message.offset →
      s.message.offset - start + (elements.flatMap bytes).length = msgElemsLen →
      elements.foldlM (fun values e => take e values) s.values = none →
        Treatment.Astray ((parseElements element msgElemsLen start rounds).run s) := by
  intro elements
  induction elements with
  | nil =>
    intro rounds s rest _ _ _ _ _ folded
    cases folded
  | cons e elements inductionHypothesis =>
    intro rounds s rest inv valid ahead begins ends folded
    cases rounds with
    | zero => exact ⟨.unfinished, s, rfl, fun _ _ same => nomatch same⟩
    | succ rounds =>
      rw [List.flatMap_cons, List.append_assoc] at ahead
      rw [List.flatMap_cons, List.length_append] at ends
      have length := inside e
      rw [Walk.run_parseElements_more (by omega), EStateM.run_bind]
      cases taken : take e s.values with
      | none =>
        obtain ⟨stop, after, ran, other⟩ := astrays e s.values inv taken s _ valid ahead rfl
        exact ⟨stop, after, by rw [ran], other⟩
      | some values' =>
        rw [List.foldlM_cons, taken] at folded
        obtain ⟨takesHere, inv'⟩ := takes e s.values values' inv taken
        have ran := takesHere s _ valid ahead rfl
        have valid' := valid.advance ⟨elements.flatMap bytes ++ rest, ahead.symm⟩
        have ahead' : (s.message.advance (bytes e).length).ahead =
            elements.flatMap bytes ++ rest := by
          rw [ahead_advance, ahead, List.drop_left]
        have moved : (s.message.advance (bytes e).length).offset =
            s.message.offset + (bytes e).length := rfl
        rw [ran]
        exact inductionHypothesis rounds ⟨s.message.advance (bytes e).length, values'⟩ rest inv'
          valid' ahead' (by simp only [moved]; omega) (by simp only [moved]; omega) folded

/-- The loop over a message with an element that is not taken. -/
theorem astray_elements (Inv : σ → Prop)
    (takes : ∀ e values values', Inv values → take e values = some values' →
      Takes element (bytes e) values values' ∧ Inv values')
    (astrays : ∀ e values, Inv values → take e values = none → Astrays element (bytes e) values)
    (inside : ∀ e, 4 ≤ (bytes e).length) (elements : List ε) {values : σ} (inv : Inv values)
    (folded : elements.foldlM (fun values e => take e values) values = none) :
    Treatment.Astray ((cwParseElements element (elements.flatMap bytes).length).run
      ⟨received (elements.flatMap bytes), values⟩) := by
  simp only [cwParseElements, EStateM.run_bind, EStateM.run_get]
  exact parseElements_of_astray Inv takes astrays inside _ 0 elements _ _ [] inv (valid_received _)
    (ahead_received _) (Nat.le_refl _) (Nat.zero_add _) folded

end Loop

/-! ## Both loops -/

section Twice

variable {count fill : (elemType elemLen : Nat) → ParserM σ Unit} {allocate : ParserM σ Unit}
  {bytes : ε → List UInt8} {counts fills : ε → σ → Option σ}

/-- The first loop over elements that it takes. -/
theorem run_parsingTwice (allocate : ParserM σ Unit)
    (takesCount : ∀ e values values', counts e values = some values' →
      Takes count (bytes e) values values')
    (inside : ∀ e, 4 ≤ (bytes e).length) (elements : List ε) {values counted allocated : σ}
    (counting : elements.foldlM (fun values e => counts e values) values = some counted)
    (allocates : ∀ message, allocate.run ⟨message, counted⟩ = .ok () ⟨message, allocated⟩) :
    (parsingTwice count allocate fill (elements.flatMap bytes).length).run
        ⟨received (elements.flatMap bytes), values⟩ =
      (cwParseElements fill (elements.flatMap bytes).length).run
        ⟨received (elements.flatMap bytes), allocated⟩ := by
  have first := run_elements takesCount inside elements counting
  have ends : ((received (elements.flatMap bytes)).advance (elements.flatMap bytes).length).offset =
      ((received (elements.flatMap bytes)).advance (elements.flatMap bytes).length).msg.length :=
    Nat.zero_add _
  have ending : (expectingEnd : ParserM σ Unit).run ⟨(received (elements.flatMap bytes)).advance
      (elements.flatMap bytes).length, counted⟩ = .ok () _ := run_expectingEnd ends
  simp only [parsingTwice, EStateM.run_bind, EStateM.run_get, first]
  rw [ending]
  simp only [allocates]
  rfl

/-- Both loops over elements that each of them takes. -/
theorem parsingTwice_of_takes (allocate : ParserM σ Unit)
    (takesCount : ∀ e values values', counts e values = some values' →
      Takes count (bytes e) values values')
    (takesFill : ∀ e values values', fills e values = some values' →
      Takes fill (bytes e) values values')
    (inside : ∀ e, 4 ≤ (bytes e).length) (elements : List ε) {values counted allocated filled : σ}
    (counting : elements.foldlM (fun values e => counts e values) values = some counted)
    (allocates : ∀ message, allocate.run ⟨message, counted⟩ = .ok () ⟨message, allocated⟩)
    (filling : elements.foldlM (fun values e => fills e values) allocated = some filled) :
    ∃ message, (parsingTwice count allocate fill (elements.flatMap bytes).length).run
      ⟨received (elements.flatMap bytes), values⟩ = .ok () ⟨message, filled⟩ := by
  rw [run_parsingTwice allocate takesCount inside elements counting allocates]
  exact ⟨_, run_elements takesFill inside elements filling⟩

/-- A first loop that comes to an element that it does not take. -/
theorem astray_parsingTwice (allocate : ParserM σ Unit)
    (takesCount : ∀ e values values', counts e values = some values' →
      Takes count (bytes e) values values')
    (astraysCount : ∀ e values, counts e values = none → Astrays count (bytes e) values)
    (inside : ∀ e, 4 ≤ (bytes e).length) (elements : List ε) {values : σ}
    (counting : elements.foldlM (fun values e => counts e values) values = none) :
    Treatment.Astray ((parsingTwice count allocate fill (elements.flatMap bytes).length).run
      ⟨received (elements.flatMap bytes), values⟩) := by
  obtain ⟨stop, after, ran, other⟩ :=
    astray_elements (fun _ => True)
      (fun e values values' _ taken => ⟨takesCount e values values' taken, trivial⟩)
      (fun e values _ taken => astraysCount e values taken) inside elements trivial counting
  refine ⟨stop, after, ?_, other⟩
  simp only [parsingTwice, EStateM.run_bind, EStateM.run_get, ran]

end Twice

/-! ## Elements as they stand in a message -/

structure WireElement where
  type : UInt16
  body : List UInt8
  short : body.length < 65536

namespace WireElement

def bytes (e : WireElement) : List UInt8 := elementBytes e.type.toNat e.body

theorem length_bytes (e : WireElement) : e.bytes.length = 4 + e.body.length := by
  simp only [bytes, elementBytes, List.length_append, BigEndian.length_encode]
  omega

theorem header_le (e : WireElement) : 4 ≤ e.bytes.length := by
  rw [length_bytes]
  omega

/-- Bytes are those of one list of elements. -/
theorem flatMap_bytes_injective {elements elements' : List WireElement}
    (same : elements.flatMap bytes = elements'.flatMap bytes) : elements = elements' := by
  induction elements generalizing elements' with
  | nil =>
    cases elements' with
    | nil => rfl
    | cons e' elements' =>
      have length := congrArg List.length same
      rw [List.flatMap_cons, List.length_append, length_bytes, List.flatMap_nil,
        List.length_nil] at length
      omega
  | cons e elements inductionHypothesis =>
    cases elements' with
    | nil =>
      have length := congrArg List.length same
      rw [List.flatMap_cons, List.length_append, length_bytes, List.flatMap_nil,
        List.length_nil] at length
      omega
    | cons e' elements' =>
      simp only [List.flatMap_cons, bytes, elementBytes, List.append_assoc] at same
      obtain ⟨type, same⟩ := List.append_inj same (by simp)
      obtain ⟨length, same⟩ := List.append_inj same (by simp)
      have type := congrArg BigEndian.decode type
      rw [BigEndian.decode_encode_of_lt e.type.toNat_lt,
        BigEndian.decode_encode_of_lt e'.type.toNat_lt] at type
      have length := congrArg BigEndian.decode length
      rw [BigEndian.decode_encode_of_lt e.short, BigEndian.decode_encode_of_lt e'.short] at length
      obtain ⟨body, same⟩ := List.append_inj same length
      have first : e = e' := by
        cases e
        cases e'
        cases UInt16.toNat_inj.mp type
        cases body
        rfl
      rw [first, inductionHypothesis same]

variable {element : (elemType elemLen : Nat) → ParserM σ Unit}

/-- An element that the loop skips. -/
theorem takes_skipping (e : WireElement) {values values' : σ}
    (skips : ∀ message : CWProtocolMessage,
      (element e.type.toNat e.body.length).run ⟨message, values⟩ =
        .ok () ⟨message.advance e.body.length, values'⟩) : Takes element e.bytes values values' := by
  apply takes_of_body e.type.toNat_lt e.short
  intro s rest _ _ same
  cases s
  cases same
  exact skips _

end WireElement

theorem accepts_formatMsgElem : Accepts cwParseFormatMsgElem fun word value =>
    ∃ type len : UInt16, word = BigEndian.encode 2 type.toNat ++ BigEndian.encode 2 len.toNat ∧
      value = (type.toNat, len.toNat) := by
  refine (accepts_retrieve16.bind fun type => accepts_retrieve16.bind fun len =>
    accepts_pure (type, len)).congr fun word value => ?_
  constructor
  · rintro ⟨_, _, _, rfl, ⟨type, rfl, rfl⟩, _, _, _, rfl, ⟨len, rfl, rfl⟩, rfl, rfl⟩
    exact ⟨type, len, by rw [List.append_nil], rfl⟩
  · rintro ⟨type, len, rfl, rfl⟩
    exact ⟨_, _, _, rfl, ⟨type, rfl, rfl⟩, _, _, [], (List.append_nil _).symm, ⟨len, rfl, rfl⟩, rfl,
      rfl⟩

section Skipping

variable {element : (elemType elemLen : Nat) → ParserM σ Unit}

/-- An element that is passed is passed whole. -/
def Skips (element : (elemType elemLen : Nat) → ParserM σ Unit) : Prop :=
  ∀ elemType elemLen (s s' : Parsing σ), (element elemType elemLen).run s = .ok () s' →
    s'.message = s.message.advance elemLen

/-- A round over an element that is skipped, which may end behind the message. -/
theorem passed_header (skips : Skips element) {s s' : Parsing σ} (valid : s.message.Valid)
    (ran : (parseElement element).run s = .ok () s') :
    s'.message.msg = s.message.msg ∧ s.message.offset < s'.message.offset ∧
      (s'.message.Valid → ∃ e : WireElement, s.message.ahead = e.bytes ++ s'.message.ahead) := by
  simp only [parseElement, EStateM.run_bind] at ran
  cases header : cwParseFormatMsgElem.run s.message with
  | error failure message =>
    rw [run_reading_error header] at ran
    cases ran
  | ok value message =>
    obtain ⟨word, here, ⟨type, len, word_eq, value_eq⟩, behind⟩ :=
      (accepts_formatMsgElem s.message valid value message).mp header
    have length : word.length = 4 := by simp [word_eq]
    rw [run_reading_ok header, value_eq] at ran
    have moved := skips _ _ _ _ ran
    simp only [behind, length, advance_advance] at moved
    rw [moved]
    refine ⟨rfl, by rw [advance_offset]; omega, fun inside => ?_⟩
    obtain ⟨rest, ahead⟩ := here
    have enough : len.toNat ≤ rest.length := by
      have total := congrArg List.length ahead
      rw [List.length_append, length, length_ahead] at total
      have bound : s.message.offset + (4 + len.toNat) ≤ s.message.msg.length := inside
      omega
    have body := List.length_take_of_le enough
    refine ⟨⟨type, rest.take len.toNat, body.symm ▸ len.toNat_lt⟩, ?_⟩
    show s.message.ahead = elementBytes type.toNat (rest.take len.toNat) ++ _
    rw [ahead_advance, ← ahead, elementBytes, body, ← List.append_assoc, ← word_eq, ← length,
      List.append_assoc, List.drop_append, List.drop_of_length_le (Nat.le_add_right _ _),
      Nat.add_sub_cancel_left, List.nil_append, List.take_append_drop]

/-- There is a header at the cursor. -/
theorem valid_of_passed {s s' : Parsing σ} (ran : (parseElement element).run s = .ok () s') :
    s.message.Valid := by
  by_contra outside
  have short : s.message.msg.length < s.message.offset + 4 := by
    simp only [CWProtocolMessage.Valid] at outside
    omega
  obtain ⟨stop, after, header, _⟩ := (Walk.reading_header s).2 short
  simp only [parseElement, EStateM.run_bind, header] at ran
  cases ran

/-- A loop that skips every element and ends with the message has met nothing but elements. -/
theorem exists_elements (skips : Skips element) (msgElemsLen start : Nat) :
    ∀ (rounds : Nat) (s s' : Parsing σ),
      (parseElements element msgElemsLen start rounds).run s = .ok () s' →
        s.message.offset ≤ s'.message.offset ∧ s'.message.msg = s.message.msg ∧
          (s'.message.offset = s'.message.msg.length →
            ∃ elements : List WireElement, s.message.ahead = elements.flatMap WireElement.bytes) := by
  intro rounds
  induction rounds with
  | zero =>
    intro s s' ran
    cases ran
  | succ rounds inductionHypothesis =>
    intro s s' ran
    by_cases more : s.message.offset - start < msgElemsLen
    case neg =>
      rw [Walk.run_parseElements_done more] at ran
      cases ran
      refine ⟨Nat.le_refl _, rfl, fun ends => ⟨[], ?_⟩⟩
      rw [CWProtocolMessage.ahead, ends, List.drop_length]
      rfl
    case pos =>
      rw [Walk.run_parseElements_more more, EStateM.run_bind] at ran
      cases passed : (parseElement element).run s with
      | error stop after =>
        rw [passed] at ran
        cases ran
      | ok value middle =>
        rw [passed] at ran
        obtain ⟨same, further, element⟩ := passed_header skips (valid_of_passed passed) passed
        obtain ⟨later, same', elements⟩ := inductionHypothesis middle s' ran
        refine ⟨by omega, same'.trans same, fun ends => ?_⟩
        -- the element lies inside, as the loop only goes forward
        have inside : middle.message.Valid := by
          have bound : middle.message.offset ≤ s'.message.msg.length := by omega
          rw [same'] at bound
          exact bound
        obtain ⟨e, ahead⟩ := element inside
        obtain ⟨elements, ahead'⟩ := elements ends
        exact ⟨e :: elements, by rw [ahead, ahead', List.flatMap_cons]⟩

theorem elements_of_ok (skips : Skips element) {bytes : List UInt8} {values : σ} {s' : Parsing σ}
    (ran : (cwParseElements element bytes.length).run ⟨received bytes, values⟩ = .ok () s')
    (ends : s'.message.offset = s'.message.msg.length) :
    ∃ elements : List WireElement, bytes = elements.flatMap WireElement.bytes := by
  simp only [cwParseElements, EStateM.run_bind, EStateM.run_get] at ran
  exact (exists_elements skips _ _ _ _ _ ran).2.2 ends

end Skipping

end WlanController.Elements
