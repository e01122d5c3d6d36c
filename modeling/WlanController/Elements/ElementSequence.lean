import WlanController.Elements.ElementWalk

/-!
# Loops over elements one after the other

Where the bytes ahead are those of a list of elements, the loop over them is a fold over the list:
each element changes the values as its parser does, and the first one that is not taken ends the
loop.
-/

namespace WlanController.Elements

open Protocol

variable {σ ε : Type} {element : (elemType elemLen : Nat) → ParserM σ Unit}

/-- The element with these bytes is passed, and changes the values like this. -/
def Takes (element : (elemType elemLen : Nat) → ParserM σ Unit) (bytes : List UInt8)
    (values values' : σ) : Prop :=
  ∀ (s : Parsing σ) (rest : List UInt8), s.message.Valid → s.message.ahead = bytes ++ rest →
    s.values = values →
      (parseElement element).run s = .ok () ⟨s.message.advance bytes.length, values'⟩

/-- A loop that comes to these bytes does not return. -/
def Stops (element : (elemType elemLen : Nat) → ParserM σ Unit) (bytes : List UInt8)
    (values : σ) : Prop :=
  ∀ (s : Parsing σ) (rest : List UInt8) (msgElemsLen start rounds : Nat), s.message.Valid →
    s.message.ahead = bytes ++ rest → s.values = values → start ≤ s.message.offset →
      s.message.offset - start + bytes.length ≤ msgElemsLen →
        ∃ stop s', (parseElements element msgElemsLen start rounds).run s = .error stop s'

/-- The header is read in front of the body. -/
theorem run_parseElement {type : Nat} {body rest : List UInt8} {s : Parsing σ}
    (known : type < 65536) (short : body.length < 65536) (valid : s.message.Valid)
    (ahead : s.message.ahead = elementBytes type body ++ rest) :
    (parseElement element).run s =
      (element type body.length).run { s with message := s.message.advance 4 } := by
  have header := reads_formatMsgElem type body.length known
  rw [Nat.mod_eq_of_lt short] at header
  have behind : s.message.ahead =
      (BigEndian.encode 2 type ++ BigEndian.encode 2 body.length) ++ (body ++ rest) := by
    simpa [elementBytes] using ahead
  have ran := header.from s.message.offset s.message _ valid rfl behind
  simp only [parseElement, EStateM.run_bind, run_reading_ok ran]
  rfl

/-- What is ahead behind the header. -/
theorem ahead_body {type : Nat} {body rest : List UInt8} {message : CWProtocolMessage}
    (ahead : message.ahead = elementBytes type body ++ rest) :
    (message.advance 4).ahead = body ++ rest := by
  rw [ahead_advance, ahead]
  rfl

theorem valid_body {type : Nat} {body rest : List UInt8} {message : CWProtocolMessage}
    (valid : message.Valid) (ahead : message.ahead = elementBytes type body ++ rest) :
    (message.advance 4).Valid := by
  have here : BigEndian.encode 2 type ++ BigEndian.encode 2 body.length <+: message.ahead :=
    ⟨body ++ rest, by simpa [elementBytes] using ahead.symm⟩
  exact valid.advance here

/-- An element is taken if its body is, behind the header. -/
theorem takes_of_body {type : Nat} {body : List UInt8} {values values' : σ}
    (known : type < 65536) (short : body.length < 65536)
    (taken : ∀ (s : Parsing σ) (rest : List UInt8), s.message.Valid →
      s.message.ahead = body ++ rest → s.values = values →
        (element type body.length).run s = .ok () ⟨s.message.advance body.length, values'⟩) :
    Takes element (elementBytes type body) values values' := by
  intro s rest valid ahead same
  have length : (elementBytes type body).length = 4 + body.length := by
    simp only [elementBytes, List.length_append, BigEndian.length_encode]
    omega
  have ran := taken { s with message := s.message.advance 4 } rest (valid_body valid ahead)
    (ahead_body ahead) same
  rw [run_parseElement known short valid ahead, ran, length, ← advance_advance]

/-- A body that is read and stored. -/
theorem parseInto_of_readsFrom {α : Type} {body : MessageM α} {bytes rest : List UInt8} {value : α}
    {s : Parsing σ} (reads : ReadsFrom s.message.offset body bytes value) (assign : α → σ → σ)
    (valid : s.message.Valid) (ahead : s.message.ahead = bytes ++ rest) :
    (parseInto bytes.length body assign).run s =
      .ok () ⟨s.message.advance bytes.length, assign value s.values⟩ := by
  rw [parseInto_of_ok bytes.length assign (reads s.message rest valid rfl ahead)
    (advance_offset _ _), if_pos rfl]

theorem run_expectingEnd {s : Parsing σ} (ends : s.message.offset = s.message.msg.length) :
    expectingEnd.run s = .ok () s := by
  simp only [expectingEnd, EStateM.run_bind, EStateM.run_get, ends, ne_eq, not_true_eq_false,
    if_false]
  rfl

/-- The loop over elements that are all taken. -/
theorem parseElements_of_takes {bytes : ε → List UInt8} (take : ε → σ → Option σ)
    (takes : ∀ e values values', take e values = some values' →
      Takes element (bytes e) values values') (msgElemsLen start : Nat) :
    ∀ (elements : List ε) (rounds : Nat) (s : Parsing σ) (rest : List UInt8) (values : σ),
      s.message.Valid → s.message.ahead = elements.flatMap bytes ++ rest →
      start ≤ s.message.offset →
      s.message.offset - start + (elements.flatMap bytes).length = msgElemsLen →
      elements.length < rounds → (∀ e ∈ elements, bytes e ≠ []) →
      elements.foldlM (fun values e => take e values) s.values = some values →
        (parseElements element msgElemsLen start rounds).run s =
          .ok () ⟨s.message.advance (elements.flatMap bytes).length, values⟩ := by
  intro elements
  induction elements with
  | nil =>
    intro rounds s rest values _ _ _ ends enough _ folded
    cases rounds with
    | zero => cases enough
    | succ rounds =>
      cases folded
      apply Walk.run_parseElements_done
      rw [List.flatMap_nil, List.length_nil] at ends
      omega
  | cons e elements inductionHypothesis =>
    intro rounds s rest values valid ahead begins ends enough inside folded
    cases rounds with
    | zero => cases enough
    | succ rounds =>
      rw [List.foldlM_cons, Option.bind_eq_bind, Option.bind_eq_some_iff] at folded
      obtain ⟨values', taken, folded⟩ := folded
      rw [List.flatMap_cons, List.append_assoc] at ahead
      rw [List.flatMap_cons, List.length_append] at ends ⊢
      have length : 0 < (bytes e).length := List.length_pos_iff.mpr (inside e List.mem_cons_self)
      have ran := takes e s.values values' taken s _ valid ahead rfl
      have valid' := valid.advance ⟨elements.flatMap bytes ++ rest, ahead.symm⟩
      have ahead' : (s.message.advance (bytes e).length).ahead = elements.flatMap bytes ++ rest := by
        rw [ahead_advance, ahead, List.drop_left]
      have moved : (s.message.advance (bytes e).length).offset =
          s.message.offset + (bytes e).length := rfl
      have rest_run := inductionHypothesis rounds ⟨s.message.advance (bytes e).length, values'⟩
        rest values valid' ahead' (by simp only [moved]; omega) (by simp only [moved]; omega)
        (Nat.lt_of_succ_lt_succ enough) (fun e' later => inside e' (List.mem_cons_of_mem _ later))
        folded
      rw [Walk.run_parseElements_more (by omega), EStateM.run_bind, ran]
      simp only [rest_run, advance_advance]

/-- The loop does not return when it comes to an element that is not taken. -/
theorem parseElements_of_stops {bytes : ε → List UInt8} (take : ε → σ → Option σ)
    (takes : ∀ e values values', take e values = some values' →
      Takes element (bytes e) values values')
    (stops : ∀ e values, take e values = none → Stops element (bytes e) values)
    (msgElemsLen start : Nat) :
    ∀ (elements : List ε) (rounds : Nat) (s : Parsing σ) (rest : List UInt8),
      s.message.Valid → s.message.ahead = elements.flatMap bytes ++ rest →
      start ≤ s.message.offset →
      s.message.offset - start + (elements.flatMap bytes).length = msgElemsLen →
      (∀ e ∈ elements, bytes e ≠ []) →
      elements.foldlM (fun values e => take e values) s.values = none →
        ∃ stop s', (parseElements element msgElemsLen start rounds).run s = .error stop s' := by
  intro elements
  induction elements with
  | nil =>
    intro rounds s rest _ _ _ _ _ folded
    cases folded
  | cons e elements inductionHypothesis =>
    intro rounds s rest valid ahead begins ends inside folded
    rw [List.flatMap_cons, List.append_assoc] at ahead
    rw [List.flatMap_cons, List.length_append] at ends
    cases taken : take e s.values with
    | none =>
      exact stops e s.values taken s _ msgElemsLen start rounds valid ahead rfl begins (by omega)
    | some values' =>
      rw [List.foldlM_cons, taken] at folded
      cases rounds with
      | zero => exact ⟨_, _, rfl⟩
      | succ rounds =>
        have length : 0 < (bytes e).length :=
          List.length_pos_iff.mpr (inside e List.mem_cons_self)
        have ran := takes e s.values values' taken s _ valid ahead rfl
        have valid' := valid.advance ⟨elements.flatMap bytes ++ rest, ahead.symm⟩
        have ahead' : (s.message.advance (bytes e).length).ahead =
            elements.flatMap bytes ++ rest := by
          rw [ahead_advance, ahead, List.drop_left]
        have moved : (s.message.advance (bytes e).length).offset =
            s.message.offset + (bytes e).length := rfl
        have stopped := inductionHypothesis rounds
          ⟨s.message.advance (bytes e).length, values'⟩ rest valid' ahead'
          (by simp only [moved]; omega) (by simp only [moved]; omega)
          (fun e' later => inside e' (List.mem_cons_of_mem _ later)) folded
        rw [Walk.run_parseElements_more (by omega), EStateM.run_bind, ran]
        exact stopped

end WlanController.Elements
