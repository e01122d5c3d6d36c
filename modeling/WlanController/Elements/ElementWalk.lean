import WlanController.Elements.ElementLoop

/-!
# Walks over the elements of a message

The walk of a message goes from element to element as their treatments say.  It is a matter of
the bytes alone, and where it goes outside the message it reads what is not there as nothing.
The loop of a parser follows the walk up to the first element that does not lie inside.
-/

namespace WlanController.Elements

open Protocol Relation

variable {σ τ : Type}

/-- The bytes of a message, where its elements begin and how long they are announced to be,
    and what becomes of each. -/
structure Walk (τ : Type) where
  bytes : List UInt8
  start : Nat
  msgElemsLen : Nat
  treat : Treats τ

/-- Between two elements, with what is known of the values there. -/
structure Place (τ : Type) where
  offset : Nat
  state : τ

namespace Walk

variable (w : Walk τ)

/-- The loop goes on. -/
def InProgress (p : Place τ) : Prop := p.offset - w.start < w.msgElemsLen

def elemType (p : Place τ) : Nat := numberAt w.bytes p.offset 2

def elemLen (p : Place τ) : Nat := numberAt w.bytes (p.offset + 2) 2

/-- What becomes of the element at a place. -/
def treatment (p : Place τ) : Treatment τ :=
  w.treat w.bytes (p.offset + 4) (w.elemType p) (w.elemLen p) p.state

/-- The header of the element and what is read behind it lie inside the message, and what is
    stored fits. -/
def Inside (p : Place τ) : Prop :=
  p.offset + 4 + (w.treatment p).reads ≤ w.bytes.length ∧ (w.treatment p).fits

/-- The place behind the element. -/
def behind (p : Place τ) : Place τ :=
  ⟨p.offset + 4 + (w.treatment p).moves, (w.treatment p).next⟩

def Passes (p p' : Place τ) : Prop :=
  w.InProgress p ∧ (w.treatment p).accepted ∧ p' = w.behind p

def Reaches : Place τ → Place τ → Prop := ReflTransGen w.Passes

/-- Every element that is met lies inside. -/
def Contained (p : Place τ) : Prop := ∀ p', w.Reaches p p' → w.InProgress p' → w.Inside p'

/-- The walk ends behind its last element. -/
def Ends (p p' : Place τ) : Prop := w.Reaches p p' ∧ ¬ w.InProgress p'

/-- The walk ends before an element that is refused. -/
def RefusedAt (p p' : Place τ) : Prop :=
  w.Reaches p p' ∧ w.InProgress p' ∧ ¬ (w.treatment p').accepted

variable {w} {p p' p'' : Place τ}

theorem reaches_self : w.Reaches p p := ReflTransGen.refl

theorem Reaches.after (passes : w.Passes p p') (reaches : w.Reaches p' p'') : w.Reaches p p'' :=
  ReflTransGen.head passes reaches

theorem passes_rightUnique : Relator.RightUnique w.Passes := by
  intro p p' p'' passes passes'
  rw [passes.2.2, passes'.2.2]

/-- There is one place where the walk ends. -/
theorem stop_unique (reaches : w.Reaches p p') (reaches' : w.Reaches p p'')
    (stuck : ∀ q, ¬ w.Passes p' q) (stuck' : ∀ q, ¬ w.Passes p'' q) : p' = p'' := by
  cases ReflTransGen.total_of_right_unique passes_rightUnique reaches reaches' with
  | inl further =>
    cases further.cases_head with
    | inl same => exact same
    | inr step =>
      obtain ⟨q, passes, _⟩ := step
      exact absurd passes (stuck q)
  | inr further =>
    cases further.cases_head with
    | inl same => exact same.symm
    | inr step =>
      obtain ⟨q, passes, _⟩ := step
      exact absurd passes (stuck' q)

theorem Ends.stuck (ends : w.Ends p p') : ∀ q, ¬ w.Passes p' q :=
  fun _ passes => ends.2 passes.1

theorem RefusedAt.stuck (refused : w.RefusedAt p p') : ∀ q, ¬ w.Passes p' q :=
  fun _ passes => refused.2.2 passes.2.1

theorem Ends.unique (ends : w.Ends p p') (ends' : w.Ends p p'') : p' = p'' :=
  stop_unique ends.1 ends'.1 ends.stuck ends'.stuck

theorem RefusedAt.unique (refused : w.RefusedAt p p') (refused' : w.RefusedAt p p'') : p' = p'' :=
  stop_unique refused.1 refused'.1 refused.stuck refused'.stuck

theorem Ends.not_refusedAt (ends : w.Ends p p') : ¬ w.RefusedAt p p'' := by
  intro refused
  cases stop_unique ends.1 refused.1 ends.stuck refused.stuck
  exact ends.2 refused.2.1

/-- What every element that is passed preserves holds wherever the walk gets. -/
theorem Reaches.invariant {Inv : τ → Prop}
    (preserved : ∀ q, Inv q.state → w.InProgress q → (w.treatment q).accepted →
      Inv (w.treatment q).next) (reaches : w.Reaches p p') (start : Inv p.state) :
    Inv p'.state := by
  induction reaches with
  | refl => exact start
  | tail _ passes inductionHypothesis =>
    rw [passes.2.2]
    exact preserved _ inductionHypothesis passes.1 passes.2.1

/-- The walk only goes forward. -/
theorem Reaches.le (reaches : w.Reaches p p') : p.offset ≤ p'.offset := by
  induction reaches with
  | refl => exact Nat.le_refl _
  | tail _ passes inductionHypothesis =>
    rw [passes.2.2]
    dsimp only [behind]
    omega

theorem contained_of_done (done : ¬ w.InProgress p) : w.Contained p := by
  intro p' reaches more
  cases reaches.cases_head with
  | inl same => exact absurd (same ▸ more) done
  | inr step =>
    obtain ⟨q, passes, _⟩ := step
    exact absurd passes.1 done

theorem contained_iff (more : w.InProgress p) :
    w.Contained p ↔ w.Inside p ∧ ((w.treatment p).accepted → w.Contained (w.behind p)) := by
  constructor
  · intro contained
    refine ⟨contained p reaches_self more, ?_⟩
    intro accepted p' reaches
    exact contained p' (reaches.after ⟨more, accepted, rfl⟩)
  · rintro ⟨inside, rest⟩ p' reaches more'
    cases reaches.cases_head with
    | inl same => exact same ▸ inside
    | inr step =>
      obtain ⟨q, ⟨_, accepted, same⟩, reaches'⟩ := step
      rw [same] at reaches'
      exact rest accepted p' reaches' more'

/-! ## The loop follows the walk -/

/-- A run of the loop ends where the walk does. -/
def Follows (w : Walk τ) (abs : σ → τ) (p : Place τ)
    (result : EStateM.Result Stop (Parsing σ) Unit) : Prop :=
  (∃ p' after, w.Ends p p' ∧ result = .ok () after ∧ after.message.msg = w.bytes ∧
      after.message.offset = p'.offset ∧ abs after.values = p'.state) ∨
    ∃ p' code text after, w.RefusedAt p p' ∧
      result = .error (.failed (.raised code text)) after ∧
        abs after.values = (w.treatment p').next

theorem Follows.after {abs : σ → τ} {result : EStateM.Result Stop (Parsing σ) Unit}
    (passes : w.Passes p p') (follows : w.Follows abs p' result) : w.Follows abs p result := by
  cases follows with
  | inl returned =>
    obtain ⟨q, after, ends, rest⟩ := returned
    exact .inl ⟨q, after, ⟨ends.1.after passes, ends.2⟩, rest⟩
  | inr raised =>
    obtain ⟨q, code, text, after, refused, rest⟩ := raised
    exact .inr ⟨q, code, text, after, ⟨refused.1.after passes, refused.2⟩, rest⟩

theorem spans_formatMsgElem : Spans cwParseFormatMsgElem (do
    let type ← Layout.number 2
    let len ← Layout.number 2
    return (type, len)) :=
  spans_retrieve16.bind fun _ => spans_retrieve16.bind fun _ => spans_pure _

/-- The header of the element at the cursor. -/
theorem reading_header (s : Parsing σ) :
    (s.message.offset + 4 ≤ s.message.msg.length → ∃ after : CWProtocolMessage,
        after.msg = s.message.msg ∧ after.offset = s.message.offset + 4 ∧
          (reading cwParseFormatMsgElem : ParserM σ _).run s =
            .ok (numberAt s.message.msg s.message.offset 2,
              numberAt s.message.msg (s.message.offset + 2) 2) { s with message := after }) ∧
      (s.message.msg.length < s.message.offset + 4 →
        Treatment.Astray ((reading cwParseFormatMsgElem : ParserM σ _).run s)) := by
  constructor
  · intro inside
    obtain ⟨after, same, moved, ran⟩ := spans_formatMsgElem.inside inside
    exact ⟨after, same, moved, run_reading_ok ran⟩
  · intro outside
    obtain ⟨after, ran⟩ := spans_formatMsgElem.outside outside
      (by simp [Layout.span, Layout.size_bind_ok Layout.value_number])
    refine ⟨_, _, run_reading_error ran, fun code text same => ?_⟩
    cases same

section Loop

variable {element : (elemType elemLen : Nat) → ParserM σ Unit} {abs : σ → τ}

def placeOf (abs : σ → τ) (s : Parsing σ) : Place τ := ⟨s.message.offset, abs s.values⟩

/-- What becomes of the element at the cursor. -/
structure Meets (w : Walk τ) (abs : σ → τ) (s : Parsing σ)
    (result : EStateM.Result Stop (Parsing σ) Unit) : Prop where
  passes : w.Inside (placeOf abs s) → (w.treatment (placeOf abs s)).accepted → ∃ after,
    result = .ok () after ∧ after.message.msg = w.bytes ∧
      placeOf abs after = w.behind (placeOf abs s)
  refuses : w.Inside (placeOf abs s) → ¬ (w.treatment (placeOf abs s)).accepted →
    ∃ code text after, result = .error (.failed (.raised code text)) after ∧
      abs after.values = (w.treatment (placeOf abs s)).next
  strays : ¬ w.Inside (placeOf abs s) → Treatment.Astray result

theorem parseElement_meets (w : Walk τ) (conforms : Conforms element w.treat abs) {s : Parsing σ}
    (bytes : s.message.msg = w.bytes) : w.Meets abs s ((parseElement element).run s) := by
  obtain ⟨header, noHeader⟩ := reading_header s
  by_cases room : s.message.offset + 4 ≤ s.message.msg.length
  case neg =>
    have outside : ¬ w.Inside (placeOf abs s) := by
      intro inside
      have here := inside.1
      rw [bytes] at room
      dsimp only [placeOf] at here
      omega
    refine ⟨fun inside => absurd inside outside, fun inside => absurd inside outside, fun _ => ?_⟩
    obtain ⟨stop, after, ran, other⟩ := noHeader (Nat.lt_of_not_le room)
    refine ⟨stop, after, ?_, other⟩
    simp only [parseElement, EStateM.run_bind, ran]
  case pos =>
    obtain ⟨behind, same, moved, ran⟩ := header room
    -- the element with its header behind the cursor
    have valid : behind.Valid := by
      simp only [CWProtocolMessage.Valid, same, moved]
      exact room
    have describes := conforms (numberAt s.message.msg s.message.offset 2)
      (numberAt s.message.msg (s.message.offset + 2) 2) ⟨behind, s.values⟩ valid
    simp only [same, moved, bytes] at describes ran
    change (w.treatment (placeOf abs s)).Describes abs ⟨behind, s.values⟩ _ at describes
    have inside_iff : (w.treatment (placeOf abs s)).Inside behind ↔ w.Inside (placeOf abs s) := by
      simp only [Treatment.Inside, Inside, same, moved, bytes, placeOf]
    have run : (parseElement element).run s =
        (element (numberAt w.bytes s.message.offset 2)
          (numberAt w.bytes (s.message.offset + 2) 2)).run ⟨behind, s.values⟩ := by
      simp only [parseElement, EStateM.run_bind, ran]
    rw [run]
    constructor
    case passes =>
      intro inside accepted
      obtain ⟨after, ran', same', moved', known⟩ :=
        describes.passes (inside_iff.mpr inside) accepted
      refine ⟨after, ran', same'.trans (same.trans bytes), ?_⟩
      dsimp only at moved'
      simp only [placeOf, Walk.behind, moved', known, moved]
    case refuses =>
      intro inside refused
      exact describes.refuses (inside_iff.mpr inside) refused
    case strays =>
      intro outside
      exact describes.strays (mt inside_iff.mp outside)

/-- A round of the loop while it goes on. -/
theorem run_parseElements_more {msgElemsLen start rounds : Nat} {s : Parsing σ}
    (more : s.message.offset - start < msgElemsLen) :
    (parseElements element msgElemsLen start (rounds + 1)).run s =
      (do
        parseElement element
        parseElements element msgElemsLen start rounds).run s := by
  simp only [parseElements, EStateM.run_bind, EStateM.run_get, if_pos more]

theorem run_parseElements_done {msgElemsLen start rounds : Nat} {s : Parsing σ}
    (done : ¬ s.message.offset - start < msgElemsLen) :
    (parseElements element msgElemsLen start (rounds + 1)).run s = .ok () s := by
  simp only [parseElements, EStateM.run_bind, EStateM.run_get, if_neg done]
  rfl

/-- An element that is passed takes a round and four bytes at least. -/
theorem rounds_left {msgElemsLen start offset offset' rounds : Nat} (begins : start ≤ offset)
    (more : offset - start < msgElemsLen) (further : offset + 4 ≤ offset')
    (enough : msgElemsLen - (offset - start) < rounds + 1) :
    start ≤ offset' ∧ msgElemsLen - (offset' - start) < rounds := by omega

theorem parseElements_follows (w : Walk τ) (conforms : Conforms element w.treat abs) :
    ∀ (rounds : Nat) (s : Parsing σ), s.message.msg = w.bytes → w.start ≤ s.message.offset →
      w.msgElemsLen - (s.message.offset - w.start) < rounds →
      (w.Contained (placeOf abs s) → w.Follows abs (placeOf abs s)
          ((parseElements element w.msgElemsLen w.start rounds).run s)) ∧
        (¬ w.Contained (placeOf abs s) →
          Treatment.Astray ((parseElements element w.msgElemsLen w.start rounds).run s)) := by
  intro rounds
  induction rounds with
  | zero => exact fun s _ _ enough => absurd enough (Nat.not_lt_zero _)
  | succ rounds inductionHypothesis =>
    intro s bytes begins enough
    by_cases more : s.message.offset - w.start < w.msgElemsLen
    case neg =>
      have done : ¬ w.InProgress (placeOf abs s) := more
      rw [run_parseElements_done more]
      constructor
      · intro _
        exact .inl ⟨_, s, ⟨reaches_self, done⟩, rfl, bytes, rfl, rfl⟩
      · intro outside
        exact absurd (contained_of_done done) outside
    case pos =>
      have going : w.InProgress (placeOf abs s) := more
      have meets := parseElement_meets w conforms bytes
      rw [run_parseElements_more more, contained_iff going, EStateM.run_bind]
      by_cases inside : w.Inside (placeOf abs s)
      case neg =>
        obtain ⟨stop, after, ran, other⟩ := meets.strays inside
        constructor
        · exact fun both => absurd both.1 inside
        · intro _
          exact ⟨stop, after, by rw [ran], other⟩
      case pos =>
        rw [and_iff_right inside]
        by_cases accepted : (w.treatment (placeOf abs s)).accepted
        case neg =>
          obtain ⟨code, text, after, ran, known⟩ := meets.refuses inside accepted
          constructor
          · intro _
            exact .inr ⟨_, code, text, after, ⟨reaches_self, going, accepted⟩, by rw [ran], known⟩
          · exact fun outside => absurd (fun passed => absurd passed accepted) outside
        case pos =>
          obtain ⟨after, ran, same, place⟩ := meets.passes inside accepted
          have further : s.message.offset + 4 ≤ after.message.offset := by
            rw [show after.message.offset = _ from congrArg Place.offset place]
            exact Nat.le_add_right _ _
          obtain ⟨begins', enough'⟩ := rounds_left begins more further enough
          have rest := inductionHypothesis after same begins' enough'
          rw [place] at rest
          rw [ran]
          constructor
          · intro contained
            exact (rest.1 (contained accepted)).after ⟨going, accepted, rfl⟩
          · intro outside
            exact rest.2 fun contained => outside fun _ => contained

/-- The loop follows the walk from wherever it begins. -/
theorem cwParseElements_follows (treat : Treats τ) (conforms : Conforms element treat abs)
    (msgElemsLen : Nat) (s : Parsing σ) (w : Walk τ) (p : Place τ)
    (walk : w = ⟨s.message.msg, s.message.offset, msgElemsLen, treat⟩)
    (place : p = placeOf abs s) :
    (w.Contained p → w.Follows abs p ((cwParseElements element msgElemsLen).run s)) ∧
      (¬ w.Contained p → Treatment.Astray ((cwParseElements element msgElemsLen).run s)) := by
  have run : (cwParseElements element msgElemsLen).run s =
      (parseElements element w.msgElemsLen w.start (msgElemsLen + 1)).run s := by
    rw [walk]
    rfl
  rw [run, place]
  apply parseElements_follows w
  · rw [walk]
    exact conforms
  · rw [walk]
  · rw [walk]
  · rw [walk]
    exact Nat.lt_succ_of_le (Nat.sub_le _ _)

theorem not_endsWith_of_astray {α : Type} {post : α → Parsing σ → Prop} {refused : σ → Prop}
    {result : EStateM.Result Stop (Parsing σ) α} (astray : Treatment.Astray result) :
    ¬ EndsWith post refused result := by
  obtain ⟨stop, after, same, other⟩ := astray
  rw [same]
  cases stop with
  | failed failure => cases failure with
    | raised code text => exact absurd rfl (other code text)
    | outOfBounds object => exact id
  | overrun => exact id
  | unfinished => exact id

/-- How the loop ends is how the walk does, wherever the loop begins. -/
theorem endsWith_parseElements (treat : Treats τ) (conforms : Conforms element treat abs)
    (msgElemsLen : Nat) {post : Unit → Parsing σ → Prop} {refused : σ → Prop}
    {post' : Place τ → Prop} {refused' : τ → Prop} (s : Parsing σ)
    (posts : ∀ s' : Parsing σ, s'.message.msg = s.message.msg →
      (post () s' ↔ post' ⟨s'.message.offset, abs s'.values⟩))
    (refuseds : ∀ values, refused values ↔ refused' (abs values)) (w : Walk τ) (p : Place τ)
    (walk : w = ⟨s.message.msg, s.message.offset, msgElemsLen, treat⟩)
    (place : p = placeOf abs s) :
    EndsWith post refused ((cwParseElements element msgElemsLen).run s) ↔
      w.Contained p ∧ (∀ p', w.Ends p p' → post' p') ∧
        ∀ p', w.RefusedAt p p' → refused' (w.treatment p').next := by
  have follows := cwParseElements_follows treat conforms msgElemsLen s w p walk place
  by_cases contained : w.Contained p
  case neg =>
    exact iff_of_false (not_endsWith_of_astray (follows.2 contained)) fun all => contained all.1
  case pos =>
    rw [and_iff_right contained]
    cases follows.1 contained with
    | inl returned =>
      obtain ⟨p', after, ends, ran, same, offset, known⟩ := returned
      have there : EndsWith post refused (.ok () after) ↔ post' p' := by
        have posted := posts after (same.trans (by rw [walk]))
        rw [offset, known] at posted
        exact posted
      rw [ran, there]
      constructor
      · intro holds
        refine ⟨fun q ends' => ends.unique ends' ▸ holds, ?_⟩
        exact fun q refused => absurd refused ends.not_refusedAt
      · exact fun all => all.1 p' ends
    | inr raised =>
      obtain ⟨p', code, text, after, refusedAt, ran, known⟩ := raised
      have there : EndsWith post refused (.error (.failed (.raised code text)) after) ↔
          refused' (w.treatment p').next := by
        rw [← known]
        exact refuseds after.values
      rw [ran, there]
      constructor
      · intro holds
        refine ⟨fun q ends => absurd refusedAt ends.not_refusedAt, ?_⟩
        exact fun q refusedAt' => refusedAt.unique refusedAt' ▸ holds
      · exact fun all => all.2 p' refusedAt

/-- Where the loop returns, it has followed the walk to its end. -/
theorem ends_of_ok (treat : Treats τ) (conforms : Conforms element treat abs) (msgElemsLen : Nat)
    {s after : Parsing σ} (ran : (cwParseElements element msgElemsLen).run s = .ok () after)
    (w : Walk τ) (p : Place τ) (walk : w = ⟨s.message.msg, s.message.offset, msgElemsLen, treat⟩)
    (place : p = placeOf abs s) :
    w.Contained p ∧ w.Ends p ⟨after.message.offset, abs after.values⟩ := by
  have follows := cwParseElements_follows treat conforms msgElemsLen s w p walk place
  rw [ran] at follows
  by_cases contained : w.Contained p
  case neg =>
    obtain ⟨stop, _, same, _⟩ := follows.2 contained
    cases same
  case pos =>
    refine ⟨contained, ?_⟩
    cases follows.1 contained with
    | inl returned =>
      obtain ⟨p', after', ends, same, _, offset, known⟩ := returned
      cases same
      rw [offset, known]
      exact ends
    | inr raised =>
      obtain ⟨_, _, _, _, _, same, _⟩ := raised
      cases same

/-! ## Rounds -/

/-- The rounds of the loop from where it begins. -/
def Rounds (element : (elemType elemLen : Nat) → ParserM σ Unit) (msgElemsLen start : Nat) :
    Parsing σ → Parsing σ → Prop :=
  ReflTransGen fun s s' =>
    s.message.offset - start < msgElemsLen ∧ (parseElement element).run s = .ok () s'

/-- Every element that is parsed is left behind with all of its bytes and no others. -/
def Consumes (element : (elemType elemLen : Nat) → ParserM σ Unit) (msgElemsLen : Nat)
    (s : Parsing σ) : Prop :=
  ∀ s' s'', Rounds element msgElemsLen s.message.offset s s' →
    s'.message.offset - s.message.offset < msgElemsLen → (parseElement element).run s' = .ok () s'' →
      s''.message.offset =
        s'.message.offset + 4 + numberAt s'.message.msg (s'.message.offset + 2) 2

/-- A round passes the element at the cursor. -/
theorem passes_of_round (w : Walk τ) (conforms : Conforms element w.treat abs) {s s' : Parsing σ}
    (bytes : s.message.msg = w.bytes) (more : w.InProgress (placeOf abs s))
    (ran : (parseElement element).run s = .ok () s') :
    s'.message.msg = w.bytes ∧ w.Passes (placeOf abs s) (placeOf abs s') := by
  have meets := parseElement_meets w conforms bytes
  rw [ran] at meets
  by_cases inside : w.Inside (placeOf abs s)
  case neg =>
    obtain ⟨_, _, same, _⟩ := meets.strays inside
    cases same
  case pos =>
    by_cases accepted : (w.treatment (placeOf abs s)).accepted
    · obtain ⟨after, same, bytes', place⟩ := meets.passes inside accepted
      cases same
      exact ⟨bytes', more, accepted, place⟩
    · obtain ⟨_, _, _, same, _⟩ := meets.refuses inside accepted
      cases same

theorem reaches_of_rounds (w : Walk τ) (conforms : Conforms element w.treat abs) {s s' : Parsing σ}
    (bytes : s.message.msg = w.bytes) (rounds : Rounds element w.msgElemsLen w.start s s') :
    s'.message.msg = w.bytes ∧ w.Reaches (placeOf abs s) (placeOf abs s') := by
  induction rounds with
  | refl => exact ⟨bytes, reaches_self⟩
  | tail _ round inductionHypothesis =>
    obtain ⟨bytes', reaches⟩ := inductionHypothesis
    obtain ⟨bytes'', passes⟩ := passes_of_round w conforms bytes' round.1 round.2
    exact ⟨bytes'', reaches.tail passes⟩

/-- Where every element lies inside, the loop gets where the walk does. -/
theorem rounds_of_reaches (w : Walk τ) (conforms : Conforms element w.treat abs) {s : Parsing σ}
    (bytes : s.message.msg = w.bytes) (contained : w.Contained (placeOf abs s))
    (reaches : w.Reaches (placeOf abs s) p) :
    ∃ s', Rounds element w.msgElemsLen w.start s s' ∧ s'.message.msg = w.bytes ∧
      placeOf abs s' = p := by
  induction reaches with
  | refl => exact ⟨s, ReflTransGen.refl, bytes, rfl⟩
  | tail reached passes inductionHypothesis =>
    obtain ⟨s', rounds, bytes', place⟩ := inductionHypothesis
    rw [← place] at reached passes
    obtain ⟨more, accepted, same⟩ := passes
    have meets := parseElement_meets w conforms bytes'
    obtain ⟨s'', ran, bytes'', place'⟩ := meets.passes (contained _ reached more) accepted
    exact ⟨s'', rounds.tail ⟨more, ran⟩, bytes'', place'.trans same.symm⟩

/-- The loop consumes its elements where each that is passed moves the cursor as far as it
    announces. -/
theorem consumes_iff (w : Walk τ) (conforms : Conforms element w.treat abs) {s : Parsing σ}
    (bytes : s.message.msg = w.bytes) (start : s.message.offset = w.start)
    (contained : w.Contained (placeOf abs s)) :
    Consumes element w.msgElemsLen s ↔ ∀ q, w.Reaches (placeOf abs s) q → w.InProgress q →
      (w.treatment q).accepted → (w.treatment q).moves = w.elemLen q := by
  rw [Consumes, start]
  constructor
  · intro consumes q reaches more accepted
    obtain ⟨s', rounds, bytes', place⟩ := rounds_of_reaches w conforms bytes contained reaches
    subst place
    have meets := parseElement_meets w conforms bytes'
    obtain ⟨s'', ran, _, place'⟩ := meets.passes (contained _ reaches more) accepted
    have moved := consumes s' s'' rounds more ran
    have behind : s''.message.offset =
        s'.message.offset + 4 + (w.treatment (placeOf abs s')).moves :=
      congrArg Place.offset place'
    have announced : w.elemLen (placeOf abs s') =
        numberAt s'.message.msg (s'.message.offset + 2) 2 := by
      rw [bytes']
      rfl
    omega
  · intro moves s' s'' rounds more ran
    obtain ⟨bytes', reaches⟩ := reaches_of_rounds w conforms bytes rounds
    obtain ⟨_, passes⟩ := passes_of_round w conforms bytes' more ran
    have moved := moves _ reaches more passes.2.1
    have behind : s''.message.offset =
        s'.message.offset + 4 + (w.treatment (placeOf abs s')).moves :=
      congrArg Place.offset passes.2.2
    have announced : w.elemLen (placeOf abs s') =
        numberAt s'.message.msg (s'.message.offset + 2) 2 := by
      rw [bytes']
      rfl
    omega

end Loop

end Walk

end WlanController.Elements
