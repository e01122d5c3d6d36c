import WlanController.Frames.ManagementFrames

/-!
# Looking for elements

The parsers expect the elements of a request in one order and without others between them, take
the length of an element for a signed number, and read on where the frame has ended.
-/

namespace WlanController.Frames

open Protocol

/-! ## Single elements -/

/-- The parser reads nothing outside of the frame, and an element of its type is taken and passed
    exactly. -/
def IEKind.Passes (kind : IEKind) (frame : List UInt8) (offset : Nat) : Prop :=
  ∃ value after, kind.parse.run ⟨frame, offset, none⟩ = .ok value after ∧
    (frame[offset]? = some kind.type → ∃ len, frame[offset + 1]? = some len ∧
      value.isSome ∧ after.offset = offset + 2 + len.toNat)

/-- There is a byte, and if it is the type of the element there is all of the element, with a
    length below 128 that is only zero for an SSID. -/
def IEKind.Whole (kind : IEKind) (frame : List UInt8) (offset : Nat) : Prop :=
  ∃ type, frame[offset]? = some type ∧
    (type = kind.type → ∃ len, frame[offset + 1]? = some len ∧ len < 128 ∧
      offset + 2 + len.toNat ≤ frame.length ∧ (len = 0 → kind = .SSID))

namespace IEKind

variable (kind : IEKind)

theorem passes_iff_read (frame : List UInt8) (offset : Nat) :
    kind.Passes frame offset ↔ ∃ value count, kind.read (frame.drop offset) = some (value, count) ∧
      (frame[offset]? = some kind.type → ∃ len, frame[offset + 1]? = some len ∧
        value.isSome ∧ count = 2 + len.toNat) := by
  have run := kind.parse_follows ⟨frame, offset, none⟩
  have ahead : CWProtocolMessage.ahead ⟨frame, offset, none⟩ = frame.drop offset := rfl
  rw [ahead] at run
  constructor
  · intro passes
    obtain ⟨value, after, parsed, taken⟩ := passes
    cases read : kind.read (frame.drop offset) with
    | none =>
      rw [read] at run
      obtain ⟨stopped, failed⟩ := run
      rw [failed] at parsed
      cases parsed
    | some result =>
      rw [read] at run
      rw [run] at parsed
      cases parsed
      refine ⟨result.1, result.2, rfl, fun here => ?_⟩
      obtain ⟨len, second, isSome, moved⟩ := taken here
      refine ⟨len, second, isSome, ?_⟩
      rw [advance_offset, Nat.add_assoc] at moved
      exact Nat.add_left_cancel moved
  · intro passes
    obtain ⟨value, count, read, taken⟩ := passes
    rw [read] at run
    refine ⟨value, _, run, fun here => ?_⟩
    obtain ⟨len, second, isSome, moved⟩ := taken here
    refine ⟨len, second, isSome, ?_⟩
    rw [advance_offset, moved]
    exact (Nat.add_assoc offset 2 len.toNat).symm

theorem read_other {type : UInt8} (rest : List UInt8) (different : type ≠ kind.type) :
    kind.read (type :: rest) = some (none, 0) := by
  simp [read, different]

theorem read_noLength : kind.read [kind.type] = none := by simp [read]

theorem read_empty (body : List UInt8) : kind.read (kind.type :: 0 :: body) = some kind.emptied := by
  simp [read]

theorem read_short {len : UInt8} {body : List UInt8} (nonzero : len ≠ 0) (short : len < 128) :
    kind.read (kind.type :: len :: body) =
      if len.toNat ≤ body.length then some (some (body.take len.toNat), 2 + len.toNat) else none := by
  simp [read, nonzero, short]

theorem read_long {len : UInt8} {body : List UInt8} (long : ¬ len < 128) :
    kind.read (kind.type :: len :: body) = if len < 255 then some (none, 2) else none := by
  have nonzero : len ≠ 0 := by
    rintro rfl
    exact long (by decide)
  simp [read, nonzero, long]

/-- Which elements of its type a parser takes in full. -/
theorem read_whole_iff {len : UInt8} (body : List UInt8) :
    (∃ value count, kind.read (kind.type :: len :: body) = some (value, count) ∧
      value.isSome = true ∧ count = 2 + len.toNat) ↔
        len < 128 ∧ len.toNat ≤ body.length ∧ (len = 0 → kind = SSID) := by
  by_cases zero : len = 0
  · subst zero
    rw [read_empty]
    cases kind with
    | SSID => exact iff_of_true ⟨_, _, rfl, rfl, rfl⟩ ⟨by decide, Nat.zero_le _, fun _ => rfl⟩
    | suppRates =>
      refine iff_of_false ?_ fun whole => absurd (whole.2.2 rfl) (by decide)
      rintro ⟨value, count, read, isSome, _⟩
      cases read
      cases isSome
    | extSuppRates =>
      refine iff_of_false ?_ fun whole => absurd (whole.2.2 rfl) (by decide)
      rintro ⟨value, count, read, isSome, _⟩
      cases read
      cases isSome
  · by_cases short : len < 128
    · rw [kind.read_short zero short]
      by_cases room : len.toNat ≤ body.length
      · rw [if_pos room]
        exact iff_of_true ⟨_, _, rfl, rfl, rfl⟩ ⟨short, room, fun isZero => absurd isZero zero⟩
      · rw [if_neg room]
        refine iff_of_false ?_ fun whole => room whole.2.1
        rintro ⟨value, count, read, _⟩
        cases read
    · rw [kind.read_long short]
      refine iff_of_false ?_ fun whole => short whole.1
      rintro ⟨value, count, read, isSome, _⟩
      split at read
      · cases read
        cases isSome
      · cases read

theorem passes_iff_whole (frame : List UInt8) (offset : Nat) :
    kind.Passes frame offset ↔ kind.Whole frame offset := by
  have length : (frame.drop offset).length = frame.length - offset := List.length_drop
  have first : frame[offset]? = (frame.drop offset)[0]? := by rw [List.getElem?_drop, Nat.add_zero]
  have second : frame[offset + 1]? = (frame.drop offset)[1]? := by rw [List.getElem?_drop]
  rw [passes_iff_read, Whole, first, second]
  cases bytes : frame.drop offset with
  | nil =>
    refine iff_of_false ?_ ?_
    · rintro ⟨value, count, read, _⟩
      cases read
    · rintro ⟨type, here, _⟩
      cases here
  | cons type rest =>
    by_cases same : type = kind.type
    · subst same
      cases rest with
      | nil =>
        refine iff_of_false ?_ ?_
        · rintro ⟨value, count, read, _⟩
          rw [read_noLength] at read
          cases read
        · rintro ⟨type, here, whole⟩
          cases here
          obtain ⟨len, there, _⟩ := whole rfl
          cases there
      | cons len body =>
        rw [bytes, List.length_cons, List.length_cons] at length
        simp only [List.getElem?_cons_zero, List.getElem?_cons_succ, Option.some.injEq,
          forall_const, exists_eq_left']
        rw [kind.read_whole_iff body]
        have room : len.toNat ≤ body.length ↔ offset + 2 + len.toNat ≤ frame.length := by omega
        rw [room]
    · refine iff_of_true ⟨none, 0, kind.read_other rest same, fun here => ?_⟩
        ⟨type, rfl, fun here => absurd here same⟩
      cases here
      exact absurd rfl same

end IEKind

/-! ## Frames as they arrive -/

/-- The program reads nothing outside of the frame. -/
def StaysInside {α : Type} (program : MessageM α) (frame : List UInt8) : Prop :=
  ∃ value after, program.run ⟨frame, 0, none⟩ = .ok value after

/-- The bytes hold all that is read when elements of these kinds are looked for one behind the
    other, up to the first that is not there: a type, and behind the type that is looked for a
    length, which is not 255 and below 128 not more than there are bytes. -/
def Reaches : List IEKind → List UInt8 → Prop
  | [], _ => True
  | _ :: _, [] => False
  | kind :: _, [type] => type ≠ kind.type
  | kind :: kinds, type :: len :: body => type = kind.type →
      len ≠ 255 ∧ (len = 0 → kind = .SSID → Reaches kinds body) ∧
        (len ≠ 0 → len < 128 → len.toNat ≤ body.length ∧ Reaches kinds (body.drop len.toNat))

theorem reaches_cons_iff (kind : IEKind) (kinds : List IEKind) (bytes : List UInt8) :
    Reaches (kind :: kinds) bytes ↔ ∃ value count, kind.read bytes = some (value, count) ∧
      (value.isSome → Reaches kinds (bytes.drop count)) := by
  cases bytes with
  | nil =>
    refine iff_of_false id ?_
    rintro ⟨value, count, read, _⟩
    cases read
  | cons type rest =>
    by_cases same : type = kind.type
    · subst same
      cases rest with
      | nil =>
        refine iff_of_false (fun different => different rfl) ?_
        rintro ⟨value, count, read, _⟩
        rw [kind.read_noLength] at read
        cases read
      | cons len body =>
        simp only [Reaches, forall_const]
        by_cases zero : len = 0
        · subst zero
          rw [kind.read_empty]
          cases kind <;> simp [IEKind.emptied]
        · by_cases short : len < 128
          · have small : len ≠ 255 := by
              rintro rfl
              exact absurd short (by decide)
            have behind : (kind.type :: len :: body).drop (2 + len.toNat) = body.drop len.toNat := by
              rw [← List.drop_drop]
              rfl
            rw [kind.read_short zero short]
            by_cases room : len.toNat ≤ body.length
            · simp [zero, short, small, room, behind]
            · simp [zero, short, room]
          · rw [kind.read_long short]
            have last : len < 255 ↔ len ≠ 255 := by
              have below := len.toNat_lt
              rw [UInt8.lt_iff_toNat_lt, ne_eq, ← UInt8.toNat_inj]
              show len.toNat < 255 ↔ ¬ len.toNat = 255
              omega
            by_cases other : len = 255
            · simp [other]
            · simp [last.mpr other, zero, short, other]
    · have stopped : Reaches (kind :: kinds) (type :: rest) := by
        cases rest with
        | nil => exact same
        | cons len body => exact fun here => absurd here same
      exact iff_of_true stopped ⟨none, 0, kind.read_other rest same, fun isSome => by cases isSome⟩

theorem andThen_isSome_iff {α β : Type} (outcome : List UInt8 → Option (α × Nat))
    (next : α → List UInt8 → Option (β × Nat)) (bytes : List UInt8) :
    (andThen outcome next bytes).isSome ↔
      ∃ value count, outcome bytes = some (value, count) ∧
        (next value (bytes.drop count)).isSome := by
  cases read : outcome bytes with
  | none => simp [andThen, read]
  | some result =>
    obtain ⟨value, count⟩ := result
    simp [andThen, read]

theorem readRequestElements_isSome_iff (bytes : List UInt8) :
    (readRequestElements bytes).isSome ↔ Reaches [.SSID, .suppRates, .extSuppRates] bytes := by
  rw [readRequestElements, andThen_isSome_iff, reaches_cons_iff]
  refine exists_congr fun SSID => exists_congr fun count => and_congr_right fun _ => ?_
  cases SSID with
  | none => simp
  | some SSID =>
    simp only [Option.isSome_some, forall_const]
    rw [andThen_isSome_iff, reaches_cons_iff]
    refine exists_congr fun supportedRates => exists_congr fun count => and_congr_right fun _ => ?_
    cases supportedRates with
    | none => simp
    | some supportedRates =>
      simp only [Option.isSome_some, forall_const]
      rw [andThen_isSome_iff, reaches_cons_iff]
      simp [Reaches]

section StaysInside

variable {β ε : Type} {program : MessageM (Option β)}
  {outcome : List UInt8 → Option (Option ε × Nat)} {view : β → ε}

theorem Shows.staysInside_iff (shown : Shows program outcome view) (frame : List UInt8) :
    StaysInside program frame ↔ (outcome frame).isSome := by
  have run := shown ⟨frame, 0, none⟩
  have ahead : CWProtocolMessage.ahead ⟨frame, 0, none⟩ = frame := rfl
  rw [ahead] at run
  cases read : outcome frame with
  | none =>
    rw [read] at run
    obtain ⟨after, failed⟩ := run
    refine iff_of_false ?_ (by simp)
    rintro ⟨value, after', parsed⟩
    rw [failed] at parsed
    cases parsed
  | some result =>
    rw [read] at run
    obtain ⟨value, parsed, _⟩ := run
    exact iff_of_true ⟨value, _, parsed⟩ rfl

theorem behind_isSome_iff (count : Nat) (frame : List UInt8) :
    (behind count outcome frame).isSome ↔
      count ≤ frame.length ∧ (outcome (frame.drop count)).isSome := by
  by_cases room : count ≤ frame.length <;> simp [behind, room]

end StaysInside

theorem associationResponse_staysInside_iff (frame : List UInt8) :
    StaysInside cw80211ParseAssociationResponse frame ↔
      30 ≤ frame.length ∧ Reaches [.suppRates] (frame.drop 30) := by
  rw [associationResponse_shows.staysInside_iff, behind_isSome_iff, reaches_cons_iff]
  simp [Reaches, Option.isSome_iff_exists]

theorem request_staysInside_iff {β : Type} {program : MessageM (Option β)} {count : Nat}
    {view : β → RequestElements} (shown : Shows program (behind count readRequestElements) view)
    (frame : List UInt8) :
    StaysInside program frame ↔
      count ≤ frame.length ∧ Reaches [.SSID, .suppRates, .extSuppRates] (frame.drop count) := by
  rw [shown.staysInside_iff, behind_isSome_iff, readRequestElements_isSome_iff]

/-! ## Well-formed frames -/

/-- An element of a frame. -/
structure IE where
  type : UInt8
  value : List UInt8
  short : value.length < 256

def IE.bytes (ie : IE) : List UInt8 := element ie.type ie.value

/-- A frame with as many bytes of fixed fields and any elements in any order. -/
structure ManagementFrame (count : Nat) where
  fixed : List UInt8
  length_fixed : fixed.length = count
  elements : List IE

namespace ManagementFrame

variable {count : Nat}

def bytes (frame : ManagementFrame count) : List UInt8 := frame.fixed ++ frame.elements.flatMap IE.bytes

end ManagementFrame

/-- The value of the first element of a kind. -/
def IEKind.find (kind : IEKind) (elements : List IE) : Option (List UInt8) :=
  (elements.find? fun ie => ie.type = kind.type).map IE.value

/-- What a value is read as: only an SSID without any bytes has something in its place. -/
def IEKind.standIn (kind : IEKind) (value : List UInt8) : List UInt8 :=
  if kind = .SSID ∧ value = [] then ueSSID else value

def RequestElements.shown (elements : RequestElements) : IEKind → List UInt8
  | .SSID => elements.SSID
  | .suppRates => elements.supportedRates
  | .extSuppRates => elements.extSupportedRates

/-- Each of the elements that are looked for and are in the frame is recognised. -/
def Recognises {β : Type} (program : MessageM (Option β)) (kinds : List IEKind)
    (shown : β → IEKind → List UInt8) {count : Nat} (frame : ManagementFrame count) : Prop :=
  ∀ kind ∈ kinds, ∀ value, kind.find frame.elements = some value →
    ∃ result after, program.run ⟨frame.bytes, 0, none⟩ = .ok (some result) after ∧
      shown result kind = kind.standIn value

/-- An element of the kind with a length that is read as it is. -/
def IEKind.Starts (kind : IEKind) (ie : IE) : Prop :=
  ie.type = kind.type ∧ ie.value.length < 128 ∧ (ie.value = [] → kind = .SSID)

/-- The SSID and the rates come first, in this order, something is behind them, and further
    rates are there or nowhere. -/
def InOrder : List IE → Prop
  | ssid :: rates :: next :: rest => IEKind.SSID.Starts ssid ∧ IEKind.suppRates.Starts rates ∧
      if next.type = ieTypeExtSuppRates then next.value.length < 128
      else (IEKind.extSuppRates.find rest).getD [] = []
  | _ => False

theorem andThen_eq_some_iff {α β : Type} (outcome : List UInt8 → Option (α × Nat))
    (next : α → List UInt8 → Option (β × Nat)) (bytes : List UInt8) (result : β) (moved : Nat) :
    andThen outcome next bytes = some (result, moved) ↔
      ∃ value count more, outcome bytes = some (value, count) ∧
        next value (bytes.drop count) = some (result, more) ∧ moved = count + more := by
  cases read : outcome bytes with
  | none => simp [andThen, read]
  | some first =>
    obtain ⟨value, count⟩ := first
    simp [andThen, read, eq_comm]

namespace IEKind

variable (kind : IEKind)

theorem read_ie_other {ie : IE} (rest : List UInt8) (different : ie.type ≠ kind.type) :
    kind.read (ie.bytes ++ rest) = some (none, 0) := kind.read_other _ different

/-- An element of the kind, by its length. -/
theorem read_ie {ie : IE} (rest : List UInt8) (same : ie.type = kind.type) :
    kind.read (ie.bytes ++ rest) =
      if ie.value = [] then some kind.emptied
      else if ie.value.length < 128 then some (some ie.value, 2 + ie.value.length)
      else if ie.value.length < 255 then some (none, 2) else none := by
  have length : (UInt8.ofNat ie.value.length).toNat = ie.value.length := by
    have short := ie.short
    rw [UInt8.toNat_ofNat']
    omega
  have bytes : ie.bytes ++ rest = kind.type :: .ofNat ie.value.length :: (ie.value ++ rest) := by
    rw [← same]
    rfl
  rw [bytes]
  by_cases empty : ie.value = []
  · rw [if_pos empty, empty]
    exact kind.read_empty _
  · have nonzero : UInt8.ofNat ie.value.length ≠ 0 := by
      intro zero
      rw [zero] at length
      exact empty (List.eq_nil_of_length_eq_zero length.symm)
    rw [if_neg empty]
    by_cases short : ie.value.length < 128
    · have small : UInt8.ofNat ie.value.length < 128 := by
        rw [UInt8.lt_iff_toNat_lt, length]
        exact short
      rw [if_pos short, kind.read_short nonzero small, length, List.take_left,
        if_pos (by rw [List.length_append]; omega)]
    · have large : ¬ UInt8.ofNat ie.value.length < 128 := by
        rw [UInt8.lt_iff_toNat_lt, length]
        exact short
      have last : UInt8.ofNat ie.value.length < 255 ↔ ie.value.length < 255 := by
        rw [UInt8.lt_iff_toNat_lt, length]
        rfl
      rw [if_neg short, kind.read_long large]
      simp only [last]

/-- Which elements are taken, and for what. -/
theorem read_ie_eq_some_iff (ie : IE) (rest value : List UInt8) (count : Nat) :
    kind.read (ie.bytes ++ rest) = some (some value, count) ↔
      kind.Starts ie ∧ kind.standIn ie.value = value ∧ ie.bytes.length = count := by
  have length : ie.bytes.length = 2 + ie.value.length := length_element _ _
  rw [length]
  by_cases same : ie.type = kind.type
  · rw [kind.read_ie _ same]
    by_cases empty : ie.value = []
    · rw [if_pos empty, empty]
      cases kind <;> simp_all [emptied, Starts, standIn]
    · have kept : kind.standIn ie.value = ie.value := if_neg fun both => empty both.2
      rw [if_neg empty, kept]
      by_cases short : ie.value.length < 128
      · simp [Starts, same, short, empty]
      · rw [if_neg short]
        refine iff_of_false ?_ fun taken => short taken.1.2.1
        split <;> simp
  · rw [kind.read_ie_other _ same]
    simp [Starts, same]

end IEKind

/-- What a request shows of further rates when the elements behind its rates are these. -/
theorem read_extSuppRates {next : IE} (rest : List IE)
    (fine : if next.type = ieTypeExtSuppRates then next.value.length < 128
      else (IEKind.extSuppRates.find rest).getD [] = []) :
    ∃ ext count, IEKind.extSuppRates.read (next.bytes ++ rest.flatMap IE.bytes) = some (ext, count) ∧
      ext.getD [] = (IEKind.extSuppRates.find (next :: rest)).getD [] := by
  by_cases same : next.type = ieTypeExtSuppRates
  · rw [if_pos same] at fine
    have found : IEKind.extSuppRates.find (next :: rest) = some next.value := by
      simp [IEKind.find, IEKind.type, same]
    rw [IEKind.read_ie .extSuppRates _ same, found]
    by_cases empty : next.value = []
    · rw [if_pos empty, empty]
      exact ⟨none, 1, rfl, rfl⟩
    · rw [if_neg empty, if_pos fine]
      exact ⟨_, _, rfl, rfl⟩
  · rw [if_neg same] at fine
    have found : IEKind.extSuppRates.find (next :: rest) = IEKind.extSuppRates.find rest := by
      simp [IEKind.find, IEKind.type, same]
    rw [IEKind.read_ie_other .extSuppRates _ same, found, fine]
    exact ⟨none, 0, rfl, rfl⟩

/-- Conversely, what is read shows that nothing is missed. -/
theorem fine_of_read_extSuppRates {next : IE} {rest : List IE} {ext : Option (List UInt8)}
    {count : Nat}
    (read : IEKind.extSuppRates.read (next.bytes ++ rest.flatMap IE.bytes) = some (ext, count))
    (recognised : ∀ value, IEKind.extSuppRates.find (next :: rest) = some value →
      ext.getD [] = value) :
    if next.type = ieTypeExtSuppRates then next.value.length < 128
    else (IEKind.extSuppRates.find rest).getD [] = [] := by
  by_cases same : next.type = ieTypeExtSuppRates
  · rw [if_pos same]
    have found : IEKind.extSuppRates.find (next :: rest) = some next.value := by
      simp [IEKind.find, IEKind.type, same]
    have shown := recognised next.value found
    rw [IEKind.read_ie .extSuppRates _ same] at read
    by_contra long
    have nonempty : next.value ≠ [] := by
      intro empty
      rw [empty] at long
      exact long (by decide)
    rw [if_neg nonempty, if_neg long] at read
    split at read
    · cases read
      exact nonempty shown.symm
    · cases read
  · rw [if_neg same]
    have found : IEKind.extSuppRates.find (next :: rest) = IEKind.extSuppRates.find rest := by
      simp [IEKind.find, IEKind.type, same]
    rw [IEKind.read_ie_other .extSuppRates _ same] at read
    cases read
    cases later : IEKind.extSuppRates.find rest with
    | none => rfl
    | some value => exact (recognised value (found.trans later)).symm

/-- An element that is taken is the first of those that are left. -/
theorem exists_of_read {kind : IEKind} {ies : List IE} {value : List UInt8} {count : Nat}
    (read : kind.read (ies.flatMap IE.bytes) = some (some value, count)) :
    ∃ ie rest, ies = ie :: rest ∧ kind.Starts ie ∧ kind.standIn ie.value = value ∧
      (ies.flatMap IE.bytes).drop count = rest.flatMap IE.bytes := by
  cases ies with
  | nil => cases read
  | cons ie rest =>
    rw [List.flatMap_cons, IEKind.read_ie_eq_some_iff] at read
    obtain ⟨starts, same, length⟩ := read
    refine ⟨ie, rest, rfl, starts, same, ?_⟩
    rw [List.flatMap_cons, ← length, List.drop_left]

theorem suppRates_standIn (value : List UInt8) : IEKind.suppRates.standIn value = value :=
  if_neg fun both => IEKind.noConfusion both.1

theorem exists_of_readRequestElements {ies : List IE} {elements : RequestElements} {count : Nat}
    (read : readRequestElements (ies.flatMap IE.bytes) = some (some elements, count)) :
    ∃ ssid rates rest ext more, ies = ssid :: rates :: rest ∧ IEKind.SSID.Starts ssid ∧
      IEKind.suppRates.Starts rates ∧
        IEKind.extSuppRates.read (rest.flatMap IE.bytes) = some (ext, more) ∧
          elements = ⟨IEKind.SSID.standIn ssid.value, rates.value, ext.getD []⟩ := by
  rw [readRequestElements, andThen_eq_some_iff] at read
  obtain ⟨SSID, first, _, readSSID, read, _⟩ := read
  cases SSID with
  | none => cases read
  | some SSID =>
    obtain ⟨ssid, tail, rfl, startsSSID, sameSSID, behind⟩ := exists_of_read readSSID
    rw [behind, andThen_eq_some_iff] at read
    obtain ⟨supportedRates, second, _, readRates, read, _⟩ := read
    cases supportedRates with
    | none => cases read
    | some supportedRates =>
      obtain ⟨rates, rest, rfl, startsRates, sameRates, behind'⟩ := exists_of_read readRates
      rw [behind', andThen_eq_some_iff] at read
      obtain ⟨ext, more, _, readExt, read, _⟩ := read
      cases read
      rw [suppRates_standIn] at sameRates
      exact ⟨ssid, rates, rest, ext, more, rfl, startsSSID, startsRates, readExt, by
        rw [sameSSID, sameRates]⟩

theorem readRequestElements_of_starts {ssid rates : IE} {rest : List IE}
    {ext : Option (List UInt8)} {more : Nat} (startsSSID : IEKind.SSID.Starts ssid)
    (startsRates : IEKind.suppRates.Starts rates)
    (readExt : IEKind.extSuppRates.read (rest.flatMap IE.bytes) = some (ext, more)) :
    ∃ count, readRequestElements ((ssid :: rates :: rest).flatMap IE.bytes) =
      some (some ⟨IEKind.SSID.standIn ssid.value, rates.value, ext.getD []⟩, count) := by
  have readSSID := (IEKind.read_ie_eq_some_iff .SSID ssid ((rates :: rest).flatMap IE.bytes) _
    _).mpr ⟨startsSSID, rfl, rfl⟩
  have readRates := (IEKind.read_ie_eq_some_iff .suppRates rates (rest.flatMap IE.bytes) _
    _).mpr ⟨startsRates, rfl, rfl⟩
  rw [suppRates_standIn] at readRates
  refine ⟨ssid.bytes.length + (rates.bytes.length + (more + 0)), ?_⟩
  rw [List.flatMap_cons, readRequestElements, andThen_eq_some_iff]
  refine ⟨_, _, _, readSSID, ?_, rfl⟩
  rw [List.drop_left, List.flatMap_cons, andThen_eq_some_iff]
  refine ⟨_, _, _, readRates, ?_, rfl⟩
  rw [List.drop_left, andThen_eq_some_iff]
  exact ⟨_, _, _, readExt, rfl, rfl⟩

/-! ## What is recognised -/

section Recognises

variable {β ε : Type} {program : MessageM (Option β)} {count : Nat}
  {outcome : List UInt8 → Option (Option ε × Nat)} {view : β → ε}

theorem behind_bytes (frame : ManagementFrame count) :
    behind count outcome frame.bytes =
      (outcome (frame.elements.flatMap IE.bytes)).map fun result => (result.1, count + result.2) := by
  have fixed := frame.length_fixed
  have room : count ≤ frame.bytes.length := by
    rw [ManagementFrame.bytes, List.length_append, fixed]
    exact Nat.le_add_right _ _
  rw [behind, if_pos room, ManagementFrame.bytes]
  nth_rewrite 2 [← fixed]
  rw [List.drop_left]

/-- What a program returns for a frame, by its outcome for the elements. -/
theorem Shows.returns_iff (shown : Shows program (behind count outcome) view)
    (frame : ManagementFrame count) (holds : ε → Prop) :
    (∃ result after, program.run ⟨frame.bytes, 0, none⟩ = .ok (some result) after ∧
      holds (view result)) ↔
        ∃ elements moved, outcome (frame.elements.flatMap IE.bytes) = some (some elements, moved) ∧
          holds elements := by
  have run := shown ⟨frame.bytes, 0, none⟩
  have ahead : CWProtocolMessage.ahead ⟨frame.bytes, 0, none⟩ = frame.bytes := rfl
  rw [ahead, behind_bytes] at run
  cases read : outcome (frame.elements.flatMap IE.bytes) with
  | none =>
    rw [read] at run
    obtain ⟨after, failed⟩ := run
    simp [failed]
  | some result =>
    obtain ⟨elements, moved⟩ := result
    rw [read] at run
    obtain ⟨value, parsed, shows'⟩ := run
    subst shows'
    cases value with
    | none => simp [parsed]
    | some value => simp [parsed]

end Recognises

/-- The first two elements are found, and of the others the first of each kind. -/
theorem find_starts {ssid rates : IE} (rest : List IE) (startsSSID : IEKind.SSID.Starts ssid)
    (startsRates : IEKind.suppRates.Starts rates) (kind : IEKind) :
    kind.find (ssid :: rates :: rest) =
      match kind with
      | .SSID => some ssid.value
      | .suppRates => some rates.value
      | .extSuppRates => IEKind.extSuppRates.find rest := by
  have first : ssid.type = ieTypeSSID := startsSSID.1
  have second : rates.type = ieTypeSuppRates := startsRates.1
  cases kind <;> simp [IEKind.find, first, second, IEKind.type, ieTypeSSID, ieTypeSuppRates,
    ieTypeExtSuppRates]

theorem extSuppRates_standIn (value : List UInt8) : IEKind.extSuppRates.standIn value = value :=
  if_neg fun both => IEKind.noConfusion both.1

/-- Each element of a request that is present is shown by what is read. -/
def Recognisable (ies : List IE) : Prop :=
  ∀ (kind : IEKind) (value : List UInt8), kind.find ies = some value →
    ∃ elements count, readRequestElements (ies.flatMap IE.bytes) = some (some elements, count) ∧
      elements.shown kind = kind.standIn value

theorem inOrder_of_recognisable {ies : List IE} (recognisable : Recognisable ies)
    (something : ¬ ∀ kind : IEKind, kind.find ies = none) : InOrder ies := by
  obtain ⟨kind, present⟩ := not_forall.mp something
  obtain ⟨value, found⟩ := Option.ne_none_iff_exists'.mp present
  obtain ⟨elements, count, read, _⟩ := recognisable kind value found
  obtain ⟨ssid, rates, rest, ext, more, rfl, startsSSID, startsRates, readExt, rfl⟩ :=
    exists_of_readRequestElements read
  cases rest with
  | nil => cases readExt
  | cons next rest =>
    refine ⟨startsSSID, startsRates, fine_of_read_extSuppRates readExt fun value found => ?_⟩
    have later : IEKind.extSuppRates.find (ssid :: rates :: next :: rest) = some value :=
      (find_starts (next :: rest) startsSSID startsRates .extSuppRates).trans found
    obtain ⟨elements, count', read', shown⟩ := recognisable .extSuppRates value later
    rw [read] at read'
    cases read'
    rw [extSuppRates_standIn] at shown
    exact shown

theorem recognisable_of_inOrder {ies : List IE} (inOrder : InOrder ies) : Recognisable ies := by
  match ies, inOrder with
  | ssid :: rates :: next :: rest, ⟨startsSSID, startsRates, fine⟩ =>
    intro kind value found
    obtain ⟨ext, more, readExt, same⟩ := read_extSuppRates rest fine
    have readExt' : IEKind.extSuppRates.read ((next :: rest).flatMap IE.bytes) = some (ext, more) :=
      readExt
    obtain ⟨count, read⟩ := readRequestElements_of_starts startsSSID startsRates readExt'
    refine ⟨_, count, read, ?_⟩
    rw [find_starts (next :: rest) startsSSID startsRates] at found
    cases kind with
    | SSID =>
      cases found
      rfl
    | suppRates =>
      cases found
      exact (suppRates_standIn _).symm
    | extSuppRates =>
      rw [extSuppRates_standIn]
      simp only at found
      rw [found] at same
      exact same

theorem recognisable_iff (ies : List IE) :
    Recognisable ies ↔ (∀ kind : IEKind, kind.find ies = none) ∨ InOrder ies := by
  constructor
  · intro recognisable
    by_cases nothing : ∀ kind : IEKind, kind.find ies = none
    · exact .inl nothing
    · exact .inr (inOrder_of_recognisable recognisable nothing)
  · intro either
    cases either with
    | inl nothing =>
      intro kind value found
      rw [nothing kind] at found
      cases found
    | inr inOrder => exact recognisable_of_inOrder inOrder

theorem recognises_request_iff {β : Type} {program : MessageM (Option β)} {count : Nat}
    {view : β → RequestElements}
    (shown : Shows program (behind count readRequestElements) view) (frame : ManagementFrame count) :
    Recognises program [.SSID, .suppRates, .extSuppRates] (fun result => (view result).shown) frame ↔
      (∀ kind : IEKind, kind.find frame.elements = none) ∨ InOrder frame.elements := by
  rw [← recognisable_iff]
  have all (kind : IEKind) : kind ∈ [IEKind.SSID, .suppRates, .extSuppRates] := by
    cases kind <;> simp
  have returns (kind : IEKind) (value : List UInt8) := shown.returns_iff frame fun elements =>
    elements.shown kind = kind.standIn value
  constructor
  · intro recognises kind value found
    exact (returns kind value).mp (recognises kind (all kind) value found)
  · intro recognisable kind _ value found
    exact (returns kind value).mpr (recognisable kind value found)

/-- The rates of an answer are recognised where they come first. -/
def RatesFirst (ies : List IE) : Prop :=
  ∃ rates rest, ies = rates :: rest ∧ IEKind.suppRates.Starts rates

theorem recognises_response_iff (frame : ManagementFrame 30) :
    Recognises cw80211ParseAssociationResponse [.suppRates]
      (fun result _ => result.supportedRates) frame ↔
        IEKind.suppRates.find frame.elements = none ∨ RatesFirst frame.elements := by
  have returns (value : List UInt8) := associationResponse_shows.returns_iff frame fun rates =>
    rates = IEKind.suppRates.standIn value
  constructor
  · intro recognises
    cases found : IEKind.suppRates.find frame.elements with
    | none => exact .inl rfl
    | some value =>
      obtain ⟨elements, moved, read, _⟩ := (returns value).mp (recognises _ (by simp) value found)
      obtain ⟨rates, rest, same, starts, _⟩ := exists_of_read read
      exact .inr ⟨rates, rest, same, starts⟩
  · intro either kind member value found
    rw [List.mem_singleton] at member
    subst member
    apply (returns value).mpr
    cases either with
    | inl nothing =>
      rw [nothing] at found
      cases found
    | inr first =>
      obtain ⟨rates, rest, same, starts⟩ := first
      rw [same] at found ⊢
      have here : IEKind.suppRates.find (rates :: rest) = some rates.value := by
        simp [IEKind.find, starts.1]
      rw [here] at found
      cases found
      exact ⟨_, _, (IEKind.read_ie_eq_some_iff .suppRates rates (rest.flatMap IE.bytes) _ _).mpr
        ⟨starts, rfl, rfl⟩, rfl⟩

/-- The kinds of elements in a request. -/
def requestKinds : List IEKind := [.SSID, .suppRates, .extSuppRates]

/-- The parsers for one element pass it, the parsers for a frame stay inside of it, and they
    recognise what they look for. -/
theorem traversal_iff (kind : IEKind) (frame : List UInt8) (offset : Nat)
    (probeRequest : ManagementFrame 24) (associationRequest : ManagementFrame 28)
    (associationResponse : ManagementFrame 30) :
    (kind.Passes frame offset ↔ kind.Whole frame offset) ∧
    (StaysInside cw80211ParseProbeRequest frame ↔
      24 ≤ frame.length ∧ Reaches requestKinds (frame.drop 24)) ∧
    (StaysInside cw80211ParseAssociationRequest frame ↔
      28 ≤ frame.length ∧ Reaches requestKinds (frame.drop 28)) ∧
    (StaysInside cw80211ParseAssociationResponse frame ↔
      30 ≤ frame.length ∧ Reaches [.suppRates] (frame.drop 30)) ∧
    (Recognises cw80211ParseProbeRequest requestKinds
        (fun result => result.toRequestElements.shown) probeRequest ↔
      (∀ kind : IEKind, kind.find probeRequest.elements = none) ∨ InOrder probeRequest.elements) ∧
    (Recognises cw80211ParseAssociationRequest requestKinds
        (fun result => result.toRequestElements.shown) associationRequest ↔
      (∀ kind : IEKind, kind.find associationRequest.elements = none) ∨
        InOrder associationRequest.elements) ∧
    (Recognises cw80211ParseAssociationResponse [.suppRates] (fun result _ => result.supportedRates)
        associationResponse ↔
      IEKind.suppRates.find associationResponse.elements = none ∨
        RatesFirst associationResponse.elements) :=
  ⟨kind.passes_iff_whole frame offset, request_staysInside_iff probeRequest_shows frame,
    request_staysInside_iff associationRequest_shows frame,
    associationResponse_staysInside_iff frame,
    recognises_request_iff probeRequest_shows probeRequest,
    recognises_request_iff associationRequest_shows associationRequest,
    recognises_response_iff associationResponse⟩

/-- An association request with an SSID and rates and nothing behind them. -/
def plainRequest : ManagementFrame 28 where
  fixed := List.replicate 28 0
  length_fixed := rfl
  elements := [⟨0, [97, 112], by simp⟩, ⟨1, [130, 132, 139, 150], by simp⟩]

/-- An SSID whose length is 200. -/
def longSSID : List UInt8 := 0 :: 200 :: List.replicate 200 97

/-- In the request a type is read behind its end, and the long SSID is not passed. -/
theorem plainRequest_not_inside :
    ¬ StaysInside cw80211ParseAssociationRequest plainRequest.bytes ∧
      ¬ IEKind.SSID.Passes longSSID 0 := by
  constructor
  · rw [associationRequest_shows.staysInside_iff]
    decide
  · rw [IEKind.passes_iff_whole]
    rintro ⟨type, here, whole⟩
    cases here
    obtain ⟨len, there, short, _⟩ := whole rfl
    cases there
    exact absurd short (by decide)

end WlanController.Frames
