import WlanController.Protocol.Layout
import WlanController.Protocol.TransportHeader

/-!
# The layout of the transport header

A receiver that only wants what is behind the transport header does not look at its values, so
all that matters is how many bytes the header takes and whether it is refused.
-/

namespace WlanController.Protocol

variable {α β : Type}

/-- The program spans the layout, whatever it returns. -/
def Covers (program : MessageM α) (layout : Layout Unit) : Prop :=
  Spans (do let _ ← program; return ()) layout

section Rules

variable {program : MessageM α} {layout layout' : Layout Unit}

theorem Spans.covers {bodyLayout : Layout α} (spans : Spans program bodyLayout) :
    Covers program (do let _ ← bodyLayout; return ()) :=
  spans.bind fun _ => spans_pure ()

theorem covers_pure (value : α) : Covers (pure value) (pure ()) := by
  rw [Covers, pure_bind]
  exact spans_pure ()

theorem covers_setDataMsgType (dataMsgType : CWDataMsgType) :
    Covers (setDataMsgType dataMsgType) (pure ()) := by
  intro message
  exact .inl ⟨.inr rfl, { message with dataMsgType := some dataMsgType }, rfl, rfl, rfl⟩

theorem covers_errorRaise_bind (code : CWErrorCode) (text : Option String) (next : β → MessageM α) :
    Covers (cwErrorRaise code text >>= next) (.refuse code text) := by
  intro message
  exact .inl ⟨.inr rfl, message, rfl⟩

/-- What comes behind may depend on the value. -/
theorem Spans.bindCovers {bodyLayout : Layout β} {first : MessageM β} {next : β → MessageM α}
    {nextLayout : β → Layout Unit} (spans : Spans first bodyLayout)
    (covers : ∀ value, Covers (next value) (nextLayout value)) :
    Covers (first >>= next) (bodyLayout >>= nextLayout) := by
  rw [Covers, bind_assoc]
  exact spans.bind covers

/-- What comes behind may not. -/
theorem Covers.bind {next : α → MessageM β} (covers : Covers program layout)
    (covers' : ∀ value, Covers (next value) layout') :
    Covers (program >>= next) (layout >>= fun _ => layout') := by
  intro message
  rw [bind_assoc, EStateM.run_bind]
  have first := covers message
  rw [EStateM.run_bind] at first
  have later (value : α) : Spans (do
      let _ ← (do let _ ← program; return () : MessageM Unit)
      let _ ← next value
      return ()) (layout >>= fun _ => layout') :=
    Spans.bind covers fun _ => covers' value
  cases ran : program.run message with
  | error failure middle =>
    rw [ran] at first
    cases first with
    | inl returned =>
      obtain ⟨here, ended⟩ := returned
      cases read : layout.value message.msg message.offset with
      | ok value =>
        rw [read] at ended
        obtain ⟨after, _, _, same⟩ := ended
        cases same
      | error refusal =>
        rw [read] at ended
        have size : (layout >>= fun _ => layout').span message = layout.span message :=
          Layout.size_bind_error read
        rw [size, Layout.value_bind_error read]
        exact .inl ⟨here, ended⟩
    | inr strayed =>
      obtain ⟨outside, strays⟩ := strayed
      refine .inr ⟨Nat.lt_of_lt_of_le outside ?_, strays⟩
      exact Nat.add_le_add_left (Nat.le_add_right _ _) _
  | ok value middle =>
    have both := later value message
    rw [EStateM.run_bind, EStateM.run_bind, ran] at both
    exact both

theorem Covers.andReturn (covers : Covers program layout) (f : α → β) :
    Covers (do return f (← program)) layout := by
  simp only [Covers, bind_assoc, pure_bind]
  exact covers

theorem Covers.ite {condition : Prop} [Decidable condition] {program' : MessageM α}
    (covers : condition → Covers program layout) (covers' : ¬ condition → Covers program' layout') :
    Covers (if condition then program else program') (if condition then layout else layout') := by
  by_cases holds : condition
  · rw [if_pos holds, if_pos holds]
    exact covers holds
  · rw [if_neg holds, if_neg holds]
    exact covers' holds

/-- Two branches that read the same. -/
theorem Covers.either {condition : Prop} [Decidable condition] {program' : MessageM α}
    (covers : Covers program layout) (covers' : Covers program' layout) :
    Covers (if condition then program else program') layout := by
  split
  · exact covers
  · exact covers'

end Rules

/-! ## The header -/

def transportBindingLayout : Layout Unit := do
  let firstWord ← Layout.number 4
  if (cwGetField32 (BitVec.ofNat 32 firstWord) cwTransportHeaderLength).toNat ≠
      cwBindingDataLength then
    Layout.refuse .invalidFormat "Wrong Binding Data Field Length"
  else do
    let _secondWord ← Layout.number 4
    return ()

def radioMACLayout : Layout Unit := do
  let _macLen ← Layout.number 1
  let _bytes ← Layout.raw 7
  return ()

/-- Outside the data channel, with no address to copy to. -/
def controlHeaderOptionsLayout (transport4BytesLen optionalWireless m : Nat) : Layout Unit :=
  if transport4BytesLen = 4 ∧ optionalWireless = 1 then transportBindingLayout
  else if m ≠ 0 then radioMACLayout else pure ()

def transportHeaderLayout : Layout Unit := do
  let firstWord ← Layout.number 4
  let field := fun position => (cwGetField32Signed (BitVec.ofNat 32 firstWord) position).toNat
  if field cwTransportHeaderVersion ≠ cwProtocolVersion then
    Layout.refuse .invalidFormat "Wrong Protocol Version"
  else do
    let transport4BytesLen := field cwTransportHeaderHLEN
    let optionalWireless := field cwTransportHeaderW
    let m := field cwTransportHeaderM
    let _secondWord ← Layout.number 4
    controlHeaderOptionsLayout transport4BytesLen optionalWireless m
    if ¬ (transport4BytesLen = 2 ∨ transport4BytesLen = 4 ∧ optionalWireless = 1 ∨ m ≠ 0) then
      Layout.refuse .invalidFormat "Malformed Transport Header"
    else return ()

theorem covers_transportBinding : Covers cwParseTransportHeaderBinding transportBindingLayout := by
  unfold cwParseTransportHeaderBinding
  apply spans_retrieve32.bindCovers
  intro firstWord
  dsimp only
  apply Covers.ite
  · exact fun _ => covers_errorRaise_bind _ _ _
  · intro _
    apply spans_retrieve32.bindCovers
    intro secondWord
    -- only the kind of packet is set, which takes no bytes
    have set (dataMsgType : CWDataMsgType) (values : CWBindingTransportHeaderValues) :
        Covers (do setDataMsgType dataMsgType; return values) (pure ()) :=
      (covers_setDataMsgType dataMsgType).bind fun _ => covers_pure values
    exact ((set _ _).either (set _ _)).either ((set _ _).either (covers_pure _))

theorem covers_radioMAC : Covers (cwParseTransportHeaderMACAddress none) radioMACLayout := by
  unfold cwParseTransportHeaderMACAddress
  apply spans_retrieve8.bindCovers
  intro macLen
  apply (spans_rawBytes 7).bindCovers
  intro bytes
  exact covers_pure none

theorem covers_controlHeaderOptions (transport4BytesLen optionalWireless m : Nat) :
    Covers (parseControlHeaderOptions transport4BytesLen optionalWireless m none)
      (controlHeaderOptionsLayout transport4BytesLen optionalWireless m) := by
  apply Covers.ite
  · exact fun _ => covers_transportBinding.andReturn _
  · intro _
    apply Covers.andReturn
    apply Covers.ite
    · exact fun _ => covers_radioMAC
    · exact fun _ => covers_pure none

theorem covers_transportHeader :
    Covers (cwParseTransportHeader false none) transportHeaderLayout := by
  unfold cwParseTransportHeader
  apply spans_retrieve32.bindCovers
  intro firstWord
  dsimp only
  apply Covers.ite
  · exact fun _ => covers_errorRaise_bind _ _ _
  · intro _
    apply spans_retrieve32.bindCovers
    intro secondWord
    apply (covers_controlHeaderOptions _ _ _).bind
    intro options
    apply Covers.ite
    · exact fun _ => covers_errorRaise_bind _ _ _
    · exact fun _ => covers_pure _

end WlanController.Protocol
