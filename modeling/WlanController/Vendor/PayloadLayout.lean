import WlanController.Elements.ElementLayouts
import WlanController.Protocol.ReadsAlike
import WlanController.Vendor.VendorPayloads

/-!
# The layout of vendor payloads

How many bytes a WTP reads of a vendor payload is a matter of what the payload says, not of the
element around it.  A UCI payload whose length is too large makes the WTP free what it has not
allocated.
-/

namespace WlanController.Vendor

open Protocol Elements

/-! ## Programs that go on behind a number -/

section Behind

variable {α : Type} {program : MessageM Nat} {count : Nat} {next next' : Nat → MessageM α}

/-- The program reads outside of an object. -/
def LeavesObject (result : EStateM.Result Failure CWProtocolMessage α) : Prop :=
  ∃ object after, result = .error (.outOfBounds object) after

theorem run_behind_eq (spans : Spans program (.number count)) (message : CWProtocolMessage)
    (same : ∀ behind : CWProtocolMessage, behind.msg = message.msg →
      behind.offset = message.offset + count →
        (next (numberAt message.msg message.offset count)).run behind =
          (next' (numberAt message.msg message.offset count)).run behind) :
    (program >>= next).run message = (program >>= next').run message := by
  rw [EStateM.run_bind, EStateM.run_bind]
  cases spans message with
  | inl returned =>
    obtain ⟨_, behind, bytes, offset, ran⟩ := returned
    rw [ran]
    exact same behind bytes offset
  | inr strayed =>
    obtain ⟨_, after, ran⟩ := strayed
    rw [ran]

theorem leaves_behind (spans : Spans program (.number count)) (message : CWProtocolMessage)
    (leaves : ∀ behind : CWProtocolMessage, behind.msg = message.msg →
      behind.offset = message.offset + count →
        LeavesObject ((next (numberAt message.msg message.offset count)).run behind)) :
    LeavesObject ((program >>= next).run message) := by
  rw [EStateM.run_bind]
  cases spans message with
  | inl returned =>
    obtain ⟨_, behind, bytes, offset, ran⟩ := returned
    rw [ran]
    exact leaves behind bytes offset
  | inr strayed =>
    obtain ⟨_, after, ran⟩ := strayed
    rw [ran]
    exact ⟨_, _, rfl⟩

theorem LeavesObject.bind {β : Type} {first : MessageM β} {then_ : β → MessageM α}
    {message : CWProtocolMessage} (leaves : LeavesObject (first.run message)) :
    LeavesObject ((first >>= then_).run message) := by
  obtain ⟨object, after, ran⟩ := leaves
  rw [EStateM.run_bind, ran]
  exact ⟨object, after, rfl⟩

end Behind

/-! ## Layouts -/

/-- The arguments can be allocated, with a byte more. -/
def ArgsAllocatable (argsLen : Int) : Prop := argsLen = 0 ∨ 0 < argsLen ∧ argsLen + 1 < 2147483648

instance (argsLen : Int) : Decidable (ArgsAllocatable argsLen) :=
  inferInstanceAs (Decidable (_ ∨ _))

def argsLayout (argsLen : Int) : Layout (Option CString) :=
  if argsLen = 0 then return none
  else do return some (CString.ofBuffer (← Layout.raw argsLen.toNat))

def uciLayout : Layout CWVendorUciValues := do
  let command ← Layout.number 1
  let argsLen ← Layout.number 4
  let commandArgs ← argsLayout (asInt argsLen)
  return ⟨.ofNat command, commandArgs⟩

def bytesLayout (len : Int) : Layout (Option (List UInt8)) :=
  if Unallocatable len then return none else do return some (← Layout.raw len.toNat)

def wumArgsLayout (type : UInt8) : Layout CWVendorWumValues :=
  if known : type ≠ 3 ∧ type ≠ 5 then return .plain type known
  else if type = wtpUpdateRequest then do
    let major ← Layout.number 1
    let minor ← Layout.number 1
    let revision ← Layout.number 1
    let packSize ← Layout.number 4
    return .updateRequest (.ofNat major) (.ofNat minor) (.ofNat revision) (.ofNat packSize)
  else do
    let seqNum ← Layout.number 4
    let size ← Layout.number 4
    let buf ← bytesLayout (asInt size)
    return .cupFragment (.ofNat seqNum) (.ofNat size) buf

def vendorPayloadLayout : Layout CWProtocolVendorSpecificValues := do
  let vendorPayloadType ← Layout.number 2
  if vendorPayloadType = vendorSpecPayloadUCI then do return .uci (← uciLayout)
  else if vendorPayloadType = vendorSpecPayloadWUM then do
    let type ← Layout.number 1
    return .wum (← wumArgsLayout (.ofNat type))
  else Layout.refuse .none none

/-- What is announced for the arguments of a payload can be allocated. -/
def PayloadAllocatable (bytes : List UInt8) (offset : Nat) : Prop :=
  numberAt bytes offset 2 = vendorSpecPayloadUCI →
    ArgsAllocatable (asInt (numberAt bytes (offset + 2 + 1) 4))

/-! ## The parser spans its layout where it can allocate -/

/-- The arguments where they can be allocated. -/
def retrieveArgs (argsLen : Int) : MessageM (Option CString) :=
  if argsLen = 0 then return none
  else do return some (CString.ofBuffer (← cwProtocolRetrieveRawBytes argsLen.toNat))

def allocatedUCIPayload : MessageM CWVendorUciValues := do
  let command ← cwProtocolRetrieve8
  let argsLen ← cwProtocolRetrieve32
  let commandArgs ← retrieveArgs (asInt argsLen)
  return ⟨.ofNat command, commandArgs⟩

def allocatedVendorPayload : MessageM CWProtocolVendorSpecificValues := do
  let vendorPayloadType ← cwProtocolRetrieve16
  if vendorPayloadType = vendorSpecPayloadUCI then do return .uci (← allocatedUCIPayload)
  else if vendorPayloadType = vendorSpecPayloadWUM then do
    let type ← cwProtocolRetrieve8
    return .wum (← parseWumArgs (.ofNat type))
  else cwErrorRaise .none none

theorem spans_args (argsLen : Int) : Spans (retrieveArgs argsLen) (argsLayout argsLen) :=
  Spans.ite (fun _ => spans_pure none) fun _ => (spans_rawBytes _).bind fun _ => spans_pure _

theorem spans_retrieveBytes (len : Int) : Spans (retrieveBytes len) (bytesLayout len) :=
  Spans.ite (fun _ => spans_pure none) fun _ => (spans_rawBytes _).bind fun _ => spans_pure _

theorem spans_wumArgs (type : UInt8) : Spans (parseWumArgs type) (wumArgsLayout type) := by
  by_cases known : type ≠ 3 ∧ type ≠ 5
  · rw [parseWumArgs_plain known, wumArgsLayout, dif_pos known]
    exact spans_pure _
  · rw [parseWumArgs, wumArgsLayout, dif_neg known, dif_neg known]
    apply Spans.ite
    · intro _
      exact spans_retrieve8.bind fun _ => spans_retrieve8.bind fun _ => spans_retrieve8.bind fun _ =>
        spans_retrieve32.bind fun _ => spans_pure _
    · intro _
      exact spans_retrieve32.bind fun _ => spans_retrieve32.bind fun _ =>
        (spans_retrieveBytes _).bind fun _ => spans_pure _

theorem spans_allocatedUCI : Spans allocatedUCIPayload uciLayout :=
  spans_retrieve8.bind fun _ => spans_retrieve32.bind fun _ => (spans_args _).bind fun _ =>
    spans_pure _

theorem spans_allocatedVendor : Spans allocatedVendorPayload vendorPayloadLayout := by
  apply spans_retrieve16.bind
  intro vendorPayloadType
  apply Spans.ite
  · intro _
    exact spans_allocatedUCI.bind fun _ => spans_pure _
  intro _
  apply Spans.ite
  · intro _
    exact spans_retrieve8.bind fun _ => (spans_wumArgs _).bind fun _ => spans_pure _
  · intro _
    exact spans_errorRaise _ _

theorem retrieveString_eq {argsLen : Int} (allocatable : ArgsAllocatable argsLen) :
    retrieveString argsLen = retrieveArgs argsLen := by
  rw [retrieveString, retrieveArgs]
  by_cases empty : argsLen = 0
  · rw [if_neg (not_not_intro empty), if_pos empty]
  · have positive : 0 < argsLen ∧ argsLen + 1 < 2147483648 := allocatable.resolve_left empty
    have fits : ¬ Unallocatable (argsLen + 1) := by
      simp only [Unallocatable]
      omega
    rw [if_pos empty, if_neg empty, cwProtocolRetrieveStr, if_neg fits, if_neg (by omega)]

/-- The test behind the length is about what cannot be allocated. -/
theorem args_tested {argsLen : Int} (allocatable : ArgsAllocatable argsLen) :
    ¬ (argsLen ≠ 0 ∧ Unallocatable (argsLen + 1)) := by
  simp only [ArgsAllocatable] at allocatable
  simp only [Unallocatable]
  omega

theorem cwParseVendorPayload_eq (len : Nat) {message : CWProtocolMessage}
    (allocatable : PayloadAllocatable message.msg message.offset) :
    (cwParseVendorPayload len).run message = allocatedVendorPayload.run message := by
  apply run_behind_eq spans_retrieve16
  intro behind bytes offset
  by_cases uci : numberAt message.msg message.offset 2 = vendorSpecPayloadUCI
  · rw [if_pos uci, if_pos uci]
    have same : cwParseUCIPayload.run behind = allocatedUCIPayload.run behind := by
      apply run_behind_eq spans_retrieve8
      intro behind' bytes' offset'
      apply run_behind_eq spans_retrieve32
      intro behind'' _ _
      have known := allocatable uci
      rw [show numberAt behind'.msg behind'.offset 4 =
        numberAt message.msg (message.offset + 2 + 1) 4 by rw [bytes', bytes, offset', offset]]
      rw [← retrieveString_eq known]
      simp only [if_neg (args_tested known)]
    simp only [EStateM.run_bind, same]
  · rw [if_neg uci, if_neg uci]
    simp only [cwParseWUMPayload, bind_assoc]
    rfl

theorem cwParseVendorPayload_leaves (len : Nat) {message : CWProtocolMessage}
    (large : ¬ PayloadAllocatable message.msg message.offset) :
    LeavesObject ((cwParseVendorPayload len).run message) := by
  simp only [PayloadAllocatable, Classical.not_imp] at large
  obtain ⟨uci, large⟩ := large
  apply leaves_behind spans_retrieve16
  intro behind bytes offset
  rw [if_pos uci]
  apply LeavesObject.bind
  apply leaves_behind spans_retrieve8
  intro behind' bytes' offset'
  apply leaves_behind spans_retrieve32
  intro behind'' _ _
  rw [show numberAt behind'.msg behind'.offset 4 =
    numberAt message.msg (message.offset + 2 + 1) 4 by rw [bytes', bytes, offset', offset]]
  generalize asInt (numberAt message.msg (message.offset + 2 + 1) 4) = argsLen at large ⊢
  by_cases before : argsLen = -1
  · subst before
    exact ⟨.receiveBuffer, behind'', rfl⟩
  · have tested : argsLen ≠ 0 ∧ Unallocatable (argsLen + 1) := by
      simp only [ArgsAllocatable] at large
      simp only [Unallocatable]
      omega
    simp only [if_pos tested]
    exact ⟨.message, behind'', rfl⟩

/-! ## What becomes of a payload -/

section Treatment

variable {σ τ : Type} {abs : σ → τ} {s : Parsing σ}

def payloadTreatment (note : CWProtocolVendorSpecificValues → τ → τ) (bytes : List UInt8)
    (offset : Nat) (state : τ) : Treatment τ :=
  { Treatment.taken vendorPayloadLayout note bytes offset state with
    fits := PayloadAllocatable bytes offset }

theorem describes_vendorPayload (len : Nat) (valid : s.message.Valid)
    {assign : CWProtocolVendorSpecificValues → σ → σ}
    {note : CWProtocolVendorSpecificValues → τ → τ}
    (noted : ∀ value, abs (assign value s.values) = note value (abs s.values)) :
    (payloadTreatment note s.message.msg s.message.offset (abs s.values)).Describes abs s
      ((do assigning (assign (← reading (cwParseVendorPayload len)))).run s) := by
  by_cases allocatable : PayloadAllocatable s.message.msg s.message.offset
  · have same : (reading (cwParseVendorPayload len) : ParserM σ _).run s =
        (reading allocatedVendorPayload).run s := by
      have ran : (cwParseVendorPayload len).run s.message = _ :=
        cwParseVendorPayload_eq len allocatable
      simp only [EStateM.run, reading] at ran ⊢
      rw [ran]
    rw [EStateM.run_bind, same, ← EStateM.run_bind]
    exact (Treatment.describes_taken spans_allocatedVendor valid noted).congr rfl rfl
      (iff_of_true allocatable trivial) Iff.rfl rfl
  · constructor
    · exact fun inside => absurd inside.2 allocatable
    · exact fun inside => absurd inside.2 allocatable
    · intro _
      obtain ⟨object, after, ran⟩ := cwParseVendorPayload_leaves len allocatable
      refine ⟨_, _, by rw [EStateM.run_bind, run_reading_error ran], ?_⟩
      intro code text same
      cases same

end Treatment

/-! ## Payloads elsewhere -/

theorem readsAlike_retrieveStr (len : Int) : ReadsAlike (cwProtocolRetrieveStr len) :=
  ReadsAlike.ite (readsAlike_pure none) (ReadsAlike.ite (readsAlike_error _)
    ((readsAlike_rawBytes _).bind fun _ => readsAlike_pure _))

theorem readsAlike_uciPayload : ReadsAlike cwParseUCIPayload := by
  apply readsAlike_retrieve8.bind
  intro command
  apply readsAlike_retrieve32.bind
  intro argsLen
  apply ReadsAlike.ite (readsAlike_error _)
  exact (ReadsAlike.ite (readsAlike_retrieveStr _) (readsAlike_pure none)).bind fun _ =>
    readsAlike_pure _

theorem readsAlike_retrieveBytes (len : Int) : ReadsAlike (retrieveBytes len) :=
  ReadsAlike.ite (readsAlike_pure none) ((readsAlike_rawBytes _).bind fun _ => readsAlike_pure _)

theorem readsAlike_wumArgs (type : UInt8) : ReadsAlike (parseWumArgs type) := by
  by_cases known : type ≠ 3 ∧ type ≠ 5
  · rw [parseWumArgs_plain known]
    exact readsAlike_pure _
  · rw [parseWumArgs, dif_neg known]
    apply ReadsAlike.ite
    · exact readsAlike_retrieve8.bind fun _ => readsAlike_retrieve8.bind fun _ =>
        readsAlike_retrieve8.bind fun _ => readsAlike_retrieve32.bind fun _ => readsAlike_pure _
    · exact readsAlike_retrieve32.bind fun _ => readsAlike_retrieve32.bind fun _ =>
        (readsAlike_retrieveBytes _).bind fun _ => readsAlike_pure _

theorem readsAlike_vendorPayload (len : Nat) : ReadsAlike (cwParseVendorPayload len) := by
  apply readsAlike_retrieve16.bind
  intro vendorPayloadType
  apply ReadsAlike.ite
  · exact readsAlike_uciPayload.bind fun _ => readsAlike_pure _
  apply ReadsAlike.ite
  · exact (readsAlike_retrieve8.bind fun _ => readsAlike_wumArgs _).bind fun _ => readsAlike_pure _
  · exact readsAlike_error _

end WlanController.Vendor
