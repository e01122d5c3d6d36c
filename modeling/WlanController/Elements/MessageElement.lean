import WlanController.Protocol.CountedRecords
import WlanController.Radios.StationMessage

/-!
# Message elements

An element is sent as its type, the length of its body and the body.  Both numbers have
sixteen bits, so a longer body announces less than it has.

An element arrives if the receiver that reads its header gets its values out of the body and
ends behind it.  That comes down to two things: the body is no longer than can be announced,
and what the receiver makes of its bytes are the values they were made from.
-/

namespace WlanController.Elements

open Protocol Radios

variable {α : Type}

def cwParseFormatMsgElem : MessageM (Nat × Nat) := do
  let type ← cwProtocolRetrieve16
  let len ← cwProtocolRetrieve16
  return (type, len)

/-- The header of an element and the parser of its type. -/
def parseFormatted (parse : Nat → MessageM α) : MessageM (Nat × α) := do
  let (type, len) ← cwParseFormatMsgElem
  let values ← parse len
  return (type, values)

def elementBytes (type : Nat) (body : List UInt8) : List UInt8 :=
  BigEndian.encode 2 type ++ (BigEndian.encode 2 body.length ++ body)

/-- The values an element was assembled from are what the receiver reads, up to its end. -/
def Arrives (assembled : Except Failure CWProtocolMessage) (type : Nat) (parse : Nat → MessageM α)
    (values : α) : Prop :=
  ∃ element, assembled = .ok element ∧
    Reads (parseFormatted parse) element.contents (type, values) none

/-- A number that is too long for its bytes is cut. -/
theorem encode_mod (count value : Nat) :
    BigEndian.encode count (value % 256 ^ count) = BigEndian.encode count value := by
  have split := BigEndian.encode_add_mul count (value % 256 ^ count) (value / 256 ^ count)
  rw [Nat.mul_comm, Nat.mod_add_div] at split
  exact split.symm

theorem reads_formatMsgElem (type length : Nat) (known : type < 65536) :
    Reads cwParseFormatMsgElem (BigEndian.encode 2 type ++ BigEndian.encode 2 length)
      (type, length % 65536) none := by
  have small : length % 65536 < 65536 := Nat.mod_lt _ (by omega)
  have announced := reads_retrieve16 small
  rw [show (65536 : Nat) = 256 ^ 2 from rfl, encode_mod] at announced
  exact (reads_retrieve16 known).andThen (announced.andReturn (reads_pure _))

/-- What is read is read for one value only. -/
theorem Reads.unique {program : MessageM α} {bytes : List UInt8} {value value' : α}
    (reads : Reads program bytes value none) (reads' : Reads program bytes value' none) :
    value = value' := by
  have ahead : (⟨bytes, 0, none⟩ : CWProtocolMessage).msg.drop 0 = bytes ++ [] := by simp
  have ran := reads ⟨bytes, 0, none⟩ [] ahead
  rw [reads' ⟨bytes, 0, none⟩ [] ahead] at ran
  exact (EStateM.Result.ok.inj ran).1.symm

/-- The element as a whole, when its body can be announced. -/
theorem reads_formatted {type : Nat} {body : List UInt8} {parse : Nat → MessageM α} {values : α}
    (known : type < 65536) (short : body.length < 65536)
    (reads : ∀ start, ReadsFrom start (parse body.length) body values) :
    Reads (parseFormatted parse) (elementBytes type body) (type, values) none := by
  have header := reads_formatMsgElem type body.length known
  rw [Nat.mod_eq_of_lt short] at header
  have inside : elementBytes type body ≠ [] := by simp [elementBytes, BigEndian.encode]
  refine ReadsFrom.reads (fun start => ?_) inside
  have values := (reads (start + 4)).map fun values => (type, values)
  have both : ReadsFrom start (parseFormatted parse)
      (BigEndian.encode 2 type ++ BigEndian.encode 2 body.length ++ body) (type, _) :=
    (header.from start).bind (by simpa [← bind_pure_comp] using values)
  rwa [List.append_assoc] at both

/-- A receiver that ends where the element does has been told where that is. -/
theorem length_lt_of_reads {type : Nat} {body : List UInt8} {parse : Nat → MessageM α} {values : α}
    (known : type < 65536) (parser : ∀ len, ∃ parts, parse len = cwParseMessageElement len parts)
    (reads : Reads (parseFormatted parse) (elementBytes type body) (type, values) none) :
    body.length < 65536 := by
  have ahead : (⟨elementBytes type body, 0, none⟩ : CWProtocolMessage).msg.drop 0 =
      elementBytes type body ++ [] := by simp
  have ran := reads ⟨elementBytes type body, 0, none⟩ [] ahead
  have header : cwParseFormatMsgElem.run ⟨elementBytes type body, 0, none⟩ =
      .ok (type, body.length % 65536) ⟨elementBytes type body, 4, none⟩ := by
    simpa using reads_formatMsgElem type body.length known ⟨elementBytes type body, 0, none⟩ body
      (by simp [elementBytes])
  obtain ⟨parts, same⟩ := parser (body.length % 65536)
  simp only [parseFormatted, EStateM.run_bind, header, same] at ran
  cases parsed : (cwParseMessageElement (body.length % 65536) parts).run
      ⟨elementBytes type body, 4, none⟩ with
  | error failure middle =>
    rw [parsed] at ran
    cases ran
  | ok values' middle =>
    have moved := offset_of_messageElement parsed
    rw [parsed] at ran
    simp only [EStateM.run_pure, EStateM.Result.ok.injEq] at ran
    have ends := congrArg CWProtocolMessage.offset ran.2
    have length : (elementBytes type body).length = 4 + body.length := by
      simp only [elementBytes, List.length_append, BigEndian.length_encode]
      omega
    have small : body.length % 65536 < 65536 := Nat.mod_lt _ (by omega)
    simp only [length] at ends moved
    omega

/-- What an element arrives with: `received` is what the receiver makes of a body whose length
    it knows. -/
theorem arrives_iff {type : Nat} {body : List UInt8} {assembled : Except Failure CWProtocolMessage}
    {parse : Nat → MessageM α} {values received : α} (known : type < 65536)
    (assembles : assembled = .ok (filled (elementBytes type body) 2))
    (parser : ∀ len, ∃ parts, parse len = cwParseMessageElement len parts)
    (reads : body.length < 65536 → ∀ start, ReadsFrom start (parse body.length) body received) :
    Arrives assembled type parse values ↔ body.length < 65536 ∧ received = values := by
  constructor
  · rintro ⟨element, same, read⟩
    rw [assembles] at same
    cases same
    rw [contents_filled] at read
    have short := length_lt_of_reads known parser read
    have whole := Reads.unique (reads_formatted known short (reads short)) read
    exact ⟨short, (Prod.mk.inj whole).2⟩
  · rintro ⟨short, same⟩
    refine ⟨_, assembles, ?_⟩
    rw [contents_filled, ← same]
    exact reads_formatted known short (reads short)

/-- A parser that accepts the bytes reads them. -/
theorem Accepts.readsFrom {program : MessageM α} {language : List UInt8 → α → Prop}
    (accepts : Accepts program language) {bytes : List UInt8} {value : α}
    (accepted : language bytes value) (start : Nat) : ReadsFrom start program bytes value := by
  intro message rest valid _ ahead
  exact (accepts message valid value _).mpr ⟨bytes, ⟨rest, ahead.symm⟩, accepted, rfl⟩

/-! ## Buffers that are too small -/

/-- The program moves the cursor by `count` bytes when it returns, all of them inside the
    buffer. -/
def Fills (program : MessageM Unit) (count : Nat) : Prop :=
  ∀ message after, message.Valid → program.run message = .ok () after →
    after.offset = message.offset + count ∧ after.msg.length = message.msg.length ∧ after.Valid

theorem fills_rawBytes (bytes : List UInt8) : Fills (cwProtocolStoreRawBytes bytes) bytes.length := by
  intro message after _ ran
  simp only [EStateM.run, cwProtocolStoreRawBytes] at ran
  split at ran
  next room =>
    cases ran
    have kept : (message.msg.take message.offset ++ bytes ++
        message.msg.drop (message.offset + bytes.length)).length = message.msg.length := by
      simp only [List.length_append, List.length_take, List.length_drop]
      omega
    refine ⟨rfl, kept, ?_⟩
    simp only [CWProtocolMessage.Valid, kept]
    exact room
  next full => cases ran

theorem fills_store8 (val : Nat) : Fills (cwProtocolStore8 val) 1 := fills_rawBytes _

theorem fills_store16 (val : Nat) : Fills (cwProtocolStore16 val) 2 := fills_rawBytes _

theorem Fills.bind {first second : MessageM Unit} {count count' : Nat} (fills : Fills first count)
    (fills' : Fills second count') : Fills (first >>= fun _ => second) (count + count') := by
  intro message after valid ran
  rw [EStateM.run_bind] at ran
  cases head : first.run message with
  | error failure middle =>
    rw [head] at ran
    cases ran
  | ok value middle =>
    rw [head] at ran
    obtain ⟨moved, kept, valid'⟩ := fills message middle valid head
    obtain ⟨moved', kept', valid''⟩ := fills' middle after valid' ran
    exact ⟨by omega, by omega, valid''⟩

theorem fills_forM {ρ : Type} {store : ρ → MessageM Unit} {count : Nat}
    (fills : ∀ r, Fills (store r) count) (records : List ρ) :
    Fills (records.forM store) (count * records.length) := by
  induction records with
  | nil =>
    intro message after valid ran
    cases ran
    exact ⟨by simp, rfl, valid⟩
  | cons r records inductionHypothesis =>
    have both := (fills r).bind inductionHypothesis
    rw [List.length_cons, Nat.mul_succ, Nat.add_comm]
    exact both

/-- A message is assembled only into a buffer with room for it. -/
theorem Fills.le_size {program : MessageM Unit} {count size : Nat} (fills : Fills program count)
    {message : CWProtocolMessage} (assembled : assembleInto size program = .ok message) :
    count ≤ size := by
  have valid : (cwCreateProtocolMessage size).Valid := Nat.zero_le _
  rw [assembleInto] at assembled
  cases ran : program.run (cwCreateProtocolMessage size) with
  | error failure after =>
    rw [ran] at assembled
    cases assembled
  | ok value after =>
    obtain ⟨moved, kept, valid'⟩ := fills _ after valid ran
    simp only [CWProtocolMessage.Valid, moved, kept, cwCreateProtocolMessage,
      List.length_replicate] at valid'
    omega

end WlanController.Elements
