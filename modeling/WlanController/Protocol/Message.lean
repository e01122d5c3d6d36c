import WlanController.Foundation.BigEndian

/-!
# Protocol messages

A `CWProtocolMessage` is an allocated byte buffer with a cursor.  The store
functions overwrite the buffer at the cursor, the retrieve functions read it
there, and both move the cursor on.  An access past the end of the buffer is
undefined behaviour in C; here it is a failure of its own, so that staying inside
the allocation is something to prove.

`Stores` and `Reads` are the rules the codecs are verified with: what a sequence
of stores leaves in a fresh message and what a sequence of retrieves finds there.
-/

namespace WlanController.Protocol

inductive CWErrorCode where
  | success | outOfMemory | wrongArg | interrupted | needResource | comunicating | creating
  | general | operationAborted | sending | receiving | invalidFormat | timeExpired | none
  deriving DecidableEq, Repr

/-- The values of `data_msgType`, from 1 on in the source. -/
inductive CWDataMsgType where
  | frame | stats | freqStats | ieee8023Frame | keepAlive | ieee80211Frame
  deriving DecidableEq, Repr

/-- The objects whose bounds an access can leave: the message stored into, the bytes
    retrieved from and the `RadioMAC` argument of the header parser. -/
inductive MemoryObject where
  | message | receiveBuffer | radioMAC
  deriving DecidableEq, Repr

/-- How a call can end other than with `CW_TRUE`. -/
inductive Failure where
  /-- `CWErrorRaise(code, text)`, on which the call returns `CW_FALSE`. -/
  | raised (code : CWErrorCode) (text : Option String)
  /-- An access outside an object. -/
  | outOfBounds (object : MemoryObject)
  deriving DecidableEq, Repr

/-- A buffer of `msg.length` allocated bytes.  `dataMsgType` is `none` until the
    source assigns `data_msgType`, which it leaves uninitialized. -/
structure CWProtocolMessage where
  msg : List UInt8
  offset : Nat
  dataMsgType : Option CWDataMsgType
  deriving DecidableEq, Repr

abbrev MessageM := EStateM Failure CWProtocolMessage

/-- `CW_CREATE_PROTOCOL_MESSAGE`: a zeroed buffer.  Allocation of a size the program
    computes as nonnegative is taken to succeed. -/
def cwCreateProtocolMessage (size : Nat) : CWProtocolMessage :=
  ⟨List.replicate size 0, 0, none⟩

/-- The bytes stored so far. -/
def CWProtocolMessage.contents (message : CWProtocolMessage) : List UInt8 :=
  message.msg.take message.offset

/-- Everything stored lies inside the buffer. -/
def CWProtocolMessage.Valid (message : CWProtocolMessage) : Prop :=
  message.offset ≤ message.msg.length

/-- `&msg[start]` as the source of a copy of `len` bytes. -/
def CWProtocolMessage.bytesAt (message : CWProtocolMessage) (start len : Nat) :
    Except Failure (List UInt8) :=
  if start + len ≤ message.msg.length then .ok ((message.msg.drop start).take len)
  else .error (.outOfBounds .message)

def cwErrorRaise {α : Type} (code : CWErrorCode) (text : Option String) : MessageM α :=
  throw (.raised code text)

def cwProtocolStoreRawBytes (bytes : List UInt8) : MessageM Unit := fun message =>
  if message.offset + bytes.length ≤ message.msg.length then
    .ok () { message with
      msg := message.msg.take message.offset ++ bytes ++
        message.msg.drop (message.offset + bytes.length)
      offset := message.offset + bytes.length }
  else .error (.outOfBounds .message) message

def cwProtocolStore8 (val : Nat) : MessageM Unit := cwProtocolStoreRawBytes (BigEndian.encode 1 val)

def cwProtocolStore16 (val : Nat) : MessageM Unit := cwProtocolStoreRawBytes (BigEndian.encode 2 val)

def cwProtocolStore32 (val : Nat) : MessageM Unit := cwProtocolStoreRawBytes (BigEndian.encode 4 val)

/-- Copies the first `offset` bytes of the other message. -/
def cwProtocolStoreMessage (msgToStore : CWProtocolMessage) : MessageM Unit := do
  if msgToStore.msg.length < msgToStore.offset then throw (.outOfBounds .message)
  cwProtocolStoreRawBytes msgToStore.contents

def cwProtocolRetrieveRawBytes (len : Nat) : MessageM (List UInt8) := fun message =>
  if message.offset + len ≤ message.msg.length then
    .ok ((message.msg.drop message.offset).take len)
      { message with offset := message.offset + len }
  else .error (.outOfBounds .receiveBuffer) message

def cwProtocolRetrieve8 : MessageM Nat := BigEndian.decode <$> cwProtocolRetrieveRawBytes 1

def cwProtocolRetrieve16 : MessageM Nat := BigEndian.decode <$> cwProtocolRetrieveRawBytes 2

def cwProtocolRetrieve32 : MessageM Nat := BigEndian.decode <$> cwProtocolRetrieveRawBytes 4

/-! ## Storing -/

/-- A message with `done` stored and `room` zeroed bytes left. -/
def filled (done : List UInt8) (room : Nat) : CWProtocolMessage :=
  ⟨done ++ List.replicate room 0, done.length, none⟩

theorem valid_filled (done : List UInt8) (room : Nat) : (filled done room).Valid := by
  simp [filled, CWProtocolMessage.Valid]

theorem CWProtocolMessage.Valid.length_contents {message : CWProtocolMessage}
    (valid : message.Valid) : message.contents.length = message.offset :=
  List.length_take_of_le valid

@[simp] theorem offset_filled (done : List UInt8) (room : Nat) :
    (filled done room).offset = done.length := rfl

@[simp] theorem contents_filled (done : List UInt8) (room : Nat) :
    (filled done room).contents = done := by
  simp [filled, CWProtocolMessage.contents]

theorem cwCreateProtocolMessage_eq_filled (size : Nat) :
    cwCreateProtocolMessage size = filled [] size := rfl

/-- Where there is room for them, the program stores exactly `bytes`. -/
def Stores (program : MessageM Unit) (bytes : List UInt8) : Prop :=
  ∀ done room,
    program.run (filled done (bytes.length + room)) = .ok () (filled (done ++ bytes) room)

theorem stores_rawBytes (bytes : List UInt8) : Stores (cwProtocolStoreRawBytes bytes) bytes := by
  intro done room
  simp [EStateM.run, cwProtocolStoreRawBytes, filled, ← Nat.add_assoc]

theorem stores_store8 (val : Nat) : Stores (cwProtocolStore8 val) (BigEndian.encode 1 val) :=
  stores_rawBytes _

theorem stores_store16 (val : Nat) : Stores (cwProtocolStore16 val) (BigEndian.encode 2 val) :=
  stores_rawBytes _

theorem stores_store32 (val : Nat) : Stores (cwProtocolStore32 val) (BigEndian.encode 4 val) :=
  stores_rawBytes _

theorem stores_message {message : CWProtocolMessage} (valid : message.Valid) :
    Stores (cwProtocolStoreMessage message) message.contents := by
  intro done room
  have inside : ¬ message.msg.length < message.offset := Nat.not_lt.mpr valid
  simp only [cwProtocolStoreMessage, if_neg inside]
  exact stores_rawBytes _ done room

theorem stores_pure : Stores (pure ()) [] := by
  intro done room
  simp

theorem Stores.bind {first second : MessageM Unit} {bytes bytes' : List UInt8}
    (stores : Stores first bytes) (stores' : Stores second bytes') :
    Stores (first >>= fun _ => second) (bytes ++ bytes') := by
  intro done room
  have head := stores done (bytes'.length + room)
  have tail := stores' (done ++ bytes) room
  rw [List.length_append, Nat.add_assoc, EStateM.run_bind, head, ← List.append_assoc]
  exact tail

theorem stores_messages {messages : List CWProtocolMessage}
    (valid : ∀ message ∈ messages, message.Valid) :
    Stores (messages.forM cwProtocolStoreMessage)
      (messages.flatMap CWProtocolMessage.contents) := by
  induction messages with
  | nil => exact stores_pure
  | cons message messages inductionHypothesis =>
    rw [List.forall_mem_cons] at valid
    rw [List.flatMap_cons]
    exact (stores_message valid.1).bind (inductionHypothesis valid.2)

/-- A program run on a message allocated for exactly what it stores. -/
theorem Stores.run_create {program : MessageM Unit} {bytes : List UInt8}
    (stores : Stores program bytes) {size : Nat} (exact : size = bytes.length) :
    program.run (cwCreateProtocolMessage size) = .ok () (filled bytes 0) := by
  have run := stores [] 0
  rw [cwCreateProtocolMessage_eq_filled, exact]
  simpa using run

/-! ## Retrieving -/

/-- With `bytes` at the cursor the program returns `value` and moves past them.  It
    assigns `dataMsgType` when `assigned` holds a value and leaves it alone otherwise. -/
def Reads {α : Type} (program : MessageM α) (bytes : List UInt8) (value : α)
    (assigned : Option CWDataMsgType) : Prop :=
  ∀ message rest, message.msg.drop message.offset = bytes ++ rest →
    program.run message = .ok value
      { message with
        offset := message.offset + bytes.length
        dataMsgType := assigned.or message.dataMsgType }

theorem length_of_drop_eq {message : CWProtocolMessage} {bytes rest : List UInt8}
    (ahead : message.msg.drop message.offset = bytes ++ rest) (inside : bytes ≠ []) :
    message.offset + bytes.length ≤ message.msg.length := by
  have lengths := congrArg List.length ahead
  have positive : 0 < bytes.length := List.length_pos_iff.mpr inside
  simp only [List.length_drop, List.length_append] at lengths
  omega

theorem reads_pure {α : Type} (value : α) : Reads (pure value) [] value none := by
  intro message rest _
  simp

theorem Reads.bind {α β : Type} {first : MessageM α} {next : α → MessageM β}
    {bytes bytes' : List UInt8} {value : α} {value' : β} {assigned assigned' : Option CWDataMsgType}
    (reads : Reads first bytes value assigned) (reads' : Reads (next value) bytes' value' assigned') :
    Reads (first >>= next) (bytes ++ bytes') value' (assigned'.or assigned) := by
  intro message rest ahead
  rw [List.append_assoc] at ahead
  have behind : message.msg.drop (message.offset + bytes.length) = bytes' ++ rest := by
    rw [← List.drop_drop, ahead, List.drop_left]
  rw [EStateM.run_bind, reads message _ ahead, List.length_append, ← Nat.add_assoc,
    Option.or_assoc]
  exact reads' _ rest behind

/-- A program that assigns nothing in front of another. -/
theorem Reads.andThen {α β : Type} {first : MessageM α} {next : α → MessageM β}
    {bytes bytes' : List UInt8} {value : α} {value' : β} {assigned : Option CWDataMsgType}
    (reads : Reads first bytes value none) (reads' : Reads (next value) bytes' value' assigned) :
    Reads (first >>= next) (bytes ++ bytes') value' assigned := by
  have both := reads.bind reads'
  rwa [Option.or_none] at both

/-- In front of a program that assigns nothing. -/
theorem Reads.before {α β : Type} {first : MessageM α} {next : α → MessageM β}
    {bytes bytes' : List UInt8} {value : α} {value' : β} {assigned : Option CWDataMsgType}
    (reads : Reads first bytes value assigned) (reads' : Reads (next value) bytes' value' none) :
    Reads (first >>= next) (bytes ++ bytes') value' assigned := by
  have both := reads.bind reads'
  rwa [Option.none_or] at both

theorem Reads.andReturn {α β : Type} {first : MessageM α} {next : α → MessageM β}
    {bytes : List UInt8} {value : α} {value' : β} {assigned : Option CWDataMsgType}
    (reads : Reads first bytes value assigned) (reads' : Reads (next value) [] value' none) :
    Reads (first >>= next) bytes value' assigned := by
  have both := reads.before reads'
  rwa [List.append_nil] at both

/-- Of two assignments the later one counts. -/
theorem Reads.overruled {α β : Type} {first : MessageM α} {next : α → MessageM β}
    {bytes : List UInt8} {value : α} {value' : β} {assigned : Option CWDataMsgType}
    {dataMsgType : CWDataMsgType} (reads : Reads first bytes value assigned)
    (reads' : Reads (next value) [] value' (some dataMsgType)) :
    Reads (first >>= next) bytes value' (some dataMsgType) := by
  have both := reads.bind reads'
  rwa [List.append_nil, Option.some_or] at both

theorem Reads.map {α β : Type} {program : MessageM α} {bytes : List UInt8} {value : α}
    {assigned : Option CWDataMsgType} (reads : Reads program bytes value assigned) (f : α → β) :
    Reads (f <$> program) bytes (f value) assigned := by
  rw [← bind_pure_comp]
  exact reads.andReturn (reads_pure (f value))

theorem reads_rawBytes {bytes : List UInt8} (inside : bytes ≠ []) :
    Reads (cwProtocolRetrieveRawBytes bytes.length) bytes bytes none := by
  intro message rest ahead
  simp [EStateM.run, cwProtocolRetrieveRawBytes, length_of_drop_eq ahead inside, ahead]

private theorem reads_number {count val : Nat} (positive : 0 < count) (fits : val < 256 ^ count) :
    Reads (BigEndian.decode <$> cwProtocolRetrieveRawBytes count) (BigEndian.encode count val) val
      none := by
  have inside : BigEndian.encode count val ≠ [] := by
    rw [← List.length_pos_iff, BigEndian.length_encode]
    exact positive
  have raw := (reads_rawBytes inside).map BigEndian.decode
  rwa [BigEndian.length_encode, BigEndian.decode_encode_of_lt fits] at raw

theorem reads_retrieve8 {val : Nat} (fits : val < 256) :
    Reads cwProtocolRetrieve8 (BigEndian.encode 1 val) val none :=
  reads_number (by omega) (by omega)

theorem reads_retrieve16 {val : Nat} (fits : val < 65536) :
    Reads cwProtocolRetrieve16 (BigEndian.encode 2 val) val none :=
  reads_number (by omega) (by omega)

theorem reads_retrieve32 {val : Nat} (fits : val < 4294967296) :
    Reads cwProtocolRetrieve32 (BigEndian.encode 4 val) val none :=
  reads_number (by omega) (by omega)

end WlanController.Protocol
