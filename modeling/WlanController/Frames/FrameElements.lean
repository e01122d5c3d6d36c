import WlanController.Frames.FrameHeader

/-!
# The elements of management frames

Behind their fixed fields the management frames hold elements, each a byte for its type, a byte
for its length and as many bytes.  The builders append them to a buffer whose size has been
computed before; the parsers look for one type of element where the offset is and are not told
where the frame ends.
-/

namespace WlanController.Frames

open Protocol

def ieTypeSSID : UInt8 := 0

def ieTypeSuppRates : UInt8 := 1

def ieTypeDSSS : UInt8 := 3

def ieTypeERP : UInt8 := 42

def ieTypeExtSuppRates : UInt8 := 50

def cw80211MaxSuppRates : Nat := 8

def wtpNl80211BitrateNum : Nat := 32

/-! ## Building -/

def cw80211AssembleIESSID (value : List UInt8) : MessageM Unit := do
  cwProtocolStoreRawBytes [ieTypeSSID]
  cwProtocolStoreRawBytes [.ofNat value.length]
  cwProtocolStoreRawBytes value

/-- Without any rates the type alone is stored. -/
def assembleIERates (type : UInt8) (value : List UInt8) : MessageM Bool := do
  cwProtocolStoreRawBytes [type]
  if value.length = 0 then return false
  cwProtocolStoreRawBytes [.ofNat value.length]
  cwProtocolStoreRawBytes value
  return true

def cw80211AssembleIESupportedRates (value : List UInt8) : MessageM Bool :=
  assembleIERates ieTypeSuppRates value

def cw80211AssembleIEExtendedSupportedRates (value : List UInt8) : MessageM Bool :=
  assembleIERates ieTypeExtSuppRates value

def cw80211AssembleIEDSSS (value : UInt8) : MessageM Unit := do
  cwProtocolStoreRawBytes [ieTypeDSSS]
  cwProtocolStoreRawBytes [1]
  cwProtocolStoreRawBytes [value]

/-- The value that is given is not the one that is stored. -/
def cw80211AssembleIEERP (_value : Nat) : MessageM Unit := do
  cwProtocolStoreRawBytes [ieTypeERP]
  cwProtocolStoreRawBytes [1]
  cwProtocolStoreRawBytes [0]

/-- The program stores exactly `bytes` where there is room for them, and writes past the end of
    the buffer where there is not. -/
def Fills {α : Type} (program : MessageM α) (bytes : List UInt8) (value : α) : Prop :=
  ∀ done room,
    (bytes.length ≤ room ∧
      program.run (filled done room) = .ok value (filled (done ++ bytes) (room - bytes.length))) ∨
    (room < bytes.length ∧ ∃ after, program.run (filled done room) = .error (.outOfBounds .message) after)

section Fills

variable {α β : Type} {first : MessageM α} {next : α → MessageM β} {bytes bytes' : List UInt8}
  {value : α} {value' : β}

theorem fills_rawBytes (bytes : List UInt8) : Fills (cwProtocolStoreRawBytes bytes) bytes () := by
  intro done room
  by_cases fits : bytes.length ≤ room
  · left
    refine ⟨fits, ?_⟩
    have stored := stores_rawBytes bytes done (room - bytes.length)
    rwa [Nat.add_sub_cancel' fits] at stored
  · right
    have outside : ¬ (filled done room).offset + bytes.length ≤ (filled done room).msg.length := by
      simp only [filled, List.length_append, List.length_replicate]
      omega
    exact ⟨not_le.mp fits, _, if_neg outside⟩

theorem fills_pure (value : α) : Fills (pure value) [] value := by
  intro done room
  left
  exact ⟨Nat.zero_le room, by simp⟩

theorem Fills.bind (fills : Fills first bytes value) (fills' : Fills (next value) bytes' value') :
    Fills (first >>= next) (bytes ++ bytes') value' := by
  intro done room
  cases fills done room with
  | inl stored =>
    obtain ⟨fits, run⟩ := stored
    cases fills' (done ++ bytes) (room - bytes.length) with
    | inl stored' =>
      obtain ⟨fits', run'⟩ := stored'
      left
      constructor
      · rw [List.length_append]
        omega
      · rw [EStateM.run_bind, run, List.length_append, ← Nat.sub_sub, ← List.append_assoc]
        exact run'
    | inr burst =>
      obtain ⟨overrun, after, run'⟩ := burst
      right
      constructor
      · rw [List.length_append]
        omega
      · rw [EStateM.run_bind, run]
        exact ⟨after, run'⟩
  | inr burst =>
    obtain ⟨overrun, after, run⟩ := burst
    right
    constructor
    · rw [List.length_append]
      omega
    · rw [EStateM.run_bind, run]
      exact ⟨after, rfl⟩

end Fills

/-- An element of this type with this value. -/
def element (type : UInt8) (value : List UInt8) : List UInt8 := type :: .ofNat value.length :: value

theorem length_element (type : UInt8) (value : List UInt8) :
    (element type value).length = 2 + value.length := by
  simp only [element, List.length_cons]
  omega

theorem fills_SSID (value : List UInt8) :
    Fills (cw80211AssembleIESSID value) (element ieTypeSSID value) () :=
  (fills_rawBytes _).bind ((fills_rawBytes _).bind (fills_rawBytes _))

theorem fills_DSSS (value : UInt8) :
    Fills (cw80211AssembleIEDSSS value) (element ieTypeDSSS [value]) () :=
  (fills_rawBytes _).bind ((fills_rawBytes _).bind (fills_rawBytes _))

theorem fills_ERP (value : Nat) : Fills (cw80211AssembleIEERP value) (element ieTypeERP [0]) () :=
  (fills_rawBytes _).bind ((fills_rawBytes _).bind (fills_rawBytes _))

theorem fills_rates (type : UInt8) {value : List UInt8} (nonempty : value ≠ []) :
    Fills (assembleIERates type value) (element type value) true := by
  have positive : ¬ value.length = 0 := by simpa using nonempty
  simp only [assembleIERates, if_neg positive]
  have stored : Fills (do
      cwProtocolStoreRawBytes [type]
      cwProtocolStoreRawBytes [.ofNat value.length]
      cwProtocolStoreRawBytes value
      return true) ([type] ++ ([.ofNat value.length] ++ (value ++ []))) true :=
    (fills_rawBytes _).bind ((fills_rawBytes _).bind ((fills_rawBytes _).bind (fills_pure true)))
  simpa [element] using stored

theorem fills_noRates (type : UInt8) : Fills (assembleIERates type []) [type] false :=
  (fills_rawBytes [type]).bind (fills_pure false)

/-! ## Parsing -/

def byteAt (index : Nat) : MessageM UInt8 := fun message =>
  match message.msg[index]? with
  | some byte => .ok byte message
  | none => .error (.outOfBounds .receiveBuffer) message

def moveOn (count : Nat) : MessageM Unit := modify fun message => message.advance count

/-- A `char` that is copied to a `short int`. -/
def charToShort (byte : UInt8) : Int := (byte.toNat : Int).bmod 256

/-- `CW_CREATE_ARRAY_CALLOC_ERR` of an array for `len` bytes and a terminator, and a copy of as
    many bytes from the frame.  A negative size stands for a number of bytes that are not there
    to be allocated, a negative length for one that no frame and no array has. -/
def callocCopy (start : Nat) (len : Int) : MessageM (Option (List UInt8)) := fun message =>
  let capacity := len + 1
  if capacity < 0 then .ok none message
  else if len < 0 ∨ capacity < len then .error (.outOfBounds .receiveBuffer) message
  else if start + len.toNat ≤ message.msg.length then
    .ok (some ((message.msg.drop start).take len.toNat)) message
  else .error (.outOfBounds .receiveBuffer) message

/-- `none` stands for `CW_FALSE`. -/
def parseFrameIE (type : UInt8) (empty : MessageM (Option (List UInt8))) :
    MessageM (Option (List UInt8)) := do
  let frameReceived := (← get).offset
  if (← byteAt frameReceived) ≠ type then return none
  moveOn 1
  let len := charToShort (← byteAt (frameReceived + 1))
  if len = 0 then empty
  else
    moveOn 1
    match ← callocCopy (frameReceived + 2) len with
    | none => return none
    | some value =>
      moveOn len.toNat
      return some value

/-- A station without an SSID is given this one. -/
def ueSSID : List UInt8 := [0x55, 0x45]

def cw80211ParseFrameIESSID : MessageM (Option (List UInt8)) :=
  parseFrameIE ieTypeSSID do
    moveOn 1
    return some ueSSID

def cw80211ParseFrameIESupportedRates : MessageM (Option (List UInt8)) :=
  parseFrameIE ieTypeSuppRates (return none)

def cw80211ParseFrameIEExtendedSupportedRates : MessageM (Option (List UInt8)) :=
  parseFrameIE ieTypeExtSuppRates (return none)

inductive IEKind where
  | SSID | suppRates | extSuppRates
  deriving DecidableEq, Repr

namespace IEKind

def type : IEKind → UInt8
  | SSID => ieTypeSSID
  | suppRates => ieTypeSuppRates
  | extSuppRates => ieTypeExtSuppRates

def parse : IEKind → MessageM (Option (List UInt8))
  | SSID => cw80211ParseFrameIESSID
  | suppRates => cw80211ParseFrameIESupportedRates
  | extSuppRates => cw80211ParseFrameIEExtendedSupportedRates

/-- What is made of an element without a value, and how far the parser moves. -/
def emptied : IEKind → Option (List UInt8) × Nat
  | SSID => (some ueSSID, 2)
  | suppRates => (none, 1)
  | extSuppRates => (none, 1)

/-- The same for the bytes where the offset is; `none` where bytes are read that are not
    there. -/
def read (kind : IEKind) : List UInt8 → Option (Option (List UInt8) × Nat)
  | [] => none
  | type :: rest =>
    if type ≠ kind.type then some (none, 0)
    else match rest with
      | [] => none
      | len :: body =>
        if len = 0 then some kind.emptied
        else if len < 128 then
          if len.toNat ≤ body.length then some (some (body.take len.toNat), 2 + len.toNat) else none
        else if len < 255 then some (none, 2)
        else none

end IEKind

theorem charToShort_small {len : UInt8} (small : len < 128) : charToShort len = len.toNat := by
  have below : len.toNat < 128 := small
  exact Int.bmod_eq_of_le (by omega) (by omega)

theorem charToShort_large {len : UInt8} (large : ¬ len < 128) :
    charToShort len = (len.toNat : Int) - 256 := by
  have above : 128 ≤ len.toNat := not_lt.mp large
  have below := len.toNat_lt
  calc charToShort len = ((len.toNat : Int) - 256).bmod 256 := (Int.sub_bmod_right _ 256).symm
    _ = (len.toNat : Int) - 256 := Int.bmod_eq_of_le (by omega) (by omega)

theorem getElem?_ahead (message : CWProtocolMessage) (index : Nat) :
    message.msg[message.offset + index]? = message.ahead[index]? := by
  rw [CWProtocolMessage.ahead, List.getElem?_drop]

theorem run_byteAt {message : CWProtocolMessage} {index : Nat} {byte : UInt8}
    (here : message.msg[index]? = some byte) : (byteAt index).run message = .ok byte message := by
  simp [byteAt, EStateM.run, here]

theorem run_byteAt_outside {message : CWProtocolMessage} {index : Nat}
    (outside : message.msg[index]? = none) :
    (byteAt index).run message = .error (.outOfBounds .receiveBuffer) message := by
  simp [byteAt, EStateM.run, outside]

theorem run_moveOn (count : Nat) (message : CWProtocolMessage) :
    (moveOn count).run message = .ok () (message.advance count) := rfl

section ParseFrameIE

variable {type len : UInt8} {empty : MessageM (Option (List UInt8))} {message : CWProtocolMessage}

theorem parseFrameIE_nothing (nothing : message.ahead = []) :
    (parseFrameIE type empty).run message = .error (.outOfBounds .receiveBuffer) message := by
  have first : message.msg[message.offset]? = none := by
    rw [← Nat.add_zero message.offset, getElem?_ahead, nothing]
    rfl
  rw [parseFrameIE, EStateM.run_bind, EStateM.run_get]
  simp only [EStateM.run_bind, run_byteAt_outside first]

theorem parseFrameIE_other {other : UInt8} {rest : List UInt8}
    (ahead : message.ahead = other :: rest) (different : other ≠ type) :
    (parseFrameIE type empty).run message = .ok none message := by
  have first : message.msg[message.offset]? = some other := by
    rw [← Nat.add_zero message.offset, getElem?_ahead, ahead]
    rfl
  rw [parseFrameIE, EStateM.run_bind, EStateM.run_get]
  simp [EStateM.run_bind, run_byteAt first, different]

theorem parseFrameIE_noLength (ahead : message.ahead = [type]) :
    ∃ after, (parseFrameIE type empty).run message = .error (.outOfBounds .receiveBuffer) after := by
  have first : message.msg[message.offset]? = some type := by
    rw [← Nat.add_zero message.offset, getElem?_ahead, ahead]
    rfl
  have second : (message.advance 1).msg[message.offset + 1]? = none := by
    show message.msg[message.offset + 1]? = none
    rw [getElem?_ahead, ahead]
    rfl
  refine ⟨message.advance 1, ?_⟩
  rw [parseFrameIE, EStateM.run_bind, EStateM.run_get]
  simp [EStateM.run_bind, run_byteAt first, run_moveOn, run_byteAt_outside second]

/-- Behind the type and the length. -/
theorem parseFrameIE_length {body : List UInt8} (ahead : message.ahead = type :: len :: body) :
    (parseFrameIE type empty).run message =
      if charToShort len = 0 then empty.run (message.advance 1)
      else
        match (callocCopy (message.offset + 2) (charToShort len)).run (message.advance 2) with
        | .ok none after => .ok none after
        | .ok (some value) after => .ok (some value) (after.advance (charToShort len).toNat)
        | .error failure after => .error failure after := by
  have first : message.msg[message.offset]? = some type := by
    rw [← Nat.add_zero message.offset, getElem?_ahead, ahead]
    rfl
  have second : (message.advance 1).msg[message.offset + 1]? = some len := by
    show message.msg[message.offset + 1]? = some len
    rw [getElem?_ahead, ahead]
    rfl
  rw [parseFrameIE, EStateM.run_bind, EStateM.run_get]
  simp only [EStateM.run_bind, run_byteAt first, run_moveOn, run_byteAt second, ne_eq,
    not_true_eq_false, if_false]
  by_cases zero : charToShort len = 0
  · rw [if_pos zero, if_pos zero]
  · rw [if_neg zero, if_neg zero]
    simp only [EStateM.run_bind, run_moveOn, advance_advance]
    cases copied : (callocCopy (message.offset + 2) (charToShort len)).run (message.advance 2) with
    | ok value after =>
      cases value with
      | none => rfl
      | some value => rfl
    | error failure after => rfl

end ParseFrameIE

theorem run_callocCopy (message : CWProtocolMessage) {start : Nat} (len : UInt8)
    (inside : start ≤ message.msg.length) :
    (callocCopy start (charToShort len)).run message =
      if len < 128 then
        if len.toNat ≤ (message.msg.drop start).length then
          .ok (some ((message.msg.drop start).take len.toNat)) message
        else .error (.outOfBounds .receiveBuffer) message
      else if len < 255 then .ok none message
      else .error (.outOfBounds .receiveBuffer) message := by
  have size : (message.msg.drop start).length = message.msg.length - start := List.length_drop
  by_cases small : len < 128
  · have positive : ¬ (len.toNat : Int) + 1 < 0 := by omega
    have positive' : ¬ ((len.toNat : Int) < 0 ∨ (len.toNat : Int) + 1 < len.toNat) := by omega
    rw [EStateM.run, callocCopy, charToShort_small small, if_neg positive, if_neg positive',
      if_pos small, Int.toNat_natCast]
    by_cases room : start + len.toNat ≤ message.msg.length
    · rw [if_pos room, if_pos (by omega)]
    · rw [if_neg room, if_neg (by omega)]
  · have below := len.toNat_lt
    rw [EStateM.run, callocCopy, charToShort_large small, if_neg small]
    by_cases huge : len < 255
    · have bound : len.toNat < 255 := huge
      rw [if_pos huge, if_pos (by omega)]
    · have bound : 255 ≤ len.toNat := not_lt.mp huge
      rw [if_neg huge, if_neg (by omega), if_pos (by omega)]

theorem charToShort_eq_zero_iff (len : UInt8) : charToShort len = 0 ↔ len = 0 := by
  have below := len.toNat_lt
  by_cases small : len < 128
  · rw [charToShort_small small, ← UInt8.toNat_inj]
    exact Int.natCast_eq_zero
  · have different : len ≠ 0 := by
      rintro rfl
      exact small (by decide)
    rw [charToShort_large small]
    exact iff_of_false (by omega) different

/-- The parser for elements of a type, for what follows an element without a value. -/
theorem parseFrameIE_follows (kind : IEKind) {empty : MessageM (Option (List UInt8))}
    (emptied : ∀ message : CWProtocolMessage, empty.run (message.advance 1) =
      .ok kind.emptied.1 (message.advance kind.emptied.2)) :
    Follows (parseFrameIE kind.type empty) kind.read := by
  intro message
  cases ahead : message.ahead with
  | nil => exact ⟨message, parseFrameIE_nothing ahead⟩
  | cons type rest =>
    by_cases different : type ≠ kind.type
    · simpa [IEKind.read, different] using parseFrameIE_other ahead different
    · have same : type = kind.type := not_not.mp different
      subst same
      cases rest with
      | nil => simpa [IEKind.read] using parseFrameIE_noLength ahead
      | cons len body =>
        have behind : message.msg.drop (message.offset + 2) = body := by
          rw [← List.drop_drop]
          exact congrArg (List.drop 2) ahead
        have length := length_ahead message
        rw [ahead, List.length_cons, List.length_cons] at length
        have inside : message.offset + 2 ≤ (message.advance 2).msg.length := by
          show message.offset + 2 ≤ message.msg.length
          omega
        have copied := run_callocCopy (message.advance 2) len inside
        simp only [CWProtocolMessage.advance, behind] at copied
        rw [parseFrameIE_length ahead]
        simp only [IEKind.read, ne_eq, not_true_eq_false, if_false, CWProtocolMessage.advance, copied]
        by_cases zero : len = 0
        · rw [if_pos ((charToShort_eq_zero_iff len).mpr zero), if_pos zero]
          exact emptied message
        · rw [if_neg (mt (charToShort_eq_zero_iff len).mp zero), if_neg zero]
          by_cases small : len < 128
          · simp only [if_pos small, charToShort_small small]
            by_cases room : len.toNat ≤ body.length
            · simp only [if_pos room, Int.toNat_natCast, Nat.add_assoc]
            · simp only [if_neg room]
              exact ⟨_, rfl⟩
          · simp only [if_neg small]
            by_cases huge : len < 255
            · simp only [if_pos huge]
            · simp only [if_neg huge]
              exact ⟨_, rfl⟩

theorem IEKind.parse_follows (kind : IEKind) : Follows kind.parse kind.read := by
  cases kind with
  | SSID => exact parseFrameIE_follows .SSID fun _ => rfl
  | suppRates => exact parseFrameIE_follows .suppRates fun _ => rfl
  | extSuppRates => exact parseFrameIE_follows .extSuppRates fun _ => rfl

end WlanController.Frames
