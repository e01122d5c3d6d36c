import Mathlib.Data.List.TakeWhile
import WlanController.Elements.ElementLoop

/-!
# Vendor payloads

The AC configures a WTP through vendor payloads, of which there are two: a command for the UCI
of the WTP, which is a byte and perhaps a string of arguments, and a message of the firmware
update.  They travel in an element of their own, and what answers them travels in an element
behind a result code.

A string is given by a pointer.  That it is missing is a null pointer, which is not the same as
a string without characters.
-/

namespace WlanController.Vendor

open Protocol Elements
open Radios (cwAssembleMsgElem cwAssembleMsgElem_eq)

/-! ## Values -/

/-- What is in a buffer in front of its first zero byte. -/
structure CString where
  chars : List UInt8
  ended : ∀ c ∈ chars, c ≠ 0

def CString.empty : CString := ⟨[], fun _ => by simp⟩

@[ext] theorem CString.ext {s s' : CString} (same : s.chars = s'.chars) : s = s' := by
  cases s
  cases s'
  cases same
  rfl

def CString.ofBuffer (bytes : List UInt8) : CString where
  chars := bytes.takeWhile (· ≠ 0)
  ended c member := by simpa using List.mem_takeWhile_imp member

def CString.strlen (s : CString) : Nat := s.chars.length

@[simp] theorem CString.ofBuffer_chars (s : CString) : CString.ofBuffer s.chars = s := by
  apply CString.ext
  rw [CString.ofBuffer, List.takeWhile_eq_self_iff]
  simpa using s.ended

structure CWVendorUciValues where
  command : UInt8
  commandArgs : Option CString

/-- The members of `args` that go with the type. -/
inductive CWVendorWumValues where
  | updateRequest (major minor revision : UInt8) (packSize : UInt32)
  | cupFragment (seqNum size : UInt32) (buf : Option (List UInt8))
  | plain (type : UInt8) (other : type ≠ 3 ∧ type ≠ 5)

inductive CWProtocolVendorSpecificValues where
  | uci (payload : CWVendorUciValues)
  | wum (payload : CWVendorWumValues)

def vendorSpecPayload : Nat := 57

def vendorSpecPayloadUCI : Nat := 1

def vendorSpecPayloadWUM : Nat := 2

def wtpVersionRequest : UInt8 := 1

def wtpVersionResponse : UInt8 := 2

def wtpUpdateRequest : UInt8 := 3

def wtpUpdateResponse : UInt8 := 4

def wtpCupFragment : UInt8 := 5

def wtpCupAck : UInt8 := 6

def wtpCommitUpdate : UInt8 := 7

def wtpCommitAck : UInt8 := 8

def wtpCancelUpdateRequest : UInt8 := 9

def wtpCancelUpdateResponse : UInt8 := 10

/-! ## The AC assembles -/

/-- The body of the element. -/
def assembleUciPayload (uciPtr : CWVendorUciValues) : Except Failure CWProtocolMessage :=
  match uciPtr.commandArgs with
  | some commandArgs => assembleInto (7 + commandArgs.strlen) do
      cwProtocolStore16 vendorSpecPayloadUCI
      cwProtocolStore8 uciPtr.command.toNat
      cwProtocolStore32 commandArgs.strlen
      cwProtocolStoreRawBytes commandArgs.chars
  | none => assembleInto 7 do
      cwProtocolStore16 vendorSpecPayloadUCI
      cwProtocolStore8 uciPtr.command.toNat
      cwProtocolStore32 0

def cwAssembleWTPVendorPayloadUCI (uciPtr : CWVendorUciValues) :
    Except Failure CWProtocolMessage := do
  cwAssembleMsgElem (← assembleUciPayload uciPtr) vendorSpecPayload

/-- `CWProtocolStoreRawBytes(msgPtr, wumPtr->_cup_, wumPtr->_cup_fragment_size_)`, where the size
    becomes an `int`. -/
def storeCup (buf : Option (List UInt8)) (size : UInt32) : MessageM Unit :=
  match buf with
  | some bytes =>
    if size.toNat ≤ bytes.length ∧ size.toNat < 2147483648 then
      cwProtocolStoreRawBytes (bytes.take size.toNat)
    else throw (.outOfBounds .receiveBuffer)
  | none => if size = 0 then return () else throw (.outOfBounds .receiveBuffer)

/-- The body of the element and what the values are afterwards: the bytes of a fragment are
    freed. -/
def assembleWumPayload : CWVendorWumValues → Except Failure (CWProtocolMessage × CWVendorWumValues)
  | .updateRequest major minor revision packSize => do
    let msgPtr ← assembleInto 10 do
      cwProtocolStore16 vendorSpecPayloadWUM
      cwProtocolStore8 wtpUpdateRequest.toNat
      cwProtocolStore8 major.toNat
      cwProtocolStore8 minor.toNat
      cwProtocolStore8 revision.toNat
      cwProtocolStore32 packSize.toNat
    return (msgPtr, .updateRequest major minor revision packSize)
  | .cupFragment seqNum size buf => do
    let msgPtr ← assembleInto (11 + size.toNat) do
      cwProtocolStore16 vendorSpecPayloadWUM
      cwProtocolStore8 wtpCupFragment.toNat
      cwProtocolStore32 seqNum.toNat
      cwProtocolStore32 size.toNat
      storeCup buf size
    return (msgPtr, .cupFragment seqNum size none)
  | .plain type other => do
    if type = wtpVersionRequest ∨ type = wtpCommitUpdate ∨ type = wtpCancelUpdateRequest then
      let msgPtr ← assembleInto 3 do
        cwProtocolStore16 vendorSpecPayloadWUM
        cwProtocolStore8 type.toNat
      return (msgPtr, .plain type other)
    -- "Error! unknown WUM message type!!!" is only logged
    else throw (.raised .none none)

def cwAssembleWTPVendorPayloadWUM (wumPtr : CWVendorWumValues) :
    Except Failure (CWProtocolMessage × CWVendorWumValues) := do
  let (msgPtr, wumPtr) ← assembleWumPayload wumPtr
  return (← cwAssembleMsgElem msgPtr vendorSpecPayload, wumPtr)

/-! ## The WTP parses -/

/-- An `unsigned int` as an `int`. -/
def asInt (val : Nat) : Int := (val : Int).bmod 4294967296

/-- A length of which nothing can be allocated: as a size it is too large by far. -/
def Unallocatable (len : Int) : Prop := len < 0 ∨ 2147483648 ≤ len

instance (len : Int) : Decidable (Unallocatable len) := inferInstanceAs (Decidable (_ ∨ _))

/-- `len + 1` bytes are allocated and `len` copied.  For `-1` there is an allocation, but as many
    bytes as a size can count are copied. -/
def cwProtocolRetrieveStr (len : Int) : MessageM (Option CString) := do
  if Unallocatable (len + 1) then return none
  else if len < 0 then throw (.outOfBounds .receiveBuffer)
  else return some (CString.ofBuffer (← cwProtocolRetrieveRawBytes len.toNat))

/-- `CWProtocolRetrieveRawBytes` with a length that may be negative. -/
def retrieveBytes (len : Int) : MessageM (Option (List UInt8)) := do
  if Unallocatable len then return none
  else return some (← cwProtocolRetrieveRawBytes len.toNat)

/-- A string behind its length, which is zero where the pointer is null. -/
def retrieveString (len : Int) : MessageM (Option CString) :=
  if len ≠ 0 then cwProtocolRetrieveStr len else return none

def cwParseUCIPayload : MessageM CWVendorUciValues := do
  let command ← cwProtocolRetrieve8
  let argsLen := asInt (← cwProtocolRetrieve32)
  -- the call fails, and its caller frees what a pointer without a value points to
  if argsLen ≠ 0 ∧ Unallocatable (argsLen + 1) then throw (.outOfBounds .message)
  let commandArgs ← retrieveString argsLen
  return ⟨.ofNat command, commandArgs⟩

/-- The fields that go with a type. -/
def parseWumArgs (type : UInt8) : MessageM CWVendorWumValues := do
  if known : type ≠ 3 ∧ type ≠ 5 then return .plain type known
  else if type = wtpUpdateRequest then
    let major ← cwProtocolRetrieve8
    let minor ← cwProtocolRetrieve8
    let revision ← cwProtocolRetrieve8
    let packSize ← cwProtocolRetrieve32
    return .updateRequest (.ofNat major) (.ofNat minor) (.ofNat revision) (.ofNat packSize)
  else
    let seqNum ← cwProtocolRetrieve32
    let size ← cwProtocolRetrieve32
    let buf ← retrieveBytes (asInt size)
    return .cupFragment (.ofNat seqNum) (.ofNat size) buf

def cwParseWUMPayload : MessageM CWVendorWumValues := do
  parseWumArgs (.ofNat (← cwProtocolRetrieve8))

theorem parseWumArgs_plain {type : UInt8} (known : type ≠ 3 ∧ type ≠ 5) :
    parseWumArgs type = pure (.plain type known) :=
  dif_pos known

theorem parseWumArgs_updateRequest : parseWumArgs wtpUpdateRequest = do
    let major ← cwProtocolRetrieve8
    let minor ← cwProtocolRetrieve8
    let revision ← cwProtocolRetrieve8
    let packSize ← cwProtocolRetrieve32
    return .updateRequest (.ofNat major) (.ofNat minor) (.ofNat revision) (.ofNat packSize) := rfl

theorem parseWumArgs_cupFragment : parseWumArgs wtpCupFragment = do
    let seqNum ← cwProtocolRetrieve32
    let size ← cwProtocolRetrieve32
    let buf ← retrieveBytes (asInt size)
    return .cupFragment (.ofNat seqNum) (.ofNat size) buf := rfl

/-- The length of the element is not looked at. -/
def cwParseVendorPayload (_len : Nat) : MessageM CWProtocolVendorSpecificValues := do
  let vendorPayloadType ← cwProtocolRetrieve16
  if vendorPayloadType = vendorSpecPayloadUCI then return .uci (← cwParseUCIPayload)
  else if vendorPayloadType = vendorSpecPayloadWUM then return .wum (← cwParseWUMPayload)
  else throw (.raised .none none)

/-! ## What the WTP reads of what the AC assembled -/

/-- The bytes a pointer to a string leads to. -/
def argsBytes (commandArgs : Option CString) : List UInt8 := commandArgs.elim [] CString.chars

namespace CWVendorUciValues

def body (values : CWVendorUciValues) : List UInt8 :=
  BigEndian.encode 2 vendorSpecPayloadUCI ++ (BigEndian.encode 1 values.command.toNat ++
    (BigEndian.encode 4 (argsBytes values.commandArgs).length ++ argsBytes values.commandArgs))

theorem length_body (values : CWVendorUciValues) :
    values.body.length = 7 + (argsBytes values.commandArgs).length := by
  simp only [body, List.length_append, BigEndian.length_encode]
  omega

end CWVendorUciValues

theorem assembleUciPayload_eq (values : CWVendorUciValues) :
    assembleUciPayload values = .ok (filled values.body 0) := by
  have length := values.length_body
  cases values with
  | mk command commandArgs =>
    cases commandArgs with
    | none =>
      have stores := (stores_store16 vendorSpecPayloadUCI).bind
        ((stores_store8 command.toNat).bind (stores_store32 0))
      exact assembleInto_stores stores length.symm
    | some commandArgs =>
      have stores := (stores_store16 vendorSpecPayloadUCI).bind
        ((stores_store8 command.toNat).bind ((stores_store32 commandArgs.strlen).bind
          (stores_rawBytes commandArgs.chars)))
      exact assembleInto_stores stores length.symm

theorem cwAssembleWTPVendorPayloadUCI_eq (values : CWVendorUciValues) :
    cwAssembleWTPVendorPayloadUCI values =
      .ok (filled (elementBytes vendorSpecPayload values.body) 2) := by
  rw [cwAssembleWTPVendorPayloadUCI, assembleUciPayload_eq, ok_bind]
  exact cwAssembleMsgElem_eq _ _

theorem asInt_of_lt {val : Nat} (small : val < 2147483648) : asInt val = val :=
  Int.bmod_eq_of_le (by omega) (by omega)

/-- A string whose length says how long it is. -/
theorem readsFrom_retrieveStr (s : CString) (short : s.strlen < 65536) (start : Nat) :
    ReadsFrom start (cwProtocolRetrieveStr s.strlen) s.chars (some s) := by
  have allocates : ¬ Unallocatable ((s.strlen : Int) + 1) := by
    simp only [Unallocatable]
    omega
  have forward : ¬ (s.strlen : Int) < 0 := by omega
  have read := (readsFrom_rawBytes start s.chars).map fun bytes => some (CString.ofBuffer bytes)
  rw [CString.ofBuffer_chars] at read
  rw [cwProtocolRetrieveStr, if_neg allocates, if_neg forward, Int.toNat_natCast, bind_pure_comp]
  exact read

/-- A string that is read behind its length.  Nothing is allocated for one without characters. -/
def keptString (s : Option CString) : Option CString := s.filter fun s => s.strlen ≠ 0

theorem keptString_eq_self_iff {s : Option CString} : keptString s = s ↔ s ≠ some CString.empty := by
  cases s with
  | none => simp [keptString]
  | some s =>
    have nothing : s.strlen = 0 ↔ s = CString.empty := by
      rw [CString.strlen, List.length_eq_zero_iff]
      constructor
      · intro empty
        exact CString.ext empty
      · intro same
        exact congrArg CString.chars same
    simp [keptString, Option.filter, nothing]

theorem readsFrom_retrieveString (s : Option CString) (short : (argsBytes s).length < 65536)
    (start : Nat) :
    ReadsFrom start (retrieveString (argsBytes s).length) (argsBytes s) (keptString s) := by
  cases s with
  | none => exact readsFrom_pure start none
  | some s =>
    by_cases nothing : s.strlen = 0
    case pos =>
      have bytes : argsBytes (some s) = [] := List.length_eq_zero_iff.mp nothing
      have kept : keptString (some s) = none := by simp [keptString, nothing]
      rw [bytes, kept]
      exact readsFrom_pure start none
    case neg =>
      have kept : keptString (some s) = some s := by simp [keptString, nothing]
      have positive : ((argsBytes (some s)).length : Int) ≠ 0 := by
        exact_mod_cast nothing
      rw [retrieveString, if_pos positive, kept]
      exact readsFrom_retrieveStr s short start

theorem readsFrom_uciPayload (values : CWVendorUciValues) (short : values.body.length < 65536)
    (start : Nat) :
    ReadsFrom start (cwParseVendorPayload values.body.length) values.body
      (.uci { values with commandArgs := keptString values.commandArgs }) := by
  rw [CWVendorUciValues.length_body] at short
  have known : asInt (argsBytes values.commandArgs).length = (argsBytes values.commandArgs).length :=
    asInt_of_lt (by omega)
  have allocates : ¬ (((argsBytes values.commandArgs).length : Int) ≠ 0 ∧
      Unallocatable ((argsBytes values.commandArgs).length + 1)) := by
    simp only [Unallocatable]
    omega
  apply ((reads_retrieve16 (by simp [vendorSpecPayloadUCI])).from _).bind
  simp only [if_true, cwParseUCIPayload, bind_assoc]
  apply ((reads_retrieve8 values.command.toNat_lt).from _).bind
  apply ((reads_retrieve32 (by omega)).from _).bind
  rw [known, if_neg allocates]
  simp only [UInt8.ofNat_toNat, bind_pure_comp]
  have args := fun start => readsFrom_retrieveString values.commandArgs (by omega) start
  exact ((args _).map (CWVendorUciValues.mk values.command)).map CWProtocolVendorSpecificValues.uci

/-- The command as the WTP gets it: without arguments if the string has no characters. -/
theorem uci_arrives_iff (values : CWVendorUciValues) (short : values.body.length < 65536) :
    Arrives (cwAssembleWTPVendorPayloadUCI values) vendorSpecPayload cwParseVendorPayload
      (.uci values) ↔ values.commandArgs ≠ some CString.empty := by
  have read := reads_formatted (show vendorSpecPayload < 65536 by simp [vendorSpecPayload]) short
    (readsFrom_uciPayload values short)
  rw [← keptString_eq_self_iff]
  constructor
  · intro arrives
    obtain ⟨element, same, reads⟩ := arrives
    rw [cwAssembleWTPVendorPayloadUCI_eq] at same
    cases same
    rw [contents_filled] at reads
    have both := Reads.unique read reads
    simp only [Prod.mk.injEq, CWProtocolVendorSpecificValues.uci.injEq, true_and] at both
    exact congrArg CWVendorUciValues.commandArgs both
  · intro kept
    refine ⟨_, cwAssembleWTPVendorPayloadUCI_eq values, ?_⟩
    rw [kept] at read
    rw [contents_filled]
    exact read

namespace CWVendorWumValues

def type : CWVendorWumValues → UInt8
  | .updateRequest .. => wtpUpdateRequest
  | .cupFragment .. => wtpCupFragment
  | .plain type _ => type

def args : CWVendorWumValues → List UInt8
  | .updateRequest major minor revision packSize =>
    BigEndian.encode 1 major.toNat ++ (BigEndian.encode 1 minor.toNat ++
      (BigEndian.encode 1 revision.toNat ++ BigEndian.encode 4 packSize.toNat))
  | .cupFragment seqNum size buf =>
    BigEndian.encode 4 seqNum.toNat ++ (BigEndian.encode 4 size.toNat ++ buf.getD [])
  | .plain .. => []

def body (values : CWVendorWumValues) : List UInt8 :=
  BigEndian.encode 2 vendorSpecPayloadWUM ++ (BigEndian.encode 1 values.type.toNat ++ values.args)

/-- What the AC sends: the messages it knows, a fragment with as many bytes as it says. -/
def Sendable : CWVendorWumValues → Prop
  | .updateRequest .. => True
  | .cupFragment _ size buf => ∃ bytes, buf = some bytes ∧ bytes.length = size.toNat
  | .plain type _ =>
    type = wtpVersionRequest ∨ type = wtpCommitUpdate ∨ type = wtpCancelUpdateRequest

/-- The values behind the assembly. -/
def sent : CWVendorWumValues → CWVendorWumValues
  | .cupFragment seqNum size _ => .cupFragment seqNum size none
  | values => values

end CWVendorWumValues

theorem stores_cup {bytes : List UInt8} {size : UInt32} (length : bytes.length = size.toNat)
    (short : size.toNat < 65536) : Stores (storeCup (some bytes) size) bytes := by
  have whole : size.toNat ≤ bytes.length ∧ size.toNat < 2147483648 := by omega
  rw [storeCup, if_pos whole, List.take_of_length_le length.le]
  exact stores_rawBytes bytes

theorem assembleWumPayload_eq (values : CWVendorWumValues) (sendable : values.Sendable)
    (short : values.body.length < 65536) :
    assembleWumPayload values = .ok (filled values.body 0, values.sent) := by
  cases values with
  | updateRequest major minor revision packSize =>
    have stores := (stores_store16 vendorSpecPayloadWUM).bind
      ((stores_store8 wtpUpdateRequest.toNat).bind ((stores_store8 major.toNat).bind
        ((stores_store8 minor.toNat).bind ((stores_store8 revision.toNat).bind
          (stores_store32 packSize.toNat)))))
    have assembled := assembleInto_stores stores (show 10 = _ from rfl)
    rw [assembleWumPayload, assembled]
    rfl
  | cupFragment seqNum size buf =>
    obtain ⟨bytes, same, length⟩ := sendable
    subst same
    have long : (CWVendorWumValues.cupFragment seqNum size (some bytes)).body.length =
        11 + size.toNat := by
      simp [CWVendorWumValues.body, CWVendorWumValues.args, length]
      omega
    have stores := (stores_store16 vendorSpecPayloadWUM).bind
      ((stores_store8 wtpCupFragment.toNat).bind ((stores_store32 seqNum.toNat).bind
        ((stores_store32 size.toNat).bind (stores_cup length (by omega)))))
    rw [assembleWumPayload, assembleInto_stores stores long.symm]
    rfl
  | plain type other =>
    have stores := (stores_store16 vendorSpecPayloadWUM).bind (stores_store8 type.toNat)
    have assembled := assembleInto_stores stores (show 3 = _ from rfl)
    have known : type = wtpVersionRequest ∨ type = wtpCommitUpdate ∨
        type = wtpCancelUpdateRequest := sendable
    have body : (CWVendorWumValues.plain type other).body =
        BigEndian.encode 2 vendorSpecPayloadWUM ++ BigEndian.encode 1 type.toNat := by
      simp [CWVendorWumValues.body, CWVendorWumValues.args, CWVendorWumValues.type]
    rw [assembleWumPayload, if_pos known, assembled, body]
    rfl

theorem cwAssembleWTPVendorPayloadWUM_eq (values : CWVendorWumValues) (sendable : values.Sendable)
    (short : values.body.length < 65536) :
    cwAssembleWTPVendorPayloadWUM values =
      .ok (filled (elementBytes vendorSpecPayload values.body) 2, values.sent) := by
  rw [cwAssembleWTPVendorPayloadWUM, assembleWumPayload_eq values sendable short, ok_bind]
  simp only [cwAssembleMsgElem_eq]
  rfl

theorem readsFrom_wumPayload (values : CWVendorWumValues) (sendable : values.Sendable)
    (short : values.body.length < 65536) (start : Nat) :
    ReadsFrom start (cwParseVendorPayload values.body.length) values.body (.wum values) := by
  have other : ¬ vendorSpecPayloadWUM = vendorSpecPayloadUCI := by
    simp [vendorSpecPayloadWUM, vendorSpecPayloadUCI]
  apply ((reads_retrieve16 (by simp [vendorSpecPayloadWUM])).from _).bind
  rw [if_neg other, if_pos rfl, bind_pure_comp]
  apply ReadsFrom.map
  apply ((reads_retrieve8 values.type.toNat_lt).from _).bind
  rw [UInt8.ofNat_toNat]
  cases values with
  | updateRequest major minor revision packSize =>
    have packSizes := fun start => ((reads_retrieve32 packSize.toNat_lt).from start).map
      fun packSize => CWVendorWumValues.updateRequest major minor revision (.ofNat packSize)
    rw [CWVendorWumValues.type, parseWumArgs_updateRequest]
    apply ((reads_retrieve8 major.toNat_lt).from _).bind
    apply ((reads_retrieve8 minor.toNat_lt).from _).bind
    apply ((reads_retrieve8 revision.toNat_lt).from _).bind
    simpa using packSizes _
  | cupFragment seqNum size buf =>
    obtain ⟨bytes, same, length⟩ := sendable
    subst same
    have long : (CWVendorWumValues.cupFragment seqNum size (some bytes)).body.length =
        11 + size.toNat := by
      simp [CWVendorWumValues.body, CWVendorWumValues.args, length]
      omega
    have allocates : ¬ Unallocatable (size.toNat : Int) := by
      simp only [Unallocatable]
      omega
    have fragments := fun start => (readsFrom_rawBytes start bytes).map
      fun bytes => CWVendorWumValues.cupFragment seqNum size (some bytes)
    rw [CWVendorWumValues.type, parseWumArgs_cupFragment]
    apply ((reads_retrieve32 seqNum.toNat_lt).from _).bind
    apply ((reads_retrieve32 size.toNat_lt).from _).bind
    rw [asInt_of_lt (by omega), retrieveBytes, if_neg allocates]
    simpa [length] using fragments _
  | plain type known =>
    rw [CWVendorWumValues.type, parseWumArgs_plain known]
    exact readsFrom_pure _ _

/-- A message of the firmware update comes back as it is. -/
theorem wum_arrives (values : CWVendorWumValues) (sendable : values.Sendable)
    (short : values.body.length < 65536) :
    Arrives (Prod.fst <$> cwAssembleWTPVendorPayloadWUM values) vendorSpecPayload
      cwParseVendorPayload (.wum values) := by
  refine ⟨filled (elementBytes vendorSpecPayload values.body) 2, ?_, ?_⟩
  · rw [cwAssembleWTPVendorPayloadWUM_eq values sendable short]
    rfl
  · rw [contents_filled]
    exact reads_formatted (by simp [vendorSpecPayload]) short
      (readsFrom_wumPayload values sendable short)

end WlanController.Vendor
