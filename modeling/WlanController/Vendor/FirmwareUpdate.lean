import WlanController.Foundation.SparseFile
import WlanController.Vendor.VendorAnswers

/-!
# The firmware update of a WTP

An update is requested with its size, sent in fragments that the WTP writes into a temporary
file, and committed, which starts the update agent and ends the WTP.  The session waits for a
request, is busy with fragments or is ready for the commit; how far it is it knows by counting
fragments.

The file operations are taken to succeed where they can: a file cannot be positioned in front
of its beginning, and what is written is read from a buffer that has to be there.
-/

namespace WlanController.Vendor

open Tiling (Block)

/-- `WUM_STATE_WAIT`, `WUM_STATE_BUSY` and `WUM_STATE_READY`. -/
inductive WUMPhase where
  | wait | busy | ready
  deriving DecidableEq

/-- `wumState` with what the session has done outside of it: the file `CUP_TMP_FILE`, how often
    the update agent has been started, and `WTPExitOnUpdateCommit`. -/
structure WUMState where
  state : WUMPhase
  /-- Whether the pointer is not null. -/
  cupTmp : Bool
  cupSize : Int
  totalFragments : Int
  receivedFragments : Int
  tmpFile : Option (List UInt8)
  agentStarts : Nat
  exitOnUpdateCommit : Bool

def WUMState.initial : WUMState := ⟨.wait, false, 0, 0, 0, none, 0, false⟩

def cupFragmentSize : Nat := 4000

def wumPrepareForUpdate (s : WUMState) (size : Int) : Option WUMState :=
  if s.state ≠ .wait then none
  else some { s with
    cupTmp := true
    tmpFile := some []
    cupSize := size
    totalFragments :=
      size.tdiv cupFragmentSize + if 0 < size.tmod cupFragmentSize then 1 else 0
    receivedFragments := 0
    state := .busy }

/-- What is copied from a buffer; a size that an `int` takes for a negative number is larger than
    any buffer. -/
def bytesOf (buf : Option (List UInt8)) (size : UInt32) : Option (List UInt8) :=
  if size.toNat ≤ (buf.getD []).length ∧ size.toNat < 2147483648 then
    some ((buf.getD []).take size.toNat)
  else none

/-- `offset`, which is computed without a sign and kept with one. -/
def fragmentOffset (seqNum : UInt32) : Int := asInt (seqNum.toNat * cupFragmentSize)

/-- What is refused before the file is touched.  The number of fragments is compared without its
    sign, and in front of its beginning a file cannot be positioned. -/
def Declined (totalFragments : Int) (seqNum : UInt32) : Prop :=
  totalFragments % 4294967296 < seqNum.toNat ∨ fragmentOffset seqNum < 0

instance (totalFragments : Int) (seqNum : UInt32) : Decidable (Declined totalFragments seqNum) :=
  inferInstanceAs (Decidable (_ ∨ _))

/-- `none` stands for an access through a null pointer or outside of a buffer, `some none` for
    `CW_FALSE`. -/
def wumStoreFragment (s : WUMState) (seqNum size : UInt32) (buf : Option (List UInt8)) :
    Option (Option WUMState) :=
  if s.state ≠ .busy then some none
  else if Declined s.totalFragments seqNum then some none
  else if s.cupTmp = false then none
  else do
    let bytes ← bytesOf buf size
    return some { s with
      tmpFile := s.tmpFile.map (SparseFile.write · ⟨(fragmentOffset seqNum).toNat, bytes⟩)
      receivedFragments := s.receivedFragments + 1 }

def WUMIsComplete (s : WUMState) : Prop :=
  s.state = .busy ∧ ¬ s.receivedFragments < s.totalFragments

instance (s : WUMState) : Decidable (WUMIsComplete s) := inferInstanceAs (Decidable (_ ∧ _))

def wumCloseFile (s : WUMState) : WUMState := { s with cupTmp := false, state := .ready }

def wtpVersionMajor : UInt8 := 0

def wtpVersionMinor : UInt8 := 93

def wtpVersionRevision : UInt8 := 2

def cwWTPCheckVersion (major minor revision : UInt8) : Bool :=
  if wtpVersionMajor < major then true
  else if major = wtpVersionMajor then
    if wtpVersionMinor < minor then true
    else if minor = wtpVersionMinor then wtpVersionRevision < revision
    else false
  else false

/-- The comparison is made without signs, on 64 bits. -/
def checkFreeSpace (free : UInt64) (bytes : Int) : Bool :=
  bytes % 18446744073709551616 < free.toNat

/-- What a cancel request does; the file is removed where there is one. -/
def cancelUpdate (s : WUMState) : WUMState :=
  let s := if s.state = .busy then { wumCloseFile s with tmpFile := none }
    else if s.state = .ready then { s with tmpFile := none }
    else s
  { s with state := .wait }

structure Saved where
  wum : WUMState
  success : Bool
  answer : AnswerPayload

/-- `free` is what `statvfs` says is free where the temporary file is.  Of an answer that is no
    version response only the type is sent. -/
def cwWTPSaveWUMValues (s : WUMState) (free : UInt64) : CWVendorWumValues → Option Saved
  | .plain type _ =>
    if type = wtpVersionRequest then
      some ⟨s, true,
        .wum wtpVersionResponse wtpVersionMajor wtpVersionMinor wtpVersionRevision⟩
    else if type = wtpCommitUpdate then
      -- in any state, whatever is answered
      some ⟨{ s with agentStarts := s.agentStarts + 1, exitOnUpdateCommit := true },
        s.state = .ready, .wum wtpCommitAck 0 0 0⟩
    else if type = wtpCancelUpdateRequest then
      some ⟨cancelUpdate s, true, .wum wtpCancelUpdateResponse 0 0 0⟩
    else some ⟨s, true, .wum type 0 0 0⟩
  | .updateRequest major minor revision packSize =>
    let refused := some ⟨s, false, .wum wtpUpdateResponse major minor revision⟩
    if ¬ cwWTPCheckVersion major minor revision then refused
    else if ¬ checkFreeSpace free (asInt packSize.toNat) then refused
    else match wumPrepareForUpdate s (asInt packSize.toNat) with
      | some s => some ⟨s, true, .wum wtpUpdateResponse major minor revision⟩
      | none => refused
  | .cupFragment seqNum size buf => do
    let stored ← wumStoreFragment s seqNum size buf
    let s := stored.getD s
    return ⟨if WUMIsComplete s then wumCloseFile s else s, stored.isSome, .wum wtpCupAck 0 0 0⟩

end WlanController.Vendor
