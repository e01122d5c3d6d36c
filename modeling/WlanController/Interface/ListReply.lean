import Mathlib.Algebra.Order.Ring.Int
import WlanController.Foundation.BigEndian

/-!
# The list of the WTPs for an application

An application asks the AC which WTPs it has.  The AC fills a buffer of fixed size with their number
and, for each, with its index, the length of its name and the name.  The operator's tool reads the
list back from the socket.
-/

namespace WlanController.Interface

/-! ## Numbers on the socket -/

/-- An `int` in network order. -/
def htonl (value : Int) : List UInt8 := BigEndian.encode 4 (BitVec.ofInt 32 value).toNat

def ntohl (bytes : List UInt8) : Int := (BitVec.ofNat 32 (BigEndian.decode bytes)).toInt

/-! ## The AC -/

/-- What the list is made from: whether the slot is taken, and the name that the Join left, without
its final zero. -/
structure Session where
  isNotFree : Bool
  name : Option (List UInt8)

/-- The number of sessions and the counter are of type `int`. -/
structure SessionTable where
  gWTPs : List Session
  gActiveWTPs : Int
  size : gWTPs.length < 2 ^ 31
  counter : -2 ^ 31 ≤ gActiveWTPs ∧ gActiveWTPs < 2 ^ 31

/-- A string in C ends at its first zero. -/
def cString (buffer : List UInt8) : List UInt8 := buffer.takeWhile fun b => b ≠ 0

def strlen (buffer : List UInt8) : Nat := (cString buffer).length

def wtpListBufferSize : Nat := 1024

/-- Copies to `wtpListBuffer + payload_size`.  There is no result when this runs over the end. -/
def memcpy (payload source : List UInt8) : Option (List UInt8) :=
  if payload.length + source.length ≤ wtpListBufferSize then some (payload ++ source) else none

def withoutUnnamed : List Session → Int → Int
  | [], gActiveWTPsTemp => gActiveWTPsTemp
  | session :: gWTPs, gActiveWTPsTemp =>
    if session.isNotFree ∧ session.name = none then withoutUnnamed gWTPs (gActiveWTPsTemp - 1)
    else withoutUnnamed gWTPs gActiveWTPsTemp

def addEntry (i : Nat) (session : Session) (payload : List UInt8) : Option (List UInt8) :=
  if session.isNotFree then
    match session.name with
    | none => some payload
    | some name => do
      let payload ← memcpy payload (htonl i)
      let payload ← memcpy payload (htonl (strlen name))
      memcpy payload (name.take (strlen name))
  else
    some payload

def addEntries : Nat → List Session → List UInt8 → Option (List UInt8)
  | _, [], payload => some payload
  | i, session :: gWTPs, payload => (addEntry i session payload).bind (addEntries (i + 1) gWTPs)

/-- The answer to `LIST_MSG`. -/
def cwManageList (table : SessionTable) : Option (List UInt8) :=
  let gActiveWTPsTemp :=
    if 0 < table.gActiveWTPs then withoutUnnamed table.gWTPs table.gActiveWTPs
    else table.gActiveWTPs
  (memcpy [] (htonl gActiveWTPsTemp)).bind fun payload =>
    if 0 < gActiveWTPsTemp then addEntries 0 table.gWTPs payload else some payload

/-! ## The operator's tool -/

structure WTPInfo where
  wtpId : Int
  name : List UInt8
deriving DecidableEq

/-- Reads that many bytes.  There is no result when the stream ends before. -/
def readn (nbytes : Nat) (stream : List UInt8) : Option (List UInt8 × List UInt8) :=
  if nbytes ≤ stream.length then some (stream.splitAt nbytes) else none

def read32 (stream : List UInt8) : Option (Int × List UInt8) :=
  (readn 4 stream).map fun (bytes, stream') => (ntohl bytes, stream')

/-- A negative length is a huge `size_t`. -/
def readWTPInfo (stream : List UInt8) : Option (WTPInfo × List UInt8) := do
  let (wtpId, stream) ← read32 stream
  let (nameLen, stream) ← read32 stream
  if nameLen < 0 then none
  else
    let (name, stream) ← readn nameLen.toNat stream
    some (⟨wtpId, name⟩, stream)

def readWTPInfos : Nat → List UInt8 → Option (List WTPInfo × List UInt8)
  | 0, stream => some ([], stream)
  | rounds + 1, stream => do
    let (first, stream) ← readWTPInfo stream
    let (others, stream) ← readWTPInfos rounds stream
    some (first :: others, stream)

/-- No memory is found for a negative number of entries. -/
def acServerWTPList (stream : List UInt8) : Option (List WTPInfo × List UInt8) := do
  let (activeWTPs, stream) ← read32 stream
  if activeWTPs < 0 then none else readWTPInfos activeWTPs.toNat stream

/-! ## What the list is for -/

/-- The live sessions that have a name, with their indices. -/
def liveNamed : Nat → List Session → List WTPInfo
  | _, [] => []
  | i, session :: gWTPs =>
    match session.isNotFree, session.name with
    | true, some name => ⟨i, cString name⟩ :: liveNamed (i + 1) gWTPs
    | _, _ => liveNamed (i + 1) gWTPs

def WTPInfo.bytes (info : WTPInfo) : List UInt8 :=
  htonl info.wtpId ++ (htonl info.name.length ++ info.name)

/-- The reply fits in the buffer, it is the number of its entries and these entries, and the tool
reads from it exactly the live sessions with names, and not a byte more. -/
structure Framed (table : SessionTable) (reply : List UInt8) : Prop where
  built : cwManageList table = some reply
  announced : ∃ entries : List WTPInfo,
    reply = htonl entries.length ++ entries.flatMap WTPInfo.bytes
  decoded : ∀ rest, acServerWTPList (reply ++ rest) = some (liveNamed 0 table.gWTPs, rest)

end WlanController.Interface
