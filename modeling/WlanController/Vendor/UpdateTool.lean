import WlanController.Foundation.Dialog
import WlanController.Interface.ListReply
import WlanController.Vendor.FirmwareDelivery

/-!
# The update tool

The operator's tool asks the AC for the version of a WTP, updates its firmware or cancels an update.
It waits for an answer to every message before it goes on, and gives up at the first one that is no
success.
-/

namespace WlanController.Vendor

open Interface (htonl readn read32)

/-! ## Messages -/

/-- `wum_req_t`; what `payload_len` says is the length of the payload. -/
structure WUMRequest where
  cmdMsg : UInt8
  msgElem : UInt8
  wtpId : Int
  wumType : UInt8
  payload : List UInt8

/-- `wum_resp_t`.  The payload is empty where there is none. -/
structure WUMResponse where
  wtpId : Int
  resultCode : Int
  payload : List UInt8
  offset : Nat
  deriving DecidableEq

def confUpdateMsg : UInt8 := 2

def msgElementTypeVendorWUM : UInt8 := 3

/-- `WUM_INIT_REQ_MSG` and the fields that are the same for all messages. -/
def wumRequest (wtpId : Int) (wumType : UInt8) (payload : List UInt8) : WUMRequest :=
  ⟨confUpdateMsg, msgElementTypeVendorWUM, wtpId, wumType, payload⟩

/-- The first seven bytes of the structure, and the payload. -/
def wumSendMessage (msg : WUMRequest) : List UInt8 :=
  msg.cmdMsg :: msg.msgElem :: (htonl msg.wtpId ++ (msg.wumType :: msg.payload))

/-- There is no result where the stream ends before the message does. -/
def wumReceiveMessage (stream : List UInt8) : Option WUMResponse := do
  let (wtpId, stream) ← read32 stream
  let (resultCode, stream) ← read32 stream
  let (payloadLen, stream) ← read32 stream
  if 0 < payloadLen then
    let (payload, _) ← readn payloadLen.toNat stream
    return ⟨wtpId, resultCode, payload, 0⟩
  else return ⟨wtpId, resultCode, [], 0⟩

/-- There is no result where nothing is left of the payload, or where there is none. -/
def wumPayloadRetrieve8 (resp : WUMResponse) : Option (UInt8 × WUMResponse) :=
  resp.payload[resp.offset]?.map fun byte => (byte, { resp with offset := resp.offset + 1 })

/-! ## Commands -/

/-- A question gets no answer where the AC closes the connection. -/
abbrev ToolDialog (α : Type) := Dialog WUMRequest (Option WUMResponse) α

/-- `SUCCESS` -/
def toolSuccess : Int := 0

/-- `ERROR` -/
def toolError : Int := 1

/-- What is returned for an answer that has to be of a type. -/
def resultOf (type : UInt8) (answer : Option WUMResponse) : Option Int :=
  match answer with
  | none => some toolError
  | some resp => do
    let (wumType, resp) ← wumPayloadRetrieve8 resp
    return if wumType ≠ type then toolError else resp.resultCode

structure VersionInfo where
  major : UInt8
  minor : UInt8
  revision : UInt8

/-- What is returned, and the version where there is one. -/
def versionOf (answer : Option WUMResponse) : Option (Int × Option VersionInfo) :=
  match answer with
  | none => some (toolError, none)
  | some resp => do
    let (wumType, resp) ← wumPayloadRetrieve8 resp
    if wumType ≠ wtpVersionResponse then return (toolError, none)
    let (major, resp) ← wumPayloadRetrieve8 resp
    let (minor, resp) ← wumPayloadRetrieve8 resp
    let (revision, _) ← wumPayloadRetrieve8 resp
    return (toolSuccess, some ⟨major, minor, revision⟩)

def wumGetWTPVersion (wtpId : Int) : ToolDialog (Option (Int × Option VersionInfo)) :=
  .ask (wumRequest wtpId wtpVersionRequest []) fun answer => .done (versionOf answer)

def wumSendCommitRequest (wtpId : Int) : ToolDialog (Option Int) :=
  .ask (wumRequest wtpId wtpCommitUpdate []) fun answer => .done (resultOf wtpCommitAck answer)

def wumSendCancelRequest (wtpId : Int) : ToolDialog (Option Int) :=
  .ask (wumRequest wtpId wtpCancelUpdateRequest []) fun answer =>
    .done (resultOf wtpCancelUpdateResponse answer)

/-- The number of the fragment, its size and its bytes. -/
def fragmentPayload (bytes : List UInt8) (seq : Nat) : List UInt8 :=
  htonl seq ++ (htonl bytes.length ++ bytes)

def wumSendFragment (wtpId : Int) (bytes : List UInt8) (seq : Nat) : ToolDialog (Option Int) :=
  .ask (wumRequest wtpId wtpCupFragment (fragmentPayload bytes seq)) fun answer =>
    .done (resultOf wtpCupAck answer)

/-- A package, as the file and its descriptor give it.  An empty file has no descriptor. -/
structure Update where
  bytes : List UInt8
  positive : 0 < bytes.length
  /-- The size is an `int`. -/
  small : bytes.length < 2147483648
  major : UInt8
  minor : UInt8
  revision : UInt8

def Update.payload (update : Update) : List UInt8 :=
  update.major :: update.minor :: update.revision :: htonl update.bytes.length

/-- The type of the answer is not looked at. -/
def wumSendUpdateRequest (wtpId : Int) (update : Update) : ToolDialog (Option Int) :=
  .ask (wumRequest wtpId wtpUpdateRequest update.payload) fun answer =>
    .done (some (answer.elim toolError WUMResponse.resultCode))

/-- The loop of `WUMUpdate`: `left` bytes from `sent` on, as the fragments from `i` on. -/
def wumUpdateLoop (wtpId : Int) (cupBuf : List UInt8) (left sent i : Nat) :
    ToolDialog (Option Int) :=
  if 0 < left then do
    let toSend := min cupFragmentSize left
    match ← wumSendFragment wtpId ((cupBuf.drop sent).take toSend) i with
    | none => return none
    | some result =>
      if result ≠ toolSuccess then return some toolError
      wumUpdateLoop wtpId cupBuf (left - toSend) (sent + toSend) (i + 1)
  else return some toolSuccess
termination_by left
decreasing_by
  simp only [cupFragmentSize]
  omega

def wumUpdate (wtpId : Int) (update : Update) : ToolDialog (Option Int) := do
  match ← wumSendUpdateRequest wtpId update with
  | none => return none
  | some result =>
    if result ≠ toolSuccess then return some toolError
    match ← wumUpdateLoop wtpId update.bytes update.bytes.length 0 0 with
    | none => return none
    | some result =>
      if result ≠ toolSuccess then return some toolError
      match ← wumSendCommitRequest wtpId with
      | none => return none
      | some result => return some (if result ≠ toolSuccess then toolError else toolSuccess)

end WlanController.Vendor
