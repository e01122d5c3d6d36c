import WlanController.Foundation.Run
import WlanController.Vendor.UpdateExchange

/-!
# Updates of a WTP

A tool that is alone with a WTP updates its firmware if and only if the WTP waits, the package is
newer and there is room for it.  Many tools may take turns at a WTP, and may be cut off at any
message; the WTP does not know which of them a fragment is from.  As long as nobody cancels the
update of another tool the update agent is started at most once, and with what one tool has sent.

A turn is a message and its answer.  That one command is given to a session while another one waits
is left out here.
-/

namespace WlanController.Vendor

open Protocol
open Interface (htonl)

/-! ## What a tool sends -/

namespace Update

variable (update : Update)

def requestValues : CWVendorWumValues :=
  .updateRequest update.major update.minor update.revision (.ofNat update.bytes.length)

def fragmentValues (i : Nat) : CWVendorWumValues :=
  .cupFragment (.ofNat i) (.ofNat (cupPiece update.bytes i).length) (some (cupPiece update.bytes i))

theorem toNat_length : (UInt32.ofNat update.bytes.length).toNat = update.bytes.length := by
  have small := update.small
  simp only [UInt32.toNat_ofNat']
  omega

theorem requestValues_args : update.requestValues.args = update.payload := by
  have small := update.small
  simp only [requestValues, CWVendorWumValues.args, encode_byte, toNat_length, payload,
    htonl_natCast (show update.bytes.length < 4294967296 by omega)]
  rfl

variable {update} {i : Nat}

theorem index_small (inside : i < cupCount update.bytes) : i * cupFragmentSize < 2147483648 := by
  have before := mul_lt_iff_lt_count.mpr inside
  have small := update.small
  omega

theorem toNat_index (inside : i < cupCount update.bytes) : (UInt32.ofNat i).toNat = i := by
  have small := index_small inside
  simp only [UInt32.toNat_ofNat', cupFragmentSize] at small ⊢
  omega

theorem length_piece_le (bytes : List UInt8) (i : Nat) :
    (cupPiece bytes i).length ≤ cupFragmentSize := by
  rw [Package.length_cupPiece]
  exact Nat.min_le_left _ _

theorem fragmentValues_args (inside : i < cupCount update.bytes) :
    (update.fragmentValues i).args = fragmentPayload (cupPiece update.bytes i) i := by
  have small := index_small inside
  have short := length_piece_le update.bytes i
  simp only [cupFragmentSize] at small short
  simp only [fragmentValues, CWVendorWumValues.args, toNat_index inside,
    Package.toNat_length_cupPiece, fragmentPayload, Option.getD_some]
  rw [htonl_natCast (by omega), htonl_natCast (by omega)]

theorem forwarded_request (update : Update) : update.requestValues.Forwarded where
  sendable := trivial
  short := by
    rw [CWVendorWumValues.body, requestValues_args]
    simp [payload, Interface.length_htonl]
  numbered seqNum size buf same := by cases same

theorem forwarded_fragment (inside : i < cupCount update.bytes) :
    (update.fragmentValues i).Forwarded where
  sendable := ⟨_, rfl, (Package.toNat_length_cupPiece update.bytes i).symm⟩
  short := by
    have short := length_piece_le update.bytes i
    simp only [cupFragmentSize] at short
    rw [CWVendorWumValues.body, fragmentValues_args inside]
    simp only [fragmentPayload, List.length_append, BigEndian.length_encode, Interface.length_htonl]
    omega
  numbered seqNum size buf same := by
    have small := index_small inside
    have before := mul_lt_iff_lt_count.mpr inside
    have length := Package.length_cupPiece update.bytes i
    simp only [cupFragmentSize] at small before length
    cases same
    rw [toNat_index inside, Package.toNat_length_cupPiece]
    omega

end Update

theorem plain_commit : wtpCommitUpdate ≠ 3 ∧ wtpCommitUpdate ≠ 5 := by simp [wtpCommitUpdate]

theorem plain_cancel : wtpCancelUpdateRequest ≠ 3 ∧ wtpCancelUpdateRequest ≠ 5 := by
  simp [wtpCancelUpdateRequest]

theorem plain_version : wtpVersionRequest ≠ 3 ∧ wtpVersionRequest ≠ 5 := by
  simp [wtpVersionRequest]

theorem forwarded_plain {type : UInt8} (other : type ≠ 3 ∧ type ≠ 5)
    (sent : type = wtpVersionRequest ∨ type = wtpCommitUpdate ∨ type = wtpCancelUpdateRequest) :
    (CWVendorWumValues.plain type other).Forwarded where
  sendable := sent
  short := by simp [CWVendorWumValues.body, CWVendorWumValues.args]
  numbered seqNum size buf same := by cases same

/-! ## An update as a dialog -/

section Dialogs

variable (wtpId : Int) (update : Update)

/-- What a tool does behind its fragments. -/
def afterFragments : Option Int → ToolDialog (Option Int)
  | none => .done none
  | some result =>
    if result ≠ toolSuccess then .done (some toolError)
    else .ask (toolRequest wtpId (.plain wtpCommitUpdate plain_commit)) fun answer =>
      .done ((resultOf wtpCommitAck answer).map fun result =>
        if result ≠ toolSuccess then toolError else toolSuccess)

/-- A tool that has sent as many fragments. -/
def sending (i : Nat) : ToolDialog (Option Int) :=
  wumUpdateLoop wtpId update.bytes (update.bytes.length - i * cupFragmentSize) (i * cupFragmentSize)
    i >>= afterFragments wtpId

theorem afterFragments_eq (result : Option Int) :
    (match result with
      | none => return none
      | some result => do
        if result ≠ toolSuccess then return some toolError
        match ← wumSendCommitRequest wtpId with
        | none => return none
        | some result => return some (if result ≠ toolSuccess then toolError else toolSuccess) :
          ToolDialog (Option Int)) = afterFragments wtpId result := by
  cases result with
  | none => rfl
  | some result =>
    by_cases failed : result ≠ toolSuccess
    case pos => simp [afterFragments, failed]
    case neg =>
      simp only [afterFragments, if_neg failed, wumSendCommitRequest, Dialog.ask_bind,
        Dialog.done_bind, Dialog.pure_eq]
      congr 1
      funext answer
      cases resultOf wtpCommitAck answer <;> rfl

theorem wumUpdate_ask :
    wumUpdate wtpId update = .ask (toolRequest wtpId update.requestValues) fun answer =>
      if answer.elim toolError WUMResponse.resultCode ≠ toolSuccess then .done (some toolError)
      else sending wtpId update 0 := by
  have request : wumRequest wtpId wtpUpdateRequest update.payload =
      toolRequest wtpId update.requestValues := by
    rw [toolRequest, Update.requestValues_args]
    rfl
  simp only [wumUpdate, wumSendUpdateRequest, Dialog.ask_bind, Dialog.done_bind, request]
  congr 1
  funext answer
  by_cases failed : answer.elim toolError WUMResponse.resultCode ≠ toolSuccess
  case pos => simp [failed]
  case neg =>
    simp only [if_neg failed, sending, Nat.zero_mul, Nat.sub_zero]
    congr 1
    funext result
    exact afterFragments_eq wtpId result

theorem wumUpdateLoop_none (cupBuf : List UInt8) (sent i : Nat) :
    wumUpdateLoop wtpId cupBuf 0 sent i = .done (some toolSuccess) := by
  rw [wumUpdateLoop, if_neg (Nat.lt_irrefl 0), Dialog.pure_eq]

variable {wtpId update} {i : Nat}

/-- Behind a fragment, also where it was the last one. -/
theorem sending_next :
    wumUpdateLoop wtpId update.bytes (update.bytes.length - i * cupFragmentSize -
        min cupFragmentSize (update.bytes.length - i * cupFragmentSize))
      (i * cupFragmentSize + min cupFragmentSize (update.bytes.length - i * cupFragmentSize))
      (i + 1) >>= afterFragments wtpId = sending wtpId update (i + 1) := by
  have left : update.bytes.length - i * cupFragmentSize -
      min cupFragmentSize (update.bytes.length - i * cupFragmentSize) =
        update.bytes.length - (i + 1) * cupFragmentSize := by
    simp only [cupFragmentSize]
    omega
  rw [sending, left]
  by_cases more : (i + 1) * cupFragmentSize < update.bytes.length
  case pos =>
    have sent : i * cupFragmentSize + min cupFragmentSize
        (update.bytes.length - i * cupFragmentSize) = (i + 1) * cupFragmentSize := by
      simp only [cupFragmentSize] at more ⊢
      omega
    rw [sent]
  case neg => rw [Nat.sub_eq_zero_of_le (by omega), wumUpdateLoop_none, wumUpdateLoop_none]

theorem sending_ask (inside : i < cupCount update.bytes) :
    sending wtpId update i = .ask (toolRequest wtpId (update.fragmentValues i)) fun answer =>
      match resultOf wtpCupAck answer with
      | none => .done none
      | some result =>
        if result ≠ toolSuccess then .done (some toolError) else sending wtpId update (i + 1) := by
  have before := mul_lt_iff_lt_count.mpr inside
  have left : 0 < update.bytes.length - i * cupFragmentSize := by omega
  have piece : (update.bytes.drop (i * cupFragmentSize)).take
      (min cupFragmentSize (update.bytes.length - i * cupFragmentSize)) =
        cupPiece update.bytes i := by
    rw [cupPiece, Pieces.piece, ← List.length_drop, ← List.take_eq_take_min]
  have request : wumRequest wtpId wtpCupFragment (fragmentPayload (cupPiece update.bytes i) i) =
      toolRequest wtpId (update.fragmentValues i) := by
    rw [toolRequest, Update.fragmentValues_args inside]
    rfl
  rw [sending, wumUpdateLoop, if_pos left]
  simp only [wumSendFragment, piece, Dialog.ask_bind, Dialog.done_bind, request]
  congr 1
  funext answer
  cases resultOf wtpCupAck answer with
  | none => rfl
  | some result =>
    by_cases failed : result ≠ toolSuccess
    case pos =>
      simp only [if_pos failed]
      rfl
    case neg =>
      simp only [if_neg failed]
      exact sending_next

theorem sending_commit :
    sending wtpId update (cupCount update.bytes) =
      .ask (toolRequest wtpId (.plain wtpCommitUpdate plain_commit)) fun answer =>
        .done ((resultOf wtpCommitAck answer).map fun result =>
          if result ≠ toolSuccess then toolError else toolSuccess) := by
  have all : update.bytes.length ≤ cupCount update.bytes * cupFragmentSize :=
    Nat.le_of_not_lt fun more => Nat.lt_irrefl _ (mul_lt_iff_lt_count.mp more)
  rw [sending, Nat.sub_eq_zero_of_le all, wumUpdateLoop_none]
  rfl

end Dialogs

/-! ## An update at the WTP -/

namespace Update

variable (update : Update)

/-- The WTP takes the update. -/
def Accepted (s : WUMState) (free : UInt64) : Prop :=
  s.state = .wait ∧ cwWTPCheckVersion update.major update.minor update.revision = true ∧
    checkFreeSpace free update.bytes.length = true

instance (s : WUMState) (free : UInt64) : Decidable (update.Accepted s free) :=
  inferInstanceAs (Decidable (_ ∧ _))

/-- The WTP has taken the update and stored as many fragments of it. -/
def stored (i : Nat) (s : WUMState) : WUMState where
  state := if i < cupCount update.bytes then .busy else .ready
  cupTmp := i < cupCount update.bytes
  cupSize := update.bytes.length
  totalFragments := cupCount update.bytes
  receivedFragments := i
  tmpFile := some (update.bytes.take (i * cupFragmentSize))
  agentStarts := s.agentStarts
  exitOnUpdateCommit := s.exitOnUpdateCommit

/-- The WTP has started the update agent. -/
def committed (s : WUMState) : WUMState :=
  { update.stored (cupCount update.bytes) s with
    agentStarts := s.agentStarts + 1
    exitOnUpdateCommit := true }

theorem all_taken : update.bytes.take (cupCount update.bytes * cupFragmentSize) = update.bytes :=
  List.take_of_length_le (Nat.le_of_not_lt fun more => Nat.lt_irrefl _ (mul_lt_iff_lt_count.mp more))

theorem cupCount_pos : 0 < cupCount update.bytes := Pieces.count_pos update.positive

theorem cupCount_small : cupCount update.bytes < 2147483648 :=
  Nat.lt_of_le_of_lt (count_le _) update.small

theorem asInt_length : asInt (UInt32.ofNat update.bytes.length).toNat = update.bytes.length := by
  rw [toNat_length, asInt_of_lt update.small]

theorem wumPrepareForUpdate_eq {s : WUMState} (waiting : s.state = .wait) :
    wumPrepareForUpdate s update.bytes.length = some (update.stored 0 s) := by
  have some_ := update.cupCount_pos
  have total := numFragments_of_nonneg update.bytes.length
  simp only [wumPrepareForUpdate, waiting, not_true_eq_false, ne_eq, if_false, total]
  rw [cupCount] at some_
  simp [stored, some_, cupCount]

theorem saves_request (s : WUMState) (free : UInt64) :
    cwWTPSaveWUMValues s free update.requestValues =
      some ⟨if update.Accepted s free then update.stored 0 s else s,
        update.Accepted s free,
        .wum wtpUpdateResponse update.major update.minor update.revision⟩ := by
  simp only [requestValues, cwWTPSaveWUMValues, asInt_length, Accepted]
  by_cases newer : cwWTPCheckVersion update.major update.minor update.revision = true
  case neg => simp [newer]
  case pos =>
    by_cases room : checkFreeSpace free update.bytes.length = true
    case neg => simp [newer, room]
    case pos =>
      by_cases waiting : s.state = .wait
      case pos => simp [newer, room, waiting, wumPrepareForUpdate_eq]
      case neg => simp [newer, room, waiting, wumPrepareForUpdate]

variable {update} {i : Nat}

theorem declined_iff (inside : i < cupCount update.bytes) :
    ¬ Declined (cupCount update.bytes) (.ofNat i) := by
  have small := index_small inside
  have total := update.cupCount_small
  rw [Declined, toNat_index inside, fragmentOffset, toNat_index inside, asInt_of_lt small]
  omega

/-- A fragment that comes in its turn is appended to the file. -/
theorem saves_fragment (inside : i < cupCount update.bytes) (s : WUMState) (free : UInt64) :
    cwWTPSaveWUMValues (update.stored i s) free (update.fragmentValues i) =
      some ⟨update.stored (i + 1) s, true, .wum wtpCupAck 0 0 0⟩ := by
  have before := mul_lt_iff_lt_count.mpr inside
  have bytes : bytesOf (some (cupPiece update.bytes i))
      (.ofNat (cupPiece update.bytes i).length) = some (cupPiece update.bytes i) := by
    have short := length_piece_le update.bytes i
    simp only [cupFragmentSize] at short
    simp only [bytesOf, Package.toNat_length_cupPiece, Option.getD_some, List.take_length]
    rw [if_pos (by omega)]
  have offset : (fragmentOffset (.ofNat i)).toNat = i * cupFragmentSize := by
    rw [fragmentOffset, toNat_index inside, asInt_of_lt (index_small inside), Int.toNat_natCast]
  -- The file holds all pieces before this one, so that the offset is its end.
  have written : SparseFile.write (update.bytes.take (i * cupFragmentSize))
      ⟨i * cupFragmentSize, cupPiece update.bytes i⟩ =
        update.bytes.take ((i + 1) * cupFragmentSize) := by
    have length : (update.bytes.take (i * cupFragmentSize)).length = i * cupFragmentSize := by
      simp only [List.length_take]
      omega
    have appended := SparseFile.write_length (update.bytes.take (i * cupFragmentSize))
      (cupPiece update.bytes i)
    rw [length] at appended
    rw [appended, cupPiece, Pieces.piece, Nat.add_mul, Nat.one_mul, List.take_add]
  have stores : wumStoreFragment (update.stored i s) (.ofNat i) (.ofNat (cupPiece update.bytes i).length)
      (some (cupPiece update.bytes i)) = some (some { update.stored i s with
        tmpFile := some (update.bytes.take ((i + 1) * cupFragmentSize))
        receivedFragments := i + 1 }) := by
    have busy : (update.stored i s).state = .busy := if_pos inside
    have opened : (update.stored i s).cupTmp = true := decide_eq_true inside
    have total : (update.stored i s).totalFragments = cupCount update.bytes := rfl
    simp only [wumStoreFragment, busy, total, declined_iff inside, opened, bytes, offset]
    simp [stored, written]
  simp only [cwWTPSaveWUMValues, fragmentValues, stores, Option.bind_eq_bind, Option.bind_some]
  -- Only behind the last piece the file is closed.
  by_cases last : i + 1 < cupCount update.bytes
  case pos =>
    have unfinished : (i : Int) + 1 < cupCount update.bytes := by omega
    simp [WUMIsComplete, stored, inside, last, unfinished]
  case neg =>
    have finished : ¬ (i : Int) + 1 < cupCount update.bytes := by omega
    simp [WUMIsComplete, stored, inside, last, finished, wumCloseFile]

theorem saves_commit (s : WUMState) (free : UInt64) :
    cwWTPSaveWUMValues (update.stored (cupCount update.bytes) s) free
        (.plain wtpCommitUpdate plain_commit) =
      some ⟨update.committed s, true, .wum wtpCommitAck 0 0 0⟩ := by
  have different : wtpCommitUpdate ≠ wtpVersionRequest := by
    simp [wtpCommitUpdate, wtpVersionRequest]
  simp [cwWTPSaveWUMValues, different, stored, committed]

end Update

/-! ## Alone -/

/-- What becomes of a message and of its answer. -/
inductive Fate where
  | answered | answerLost | requestLost

/-- A message to a WTP that may have ended.  A tool gets no answer where one of the two is lost. -/
def Site.serve (site : Site) (free : UInt64) (fate : Fate) (msg : WUMRequest) (s : WUMState) :
    Option (Option WUMResponse × WUMState) :=
  if s.exitOnUpdateCommit then none
  else match fate with
    | .answered => (site.exchange free msg s).map fun done => (some done.1, done.2)
    | .answerLost => (site.exchange free msg s).map fun done => (none, done.2)
    | .requestLost => some (none, s)

/-- What a tool has when a message has met its fate. -/
def Fate.told : Fate → WUMResponse → Option WUMResponse
  | .answered, response => some response
  | .answerLost, _ => none
  | .requestLost, _ => none

section Serve

variable (site : Site) {s : WUMState} {free : UInt64} {values : CWVendorWumValues} {saved : Saved}

/-- A message that reaches the WTP. -/
theorem serve_saved (running : s.exitOnUpdateCommit = false) (forwarded : values.Forwarded)
    (saves : cwWTPSaveWUMValues s free values = some saved) {fate : Fate}
    (reaches : fate ≠ .requestLost) :
    site.serve free fate (toolRequest site.index values) s =
      some (fate.told (saved.response site.index), saved.wum) := by
  have exchanged := site.exchange_eq free s forwarded
  rw [saves] at exchanged
  cases fate with
  | answered => simp [Site.serve, running, exchanged, Fate.told]
  | answerLost => simp [Site.serve, running, exchanged, Fate.told]
  | requestLost => exact absurd rfl reaches

theorem serve_lost (running : s.exitOnUpdateCommit = false) (msg : WUMRequest) :
    site.serve free .requestLost msg s = some (none, s) := by
  simp [Site.serve, running]

theorem serve_ended (ended : s.exitOnUpdateCommit = true) (fate : Fate) (msg : WUMRequest) :
    site.serve free fate msg s = none := by
  simp [Site.serve, ended]

theorem resultOf_response {wtpId : Int} {type : UInt8} (answer : saved.answer = .wum type 0 0 0) :
    resultOf type (some (saved.response wtpId)) = some (if saved.success then 0 else 3) := by
  have payload : ∃ rest, saved.answer.payload = type :: rest := by
    rw [answer]
    exact ⟨_, rfl⟩
  obtain ⟨rest, payload⟩ := payload
  simp [resultOf, wumPayloadRetrieve8, Saved.response, payload]

end Serve

section Alone

variable (site : Site) {update : Update} {s : WUMState} {free : UInt64}

/-- From any fragment on to the commit. -/
theorem sending_run (running : s.exitOnUpdateCommit = false) {i left : Nat}
    (rest : i + left = cupCount update.bytes) :
    (sending site.index update i).run (site.serve free .answered) (update.stored i s) =
      some (some toolSuccess, update.committed s) := by
  have reaches : Fate.answered ≠ .requestLost := by simp
  induction left generalizing i with
  | zero =>
    have all : i = cupCount update.bytes := rest
    subst all
    have served := serve_saved site (show (update.stored _ s).exitOnUpdateCommit = false from running)
      (forwarded_plain plain_commit (.inr (.inl rfl))) (Update.saves_commit s free) reaches
    rw [sending_commit, Dialog.run_ask _ served, Fate.told, resultOf_response rfl]
    rfl
  | succ left inductionHypothesis =>
    have inside : i < cupCount update.bytes := by omega
    have served := serve_saved site (show (update.stored _ s).exitOnUpdateCommit = false from running)
      (Update.forwarded_fragment inside) (Update.saves_fragment inside s free) reaches
    rw [sending_ask inside, Dialog.run_ask _ served, Fate.told, resultOf_response rfl]
    exact inductionHypothesis (by omega)

theorem update_alone (running : s.exitOnUpdateCommit = false) :
    (wumUpdate site.index update).run (site.serve free .answered) s =
      if update.Accepted s free then some (some toolSuccess, update.committed s)
      else some (some toolError, s) := by
  have served := serve_saved site running (Update.forwarded_request update)
    (Update.saves_request update s free) (show Fate.answered ≠ .requestLost by simp)
  rw [wumUpdate_ask, Dialog.run_ask _ served]
  by_cases accepted : update.Accepted s free
  case pos =>
    have success := @sending_run site update s free running 0 (cupCount update.bytes) (by omega)
    simpa [Fate.told, Saved.response, accepted, toolSuccess] using success
  case neg => simp [Fate.told, Saved.response, accepted, toolSuccess]

/-- A tool that nobody interrupts. -/
theorem update_run (site : Site) (update : Update) (s : WUMState) (free : UInt64) :
    (wumUpdate site.index update).run (site.serve free .answered) s =
      if s.exitOnUpdateCommit then none
      else if update.Accepted s free then some (some toolSuccess, update.committed s)
      else some (some toolError, s) := by
  cases running : s.exitOnUpdateCommit with
  | true => simp [wumUpdate_ask, Dialog.run, serve_ended site running]
  | false => simpa using update_alone site running

end Alone

/-! ## In turns -/

/-- What a tool is called for. -/
inductive ToolCommand where
  | version
  | update (update : Update)
  | cancel

def ToolCommand.dialog (wtpId : Int) : ToolCommand → ToolDialog (Option Int)
  | .version => do return (← wumGetWTPVersion wtpId).map Prod.fst
  | .update cup => wumUpdate wtpId cup
  | .cancel => wumSendCancelRequest wtpId

/-- The tools as far as they have come, and the WTP. -/
abbrev Tools (ι : Type) := Dialog.Talking WUMRequest (Option WUMResponse) (Option Int) ι WUMState

/-- One of the tools sends its next message; `free` is what is free at the WTP then. -/
structure Turn (ι : Type) where
  tool : ι
  free : UInt64
  fate : Fate

section Turns

variable {ι : Type} [DecidableEq ι] (site : Site) (commands : ι → ToolCommand)

def Site.Step (tools : Tools ι) (turn : Turn ι) (tools' : Tools ι) : Prop :=
  tools.turn (site.serve turn.free turn.fate) turn.tool = some tools'

/-- No tool has done anything. -/
def Site.started : Tools ι := ⟨fun i => (commands i).dialog site.index, .initial⟩

/-- A cancel request comes when no tool is in the middle of its command. -/
def Site.Calm (tools : Tools ι) (turn : Turn ι) : Prop :=
  commands turn.tool = .cancel →
    ∀ i, tools.dialogs i = (commands i).dialog site.index ∨ ∃ result, tools.dialogs i = .done result

/-! ### How far a tool is -/

inductive Stage where
  | waiting
  | sending (i : Nat)
  | finished (result : Option Int)

/-- The dialog of a tool that is so far. -/
def At (wtpId : Int) (command : ToolCommand) : Stage → ToolDialog (Option Int) → Prop
  | .waiting, dialog => dialog = command.dialog wtpId
  | .sending i, dialog => ∃ update, command = .update update ∧ i ≤ cupCount update.bytes ∧
      dialog = sending wtpId update i
  | .finished result, dialog => dialog = .done result

/-- The tools before the agent is started: one of them sends at most, and the WTP has what it has
sent. -/
structure Underway (stages : ι → Stage) (s : WUMState) : Prop where
  running : s.exitOnUpdateCommit = false
  fresh : s.agentStarts = 0
  unsuccessful : ∀ i update, commands i = .update update → stages i ≠ .finished (some toolSuccess)
  owner : ∀ i k, stages i = .sending k →
    ∃ update s₀, commands i = .update update ∧ s = update.stored k s₀
  alone : ∀ i k j l, stages i = .sending k → stages j = .sending l → i = j

/-- The tools after that: the file is the package of one of them, and no other has succeeded. -/
structure Started (stages : ι → Stage) (s : WUMState) : Prop where
  ended : s.exitOnUpdateCommit = true
  once : s.agentStarts = 1
  owner : ∃ i update, commands i = .update update ∧ s.tmpFile = some update.bytes ∧
    (∃ result, stages i = .finished (some result)) ∧
    ∀ j other, commands j = .update other → stages j = .finished (some toolSuccess) → j = i

/-- What holds in every run. -/
def Tools.Inv (tools : Tools ι) : Prop :=
  ∃ stages : ι → Stage, (∀ i, At site.index (commands i) (stages i) (tools.dialogs i)) ∧
    (Underway commands stages tools.state ∨ Started commands stages tools.state)

end Turns

section Steps

variable {ι : Type} [DecidableEq ι] {site : Site} {commands : ι → ToolCommand}

/-- What a tool has asked for has been done or not, and it may not know. -/
theorem serve_cases {s s' : WUMState} {free : UInt64} {fate : Fate} {values : CWVendorWumValues}
    {saved : Saved} {answer : Option WUMResponse} (forwarded : values.Forwarded)
    (saves : cwWTPSaveWUMValues s free values = some saved)
    (served : site.serve free fate (toolRequest site.index values) s = some (answer, s')) :
    (s' = s ∧ answer = none) ∨
      s' = saved.wum ∧ (answer = none ∨ answer = some (saved.response site.index)) := by
  cases running : s.exitOnUpdateCommit with
  | true =>
    rw [serve_ended site running] at served
    cases served
  | false =>
    cases fate with
    | answered =>
      rw [serve_saved site running forwarded saves (by simp)] at served
      cases served
      exact .inr ⟨rfl, .inr rfl⟩
    | answerLost =>
      rw [serve_saved site running forwarded saves (by simp)] at served
      cases served
      exact .inr ⟨rfl, .inl rfl⟩
    | requestLost =>
      rw [serve_lost site running] at served
      cases served
      exact .inl ⟨rfl, rfl⟩

theorem version_ask (wtpId : Int) :
    ToolCommand.version.dialog wtpId =
      .ask (toolRequest wtpId (.plain wtpVersionRequest plain_version)) fun answer =>
        .done ((versionOf answer).map Prod.fst) := rfl

theorem cancel_ask (wtpId : Int) :
    ToolCommand.cancel.dialog wtpId =
      .ask (toolRequest wtpId (.plain wtpCancelUpdateRequest plain_cancel)) fun answer =>
        .done (resultOf wtpCancelUpdateResponse answer) := rfl

/-- A tool that sends is neither at the beginning of its command nor at the end. -/
theorem sending_amid {wtpId : Int} {update : Update} {k : Nat} (inside : k ≤ cupCount update.bytes) :
    sending wtpId update k ≠ wumUpdate wtpId update ∧
      ∀ result, sending wtpId update k ≠ .done result := by
  rw [wumUpdate_ask]
  cases Nat.lt_or_eq_of_le inside with
  | inl more =>
    rw [sending_ask more]
    constructor
    · intro same
      have types := congrArg WUMRequest.wumType (Dialog.ask.inj same).1
      simp [toolRequest, wumRequest, Update.fragmentValues, Update.requestValues,
        CWVendorWumValues.type, wtpCupFragment, wtpUpdateRequest] at types
    · intro result same
      cases same
  | inr all =>
    rw [all, sending_commit]
    constructor
    · intro same
      have types := congrArg WUMRequest.wumType (Dialog.ask.inj same).1
      simp [toolRequest, wumRequest, Update.requestValues, CWVendorWumValues.type,
        wtpCommitUpdate, wtpUpdateRequest] at types
    · intro result same
      cases same

variable {stages : ι → Stage} {s s₀ : WUMState} {i : ι} {update : Update} {k : Nat}

/-- A tool that ends without success. -/
theorem Underway.finish (underway : Underway commands stages s) {result : Option Int}
    (honest : ∀ update, commands i = .update update → result ≠ some toolSuccess) :
    Underway commands (Function.update stages i (.finished result)) s where
  running := underway.running
  fresh := underway.fresh
  unsuccessful j other updates := by
    by_cases same : j = i
    case pos =>
      subst same
      simpa using honest other updates
    case neg =>
      rw [Function.update_of_ne same]
      exact underway.unsuccessful j other updates
  owner j l sends := by
    by_cases same : j = i
    case pos => simp [same] at sends
    case neg =>
      rw [Function.update_of_ne same] at sends
      exact underway.owner j l sends
  alone j l j' l' sends sends' := by
    by_cases same : j = i
    case pos => simp [same] at sends
    case neg =>
      by_cases same' : j' = i
      case pos => simp [same'] at sends'
      case neg =>
        rw [Function.update_of_ne same] at sends
        rw [Function.update_of_ne same'] at sends'
        exact underway.alone j l j' l' sends sends'

omit [DecidableEq ι] in
/-- What happens to the WTP while nobody sends. -/
theorem Underway.idle (underway : Underway commands stages s) (idle : ∀ j l, stages j ≠ .sending l)
    {s' : WUMState} (running : s'.exitOnUpdateCommit = s.exitOnUpdateCommit)
    (starts : s'.agentStarts = s.agentStarts) : Underway commands stages s' where
  running := running.trans underway.running
  fresh := starts.trans underway.fresh
  unsuccessful := underway.unsuccessful
  owner j l sends := absurd sends (idle j l)
  alone j l _ _ sends _ := absurd sends (idle j l)

/-- A tool that is the only one to send. -/
theorem Underway.sends (underway : Underway commands stages s) (updates : commands i = .update update)
    (others : ∀ j l, stages j = .sending l → j = i) (running : s₀.exitOnUpdateCommit = false)
    (fresh : s₀.agentStarts = 0) :
    Underway commands (Function.update stages i (.sending k)) (update.stored k s₀) where
  running := running
  fresh := fresh
  unsuccessful j other updates := by
    by_cases same : j = i
    case pos => simp [same]
    case neg =>
      rw [Function.update_of_ne same]
      exact underway.unsuccessful j other updates
  owner j l sends := by
    by_cases same : j = i
    case pos =>
      subst same
      rw [Function.update_self] at sends
      cases sends
      exact ⟨update, s₀, updates, rfl⟩
    case neg =>
      rw [Function.update_of_ne same] at sends
      exact absurd (others j l sends) same
  alone j l j' l' sends sends' := by
    have here : ∀ j l, Function.update stages i (.sending k) j = .sending l → j = i := by
      intro j l sends
      by_cases same : j = i
      case pos => exact same
      case neg =>
        rw [Function.update_of_ne same] at sends
        exact others j l sends
    rw [here j l sends, here j' l' sends']

/-- The tool that has sent everything starts the agent. -/
theorem Underway.commits (underway : Underway commands stages (update.stored k s₀))
    (updates : commands i = .update update) {result : Int} :
    Started commands (Function.update stages i (.finished (some result))) (update.committed s₀) where
  ended := rfl
  once := by
    have fresh : s₀.agentStarts = 0 := underway.fresh
    show s₀.agentStarts + 1 = 1
    omega
  owner := by
    have file : (update.committed s₀).tmpFile = some update.bytes := by
      rw [Update.committed, Update.stored, update.all_taken]
    refine ⟨i, update, updates, file, ⟨result, Function.update_self ..⟩, ?_⟩
    intro j other updates success
    by_contra different
    rw [Function.update_of_ne different] at success
    exact underway.unsuccessful j other updates success

variable {dialogs : ι → ToolDialog (Option Int)}

theorem at_update {stage : Stage} {dialog : ToolDialog (Option Int)}
    (before : ∀ j, At site.index (commands j) (stages j) (dialogs j))
    (after : At site.index (commands i) stage dialog) (j : ι) :
    At site.index (commands j) (Function.update stages i stage j)
      (Function.update dialogs i dialog j) := by
  by_cases same : j = i
  case pos =>
    subst same
    simpa using after
  case neg => simpa [same] using before j

theorem at_done (before : ∀ j, At site.index (commands j) (stages j) (dialogs j))
    {result result' : Option Int} (same : result = result') (j : ι) :
    At site.index (commands j) (Function.update stages i (.finished result') j)
      (Function.update dialogs i (.done result) j) :=
  at_update before (show At _ _ (.finished result') _ from congrArg Dialog.done same) j

theorem resultOf_eq {wtpId : Int} {type : UInt8} {saved : Saved} {answer : Option WUMResponse}
    (payload : saved.answer = .wum type 0 0 0) (success : saved.success = true)
    (told : answer = none ∨ answer = some (saved.response wtpId)) :
    resultOf type answer = some toolError ∨ resultOf type answer = some toolSuccess := by
  cases told with
  | inl lost =>
    rw [lost]
    exact .inl rfl
  | inr answered =>
    rw [answered, resultOf_response payload, success]
    exact .inr rfl

/-- The first message of an update. -/
theorem Underway.begins (underway : Underway commands stages s)
    (updates : commands i = .update update) {free : UInt64} {fate : Fate}
    {answer : Option WUMResponse} {s' : WUMState}
    (served : site.serve free fate (toolRequest site.index update.requestValues) s =
      some (answer, s')) :
    ∃ stage, At site.index (commands i) stage
        (if answer.elim toolError WUMResponse.resultCode ≠ toolSuccess then .done (some toolError)
          else sending site.index update 0) ∧
      Underway commands (Function.update stages i stage) s' := by
  have failed : ∀ other, commands i = .update other → some toolError ≠ some toolSuccess := by
    simp [toolError, toolSuccess]
  cases serve_cases (Update.forwarded_request update) (Update.saves_request update s free) served with
  | inl lost =>
    obtain ⟨same, none_⟩ := lost
    subst same none_
    exact ⟨.finished (some toolError), rfl, underway.finish failed⟩
  | inr reached =>
    obtain ⟨same, told⟩ := reached
    by_cases accepted : update.Accepted s free
    case neg =>
      simp only [accepted, if_false] at same told
      subst same
      have refused : answer.elim toolError WUMResponse.resultCode ≠ toolSuccess := by
        cases told with
        | inl lost => simp [lost, toolError, toolSuccess]
        | inr answered => simp [answered, Saved.response, toolSuccess]
      rw [if_pos refused]
      exact ⟨.finished (some toolError), rfl, underway.finish failed⟩
    case pos =>
      simp only [accepted, if_true] at same told
      subst same
      -- a WTP that waits is nobody's
      have nobody : ∀ j l, stages j = .sending l → j = i := by
        intro j l sends
        obtain ⟨other, s₁, _, state⟩ := underway.owner j l sends
        have waiting := accepted.1
        rw [state, Update.stored] at waiting
        split at waiting <;> cases waiting
      have taken := @Underway.sends _ _ _ _ _ s i update 0 underway updates nobody underway.running
        underway.fresh
      cases told with
      | inl lost =>
        subst lost
        have ended := taken.finish failed
        rw [Function.update_idem] at ended
        exact ⟨.finished (some toolError), rfl, ended⟩
      | inr answered =>
        have success : ¬ answer.elim toolError WUMResponse.resultCode ≠ toolSuccess := by
          simp [answered, Saved.response, toolSuccess]
        rw [if_neg success]
        exact ⟨.sending 0, ⟨update, updates, Nat.zero_le _, rfl⟩, taken⟩

/-- A fragment. -/
theorem Underway.proceeds (underway : Underway commands stages (update.stored k s₀))
    (updates : commands i = .update update) (sends : stages i = .sending k)
    (inside : k < cupCount update.bytes) {free : UInt64} {fate : Fate}
    {answer : Option WUMResponse} {s' : WUMState}
    (served : site.serve free fate (toolRequest site.index (update.fragmentValues k))
      (update.stored k s₀) = some (answer, s')) :
    ∃ stage, At site.index (commands i) stage
        (match resultOf wtpCupAck answer with
          | none => .done none
          | some result =>
            if result ≠ toolSuccess then .done (some toolError)
            else sending site.index update (k + 1)) ∧
      Underway commands (Function.update stages i stage) s' := by
  have failed : ∀ other, commands i = .update other → some toolError ≠ some toolSuccess := by
    simp [toolError, toolSuccess]
  have error : toolError ≠ toolSuccess := by simp [toolError, toolSuccess]
  cases serve_cases (Update.forwarded_fragment inside) (Update.saves_fragment inside s₀ free) served
    with
  | inl lost =>
    obtain ⟨same, none_⟩ := lost
    subst same none_
    exact ⟨.finished (some toolError), rfl, underway.finish failed⟩
  | inr reached =>
    obtain ⟨same, told⟩ := reached
    subst same
    -- Nobody else sends, so the other stages allow for one more fragment.
    have alone : ∀ j l, stages j = .sending l → j = i := fun j l others =>
      underway.alone j l i k others sends
    have stored := @Underway.sends _ _ _ _ _ s₀ i update (k + 1) underway updates alone
      underway.running underway.fresh
    cases resultOf_eq rfl rfl told with
    | inl lost =>
      -- The fragment is stored, but the answer to it is lost.
      have ended := stored.finish failed
      rw [Function.update_idem] at ended
      rw [lost]
      simp only [if_pos error]
      exact ⟨.finished (some toolError), rfl, ended⟩
    | inr answered =>
      rw [answered]
      exact ⟨.sending (k + 1), ⟨update, updates, inside, rfl⟩, stored⟩

/-- The commit. -/
theorem Underway.ends (underway : Underway commands stages (update.stored (cupCount update.bytes) s₀))
    (updates : commands i = .update update) {free : UInt64} {fate : Fate}
    {answer : Option WUMResponse} {s' : WUMState}
    (served : site.serve free fate (toolRequest site.index (.plain wtpCommitUpdate plain_commit))
      (update.stored (cupCount update.bytes) s₀) = some (answer, s')) :
    ∃ result, (resultOf wtpCommitAck answer).map (fun result =>
        if result ≠ toolSuccess then toolError else toolSuccess) = some result ∧
      (Underway commands (Function.update stages i (.finished (some result))) s' ∨
        Started commands (Function.update stages i (.finished (some result))) s') := by
  have failed : ∀ other, commands i = .update other → some toolError ≠ some toolSuccess := by
    simp [toolError, toolSuccess]
  cases serve_cases (forwarded_plain plain_commit (.inr (.inl rfl)))
      (Update.saves_commit s₀ free) served with
  | inl lost =>
    obtain ⟨same, none_⟩ := lost
    subst same none_
    exact ⟨toolError, rfl, .inl (underway.finish failed)⟩
  | inr reached =>
    obtain ⟨same, told⟩ := reached
    subst same
    cases resultOf_eq rfl rfl told with
    | inl lost =>
      rw [lost]
      exact ⟨toolError, rfl, .inr (underway.commits updates)⟩
    | inr answered =>
      rw [answered]
      exact ⟨toolSuccess, rfl, .inr (underway.commits updates)⟩

theorem cancelUpdate_exit (s : WUMState) :
    (cancelUpdate s).exitOnUpdateCommit = s.exitOnUpdateCommit := by
  cases phase : s.state <;> simp [cancelUpdate, phase, wumCloseFile]

theorem cancelUpdate_starts (s : WUMState) : (cancelUpdate s).agentStarts = s.agentStarts := by
  cases phase : s.state <;> simp [cancelUpdate, phase, wumCloseFile]

omit [DecidableEq ι] in
/-- Nobody sends when a cancel request comes in a calm turn. -/
theorem idle_of_calm {tools : Tools ι} (places : ∀ i, At site.index (commands i) (stages i)
      (tools.dialogs i))
    (calm : ∀ i, tools.dialogs i = (commands i).dialog site.index ∨
      ∃ result, tools.dialogs i = .done result) (j : ι) (l : Nat) : stages j ≠ .sending l := by
  intro sends
  have place := places j
  rw [sends] at place
  obtain ⟨update, updates, inside, dialog⟩ := place
  obtain ⟨begun, unfinished⟩ := @sending_amid site.index update l inside
  cases calm j with
  | inl start =>
    rw [updates] at start
    exact begun (dialog.symm.trans start)
  | inr done =>
    obtain ⟨result, done⟩ := done
    exact unfinished result (dialog.symm.trans done)

/-- A calm turn. -/
theorem Tools.Inv.step {tools tools' : Tools ι} {turn : Turn ι} (inv : tools.Inv site commands)
    (calm : site.Calm commands tools turn) (step : site.Step tools turn tools') :
    tools'.Inv site commands := by
  obtain ⟨stages, places, sound⟩ := inv
  obtain ⟨question, next, answer, asks, served, dialogs⟩ := Dialog.Talking.turn_eq_some _ step
  -- the WTP is running, or there would be no turn
  have underway : Underway commands stages tools.state := by
    cases sound with
    | inl underway => exact underway
    | inr started =>
      rw [serve_ended site started.ended] at served
      cases served
  have place := places turn.tool
  cases stage : stages turn.tool with
  | finished result =>
    rw [stage] at place
    have done : tools.dialogs turn.tool = .done result := place
    rw [done] at asks
    cases asks
  | sending k =>
    rw [stage] at place
    obtain ⟨update, updates, inside, dialog⟩ := place
    obtain ⟨other, s₀, updates', state⟩ := underway.owner turn.tool k stage
    rw [updates] at updates'
    cases updates'
    rw [state] at underway served
    cases Nat.lt_or_eq_of_le inside with
    | inl more =>
      rw [dialog, sending_ask more] at asks
      cases asks
      obtain ⟨stage', place', underway'⟩ := underway.proceeds updates stage more served
      refine ⟨Function.update stages turn.tool stage', ?_, .inl underway'⟩
      intro j
      rw [dialogs]
      exact at_update places place' j
    | inr all =>
      subst all
      rw [dialog, sending_commit] at asks
      cases asks
      obtain ⟨result, ended, sound'⟩ := underway.ends updates served
      refine ⟨Function.update stages turn.tool (.finished (some result)), ?_, sound'⟩
      intro j
      rw [dialogs]
      exact at_done places ended j
  | waiting =>
    rw [stage] at place
    have dialog : tools.dialogs turn.tool = (commands turn.tool).dialog site.index := place
    rw [dialog] at asks
    cases command : commands turn.tool with
    | version =>
      rw [command, version_ask] at asks
      cases asks
      have saves : cwWTPSaveWUMValues tools.state turn.free (.plain wtpVersionRequest plain_version) =
          some ⟨tools.state, true,
            .wum wtpVersionResponse wtpVersionMajor wtpVersionMinor wtpVersionRevision⟩ := by
        simp [cwWTPSaveWUMValues]
      have same : tools'.state = tools.state := by
        cases serve_cases (forwarded_plain plain_version (.inl rfl)) saves served with
        | inl lost => exact lost.1
        | inr reached => exact reached.1
      have other : ∀ update, commands turn.tool = .update update →
          (versionOf answer).map Prod.fst ≠ some toolSuccess := by
        simp [command]
      refine ⟨Function.update stages turn.tool (.finished ((versionOf answer).map Prod.fst)), ?_,
        .inl ?_⟩
      · intro j
        rw [dialogs]
        exact at_done places rfl j
      · rw [same]
        exact underway.finish other
    | cancel =>
      rw [command, cancel_ask] at asks
      cases asks
      have saves : cwWTPSaveWUMValues tools.state turn.free
          (.plain wtpCancelUpdateRequest plain_cancel) =
            some ⟨cancelUpdate tools.state, true, .wum wtpCancelUpdateResponse 0 0 0⟩ := by
        simp [cwWTPSaveWUMValues, wtpCancelUpdateRequest, wtpVersionRequest, wtpCommitUpdate]
      have idle := idle_of_calm places (calm command)
      have underway' : Underway commands stages tools'.state := by
        cases serve_cases (forwarded_plain plain_cancel (.inr (.inr rfl))) saves served with
        | inl lost =>
          rw [lost.1]
          exact underway
        | inr reached =>
          rw [reached.1]
          exact underway.idle idle (cancelUpdate_exit _) (cancelUpdate_starts _)
      have other : ∀ update, commands turn.tool = .update update →
          resultOf wtpCancelUpdateResponse answer ≠ some toolSuccess := by
        simp [command]
      refine ⟨Function.update stages turn.tool (.finished (resultOf wtpCancelUpdateResponse answer)),
        ?_, .inl (underway'.finish other)⟩
      intro j
      rw [dialogs]
      exact at_done places rfl j
    | update update =>
      rw [command, ToolCommand.dialog, wumUpdate_ask] at asks
      cases asks
      obtain ⟨stage', place', underway'⟩ := underway.begins command served
      refine ⟨Function.update stages turn.tool stage', ?_, .inl underway'⟩
      intro j
      rw [dialogs]
      exact at_update places place' j

omit [DecidableEq ι] in
theorem inv_started (site : Site) (commands : ι → ToolCommand) :
    (site.started commands).Inv site commands := by
  have waiting : Underway commands (fun _ => .waiting) .initial := by
    constructor
    case running => rfl
    case fresh => rfl
    all_goals simp
  exact ⟨fun _ => .waiting, fun _ => rfl, .inl waiting⟩

omit [DecidableEq ι] in
/-- A tool that has ended with a result. -/
theorem finished_of_done {tools : Tools ι}
    (places : ∀ i, At site.index (commands i) (stages i) (tools.dialogs i)) {j : ι}
    (updates : commands j = .update update) {result : Option Int}
    (done : tools.dialogs j = .done result) : stages j = .finished result := by
  have place := places j
  cases stage : stages j with
  | waiting =>
    rw [stage, updates] at place
    have dialog : tools.dialogs j = wumUpdate site.index update := place
    rw [done, wumUpdate_ask] at dialog
    cases dialog
  | sending l =>
    rw [stage] at place
    obtain ⟨other, _, inside, dialog⟩ := place
    rw [done] at dialog
    exact absurd dialog.symm ((@sending_amid site.index other l inside).2 result)
  | finished result' =>
    rw [stage] at place
    have dialog : tools.dialogs j = .done result' := place
    rw [done] at dialog
    cases dialog
    rfl

/-- Any number of tools take turns, and each of them may be cut off at any message.  The update
agent is started once at most.  It then has the package of one tool, which has come to its end, and
no other tool that updates reports success. -/
theorem agent_starts {turns : List (Turn ι)} {tools : Tools ι}
    (ran : Run.Trace site.Step (site.started commands) turns tools)
    (calm : Run.AllSteps site.Step (site.Calm commands) (site.started commands) turns) :
    (tools.state.agentStarts = 0 ∧ ∀ i update, commands i = .update update →
      tools.dialogs i ≠ .done (some toolSuccess)) ∨
    tools.state.agentStarts = 1 ∧ ∃ i update, commands i = .update update ∧
      tools.state.tmpFile = some update.bytes ∧ (∃ result, tools.dialogs i = .done (some result)) ∧
      ∀ j other, commands j = .update other → tools.dialogs j = .done (some toolSuccess) → j = i := by
  have kept : ∀ (tools : Tools ι) turn (tools' : Tools ι), tools.Inv site commands →
      site.Calm commands tools turn → site.Step tools turn tools' → tools'.Inv site commands :=
    fun _ _ _ inv calm step => inv.step calm step
  obtain ⟨stages, places, sound⟩ := ran.kept kept (inv_started site commands) calm
  cases sound with
  | inl underway =>
    refine .inl ⟨underway.fresh, ?_⟩
    intro i update updates success
    exact underway.unsuccessful i update updates (finished_of_done places updates success)
  | inr started =>
    obtain ⟨i, update, updates, file, ⟨result, stage⟩, only⟩ := started.owner
    have place := places i
    rw [stage] at place
    refine .inr ⟨started.once, i, update, updates, file, ⟨result, place⟩, ?_⟩
    intro j other updates success
    exact only j other updates (finished_of_done places updates success)

end Steps

/-! ### One run -/

theorem live_oneSession : Interface.Live (Interface.oneSession 1) (0 : Nat) :=
  ⟨Int.le_refl 0, _, rfl, rfl⟩

def oneSite : Site := ⟨Interface.oneSession 1, ⟨fun _ => false, 0, 0, 0⟩, 0, live_oneSession⟩

def oneByte : Update := ⟨[1], by simp, by simp, 1, 0, 0⟩

/-- A tool that updates and one that cancels. -/
def updateOrCancel : Bool → ToolCommand
  | true => .update oneByte
  | false => .cancel

/-- The first of them comes to its end before the second one begins. -/
theorem oneByte_starts : ∃ turns tools,
    Run.Trace oneSite.Step (oneSite.started updateOrCancel) turns tools ∧
    tools.dialogs true = .done (some toolSuccess) ∧
    tools.state.agentStarts = 1 ∧ tools.state.tmpFile = some oneByte.bytes := by
  have accepted : oneByte.Accepted .initial 2 := by decide
  have alone := @update_alone oneSite oneByte .initial 2 rfl
  rw [if_pos accepted] at alone
  obtain ⟨count, ran⟩ := @Dialog.Talking.of_run _ _ _ _ _ _ (oneSite.serve 2 .answered) _
    oneSite.Step (⟨true, 2, .answered⟩ : Turn Bool) true (fun turned => turned) _ _ _
    (oneSite.started updateOrCancel) rfl alone
  have calm : Run.AllSteps oneSite.Step (oneSite.Calm updateOrCancel)
      (oneSite.started updateOrCancel) (List.replicate count ⟨true, 2, .answered⟩) := by
    apply Run.AllSteps.of_events
    intro turn member tools cancels
    rw [List.eq_of_mem_replicate member] at cancels
    cases cancels
  have success : Function.update (oneSite.started updateOrCancel).dialogs true
      (.done (some toolSuccess)) true = .done (some toolSuccess) := Function.update_self _ _ _
  refine ⟨_, _, ran, success, ?_⟩
  cases agent_starts ran calm with
  | inl none_ => exact absurd success (none_.2 true oneByte rfl)
  | inr started =>
    obtain ⟨once, i, update, updates, file, _⟩ := started
    cases i with
    | false => cases updates
    | true =>
      cases updates
      exact ⟨once, file⟩

end WlanController.Vendor
