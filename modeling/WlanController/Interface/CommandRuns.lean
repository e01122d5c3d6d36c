import WlanController.Interface.CommandSlot

/-!
# Runs of the command slot

As long as every step finds no more than one command on its way, whoever waits is the one whose
command is in the slot or in progress, so that a signal can wake no other.  A second submission
overwrites the slot or the application it names, and a second request takes over the sequence
number, so that no other step serves.
-/

namespace WlanController.Interface

open Run

namespace CommandSlot

variable {s s' : CommandSlot}

/-- The numbers of the submissions that were picked up. -/
def picked (s : CommandSlot) : List Nat := s.pickedUp.map PickUp.submission

/-- What the steps keep as long as they are exclusive. -/
structure Kept (s : CommandSlot) : Prop where
  served : s.Served
  slot : ∀ command ∈ s.interfaceCommand, ∃ id submission, id + 1 = s.submissions.length ∧
    s.submissions[id]? = some submission ∧ submission.command = command ∧
      s.values command = some submission.values ∧ id ∈ s.waiting ∧ id ∉ s.picked
  application : ∀ id submission, id + 1 = s.submissions.length →
    s.submissions[id]? = some submission → s.applicationIndex = submission.socketIndex
  progress : ∀ id ∈ s.interfaceCommandProgress, s.InProgress id ∧ id ∈ s.waiting ∧ id ∈ s.picked
  /-- The command in progress is the last one, unless another is in the slot. -/
  latest : s.interfaceCommand = none → ∀ id ∈ s.interfaceCommandProgress,
    id + 1 = s.submissions.length
  requests : ∀ request ∈ s.requests, ∀ command ∈ request.command,
    command.1 < s.submissions.length
  distinct : s.waiting.Nodup

theorem served_initial : initial.Served where
  once := List.nodup_nil
  own := fun _ member => absurd member List.not_mem_nil
  woken := fun _ member => absurd member List.not_mem_nil
  forwarded := fun _ member => absurd member List.not_mem_nil
  waiting := fun _ member => absurd member List.not_mem_nil

theorem kept_initial : initial.Kept where
  served := served_initial
  slot := fun _ member => by cases member
  application := fun _ _ last => Nat.noConfusion last
  progress := fun _ member => by cases member
  latest := fun _ _ member => by cases member
  requests := fun _ member => absurd member List.not_mem_nil
  distinct := List.nodup_nil

/-! ## Who waits -/

theorem Kept.picked_lt (kept : Kept s) {id : Nat} (picked : id ∈ s.picked) :
    id < s.submissions.length := by
  obtain ⟨found, member, rfl⟩ := List.mem_map.mp picked
  obtain ⟨submission, submitted, _⟩ := kept.served.own found member
  exact (List.getElem?_eq_some_iff.mp submitted).1

theorem Kept.waiting_lt (kept : Kept s) {id : Nat} (waits : id ∈ s.waiting) :
    id < s.submissions.length := by
  cases kept.served.waiting id waits with
  | inl pending =>
    have last := pending.2.2
    omega
  | inr sent => exact kept.picked_lt (kept.progress id sent.1).2.2

/-- The command in the slot is not in progress. -/
theorem Kept.slot_ne (kept : Kept s) {id : Nat} (occupied : s.interfaceCommand.isSome)
    (sent : s.interfaceCommandProgress = some id) : id + 1 ≠ s.submissions.length := by
  intro last
  obtain ⟨command, inSlot⟩ := Option.isSome_iff_exists.mp occupied
  obtain ⟨id', _, last', _, _, _, _, unpicked⟩ := kept.slot command inSlot
  have same : id = id' := by omega
  exact unpicked (same ▸ (kept.progress id sent).2.2)

/-- While nothing is in progress, the last submission alone may wait. -/
theorem Kept.waits_idle (kept : Kept s) (idle : s.interfaceCommandProgress = none) {id : Nat}
    (waits : id ∈ s.waiting) : s.Pending id := by
  cases kept.served.waiting id waits with
  | inl pending => exact pending
  | inr sent =>
    have inProgress := sent.1
    rw [idle] at inProgress
    cases inProgress

/-- While the slot is empty, the command in progress alone may wait. -/
theorem Kept.waits_empty (kept : Kept s) (empty : s.interfaceCommand = none) {id : Nat}
    (waits : id ∈ s.waiting) : s.interfaceCommandProgress = some id := by
  cases kept.served.waiting id waits with
  | inl pending =>
    have occupied := pending.2.1
    rw [empty] at occupied
    cases occupied
  | inr sent => exact sent.1

/-! ## Signals -/

theorem signal_cases {completed caller : Nat} (signalled : s.signal completed caller = some s') :
    s.waiting = [] ∧ s' = s ∨ caller ∈ s.waiting ∧ s' = { s with
      waiting := s.waiting.erase caller, woken := (caller, completed) :: s.woken } := by
  unfold signal at signalled
  split at signalled
  case h_1 nobody =>
    cases signalled
    exact .inl ⟨nobody, rfl⟩
  case h_2 =>
    split at signalled
    case isTrue member =>
      cases signalled
      exact .inr ⟨member, rfl⟩
    case isFalse => cases signalled

theorem signal_mem {completed caller : Nat} (member : caller ∈ s.waiting) :
    s.signal completed caller = some { s with
      waiting := s.waiting.erase caller, woken := (caller, completed) :: s.woken } := by
  unfold signal
  split
  case h_1 nobody =>
    rw [nobody] at member
    cases member
  case h_2 => rw [if_pos member]

/-- A signal while only this one can be waiting. -/
theorem signal_only {completed caller : Nat} (signalled : s.signal completed caller = some s')
    (distinct : s.waiting.Nodup) (only : ∀ id ∈ s.waiting, id = completed)
    (woken : ∀ wake ∈ s.woken, wake.1 = wake.2) :
    ∃ log, (∀ wake ∈ log, wake.1 = wake.2) ∧ s' = { s with waiting := [], woken := log } := by
  cases signal_cases signalled with
  | inl nobody =>
    refine ⟨s.woken, woken, ?_⟩
    rw [nobody.2, ← nobody.1]
  | inr wakes =>
    obtain ⟨member, rfl⟩ := wakes
    refine ⟨(caller, completed) :: s.woken, ?_, ?_⟩
    · intro wake logged
      cases List.mem_cons.mp logged with
      | inl new =>
        rw [new]
        exact only caller member
      | inr old => exact woken wake old
    · have gone : s.waiting.erase caller = [] := by
        apply List.eq_nil_iff_forall_not_mem.mpr
        intro id left
        have rest := (List.Nodup.mem_erase_iff distinct).mp left
        exact rest.1 ((only id rest.2).trans (only caller member).symm)
      rw [gone]

/-- A state in which nothing is in the slot or in progress and nobody waits. -/
theorem kept_quiet (empty : s.interfaceCommand = none) (idle : s.interfaceCommandProgress = none)
    (alone : s.waiting = []) (once : s.picked.Nodup)
    (own : ∀ found ∈ s.pickedUp, ∃ submission, s.submissions[found.submission]? = some submission ∧
      found.command = submission.command ∧ found.values = some submission.values ∧
        found.applicationIndex = submission.socketIndex)
    (woken : ∀ wake ∈ s.woken, wake.1 = wake.2)
    (forwarded : ∀ answer ∈ s.forwarded, ∃ submission,
      s.submissions[answer.2]? = some submission ∧ answer.1 = submission.socketIndex)
    (application : ∀ id submission, id + 1 = s.submissions.length →
      s.submissions[id]? = some submission → s.applicationIndex = submission.socketIndex)
    (requests : ∀ request ∈ s.requests, ∀ command ∈ request.command,
      command.1 < s.submissions.length) : Kept s where
  served := by
    refine ⟨once, own, woken, forwarded, ?_⟩
    intro id waits
    rw [alone] at waits
    cases waits
  slot := fun command inSlot => by
    rw [empty] at inSlot
    cases inSlot
  application := application
  progress := fun id sent => by
    rw [idle] at sent
    cases sent
  latest := fun _ id sent => by
    rw [idle] at sent
    cases sent
  requests := requests
  distinct := by
    rw [alone]
    exact List.nodup_nil

/-! ## Submitting -/

/-- Only the pointer for the command is stored beside what all of them store. -/
theorem setValues_eq (submission : Submission) (s : CommandSlot) : ∃ ofdm vendor wlan,
    s.setValues submission = submit submission.command submission.values submission.socketIndex
      { s with ofdmValues := ofdm, vendorValues := vendor, cmdWLAN := wlan } ∧
    (s.setValues submission).values submission.command = some submission.values := by
  obtain ⟨command, values, socketIndex⟩ := submission
  cases command with
  | ofdmControl => exact ⟨some values, s.vendorValues, s.cmdWLAN, rfl, rfl⟩
  | uciControl => exact ⟨s.ofdmValues, some values, s.cmdWLAN, rfl, rfl⟩
  | wtpUpdate => exact ⟨s.ofdmValues, some values, s.cmdWLAN, rfl, rfl⟩
  | ieeeWlanConfiguration => exact ⟨s.ofdmValues, s.vendorValues, some values, rfl, rfl⟩

theorem submitted_before {id : Nat} {submission new : Submission}
    (submitted : s.submissions[id]? = some submission) :
    (s.submissions ++ [new])[id]? = some submission := by
  rw [List.getElem?_append_left (List.getElem?_eq_some_iff.mp submitted).1]
  exact submitted

theorem Kept.submit (kept : Kept s) (live : s.isNotFree = true) (empty : s.interfaceCommand = none)
    (submission : Submission) : Kept (s.setValues submission) := by
  obtain ⟨ofdm, vendor, wlan, eq, values⟩ := setValues_eq submission s
  rw [eq] at values ⊢
  have fresh : s.submissions.length ∉ s.waiting := fun waits =>
    Nat.lt_irrefl _ (kept.waiting_lt waits)
  have unpicked : s.submissions.length ∉ s.picked := fun picked =>
    Nat.lt_irrefl _ (kept.picked_lt picked)
  have last : (s.submissions ++ [submission])[s.submissions.length]? = some submission := by
    simp
  constructor
  case served =>
    constructor
    case once => exact kept.served.once
    case own =>
      intro found member
      obtain ⟨owner, submitted, rest⟩ := kept.served.own found member
      exact ⟨owner, submitted_before submitted, rest⟩
    case woken => exact kept.served.woken
    case forwarded =>
      intro answer member
      obtain ⟨owner, submitted, rest⟩ := kept.served.forwarded answer member
      exact ⟨owner, submitted_before submitted, rest⟩
    case waiting =>
      intro id waits
      cases List.mem_cons.mp waits with
      | inl new =>
        rw [new]
        exact .inl ⟨live, rfl, by simp [CommandSlot.submit]⟩
      | inr before =>
        have sent := kept.waits_empty empty before
        exact .inr (kept.progress id sent).1
  case slot =>
    intro command inSlot
    cases inSlot
    exact ⟨s.submissions.length, submission, by simp [CommandSlot.submit], last, rfl, values,
      List.mem_cons_self, unpicked⟩
  case application =>
    intro id owner isLast submitted
    have isLast : id + 1 = (s.submissions ++ [submission]).length := isLast
    have same : id = s.submissions.length := by simpa using isLast
    rw [same] at submitted
    cases last.symm.trans submitted
    rfl
  case progress =>
    intro id sent
    obtain ⟨inProgress, waits, picked⟩ := kept.progress id sent
    exact ⟨inProgress, List.mem_cons_of_mem _ waits, picked⟩
  case latest =>
    intro occupied
    cases occupied
  case requests =>
    intro request member command answers
    have before := kept.requests request member command answers
    show command.1 < (s.submissions ++ [submission]).length
    rw [List.length_append]
    omega
  case distinct => exact List.nodup_cons.mpr ⟨fresh, kept.distinct⟩

/-! ## Picking up -/

/-- What is recorded when the command is picked up is its own. -/
theorem Kept.record (kept : Kept s) {command : InterfaceCommand}
    (inSlot : s.interfaceCommand = some command) : ∃ id submission,
    s.submissions.length - 1 = id ∧ id + 1 = s.submissions.length ∧
    s.submissions[id]? = some submission ∧ submission.command = command ∧
    s.values command = some submission.values ∧ s.applicationIndex = submission.socketIndex ∧
    id ∈ s.waiting ∧ id ∉ s.picked := by
  obtain ⟨id, submission, last, submitted, same, values, waits, unpicked⟩ :=
    kept.slot command inSlot
  have application := kept.application id submission last submitted
  exact ⟨id, submission, by omega, last, submitted, same, values, application, waits, unpicked⟩

/-- The slot after the command has been taken from it. -/
def pickedOf (command : InterfaceCommand) (s : CommandSlot) : CommandSlot :=
  let submission := s.submissions.length - 1
  { s with
    interfaceCommand := none
    pickedUp := ⟨submission, command, s.values command, s.applicationIndex⟩ :: s.pickedUp }

theorem pickUp_eq {command : InterfaceCommand} (inSlot : s.interfaceCommand = some command)
    (seqNum : Nat) (assembled sent : Bool) (caller : Nat) :
    s.pickUp seqNum assembled sent caller =
      let submission := s.submissions.length - 1
      let taken := s.pickedOf command
      let taken := if assembled then
        taken.cwACSendAcknowledgedPacket ⟨seqNum, some (submission, command)⟩ sent else taken
      if assembled && sent then
        some { taken with interfaceCommandProgress := some submission }
      else signal submission caller { taken with interfaceResult := 0 } := by
  unfold CommandSlot.pickUp
  rw [inSlot]
  cases assembled with
  | false => rfl
  | true =>
    cases sent with
    | true => rfl
    | false =>
      simp only [cwACSendAcknowledgedPacket, cwACStopRetransmission, pickedOf]
      rfl

/-- The requests after one more for a submission. -/
theorem Kept.requests_append (kept : Kept s) (request : AcknowledgedRequest)
    (known : ∀ command ∈ request.command, command.1 < s.submissions.length) :
    ∀ request' ∈ s.requests ++ [request], ∀ command ∈ request'.command,
      command.1 < s.submissions.length := by
  intro request' member
  cases List.mem_append.mp member with
  | inl before => exact kept.requests request' before
  | inr new =>
    rw [List.mem_singleton.mp new]
    exact known

/-- What a request leaves that could not be sent, or was. -/
theorem send_cases (request : AcknowledgedRequest) (sent : Bool) (s : CommandSlot) :
    s.cwACSendAcknowledgedPacket request sent = { s with
      isRetransmitting := sent
      responseSeqNum := if sent then request.seqNum else 0
      requests := s.requests ++ [request] } := by
  cases sent <;> rfl

/-- Both stay true of what has been picked up. -/
theorem Kept.pickedOf_own (kept : Kept s) {command : InterfaceCommand}
    (inSlot : s.interfaceCommand = some command) :
    (s.pickedOf command).picked.Nodup ∧ ∀ found ∈ (s.pickedOf command).pickedUp,
      ∃ submission, s.submissions[found.submission]? = some submission ∧
        found.command = submission.command ∧ found.values = some submission.values ∧
          found.applicationIndex = submission.socketIndex := by
  obtain ⟨id, submission, here, _, submitted, same, values, application, _, unpicked⟩ :=
    kept.record inSlot
  constructor
  · show ((s.submissions.length - 1) :: s.picked).Nodup
    rw [here]
    exact List.nodup_cons.mpr ⟨unpicked, kept.served.once⟩
  · intro found member
    cases List.mem_cons.mp member with
    | inl new =>
      rw [new]
      refine ⟨submission, ?_, same.symm, values, application⟩
      show s.submissions[s.submissions.length - 1]? = some submission
      rw [here]
      exact submitted
    | inr before => exact kept.served.own found before

/-- The request has been sent, and nothing else was in progress. -/
theorem Kept.pickUp_sent (kept : Kept s) (idle : s.interfaceCommandProgress = none)
    {command : InterfaceCommand} (inSlot : s.interfaceCommand = some command) (seqNum : Nat) :
    Kept { s.pickedOf command with
      isRetransmitting := true, responseSeqNum := seqNum
      requests := s.requests ++ [⟨seqNum, some (s.submissions.length - 1, command)⟩]
      interfaceCommandProgress := some (s.submissions.length - 1) } := by
  obtain ⟨once, own⟩ := kept.pickedOf_own inSlot
  obtain ⟨id, submission, here, last, _, _, _, _, waits, _⟩ := kept.record inSlot
  have sent : InProgress { s.pickedOf command with
      isRetransmitting := true, responseSeqNum := seqNum
      requests := s.requests ++ [⟨seqNum, some (s.submissions.length - 1, command)⟩]
      interfaceCommandProgress := some (s.submissions.length - 1) } id := by
    refine ⟨congrArg some here, rfl, ⟨seqNum, some (s.submissions.length - 1, command)⟩, ?_, ?_, rfl⟩
    · simp
    · exact congrArg some here
  constructor
  case served =>
    constructor
    case once => exact once
    case own => exact own
    case woken => exact kept.served.woken
    case forwarded => exact kept.served.forwarded
    case waiting =>
      intro other waiting
      -- nobody else was waiting
      have pending := kept.waits_idle idle waiting
      have same : other = id := by
        have isLast := pending.2.2
        omega
      exact .inr (same ▸ sent)
  case slot =>
    intro command empty
    cases empty
  case application => exact kept.application
  case progress =>
    intro other inProgress
    have same : id = other := here.symm.trans (Option.some.inj inProgress)
    subst same
    refine ⟨sent, waits, ?_⟩
    show id ∈ (s.submissions.length - 1) :: s.picked
    rw [here]
    exact List.mem_cons_self
  case latest =>
    intro _ other inProgress
    have same : id = other := here.symm.trans (Option.some.inj inProgress)
    exact same ▸ last
  case requests =>
    apply kept.requests_append
    intro answered known
    cases known
    show s.submissions.length - 1 < s.submissions.length
    omega
  case distinct => exact kept.distinct

/-- The command could not be sent, and its submitter is woken. -/
theorem Kept.pickUp_fails (kept : Kept s) (idle : s.interfaceCommandProgress = none)
    {command : InterfaceCommand} (inSlot : s.interfaceCommand = some command)
    {retransmitting : Bool} {seqNum caller : Nat} {requests : List AcknowledgedRequest}
    (known : ∀ request ∈ requests, ∀ command ∈ request.command,
      command.1 < s.submissions.length)
    (signalled : signal (s.submissions.length - 1) caller { s.pickedOf command with
      isRetransmitting := retransmitting, responseSeqNum := seqNum, requests := requests
      interfaceResult := 0 } = some s') : Kept s' := by
  obtain ⟨once, own⟩ := kept.pickedOf_own inSlot
  have only : ∀ id ∈ s.waiting, id = s.submissions.length - 1 := by
    intro id waits
    have isLast := (kept.waits_idle idle waits).2.2
    omega
  obtain ⟨log, woken, rfl⟩ := signal_only signalled kept.distinct only kept.served.woken
  exact kept_quiet rfl idle rfl once own woken kept.served.forwarded kept.application known

theorem Kept.pickUp (kept : Kept s) {seqNum : Nat} {assembled sent : Bool}
    (idle : s.interfaceCommand.isSome → s.interfaceCommandProgress = none) {caller : Nat}
    (picks : s.pickUp seqNum assembled sent caller = some s') : Kept s' := by
  cases inSlot : s.interfaceCommand with
  | none =>
    simp only [CommandSlot.pickUp, inSlot] at picks
    cases picks
  | some command =>
    have idle := idle (by rw [inSlot]; rfl)
    obtain ⟨_, _, here, last, _⟩ := kept.record inSlot
    have known := kept.requests_append ⟨seqNum, some (s.submissions.length - 1, command)⟩ (by
        intro answered known
        cases known
        show s.submissions.length - 1 < s.submissions.length
        omega)
    rw [pickUp_eq inSlot] at picks
    cases assembled with
    | false => exact kept.pickUp_fails idle inSlot kept.requests picks
    | true =>
      simp only [send_cases, if_true] at picks
      cases sent with
      | false => exact kept.pickUp_fails idle inSlot known picks
      | true =>
        cases picks
        exact kept.pickUp_sent idle inSlot seqNum

/-! ## Other requests and responses -/

/-- While nothing is in progress, the request that is awaited is of no concern. -/
theorem Kept.idle (kept : Kept s) (idle : s.interfaceCommandProgress = none)
    {retransmitting closing : Bool} {seqNum : Nat} {requests : List AcknowledgedRequest}
    {forwarded : List (Nat × Nat)}
    (known : ∀ request ∈ requests, ∀ command ∈ request.command,
      command.1 < s.submissions.length)
    (answers : ∀ answer ∈ forwarded, ∃ submission, s.submissions[answer.2]? = some submission ∧
      answer.1 = submission.socketIndex) :
    Kept { s with
      isRetransmitting := retransmitting, isRequestClose := closing, responseSeqNum := seqNum
      requests := requests, forwarded := forwarded } where
  served := by
    refine ⟨kept.served.once, kept.served.own, kept.served.woken, answers, ?_⟩
    intro id waits
    exact .inl (kept.waits_idle idle waits)
  slot := kept.slot
  application := kept.application
  progress := fun id inProgress => by
    have inProgress : s.interfaceCommandProgress = some id := inProgress
    rw [idle] at inProgress
    cases inProgress
  latest := kept.latest
  requests := known
  distinct := kept.distinct

theorem Kept.request (kept : Kept s) (idle : s.interfaceCommandProgress = none) (seqNum : Nat)
    (sent : Bool) : Kept (s.cwACSendAcknowledgedPacket ⟨seqNum, none⟩ sent) := by
  rw [send_cases]
  have known := kept.requests_append ⟨seqNum, none⟩ (by
    intro answered known
    cases known)
  exact kept.idle idle known kept.served.forwarded

theorem stop_eq (s : CommandSlot) : ∃ seqNum, s.cwACStopRetransmission =
    { s with isRetransmitting := false, responseSeqNum := seqNum } := by
  unfold cwACStopRetransmission
  cases retransmitting : s.isRetransmitting with
  | true => exact ⟨0, rfl⟩
  | false =>
    refine ⟨s.responseSeqNum, ?_⟩
    show s = _
    rw [← retransmitting]

/-- The command in progress is completed while the slot is empty. -/
theorem Kept.complete (kept : Kept s) (empty : s.interfaceCommand = none) {id : Nat}
    (inProgress : s.interfaceCommandProgress = some id) {caller : Nat}
    {closing : Bool} {seqNum : Nat} {forwarded : List (Nat × Nat)}
    (answers : ∀ answer ∈ forwarded, ∃ submission, s.submissions[answer.2]? = some submission ∧
      answer.1 = submission.socketIndex)
    (completes : CommandSlot.complete id caller { s with
      isRetransmitting := false, isRequestClose := closing, responseSeqNum := seqNum
      forwarded := forwarded } = some s') : Kept s' ∧ s'.waiting = [] ∧
    s'.interfaceCommandProgress = none ∧ s'.interfaceCommand = none := by
  have only : ∀ id' ∈ s.waiting, id' = id := by
    intro id' waits
    have sent := kept.waits_empty empty waits
    exact Option.some.inj (sent.symm.trans inProgress)
  unfold CommandSlot.complete at completes
  rw [if_pos (by simp [inProgress])] at completes
  obtain ⟨log, woken, rfl⟩ := signal_only completes kept.distinct only kept.served.woken
  exact ⟨kept_quiet empty rfl rfl kept.served.once kept.served.own woken answers kept.application
    kept.requests, rfl, rfl, empty⟩

/-- What a response leaves of the application it is forwarded to. -/
theorem save_eq (submission : Nat) (payload commits : Bool) (s : CommandSlot) :
    s.cwSaveConfigurationUpdateResponseMessage submission payload commits = { s with
      isRequestClose := s.isRequestClose || (payload && commits)
      forwarded := if payload then (s.applicationIndex, submission) :: s.forwarded
        else s.forwarded } := by
  cases payload with
  | true => rfl
  | false => simp [cwSaveConfigurationUpdateResponseMessage]

/-- What is forwarded belongs to the application that is named. -/
theorem Kept.forwards (kept : Kept s) {submission : Nat} {payload : Bool}
    (own : payload = true →
      (s.submissions[submission]?).map Submission.socketIndex = some s.applicationIndex) :
    ∀ answer ∈ (if payload then (s.applicationIndex, submission) :: s.forwarded else s.forwarded),
      ∃ owner, s.submissions[answer.2]? = some owner ∧ answer.1 = owner.socketIndex := by
  intro answer member
  cases payload with
  | false => exact kept.served.forwarded answer member
  | true =>
    cases List.mem_cons.mp member with
    | inl new =>
      obtain ⟨owner, submitted, index⟩ := Option.map_eq_some_iff.mp (own rfl)
      rw [new]
      exact ⟨owner, submitted, index.symm⟩
    | inr before => exact kept.served.forwarded answer before

/-- The application of the command in progress is the one that is named, while the slot is
    empty. -/
theorem Kept.application_of_progress (kept : Kept s) (empty : s.interfaceCommand = none) {id : Nat}
    (inProgress : s.interfaceCommandProgress = some id) :
    (s.submissions[id]?).map Submission.socketIndex = some s.applicationIndex := by
  have last := kept.latest empty id inProgress
  cases submitted : s.submissions[id]? with
  | none =>
    have beyond := List.getElem?_eq_none_iff.mp submitted
    omega
  | some submission =>
    rw [kept.application id submission last submitted]
    rfl

theorem complete_idle {completed caller : Nat} (idle : s.interfaceCommandProgress = none) :
    s.complete completed caller = some s := by
  unfold CommandSlot.complete
  rw [if_neg (by simp [idle])]

/-- The payload of a response is forwarded, unless it is that of a WLAN configuration. -/
def isForwarded (payload : Bool) (command : InterfaceCommand) : Bool :=
  payload && !decide (command = .ieeeWlanConfiguration)

/-- A response to a command that is accepted. -/
theorem accept_eq {number : Nat} (accepted : s.responseSeqNum = number) (submission : Nat)
    (command : InterfaceCommand) (payload commits : Bool) (caller : Nat) :
    ∃ closing seqNum, s.acEnterRun ⟨number, some (submission, command)⟩ payload commits caller =
      CommandSlot.complete submission caller { s with
        isRetransmitting := false, isRequestClose := closing, responseSeqNum := seqNum
        forwarded := if isForwarded payload command then
          (s.applicationIndex, submission) :: s.forwarded else s.forwarded } := by
  obtain ⟨seqNum, stopped⟩ := stop_eq s
  have same : ¬ s.responseSeqNum ≠ number := fun different => different accepted
  unfold acEnterRun
  rw [if_neg same, stopped]
  cases command with
  | ieeeWlanConfiguration =>
    refine ⟨s.isRequestClose, seqNum, ?_⟩
    simp [isForwarded]
  | ofdmControl =>
    refine ⟨s.isRequestClose || (payload && commits), seqNum, ?_⟩
    simp [save_eq, isForwarded]
  | uciControl =>
    refine ⟨s.isRequestClose || (payload && commits), seqNum, ?_⟩
    simp [save_eq, isForwarded]
  | wtpUpdate =>
    refine ⟨s.isRequestClose || (payload && commits), seqNum, ?_⟩
    simp [save_eq, isForwarded]

theorem Kept.respond (kept : Kept s) {request : AcknowledgedRequest} {payload commits : Bool}
    {caller : Nat} (answers : s.responseSeqNum = request.seqNum → s.Answers payload request)
    (responds : s.acEnterRun request payload commits caller = some s') : Kept s' := by
  by_cases accepted : s.responseSeqNum = request.seqNum
  · have answers := answers accepted
    obtain ⟨number, answered⟩ := request
    cases answered with
    | none =>
      obtain ⟨seqNum, stopped⟩ := stop_eq s
      have same : ¬ s.responseSeqNum ≠ number := fun different => different accepted
      unfold acEnterRun at responds
      rw [if_neg same, stopped] at responds
      cases responds
      exact kept.idle answers kept.requests kept.served.forwarded
    | some answered =>
      obtain ⟨submission, command⟩ := answered
      obtain ⟨closing, seqNum, eq⟩ :=
        accept_eq accepted submission command payload commits caller
      rw [eq] at responds
      cases progress : s.interfaceCommandProgress with
      | none =>
        simp only [Answers, progress, Option.isSome_none, Bool.false_eq_true, if_false] at answers
        rw [complete_idle (by exact progress)] at responds
        cases responds
        apply kept.idle progress kept.requests
        apply kept.forwards
        intro goes
        simp only [isForwarded, Bool.and_eq_true, Bool.not_eq_true', decide_eq_false_iff_not] at goes
        exact answers goes.1 goes.2
      | some id =>
        simp only [Answers, progress, Option.isSome_some, if_true] at answers
        obtain ⟨inProgress, empty⟩ := answers
        have own := kept.application_of_progress empty inProgress.1
        exact (kept.complete empty inProgress.1 (kept.forwards fun _ => own) responds).1
  · unfold acEnterRun at responds
    rw [if_pos accepted] at responds
    cases responds
    exact kept

/-- A session is closed that has nobody waiting but for the command in progress. -/
theorem Kept.close (kept : Kept s) (empty : s.interfaceCommand = none) {caller : Nat}
    (closes : s.cwCloseThread caller = some s') : Kept s' := by
  obtain ⟨seqNum, stopped⟩ := stop_eq s
  unfold cwCloseThread at closes
  rw [stopped] at closes
  obtain ⟨closed, completes, rfl⟩ := Option.map_eq_some_iff.mp closes
  cases progress : s.interfaceCommandProgress with
  | none =>
    rw [complete_idle (by exact progress)] at completes
    cases completes
    have alone : s.waiting = [] := by
      apply List.eq_nil_iff_forall_not_mem.mpr
      intro id waits
      have sent := kept.waits_empty empty waits
      rw [progress] at sent
      cases sent
    exact kept_quiet empty progress alone kept.served.once kept.served.own kept.served.woken
      kept.served.forwarded kept.application kept.requests
  | some id =>
    have current : s.interfaceCommandProgress.getD 0 = id := by
      rw [progress]
      rfl
    rw [current] at completes
    obtain ⟨quiet, alone, idle, vacant⟩ :=
      kept.complete empty progress kept.served.forwarded completes
    exact kept_quiet vacant idle alone quiet.served.once quiet.served.own quiet.served.woken
      quiet.served.forwarded quiet.application quiet.requests

/-! ## Runs -/

theorem Kept.step (kept : Kept s) {event : CommandEvent} (exclusive : s.Exclusive event)
    (stepped : CommandStep s event s') : Kept s' := by
  obtain ⟨caller, next⟩ := stepped
  cases event with
  | submit submission =>
    cases next
    exact kept.submit exclusive.1 exclusive.2 submission
  | pickUp seqNum assembled sent =>
    obtain ⟨ready, picks⟩ := Option.ite_none_right_eq_some.mp next
    simp only [Bool.and_eq_true, Bool.not_eq_true'] at ready
    exact kept.pickUp (exclusive ready.1 ready.2) picks
  | request seqNum sent =>
    obtain ⟨live, next⟩ := Option.ite_none_right_eq_some.mp next
    cases next
    exact kept.request (exclusive live) seqNum sent
  | respond number payload commits =>
    obtain ⟨live, next⟩ := Option.ite_none_right_eq_some.mp next
    obtain ⟨request, sent, responds⟩ := Option.bind_eq_some_iff.mp next
    exact kept.respond (exclusive live request sent) responds
  | requestClose =>
    obtain ⟨_, next⟩ := Option.ite_none_right_eq_some.mp next
    cases next
    exact { kept with served := { kept.served with } }
  | close =>
    obtain ⟨live, closes⟩ := Option.ite_none_right_eq_some.mp next
    exact kept.close (exclusive live) closes

/-! ## No other step serves -/

/-- Who waits while a command is in progress that is no longer awaited is not served. -/
theorem Kept.unserved (kept : Kept s) {id : Nat} (sent : s.interfaceCommandProgress = some id)
    (s' : CommandSlot) (waiting : s'.waiting = s.waiting)
    (submissions : s'.submissions = s.submissions)
    (command : s'.interfaceCommand.isSome → s.interfaceCommand.isSome)
    (lost : ¬ s'.InProgress id) : ¬ s'.Served := by
  intro served
  have waits : id ∈ s'.waiting := by
    rw [waiting]
    exact (kept.progress id sent).2.1
  cases served.waiting id waits with
  | inl pending =>
    have last := pending.2.2
    rw [submissions] at last
    exact kept.slot_ne (command pending.2.1) sent last
  | inr inProgress => exact lost inProgress

/-- A signal may wake whoever is waiting. -/
theorem signal_wrong {completed caller : Nat} (different : caller ≠ completed)
    (member : caller ∈ s.waiting) :
    ∃ s', s.signal completed caller = some s' ∧ ¬ s'.Served :=
  ⟨_, signal_mem member, fun served =>
    different (served.woken (caller, completed) List.mem_cons_self)⟩

theorem Kept.exclusive_submit (kept : Kept s) {submission : Submission}
    (stays : s.StaysServed (.submit submission)) : s.Exclusive (.submit submission) := by
  obtain ⟨ofdm, vendor, wlan, eq, _⟩ := setValues_eq submission s
  have served := stays (s.setValues submission) ⟨0, rfl⟩
  rw [eq] at served
  constructor
  · cases served.waiting s.submissions.length List.mem_cons_self with
    | inl pending => exact pending.1
    | inr inProgress =>
      have before := kept.picked_lt (kept.progress _ inProgress.1).2.2
      exact absurd before (Nat.lt_irrefl _)
  · cases inSlot : s.interfaceCommand with
    | none => rfl
    | some command =>
      -- its submitter is forgotten
      obtain ⟨id, _, last, _, _, _, waits, unpicked⟩ := kept.slot command inSlot
      cases served.waiting id (List.mem_cons_of_mem _ waits) with
      | inl pending =>
        have isLast : id + 1 = (s.submissions ++ [submission]).length := pending.2.2
        rw [List.length_append, List.length_singleton] at isLast
        omega
      | inr inProgress => exact absurd (kept.progress id inProgress.1).2.2 unpicked

theorem Kept.exclusive_pickUp (kept : Kept s) {seqNum : Nat} {assembled sent : Bool}
    (stays : s.StaysServed (.pickUp seqNum assembled sent)) :
    s.Exclusive (.pickUp seqNum assembled sent) := by
  intro live ready occupied
  cases progress : s.interfaceCommandProgress with
  | none => rfl
  | some id =>
    obtain ⟨command, inSlot⟩ := Option.isSome_iff_exists.mp occupied
    have waits := (kept.progress id progress).2.1
    have different := kept.slot_ne occupied progress
    have inside := kept.waiting_lt waits
    have picks : ∀ caller, CommandEvent.exec caller s (.pickUp seqNum assembled sent) =
        s.pickUp seqNum assembled sent caller := fun caller => if_pos (by simp [live, ready])
    have step := picks id
    rw [pickUp_eq inSlot] at step
    simp only [send_cases] at step
    cases both : assembled && sent with
    | true =>
      rw [both, if_pos rfl] at step
      refine absurd (stays _ ⟨id, step⟩) (kept.unserved progress _ ?_ ?_ ?_ ?_)
      · cases assembled <;> rfl
      · cases assembled <;> rfl
      · cases assembled <;> exact fun impossible => Bool.noConfusion impossible
      · intro inProgress
        have other := Option.some.inj inProgress.1
        omega
    | false =>
      rw [both] at step
      have last : id ≠ s.submissions.length - 1 := by omega
      cases assembled with
      | false =>
        obtain ⟨s', signalled, unserved⟩ := signal_wrong last
          (s := { s.pickedOf command with interfaceResult := 0 }) waits
        exact absurd (stays s' ⟨id, step.trans signalled⟩) unserved
      | true =>
        obtain ⟨s', signalled, unserved⟩ := signal_wrong last
          (s := { s.pickedOf command with
            isRetransmitting := sent
            responseSeqNum := if sent then seqNum else 0
            requests := s.requests ++ [⟨seqNum, some (s.submissions.length - 1, command)⟩]
            interfaceResult := 0 }) waits
        exact absurd (stays s' ⟨id, step.trans signalled⟩) unserved

theorem Kept.exclusive_request (kept : Kept s) {seqNum : Nat} {sent : Bool}
    (stays : s.StaysServed (.request seqNum sent)) : s.Exclusive (.request seqNum sent) := by
  intro live
  cases progress : s.interfaceCommandProgress with
  | none => rfl
  | some id =>
    have served := stays _ ⟨0, if_pos live⟩
    rw [send_cases] at served
    refine absurd served (kept.unserved progress _ rfl rfl (fun occupied => occupied) ?_)
    intro inProgress
    obtain ⟨_, _, request, last, answers, _⟩ := inProgress
    rw [List.getLast?_concat] at last
    cases last
    cases answers

theorem Kept.exclusive_respond (kept : Kept s) {number : Nat} {payload commits : Bool}
    (stays : s.StaysServed (.respond number payload commits)) :
    s.Exclusive (.respond number payload commits) := by
  intro live request member accepted
  have responds : ∀ caller, CommandEvent.exec caller s (.respond number payload commits) =
      s.acEnterRun request payload commits caller := by
    intro caller
    have found : s.requests[number]? = some request := member
    simp only [CommandEvent.exec, live, if_true, found, Option.bind_some]
  obtain ⟨seqNum, answered⟩ := request
  cases answered with
  | none =>
    show s.interfaceCommandProgress = none
    cases progress : s.interfaceCommandProgress with
    | none => rfl
    | some id =>
      obtain ⟨number', stopped⟩ := stop_eq s
      have same : ¬ s.responseSeqNum ≠ seqNum := fun different => different accepted
      have step := responds 0
      unfold acEnterRun at step
      rw [if_neg same, stopped] at step
      refine absurd (stays _ ⟨0, step⟩)
        (kept.unserved progress _ rfl rfl (fun occupied => occupied) ?_)
      exact fun inProgress => Bool.noConfusion inProgress.2.1
  | some answered =>
    obtain ⟨submission, command⟩ := answered
    cases progress : s.interfaceCommandProgress with
    | none =>
      simp only [Answers, progress, Option.isSome_none, Bool.false_eq_true, if_false]
      intro present other
      obtain ⟨closing, number', eq⟩ :=
        accept_eq accepted submission command payload commits 0
      rw [complete_idle (by exact progress)] at eq
      have served := stays _ ⟨0, (responds 0).trans eq⟩
      have goes : isForwarded payload command = true := by simp [isForwarded, present, other]
      have logged : (s.applicationIndex, submission) ∈ (if isForwarded payload command then
          (s.applicationIndex, submission) :: s.forwarded else s.forwarded) := by
        rw [if_pos goes]
        exact List.mem_cons_self
      obtain ⟨owner, submitted, index⟩ := served.forwarded _ logged
      have submitted : s.submissions[submission]? = some owner := submitted
      rw [submitted, Option.map_some, ← index]
    | some id =>
      -- whoever is waiting may be woken by it
      have wakes : ∀ caller ∈ s.waiting, caller = submission := by
        intro caller waits
        by_contra different
        obtain ⟨closing, number', eq⟩ :=
          accept_eq accepted submission command payload commits caller
        unfold CommandSlot.complete at eq
        rw [if_pos (by simp [progress])] at eq
        obtain ⟨s', signalled, unserved⟩ := signal_wrong different
          (s := { s with
            isRetransmitting := false, isRequestClose := closing, responseSeqNum := number'
            forwarded := if isForwarded payload command then
              (s.applicationIndex, submission) :: s.forwarded else s.forwarded
            interfaceResult := 1, interfaceCommandProgress := none }) waits
        exact unserved (stays s' ⟨caller, ((responds caller).trans eq).trans signalled⟩)
      obtain ⟨inProgress, waits, picked⟩ := kept.progress id progress
      have same := wakes id waits
      subst same
      simp only [Answers, progress, Option.isSome_some, if_true]
      refine ⟨inProgress, ?_⟩
      cases inSlot : s.interfaceCommand with
      | none => rfl
      | some command' =>
        obtain ⟨id', _, _, _, _, _, waits', unpicked⟩ := kept.slot command' inSlot
        have same := wakes id' waits'
        exact absurd (same ▸ picked) unpicked

theorem Kept.exclusive_close (kept : Kept s) (stays : s.StaysServed .close) :
    s.Exclusive .close := by
  intro live
  cases inSlot : s.interfaceCommand with
  | none => rfl
  | some command =>
    -- its submitter is left waiting
    obtain ⟨id, _, _, _, _, _, waits, unpicked⟩ := kept.slot command inSlot
    obtain ⟨seqNum, stopped⟩ := stop_eq s
    cases progress : s.interfaceCommandProgress with
    | none =>
      have closes : CommandEvent.exec 0 s .close = s.cwCloseThread 0 := if_pos live
      unfold cwCloseThread at closes
      rw [stopped, complete_idle (by exact progress), Option.map_some] at closes
      cases (stays _ ⟨0, closes⟩).waiting id waits with
      | inl pending => cases pending.1
      | inr inProgress =>
        have sent : s.interfaceCommandProgress = some id := inProgress.1
        rw [progress] at sent
        cases sent
    | some id' =>
      obtain ⟨_, waits', picked⟩ := kept.progress id' progress
      have different : id ≠ id' := fun same => unpicked (same ▸ picked)
      have closes : CommandEvent.exec id' s .close = s.cwCloseThread id' := if_pos live
      unfold cwCloseThread CommandSlot.complete at closes
      rw [stopped, if_pos (by simp [progress]), signal_mem (by exact waits'), Option.map_some]
        at closes
      have left := (List.mem_erase_of_ne different).mpr waits
      cases (stays _ ⟨id', closes⟩).waiting id left with
      | inl pending => cases pending.1
      | inr inProgress => cases inProgress.1

theorem Kept.exclusive (kept : Kept s) {event : CommandEvent} (stays : s.StaysServed event) :
    s.Exclusive event := by
  cases event with
  | submit submission => exact kept.exclusive_submit stays
  | pickUp seqNum assembled sent => exact kept.exclusive_pickUp stays
  | request seqNum sent => exact kept.exclusive_request stays
  | respond number payload commits => exact kept.exclusive_respond stays
  | requestClose => trivial
  | close => exact kept.exclusive_close stays

theorem Kept.staysServed_iff (kept : Kept s) (event : CommandEvent) :
    s.StaysServed event ↔ s.Exclusive event :=
  ⟨kept.exclusive, fun exclusive _ stepped => (kept.step exclusive stepped).served⟩

theorem allSteps_exclusive_iff (events : List CommandEvent) :
    AllSteps CommandStep StaysServed initial events ↔
      AllSteps CommandStep Exclusive initial events := by
  have agree : ∀ s event, Kept s → (s.StaysServed event ↔ s.Exclusive event) :=
    fun s event kept => kept.staysServed_iff event
  have preserved : ∀ s event s', Kept s → s.StaysServed event → CommandStep s event s' → Kept s' :=
    fun s event s' kept stays stepped => kept.step (kept.exclusive stays) stepped
  exact AllSteps.congr_of_kept agree preserved kept_initial events

/-- All who submit commands are served all along a run exactly if its steps are exclusive. -/
theorem rendezvous_iff (events : List CommandEvent) :
    initial.Served ∧ AllSteps CommandStep StaysServed initial events ↔
      AllSteps CommandStep Exclusive initial events := by
  rw [allSteps_exclusive_iff]
  exact and_iff_right served_initial

/-- Two applications command one WTP before its session has picked up a command. -/
theorem overwritten_not_served : ¬ ∀ events : List CommandEvent,
    initial.Served ∧ AllSteps CommandStep StaysServed initial events := by
  intro holds
  have all := (allSteps_exclusive_iff _).mp
    (holds ([.submit ⟨.uciControl, 0, 0⟩] ++ [.submit ⟨.ofdmControl, 1, 1⟩])).2
  have trace : Trace CommandStep initial [.submit ⟨.uciControl, 0, 0⟩]
      (initial.setValues ⟨.uciControl, 0, 0⟩) := .cons ⟨0, rfl⟩ (.nil _)
  have empty := (all.at_end trace).2
  cases empty

end CommandSlot

end WlanController.Interface
