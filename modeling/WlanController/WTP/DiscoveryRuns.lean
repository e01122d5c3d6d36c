import WlanController.WTP.Discovery

/-!
# Runs of Discovery

While responses are received the pointer is that of the first AC that responded, until another
request is sent.  That every interval ends with a response that can be told from its sequence
number keeps another request from being sent.
-/

namespace WlanController.WTP

open Run

variable {α : Type}

/-! ## The list of ACs -/

theorem sendRequests_received (seqNum : Nat) (acs : List CWACDescriptor) :
    (sendRequests seqNum acs).2.map CWACDescriptor.received = acs.map CWACDescriptor.received := by
  induction acs generalizing seqNum with
  | nil => rfl
  | cons ac acs inductionHypothesis =>
    unfold sendRequests
    split <;> simp [inductionHypothesis]

/-- Only an AC that has not responded can be marked anew. -/
theorem markReceived_eq_self {seqNum : Nat} {acs : List CWACDescriptor}
    (answered : ∀ ac ∈ acs, ac.seqNum = seqNum → ac.received = true) :
    markReceived seqNum acs = acs := by
  induction acs with
  | nil => rfl
  | cons ac acs inductionHypothesis =>
    unfold markReceived
    split
    case isTrue same =>
      have received := answered ac (List.mem_cons_self ..) same
      cases ac
      cases received
      rfl
    case isFalse =>
      rw [inductionHypothesis fun ac member => answered ac (List.mem_cons_of_mem _ member)]

theorem markReceived_seqNum (seqNum : Nat) (acs : List CWACDescriptor) :
    (markReceived seqNum acs).map CWACDescriptor.seqNum = acs.map CWACDescriptor.seqNum := by
  induction acs with
  | nil => rfl
  | cons ac acs inductionHypothesis =>
    unfold markReceived
    split <;> simp [inductionHypothesis]

namespace DiscoveryState

variable {s s' : DiscoveryState α}

theorem Outstanding.matches {seqNum : Nat} (outstanding : s.Outstanding seqNum) :
    s.Matches seqNum := by
  obtain ⟨ac, member, _, same⟩ := outstanding
  exact ⟨ac, member, same⟩

theorem matches_iff (seqNum : Nat) :
    s.Matches seqNum ↔ seqNum ∈ s.gCWACList.map CWACDescriptor.seqNum := by
  simp [Matches]

structure KeptSelection (s : DiscoveryState α) : Prop where
  selects : s.Selects
  fresh : s.point = .before → s.first = none
  selected : s.point = .reading → s.gACInfoPtr = s.first
  /-- Before the first response no AC is marked. -/
  unmarked : s.point = .reading → s.first = none → ∀ ac ∈ s.gCWACList, ac.received = false
  result : s.point = .reading →
    (s.result = true ↔ ∃ response ∈ s.last, s.Matches response.seqNum)

theorem keptSelection_initial (gCWACList : List CWACDescriptor) (gACInfoPtr : Option α)
    (seqNum : Nat) : KeptSelection (initial gCWACList gACInfoPtr seqNum) where
  selects := ⟨by simp [initial], fun joined => DiscoveryPoint.noConfusion joined⟩
  fresh := fun _ => rfl
  selected := fun reading => DiscoveryPoint.noConfusion reading
  unmarked := fun reading => DiscoveryPoint.noConfusion reading
  result := fun reading => DiscoveryPoint.noConfusion reading

theorem keptSelection_leave {next : CWStateTransition} (selects : (s.leave next).Selects) :
    KeptSelection (s.leave next) where
  selects := selects
  fresh := fun before => DiscoveryPoint.noConfusion before
  selected := fun reading => DiscoveryPoint.noConfusion reading
  unmarked := fun reading => DiscoveryPoint.noConfusion reading
  result := fun reading => DiscoveryPoint.noConfusion reading

/-! ## A round -/

/-- The rounds are over. -/
theorem round_sulking (spent : s.gCWDiscoveryCount = gCWMaxDiscoveries) :
    s.round = s.leave .enterSulking := by
  rw [round, if_pos spent]

/-- Every AC has responded, and one is selected. -/
theorem round_joins (left : s.gCWDiscoveryCount ≠ gCWMaxDiscoveries)
    (answered : ∀ ac ∈ s.gCWACList, ac.received = true) (found : s.gACInfoPtr.isSome = true) :
    s.round.point = .left .enterJoin ∧ s.round.gACInfoPtr = s.gACInfoPtr ∧
      s.round.first = s.first := by
  have sent : s.gCWACList.any (fun ac => !ac.received) = false := by simpa using answered
  simp [round, if_neg left, sent, found, picksAC, cwWTPFoundAnAC, leave]

/-- Something is sent, or there is no AC: what was selected is lost. -/
theorem round_reads (left : s.gCWDiscoveryCount ≠ gCWMaxDiscoveries)
    (lost : (∃ ac ∈ s.gCWACList, ac.received = false) ∨ s.gACInfoPtr = none) :
    s.round.point = .reading ∧ s.round.gACInfoPtr = none ∧ s.round.first = s.first ∧
      s.round.last = none ∧ s.round.result = false ∧
        s.round.gCWACList.map CWACDescriptor.received =
          s.gCWACList.map CWACDescriptor.received := by
  have marks := sendRequests_received s.seqNum s.gCWACList
  cases sent : s.gCWACList.any (fun ac => !ac.received) with
  | true => simp [round, if_neg left, sent, marks]
  | false =>
    have empty : s.gACInfoPtr = none := by
      apply lost.resolve_left
      intro unanswered
      obtain ⟨ac, member, unmarked⟩ := unanswered
      have unsent : s.gCWACList.any (fun ac => !ac.received) = true :=
        List.any_eq_true.mpr ⟨ac, member, by simp [unmarked]⟩
      rw [sent] at unsent
      exact Bool.noConfusion unsent
    simp [round, if_neg left, sent, marks, empty, cwWTPFoundAnAC]

/-- Nothing has been selected, and nothing is lost. -/
theorem keptSelection_round (nothing : s.first = none) (empty : s.gACInfoPtr = none ∨
      s.gCWACList ≠ []) (unmarked : ∀ ac ∈ s.gCWACList, ac.received = false) :
    KeptSelection s.round := by
  by_cases spent : s.gCWDiscoveryCount = gCWMaxDiscoveries
  · rw [round_sulking spent]
    apply keptSelection_leave
    constructor
    case selected => simp [leave, nothing]
    case found => exact fun joined => by simp [leave] at joined
  · have lost : (∃ ac ∈ s.gCWACList, ac.received = false) ∨ s.gACInfoPtr = none := by
      cases empty with
      | inl empty => exact .inr empty
      | inr some =>
        obtain ⟨ac, member⟩ := List.exists_mem_of_ne_nil _ some
        exact .inl ⟨ac, member, unmarked ac member⟩
    obtain ⟨reading, pointer, first, last, result, marks⟩ := round_reads spent lost
    constructor
    case selects =>
      constructor
      case selected => simp [first, nothing]
      case found => exact fun joined => by simp [reading] at joined
    case fresh => exact fun _ => first.trans nothing
    case selected => exact fun _ => by rw [pointer, first, nothing]
    case unmarked =>
      intro _ _ ac member
      have mark : ac.received ∈ s.gCWACList.map CWACDescriptor.received :=
        marks ▸ List.mem_map_of_mem member
      obtain ⟨before, was, same⟩ := List.mem_map.mp mark
      exact same ▸ unmarked before was
    case result => exact fun _ => by simp [result, last]

/-! ## Entering -/

/-- The state in which the first round is begun. -/
def reset (s : DiscoveryState α) : DiscoveryState α :=
  { s with
    gCWDiscoveryCount := 0
    gCWACList := s.gCWACList.map fun ac => { ac with received := false } }

theorem enter_eq (s : DiscoveryState α) : s.cwWTPEnterDiscovery true = s.reset.round := by
  simp [cwWTPEnterDiscovery, reset]

theorem reset_unmarked (s : DiscoveryState α) :
    ∀ ac ∈ s.reset.gCWACList, ac.received = false := by
  intro ac member
  obtain ⟨before, _, same⟩ := List.mem_map.mp member
  rw [← same]

theorem reset_eq_nil (s : DiscoveryState α) : s.reset.gCWACList = [] ↔ s.gCWACList = [] := by
  simp [reset]

theorem KeptSelection.enter (kept : KeptSelection s) (before : s.point = .before) {socket : Bool}
    (undisturbed : s.Undisturbed (.enter socket)) :
    KeptSelection (s.cwWTPEnterDiscovery socket) := by
  have nothing := kept.fresh before
  cases socket with
  | false =>
    show KeptSelection (leave { s with gCWDiscoveryCount := 0 } .quit)
    apply keptSelection_leave
    constructor
    case selected => simp [leave, nothing]
    case found => exact fun joined => by simp [leave] at joined
  | true =>
    rw [enter_eq]
    apply keptSelection_round (s := s.reset) nothing _ s.reset_unmarked
    by_cases empty : s.gCWACList = []
    · exact .inl (undisturbed before rfl empty)
    · exact .inr fun same => empty ((reset_eq_nil s).mp same)

/-- An AC that is left from before is joined at once if there is none to send a request to. -/
theorem KeptSelection.undisturbed_enter (kept : KeptSelection s) {socket : Bool}
    (stays : s.StaysSelected (.enter socket)) : s.Undisturbed (.enter socket) := by
  intro before connected empty
  subst connected
  cases pointer : s.gACInfoPtr with
  | none => rfl
  | some values =>
    have answered : ∀ ac ∈ s.reset.gCWACList, ac.received = true := by
      rw [(reset_eq_nil s).mpr empty]
      simp
    have joined := round_joins (s := s.reset) (by simp [reset, gCWMaxDiscoveries]) answered
      (by simp [reset, pointer])
    have found := (stays _ (if_pos before)).1.found
    rw [enter_eq] at found
    have first := found joined.1
    rw [joined.2.2] at first
    have nothing : s.first = none := kept.fresh before
    rw [reset, nothing] at first
    exact Bool.noConfusion first

/-! ## Receiving -/

/-- The state after a datagram. -/
def received (datagram : Option (DiscoveryResponse α)) (s : DiscoveryState α) : DiscoveryState α :=
  (s.note datagram).cwReceiveDiscoveryResponse datagram

theorem received_none (s : DiscoveryState α) :
    s.received none = { s with last := none, result := false } := by
  simp [received, note, cwReceiveDiscoveryResponse]

theorem evaluate_eq (values : α) (s : DiscoveryState α) :
    s.cwWTPEvaluateAC values = { s with gACInfoPtr := s.gACInfoPtr.or (some values) } := by
  unfold cwWTPEvaluateAC
  split
  case h_1 pointer => rw [pointer, Option.none_or]
  case h_2 selected pointer => rw [pointer, Option.some_or, ← pointer]

/-- A response is looked at for the pointer whatever its sequence number is. -/
theorem received_some (response : DiscoveryResponse α) (s : DiscoveryState α) :
    s.received (some response) = { s with
      gACInfoPtr := s.gACInfoPtr.or (some response.values)
      gCWACList := markReceived response.seqNum s.gCWACList
      result := decide (s.Matches response.seqNum)
      first := s.first.or (if s.Outstanding response.seqNum then some response.values else none)
      last := some response } := by
  have filtered : ((some response).filter fun response => s.Outstanding response.seqNum).map
      DiscoveryResponse.values =
        if s.Outstanding response.seqNum then some response.values else none := by
    by_cases outstanding : s.Outstanding response.seqNum <;> simp [outstanding]
  simp only [received, cwReceiveDiscoveryResponse, evaluate_eq, note, filtered]
  by_cases known : s.Matches response.seqNum
  · simp only [known, decide_true]
    exact if_pos known
  · have same : markReceived response.seqNum s.gCWACList = s.gCWACList :=
      markReceived_eq_self fun ac member same => absurd ⟨ac, member, same⟩ known
    simp only [known, decide_false, same]
    exact if_neg known

theorem matches_received (seqNum : Nat) (response : DiscoveryResponse α) (s : DiscoveryState α) :
    (s.received (some response)).Matches seqNum ↔ s.Matches seqNum := by
  have list : (s.received (some response)).gCWACList = markReceived response.seqNum s.gCWACList := by
    rw [received_some]
  rw [matches_iff, matches_iff, list, markReceived_seqNum]

/-- While nothing has been selected every request is outstanding. -/
theorem KeptSelection.outstanding_iff (kept : KeptSelection s) (reading : s.point = .reading)
    (nothing : s.first = none) (seqNum : Nat) : s.Outstanding seqNum ↔ s.Matches seqNum := by
  constructor
  · exact Outstanding.matches
  · intro known
    obtain ⟨ac, member, same⟩ := known
    exact ⟨ac, member, kept.unmarked reading nothing ac member, same⟩

theorem KeptSelection.receive (kept : KeptSelection s) (reading : s.point = .reading)
    {datagram : Option (DiscoveryResponse α)} (undisturbed : s.Undisturbed (.receive datagram)) :
    KeptSelection (s.received datagram) := by
  have pointer := kept.selected reading
  cases datagram with
  | none =>
    rw [received_none]
    exact { kept with
      selects := ⟨kept.selects.selected, kept.selects.found⟩
      result := fun _ => by simp }
  | some response =>
    have outstanding := fun nothing => undisturbed reading nothing response rfl
    have known := matches_received response.seqNum response s
    have selected : s.gACInfoPtr.or (some response.values) = s.first.or
        (if s.Outstanding response.seqNum then some response.values else none) := by
      rw [pointer]
      cases nothing : s.first with
      | none => simp [outstanding nothing]
      | some values => simp
    rw [received_some] at known ⊢
    constructor
    case selects =>
      constructor
      case selected =>
        intro values member
        rw [← Option.mem_def.mp member]
        exact selected
      case found => exact fun joined => by simp [reading] at joined
    case fresh => exact fun before => by simp [reading] at before
    case selected => exact fun _ => selected
    case unmarked =>
      intro _ nothing
      rw [← selected] at nothing
      cases values : s.gACInfoPtr <;> simp [values] at nothing
    case result =>
      intro _
      rw [decide_eq_true_iff]
      constructor
      · exact fun matched => ⟨response, rfl, known.mpr matched⟩
      · intro matched
        obtain ⟨last, is, matched⟩ := matched
        cases is
        exact known.mp matched

/-- What the marks ask for. -/
theorem received_unchanged (response : DiscoveryResponse α) (some : s.gACInfoPtr.isSome = true)
    (other : ¬ s.Outstanding response.seqNum) :
    (s.received (.some response)).gACInfoPtr = s.gACInfoPtr ∧
      (s.received (.some response)).gCWACList = s.gCWACList := by
  have marked : ∀ ac ∈ s.gCWACList, ac.seqNum = response.seqNum → ac.received = true := by
    intro ac member same
    by_contra unmarked
    exact other ⟨ac, member, by simpa using unmarked, same⟩
  obtain ⟨values, pointer⟩ := Option.isSome_iff_exists.mp some
  rw [received_some]
  exact ⟨by simp [pointer], markReceived_eq_self marked⟩

theorem KeptSelection.answers_receive (kept : KeptSelection s) (reading : s.point = .reading)
    {datagram : Option (DiscoveryResponse α)} (undisturbed : s.Undisturbed (.receive datagram)) :
    s.Answers (s.received datagram) (.receive datagram) := by
  intro unanswered
  cases datagram with
  | none =>
    rw [received_none]
    exact ⟨rfl, rfl⟩
  | some response =>
    have other := unanswered response rfl
    have found : s.gACInfoPtr.isSome = true := by
      rw [kept.selected reading]
      cases nothing : s.first with
      | none => exact absurd (undisturbed reading nothing response rfl) other
      | some values => rfl
    have same := received_unchanged response found other
    exact ⟨same.1, by rw [same.2]⟩

theorem KeptSelection.undisturbed_receive (kept : KeptSelection s)
    {datagram : Option (DiscoveryResponse α)} (stays : s.StaysSelected (.receive datagram)) :
    s.Undisturbed (.receive datagram) := by
  intro reading nothing response is
  cases is
  by_contra other
  have unanswered : ∀ other ∈ some response, ¬ s.Outstanding other.seqNum := by
    intro _ is
    cases is
    exact other
  have answers : s.Answers (s.received (some response)) (.receive (some response)) :=
    (stays _ (if_pos reading)).2
  have pointer := (answers unanswered).1
  rw [received_some, kept.selected reading, nothing] at pointer
  simp at pointer

/-! ## The end of an interval -/

theorem picksAC_joins (found : s.gACInfoPtr.isSome = true) : s.picksAC = s.leave .enterJoin := by
  simp [picksAC, cwWTPFoundAnAC, found]

theorem timeOver_eq (s : DiscoveryState α) :
    s.timeOver =
      if s.result = true ∧ s.gACInfoPtr.isSome = true then s.leave .enterJoin else s.round := by
  unfold timeOver
  by_cases both : s.result = true ∧ s.gACInfoPtr.isSome = true
  · rw [if_pos both, if_pos (by simp [cwWTPFoundAnAC, both]), picksAC_joins both.2]
  · rw [if_neg both, if_neg (by simpa [cwWTPFoundAnAC] using both)]

/-- An interval that begins without an AC, and in which none responded. -/
theorem KeptSelection.timeOver_nothing (kept : KeptSelection s) (reading : s.point = .reading)
    (nothing : s.first = none) : KeptSelection s.timeOver := by
  have pointer : s.gACInfoPtr = none := (kept.selected reading).trans nothing
  have empty : ¬ (s.result = true ∧ s.gACInfoPtr.isSome = true) := by simp [pointer]
  rw [timeOver_eq, if_neg empty]
  exact keptSelection_round nothing (.inl pointer) (kept.unmarked reading nothing)

/-- JOIN is entered with the AC that responded first. -/
structure Joins (s s' : DiscoveryState α) : Prop where
  point : s'.point = .left .enterJoin
  pointer : s'.gACInfoPtr = s.gACInfoPtr
  first : s'.first = s.first

theorem KeptSelection.timeOver_joins (kept : KeptSelection s) (reading : s.point = .reading)
    (found : s.first.isSome = true) (undisturbed : s.Undisturbed .timeOver) :
    s.Joins s.timeOver := by
  have pointer : s.gACInfoPtr.isSome = true := kept.selected reading ▸ found
  rw [timeOver_eq]
  by_cases result : s.result = true
  · rw [if_pos ⟨result, pointer⟩]
    exact ⟨rfl, rfl, rfl⟩
  · rw [if_neg fun both => result both.1]
    have rest := (undisturbed reading found).resolve_left fun known =>
      result ((kept.result reading).mpr known)
    obtain ⟨joined, same, first⟩ := round_joins rest.2 rest.1 pointer
    exact ⟨joined, same, first⟩

theorem KeptSelection.timeOver (kept : KeptSelection s) (reading : s.point = .reading)
    (undisturbed : s.Undisturbed .timeOver) : KeptSelection s.timeOver := by
  cases nothing : s.first with
  | none => exact kept.timeOver_nothing reading nothing
  | some values =>
    have found : s.first.isSome = true := by simp [nothing]
    have joins := kept.timeOver_joins reading found undisturbed
    constructor
    case selects =>
      constructor
      case selected =>
        intro values member
        rw [joins.pointer, kept.selected reading, ← joins.first]
        exact member
      case found => exact fun _ => joins.first ▸ found
    case fresh => exact fun before => by simp [joins.point] at before
    case selected => exact fun reads => by simp [joins.point] at reads
    case unmarked => exact fun reads => by simp [joins.point] at reads
    case result => exact fun reads => by simp [joins.point] at reads

/-- Otherwise another request is sent, or the WTP sulks. -/
theorem KeptSelection.undisturbed_timeOver (kept : KeptSelection s)
    (stays : s.StaysSelected .timeOver) : s.Undisturbed .timeOver := by
  intro reading found
  have joined : s.timeOver.point = .left .enterJoin := (stays _ (if_pos reading)).2 found
  by_cases result : s.result = true
  · exact .inl ((kept.result reading).mp result)
  · right
    rw [timeOver_eq, if_neg fun both => result both.1] at joined
    by_cases spent : s.gCWDiscoveryCount = gCWMaxDiscoveries
    · rw [round_sulking spent] at joined
      simp [leave] at joined
    · refine ⟨?_, spent⟩
      by_contra unanswered
      have unanswered : ∃ ac ∈ s.gCWACList, ac.received = false := by simpa using unanswered
      rw [(round_reads spent (.inl unanswered)).1] at joined
      exact DiscoveryPoint.noConfusion joined

/-! ## Runs -/

theorem KeptSelection.step (kept : KeptSelection s) {event : DiscoveryEvent α}
    (undisturbed : s.Undisturbed event) (stepped : DiscoveryStep s event s') :
    KeptSelection s' := by
  cases event with
  | enter socket =>
    obtain ⟨before, next⟩ := Option.ite_none_right_eq_some.mp stepped
    cases next
    exact kept.enter before undisturbed
  | receive datagram =>
    obtain ⟨reading, next⟩ := Option.ite_none_right_eq_some.mp stepped
    cases next
    exact kept.receive reading undisturbed
  | timeOver =>
    obtain ⟨reading, next⟩ := Option.ite_none_right_eq_some.mp stepped
    cases next
    exact kept.timeOver reading undisturbed

theorem KeptSelection.undisturbed (kept : KeptSelection s) {event : DiscoveryEvent α}
    (stays : s.StaysSelected event) : s.Undisturbed event := by
  cases event with
  | enter socket => exact kept.undisturbed_enter stays
  | receive datagram => exact kept.undisturbed_receive stays
  | timeOver => exact kept.undisturbed_timeOver stays

theorem KeptSelection.stays_iff (kept : KeptSelection s) (event : DiscoveryEvent α) :
    s.StaysSelected event ↔ s.Undisturbed event := by
  constructor
  · exact kept.undisturbed
  · intro undisturbed s' stepped
    refine ⟨(kept.step undisturbed stepped).selects, ?_⟩
    cases event with
    | enter socket => trivial
    | receive datagram =>
      obtain ⟨reading, next⟩ := Option.ite_none_right_eq_some.mp stepped
      cases next
      exact kept.answers_receive reading undisturbed
    | timeOver =>
      obtain ⟨reading, next⟩ := Option.ite_none_right_eq_some.mp stepped
      cases next
      exact fun found => (kept.timeOver_joins reading found undisturbed).point

/-- In every run the AC that responded first is selected and joined exactly as long as every step is
    undisturbed. -/
theorem staysSelected_iff (gCWACList : List CWACDescriptor) (gACInfoPtr : Option α) (seqNum : Nat)
    (events : List (DiscoveryEvent α)) :
    AllSteps DiscoveryStep StaysSelected (initial gCWACList gACInfoPtr seqNum) events ↔
      AllSteps DiscoveryStep Undisturbed (initial gCWACList gACInfoPtr seqNum) events := by
  have agree : ∀ (s : DiscoveryState α) event, KeptSelection s →
      (s.StaysSelected event ↔ s.Undisturbed event) := fun s event kept => kept.stays_iff event
  have preserved : ∀ (s : DiscoveryState α) event s', KeptSelection s → s.StaysSelected event →
      DiscoveryStep s event s' → KeptSelection s' :=
    fun s event s' kept stays stepped => kept.step (kept.undisturbed stays) stepped
  exact AllSteps.congr_of_kept agree preserved (keptSelection_initial _ _ _) events

/-- A peer that the WTP knows nothing of sends a response before the AC does, with a sequence number
    that no request has. -/
def forged : List (DiscoveryEvent String) :=
  [.enter true, .receive (some ⟨200, "peer"⟩), .receive (some ⟨1, "AC"⟩)]

/-- Where the AC is joined that the peer has named. -/
theorem forged_not_selected : ¬ ∀ (gCWACList : List CWACDescriptor) (gACInfoPtr : Option String)
    (seqNum : Nat) (events : List (DiscoveryEvent String)),
    AllSteps DiscoveryStep StaysSelected (initial gCWACList gACInfoPtr seqNum) events := by
  intro holds
  have all := holds [⟨"192.168.1.1", false, 0⟩] none 0 (forged ++ [.timeOver])
  have read : (forged.foldlM (fun s event => DiscoveryEvent.exec s event)
      (initial [⟨"192.168.1.1", false, 0⟩] none 0)).any (fun s => s.point = .reading ∧
        s.timeOver.point = .left .enterJoin ∧ s.timeOver.first = some "AC" ∧
          s.timeOver.gACInfoPtr = some "peer") = true := by
    decide +kernel
  obtain ⟨s, returned, found⟩ := (Option.any_eq_true _ _).mp read
  obtain ⟨reading, _, first, pointer⟩ := of_decide_eq_true found
  have stays : s.StaysSelected .timeOver := all.at_end (trace_of_foldlM returned)
  have selected := (stays s.timeOver (if_pos reading)).1.selected "AC" first
  rw [pointer] at selected
  simp at selected

end DiscoveryState

end WlanController.WTP
