import WlanController.WTP.JoinAttempts

/-!
# Discovery

The WTP sends a request to every AC of its list that has not responded yet, and then receives for
an interval of time whatever comes, until there is a response.  The AC it then joins is the one
that `gACInfoPtr` points to, which is also where the address of each request is put.

There is memory, and the requests can be assembled.
-/

namespace WlanController.WTP

structure CWACDescriptor where
  address : String
  received : Bool
  seqNum : Nat
  deriving DecidableEq

/-- A datagram that the parser of Discovery Responses accepts.  The values are those of the AC,
    with the address of the sender. -/
structure DiscoveryResponse (α : Type) where
  seqNum : Nat
  values : α
  deriving DecidableEq

inductive DiscoveryPoint where
  | before
  /-- In `CWReadResponses`. -/
  | reading
  | left (nextState : CWStateTransition)
  deriving DecidableEq

structure DiscoveryState (α : Type) where
  gCWACList : List CWACDescriptor
  /-- `none` for `NULL`. -/
  gACInfoPtr : Option α
  gCWDiscoveryCount : Nat
  /-- The last sequence number that was given away. -/
  seqNum : Nat
  /-- What `CWReadResponses` is to return. -/
  result : Bool
  point : DiscoveryPoint
  /-- The first response that had the sequence number of an outstanding request. -/
  first : Option α
  /-- What came last in this interval, unless that was no response. -/
  last : Option (DiscoveryResponse α)
  deriving DecidableEq

variable {α : Type}

def gCWMaxDiscoveries : Nat := 10

def cwMaxSeqNum : Nat := 255

def cwGetSeqNum (seqNum : Nat) : Nat := if seqNum = cwMaxSeqNum then 0 else seqNum + 1

/-- The loop over the ACs, with the last sequence number. -/
def sendRequests (seqNum : Nat) : List CWACDescriptor → Nat × List CWACDescriptor
  | [] => (seqNum, [])
  | ac :: acs =>
      if ac.received then
        let rest := sendRequests seqNum acs
        (rest.1, ac :: rest.2)
      else
        let rest := sendRequests (cwGetSeqNum seqNum) acs
        (rest.1, { ac with seqNum := cwGetSeqNum seqNum } :: rest.2)

/-- The first AC with the sequence number has responded. -/
def markReceived (seqNum : Nat) : List CWACDescriptor → List CWACDescriptor
  | [] => []
  | ac :: acs =>
      if ac.seqNum = seqNum then { ac with received := true } :: acs
      else ac :: markReceived seqNum acs

namespace DiscoveryState

/-- What an earlier state has left, when Discovery is entered. -/
def initial (gCWACList : List CWACDescriptor) (gACInfoPtr : Option α) (seqNum : Nat) :
    DiscoveryState α where
  gCWACList := gCWACList
  gACInfoPtr := gACInfoPtr
  gCWDiscoveryCount := 0
  seqNum := seqNum
  result := false
  point := .before
  first := none
  last := none

def cwWTPFoundAnAC (s : DiscoveryState α) : Bool := s.gACInfoPtr.isSome

def leave (s : DiscoveryState α) (nextState : CWStateTransition) : DiscoveryState α :=
  { s with point := .left nextState }

/-- Behind the loop.  `CWWTPPickACInterface` chooses among the addresses of the AC. -/
def picksAC (s : DiscoveryState α) : DiscoveryState α :=
  if s.cwWTPFoundAnAC then s.leave .enterJoin else s.leave .enterDiscovery

/-- The loop from its start to the next call of `CWReadResponses`. -/
def round (s : DiscoveryState α) : DiscoveryState α :=
  if s.gCWDiscoveryCount = gCWMaxDiscoveries then s.leave .enterSulking
  else
    let sentSomething := s.gCWACList.any fun ac => !ac.received
    let sent := sendRequests s.seqNum s.gCWACList
    let s := { s with
      gCWACList := sent.2
      seqNum := sent.1
      -- each request allocates the object and frees it
      gACInfoPtr := if sentSomething then none else s.gACInfoPtr }
    if !sentSomething && s.cwWTPFoundAnAC then s.picksAC
    else { s with
      gCWDiscoveryCount := s.gCWDiscoveryCount + 1
      result := false
      point := .reading
      last := none }

/-- As far as the first call of `CWReadResponses`.  Without a socket the WTP quits. -/
def cwWTPEnterDiscovery (socket : Bool) (s : DiscoveryState α) : DiscoveryState α :=
  let s := { s with gCWDiscoveryCount := 0 }
  if socket = false then s.leave .quit
  else
    let gCWACList := s.gCWACList.map fun ac => { ac with received := false }
    { s with gCWACList := gCWACList }.round

def cwWTPEvaluateAC (values : α) (s : DiscoveryState α) : DiscoveryState α :=
  match s.gACInfoPtr with
  | none => { s with gACInfoPtr := some values }
  | some _ => s

/-- Some AC was sent a request with this sequence number, and no later one. -/
def Matches (s : DiscoveryState α) (seqNum : Nat) : Prop :=
  ∃ ac ∈ s.gCWACList, ac.seqNum = seqNum

/-- And it has not responded. -/
def Outstanding (s : DiscoveryState α) (seqNum : Nat) : Prop :=
  ∃ ac ∈ s.gCWACList, ac.received = false ∧ ac.seqNum = seqNum

instance (s : DiscoveryState α) (seqNum : Nat) : Decidable (s.Matches seqNum) :=
  inferInstanceAs (Decidable (∃ ac ∈ s.gCWACList, ac.seqNum = seqNum))

instance (s : DiscoveryState α) (seqNum : Nat) : Decidable (s.Outstanding seqNum) :=
  inferInstanceAs (Decidable (∃ ac ∈ s.gCWACList, ac.received = false ∧ ac.seqNum = seqNum))

/-- `none` if it cannot be received or is no Discovery Response. -/
def cwReceiveDiscoveryResponse (datagram : Option (DiscoveryResponse α)) (s : DiscoveryState α) :
    DiscoveryState α :=
  match datagram with
  | none => { s with result := false }
  | some response =>
      let s := s.cwWTPEvaluateAC response.values
      if s.Matches response.seqNum then
        { s with gCWACList := markReceived response.seqNum s.gCWACList, result := true }
      else { s with result := false }

/-- What is to be remembered of a datagram. -/
def note (datagram : Option (DiscoveryResponse α)) (s : DiscoveryState α) : DiscoveryState α :=
  { s with
    first := s.first.or
      ((datagram.filter fun response => s.Outstanding response.seqNum).map DiscoveryResponse.values)
    last := datagram }

/-- `CWReadResponses` returns. -/
def timeOver (s : DiscoveryState α) : DiscoveryState α :=
  if s.result && s.cwWTPFoundAnAC then s.picksAC else s.round

end DiscoveryState

/-! ## Steps -/

inductive DiscoveryEvent (α : Type) where
  | enter (socket : Bool)
  | receive (datagram : Option (DiscoveryResponse α))
  /-- The interval is over, or the socket cannot be read. -/
  | timeOver

/-- `none` where the step is not possible. -/
def DiscoveryEvent.exec (s : DiscoveryState α) : DiscoveryEvent α → Option (DiscoveryState α)
  | .enter socket => if s.point = .before then some (s.cwWTPEnterDiscovery socket) else none
  | .receive datagram =>
      if s.point = .reading then some ((s.note datagram).cwReceiveDiscoveryResponse datagram)
      else none
  | .timeOver => if s.point = .reading then some s.timeOver else none

def DiscoveryStep (s : DiscoveryState α) (event : DiscoveryEvent α) (s' : DiscoveryState α) : Prop :=
  event.exec s = some s'

/-! ## What is asked of Discovery -/

namespace DiscoveryState

/-- What is selected is the AC that responded first, and JOIN is not entered without one. -/
structure Selects (s : DiscoveryState α) : Prop where
  selected : ∀ values ∈ s.first, s.gACInfoPtr = some values
  found : s.point = .left .enterJoin → s.first.isSome = true

/-- A datagram that is no response to an outstanding request changes nothing, and once there was a
    response to one JOIN is entered at the end of the interval. -/
def Answers (s s' : DiscoveryState α) : DiscoveryEvent α → Prop
  | .enter _ => True
  | .receive datagram => (∀ response ∈ datagram, ¬ s.Outstanding response.seqNum) →
      s'.gACInfoPtr = s.gACInfoPtr ∧
        s'.gCWACList.map CWACDescriptor.received = s.gCWACList.map CWACDescriptor.received
  | .timeOver => s.first.isSome = true → s'.point = .left .enterJoin

/-- Whatever state a step leads to. -/
def StaysSelected (s : DiscoveryState α) (event : DiscoveryEvent α) : Prop :=
  ∀ s', DiscoveryStep s event s' → s'.Selects ∧ s.Answers s' event

/-- The steps that select the right AC.  No AC is left from before where there is no list; the first
    response has the sequence number of an outstanding request; and once there was one, every
    interval ends with a response that has the sequence number of a request, or every AC has
    responded and there are rounds left. -/
def Undisturbed (s : DiscoveryState α) : DiscoveryEvent α → Prop
  | .enter socket => s.point = .before → socket = true → s.gCWACList = [] → s.gACInfoPtr = none
  | .receive datagram => s.point = .reading → s.first = none →
      ∀ response ∈ datagram, s.Outstanding response.seqNum
  | .timeOver => s.point = .reading → s.first.isSome = true →
      (∃ response ∈ s.last, s.Matches response.seqNum) ∨
        (∀ ac ∈ s.gCWACList, ac.received = true) ∧ s.gCWDiscoveryCount ≠ gCWMaxDiscoveries

end DiscoveryState

end WlanController.WTP
