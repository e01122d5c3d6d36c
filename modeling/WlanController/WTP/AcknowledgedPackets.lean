import WlanController.Elements.ElementLayouts
import WlanController.Protocol.FragmentList

/-!
# Requests that wait for their response

In JOIN, CONFIGURE and DATA CHECK the WTP sends a request and then takes from the list of received
packets one message after the other, until one is the response.  It sends the request again when
the time to wait is over, which is longer each time up to a limit, and gives up after a number of
transmissions.

The request has been assembled.
-/

namespace WlanController.WTP

open Protocol Elements Radios Run

def gCWMaxRetransmit : Nat := 5

/-- The WTP as it is built, with or without `CW_DEBUGGING`. -/
def gCWRetransmitTimer (CW_DEBUGGING : Bool) : Nat := if CW_DEBUGGING then 12 else 3

def cwEchoIntervalDefault : Nat := 5

def gMaxTimeToSleep : Nat := cwEchoIntervalDefault / 2

def cwMsgTypeValueJoinResponse : Nat := 4
def cwMsgTypeValueConfigureResponse : Nat := 6
def cwMsgTypeValueChangeStateEventResponse : Nat := 12

/-! ## Receiving a message -/

inductive Received where
  | message (bytes : List UInt8)
  /-- `CWReceiveMessage` returns `CW_FALSE`. -/
  | malformed
  /-- A packet is read behind its end. -/
  | strayed

/-- The packets, with their data flags, that one call takes from the list.  `none` if it takes
    fewer or waits for more. -/
def cwReceiveMessage (fuel : Nat) (fragments : List CWProtocolFragment) :
    List (Packet × Bool) → Option Received
  | [] => none
  | (packet, dataFlag) :: packets =>
      match cwProtocolParseFragment fuel packet fragments dataFlag none with
      | none => none
      | some outcome =>
          match outcome.result with
          | .ok message => if packets.isEmpty then some (.message message.contents) else none
          | .error (.raised .needResource _) =>
              cwReceiveMessage fuel outcome.fragmentsList packets
          | .error (.raised _ _) => if packets.isEmpty then some .malformed else none
          | .error (.outOfBounds _) => if packets.isEmpty then some .strayed else none

/-! ## Parsing the response -/

variable {σ : Type}

/-- What the parsers of the responses differ in, and what is done with the values. -/
structure ResponseHandler (σ : Type) where
  messageTypeValue : Nat
  unexpected : String
  /-- Behind the control header. -/
  elements : CWControlHeaderValues → ParserM σ Unit
  /-- `none` for `CW_TRUE`, otherwise the last error. -/
  saveFunc : σ → Option CWErrorCode

def joinResponse (elements : CWControlHeaderValues → ParserM σ Unit)
    (saveFunc : σ → Option CWErrorCode) : ResponseHandler σ where
  messageTypeValue := cwMsgTypeValueJoinResponse
  unexpected := "Message is not Join Response as Expected"
  elements := elements
  saveFunc := saveFunc

def configureResponse (elements : CWControlHeaderValues → ParserM σ Unit)
    (saveFunc : σ → Option CWErrorCode) : ResponseHandler σ where
  messageTypeValue := cwMsgTypeValueConfigureResponse
  unexpected := "Message is not Configure Response as Expected"
  elements := elements
  saveFunc := saveFunc

/-- Nothing is parsed behind the header, and nothing saved. -/
def changeStateEventResponse : ResponseHandler Unit where
  messageTypeValue := cwMsgTypeValueChangeStateEventResponse
  unexpected := "Message is not Change State Event Response as Expected"
  elements := fun controlVal =>
    if controlVal.msgElemsLen - .ofNat cwControlHeaderOffsetForMsgElems ≠ 0 then
      refusing .invalidFormat (some "Change State Event Response must carry no message elements")
    else return ()
  saveFunc := fun _ => none

def cwParseResponseMessage (handler : ResponseHandler σ) (seqNum : UInt8) : ParserM σ Unit := do
  let controlVal ← reading cwParseControlHeader
  if controlVal.messageTypeValue.toNat ≠ handler.messageTypeValue then
    refusing .invalidFormat (some handler.unexpected)
  if controlVal.seqNum ≠ seqNum then
    refusing .invalidFormat (some "Different Sequence Number")
  handler.elements controlVal

/-- How a call of the parser ends, with what it leaves in the values. -/
inductive Verdict (σ : Type) where
  | accepted (values : σ)
  | refused (code : CWErrorCode) (values : σ)
  | strayed

def parseFunc (handler : ResponseHandler σ) (seqNum : UInt8) (values : σ) (message : List UInt8) :
    Verdict σ :=
  match (cwParseResponseMessage handler seqNum).run ⟨⟨message, 0, none⟩, values⟩ with
  | .ok _ s => .accepted s.values
  | .error (.failed (.raised code _)) s => .refused code s.values
  | .error _ _ => .strayed

/-! ## The exchange -/

structure AcknowledgedRequest (σ : Type) where
  CW_DEBUGGING : Bool
  seqNum : UInt8
  /-- The fragments. -/
  messages : List (List UInt8)
  handler : ResponseHandler σ

inductive ExchangeEnd where
  | returned (value : Bool)
  | strayed
  deriving DecidableEq

structure Exchange (σ : Type) where
  gWTPRetransmissionCount : Nat
  gTimeToSleep : Nat
  values : σ
  /-- The fragments are being sent. -/
  sending : Bool
  /-- `none` as long as it goes on. -/
  outcome : Option ExchangeEnd
  /-- What has been sent in each transmission, the last one first. -/
  sent : List (List (List UInt8))
  /-- The times that were waited before the retransmissions, the last one first. -/
  waits : List Nat

namespace Exchange

def begin (request : AcknowledgedRequest σ) (values : σ) : Exchange σ where
  gWTPRetransmissionCount := 0
  gTimeToSleep := gCWRetransmitTimer request.CW_DEBUGGING
  values := values
  sending := true
  outcome := none
  sent := [request.messages]
  waits := []

def finish (value : Bool) (s : Exchange σ) : Exchange σ :=
  { s with outcome := some (.returned value) }

/-- At `cw_continue_external_loop`, with the retransmission counted. -/
def continueExternalLoop (request : AcknowledgedRequest σ) (s : Exchange σ) : Exchange σ :=
  let count := s.gWTPRetransmissionCount + 1
  let doubled := s.gTimeToSleep * 2
  let s' := { s with
    gWTPRetransmissionCount := count
    gTimeToSleep := if doubled > gMaxTimeToSleep then gMaxTimeToSleep else doubled }
  if count < gCWMaxRetransmit then
    { s' with sending := true, sent := request.messages :: s.sent, waits := s.gTimeToSleep :: s.waits }
  else s'.finish false

/-- What becomes of a message. -/
def receive (request : AcknowledgedRequest σ) (received : Received) (s : Exchange σ) : Exchange σ :=
  match received with
  | .malformed => s.finish false
  | .strayed => { s with outcome := some .strayed }
  | .message message =>
      match parseFunc request.handler request.seqNum s.values message with
      | .strayed => { s with outcome := some .strayed }
      | .refused code values =>
          let s := { s with values := values }
          if code ≠ .invalidFormat then s.finish false else s.continueExternalLoop request
      | .accepted values =>
          let s := { s with values := values }
          match request.handler.saveFunc values with
          | none => s.finish true
          | some code => if code ≠ .invalidFormat then s.finish false else s

/-- It waits for a message. -/
def Waiting (s : Exchange σ) : Prop := s.outcome = none ∧ s.sending = false

instance (s : Exchange σ) : Decidable s.Waiting := inferInstanceAs (Decidable (_ ∧ _))

end Exchange

inductive ExchangeEvent where
  /-- The fragments of a transmission, which the network takes or not. -/
  | send (taken : Bool)
  /-- The time to wait is over. -/
  | expire
  /-- The wait for the packets fails. -/
  | fails
  | receive (fuel : Nat) (packets : List (Packet × Bool))

/-- `none` where the step is not possible. -/
def ExchangeEvent.exec (request : AcknowledgedRequest σ) (s : Exchange σ) :
    ExchangeEvent → Option (Exchange σ)
  | .send taken =>
      if s.outcome = none ∧ s.sending = true then
        some (if taken then { s with sending := false } else s.finish false)
      else none
  | .expire => if s.Waiting then some (s.continueExternalLoop request) else none
  | .fails => if s.Waiting then some (s.finish false) else none
  | .receive fuel packets =>
      if s.Waiting then (cwReceiveMessage fuel [] packets).map fun received => s.receive request received
      else none

def ExchangeStep (request : AcknowledgedRequest σ) (s : Exchange σ) (event : ExchangeEvent)
    (s' : Exchange σ) : Prop :=
  event.exec request s = some s'

/-! ## What is asked of an exchange -/

/-- A message of the expected type with the sequence number of the request. -/
def IsResponse (request : AcknowledgedRequest σ) (received : Received) : Prop :=
  ∃ message controlVal after, received = .message message ∧
    cwParseControlHeader.run ⟨message, 0, none⟩ = .ok controlVal after ∧
      controlVal.messageTypeValue.toNat = request.handler.messageTypeValue ∧
        controlVal.seqNum = request.seqNum

/-- The parser finds nothing wrong with it. -/
def Accepted (request : AcknowledgedRequest σ) (values : σ) (received : Received) : Prop :=
  ∃ message values', received = .message message ∧
    parseFunc request.handler request.seqNum values message = .accepted values'

namespace Exchange

/-- The same fragments have been sent at least once and not too often, and no wait was shorter than
    the one before. -/
structure Orderly (request : AcknowledgedRequest σ) (s : Exchange σ) : Prop where
  same : ∀ messages ∈ s.sent, messages = request.messages
  once : 1 ≤ s.sent.length
  bounded : s.sent.length ≤ gCWMaxRetransmit
  longer : s.waits.Pairwise fun later earlier => earlier ≤ later

/-- Only a response is an end of the exchange with `CW_TRUE`, and what is no response is neither an
    end nor a reason for another transmission. -/
def Heeds (request : AcknowledgedRequest σ) (s s' : Exchange σ) : ExchangeEvent → Prop
  | .receive fuel packets => ∀ received, cwReceiveMessage fuel [] packets = some received →
      (s'.outcome = some (.returned true) → IsResponse request received) ∧
        (¬ Accepted request s.values received → s'.outcome = none ∧ s'.sent = s.sent)
  | _ => s'.outcome ≠ some (.returned true)

/-- Whatever state a step leads to. -/
def StaysOrderly (request : AcknowledgedRequest σ) (s : Exchange σ) (event : ExchangeEvent) : Prop :=
  ∀ s', ExchangeStep request s event s' → s'.Orderly request ∧ s.Heeds request s' event

/-- The steps of an exchange that is not disturbed.  Only the first time to wait comes to its end,
    and every message that is received is the response. -/
def Quiet (request : AcknowledgedRequest σ) (s : Exchange σ) : ExchangeEvent → Prop
  | .expire => s.Waiting → s.sent.length = 1
  | .receive fuel packets => s.Waiting → ∀ received,
      cwReceiveMessage fuel [] packets = some received → Accepted request s.values received
  | _ => True

variable {request : AcknowledgedRequest σ} {s s' : Exchange σ}

/-! ## Transmissions -/

/-- There is one transmission more than was counted, and the second wait is shorter than the
    first. -/
structure KeptExchange (request : AcknowledgedRequest σ) (s : Exchange σ) : Prop where
  orderly : s.Orderly request
  counted : s.outcome = none → s.sent.length = s.gWTPRetransmissionCount + 1
  first : s.outcome = none → s.gWTPRetransmissionCount = 0 →
    s.waits = [] ∧ s.gTimeToSleep = gCWRetransmitTimer request.CW_DEBUGGING
  second : s.outcome = none → s.gWTPRetransmissionCount ≠ 0 →
    s.gWTPRetransmissionCount = 1 ∧ s.gTimeToSleep = gMaxTimeToSleep ∧
      s.waits = [gCWRetransmitTimer request.CW_DEBUGGING]

theorem keptExchange_begin (request : AcknowledgedRequest σ) (values : σ) :
    KeptExchange request (begin request values) where
  orderly := by
    constructor
    case same => simp [begin]
    case once => simp [begin]
    case bounded => simp [begin, gCWMaxRetransmit]
    case longer => simp [begin]
  counted := fun _ => rfl
  first := fun _ _ => ⟨rfl, rfl⟩
  second := fun _ counted => absurd rfl counted

theorem timer_gt (CW_DEBUGGING : Bool) : gMaxTimeToSleep < gCWRetransmitTimer CW_DEBUGGING := by
  cases CW_DEBUGGING <;> decide

theorem finish_orderly (orderly : s.Orderly request) (value : Bool) :
    (s.finish value).Orderly request :=
  ⟨orderly.same, orderly.once, orderly.bounded, orderly.longer⟩

/-- An exchange that has come to its end. -/
theorem keptExchange_ended {stop : ExchangeEnd} (ended : s.outcome = some stop)
    (orderly : s.Orderly request) : KeptExchange request s where
  orderly := orderly
  counted := fun going => by simp [ended] at going
  first := fun going => by simp [ended] at going
  second := fun going => by simp [ended] at going

theorem KeptExchange.finish (kept : KeptExchange request s) (value : Bool) :
    KeptExchange request (s.finish value) :=
  keptExchange_ended rfl (finish_orderly kept.orderly value)

/-- The first retransmission. -/
theorem KeptExchange.retransmit (kept : KeptExchange request s) (going : s.outcome = none)
    (first : s.sent.length = 1) : KeptExchange request (s.continueExternalLoop request) := by
  have counted := kept.counted going
  have zero : s.gWTPRetransmissionCount = 0 := by omega
  obtain ⟨unwaited, timer⟩ := kept.first going zero
  have long := timer_gt request.CW_DEBUGGING
  have capped : s.gTimeToSleep * 2 > gMaxTimeToSleep := by omega
  have more : s.gWTPRetransmissionCount + 1 < gCWMaxRetransmit := by
    rw [zero]
    decide
  simp only [continueExternalLoop, if_pos capped, if_pos more]
  constructor
  case orderly =>
    constructor
    case same =>
      intro messages member
      cases List.mem_cons.mp member with
      | inl last => exact last
      | inr before => exact kept.orderly.same messages before
    case once => simp
    case bounded => simp [first, gCWMaxRetransmit]
    case longer => simp [unwaited]
  case counted => exact fun _ => by simp [first, zero]
  case first => exact fun _ counted => by simp at counted
  case second => exact fun _ _ => ⟨by simp [zero], rfl, by simp [unwaited, timer]⟩

/-- A second one comes too soon. -/
theorem KeptExchange.first_of_longer (kept : KeptExchange request s) (going : s.outcome = none)
    (longer : (s.continueExternalLoop request).waits.Pairwise fun later earlier =>
      earlier ≤ later) : s.sent.length = 1 := by
  have counted := kept.counted going
  by_contra other
  obtain ⟨once, timer, waited⟩ := kept.second going (by omega)
  have long := timer_gt request.CW_DEBUGGING
  have more : s.gWTPRetransmissionCount + 1 < gCWMaxRetransmit := by
    rw [once]
    decide
  simp only [continueExternalLoop, if_pos more, waited, timer] at longer
  simp at longer
  omega

/-- Another transmission, or the end. -/
theorem continue_ne (request : AcknowledgedRequest σ) (s : Exchange σ) :
    ¬ ((s.continueExternalLoop request).outcome = none ∧
      (s.continueExternalLoop request).sent = s.sent) := by
  intro both
  by_cases more : s.gWTPRetransmissionCount + 1 < gCWMaxRetransmit
  · simp only [continueExternalLoop, if_pos more] at both
    simp at both
  · simp only [continueExternalLoop, if_neg more] at both
    simp [Exchange.finish] at both

theorem continue_outcome (request : AcknowledgedRequest σ) (going : s.outcome = none) :
    (s.continueExternalLoop request).outcome ≠ some (.returned true) := by
  by_cases more : s.gWTPRetransmissionCount + 1 < gCWMaxRetransmit
  · simp [continueExternalLoop, if_pos more, going]
  · simp [continueExternalLoop, if_neg more, Exchange.finish]

/-! ## Messages -/

theorem run_refusing {α : Type} (code : CWErrorCode) (text : Option String) (s : Parsing σ) :
    (refusing code text : ParserM σ α).run s = .error (.failed (.raised code text)) s := rfl

/-- The parser looks at the type and at the sequence number. -/
theorem isResponse_of_accepted {values : σ} {received : Received}
    (accepted : Accepted request values received) : IsResponse request received := by
  obtain ⟨message, values', rfl, parsed⟩ := accepted
  simp only [parseFunc, cwParseResponseMessage, EStateM.run_bind] at parsed
  cases ran : cwParseControlHeader.run ⟨message, 0, none⟩ with
  | error failure after =>
    rw [run_reading_error ran] at parsed
    cases failure <;> simp at parsed
  | ok controlVal after =>
    rw [run_reading_ok ran] at parsed
    refine ⟨message, controlVal, after, rfl, ran, ?_⟩
    by_cases other : controlVal.messageTypeValue.toNat ≠ request.handler.messageTypeValue
    · simp [other, run_refusing] at parsed
    · by_cases different : controlVal.seqNum ≠ request.seqNum
      · simp [other, different, run_refusing] at parsed
      · exact ⟨not_not.mp other, not_not.mp different⟩

/-- What is no response is an end of the exchange or a reason for another transmission. -/
theorem accepted_of_undisturbed {received : Received}
    (undisturbed : (s.receive request received).outcome = none ∧
      (s.receive request received).sent = s.sent) : Accepted request s.values received := by
  cases received with
  | malformed => simp [receive, Exchange.finish] at undisturbed
  | strayed => simp [receive] at undisturbed
  | message message =>
    simp only [receive] at undisturbed
    cases verdict : parseFunc request.handler request.seqNum s.values message with
    | strayed => simp [verdict] at undisturbed
    | accepted values => exact ⟨message, values, rfl, verdict⟩
    | refused code values =>
      simp only [verdict] at undisturbed
      split at undisturbed
      case isTrue => simp [Exchange.finish] at undisturbed
      case isFalse => exact absurd undisturbed (continue_ne request { s with values := values })

/-- The values are saved, and the exchange ends unless they are malformed. -/
theorem receive_accepted {received : Received}
    (accepted : Accepted request s.values received) :
    (∃ values value, s.receive request received = { s with values := values }.finish value) ∨
      ∃ values, s.receive request received = { s with values := values } := by
  obtain ⟨message, values, rfl, verdict⟩ := accepted
  simp only [receive, verdict]
  cases request.handler.saveFunc values with
  | none => exact .inl ⟨values, true, rfl⟩
  | some code =>
    by_cases other : code ≠ .invalidFormat
    · exact .inl ⟨values, false, if_pos other⟩
    · exact .inr ⟨values, if_neg other⟩

theorem KeptExchange.values (kept : KeptExchange request s) (values : σ) :
    KeptExchange request { s with values := values } where
  orderly := ⟨kept.orderly.same, kept.orderly.once, kept.orderly.bounded, kept.orderly.longer⟩
  counted := kept.counted
  first := kept.first
  second := kept.second

theorem KeptExchange.receive (kept : KeptExchange request s) {received : Received}
    (accepted : Accepted request s.values received) :
    KeptExchange request (s.receive request received) := by
  cases receive_accepted accepted with
  | inl ended =>
    obtain ⟨values, value, same⟩ := ended
    rw [same]
    exact (kept.values values).finish value
  | inr goes =>
    obtain ⟨values, same⟩ := goes
    rw [same]
    exact kept.values values

/-! ## Runs -/

theorem KeptExchange.step (kept : KeptExchange request s) {event : ExchangeEvent}
    (quiet : s.Quiet request event) (stepped : ExchangeStep request s event s') :
    KeptExchange request s' := by
  cases event with
  | send taken =>
    obtain ⟨_, next⟩ := Option.ite_none_right_eq_some.mp stepped
    cases next
    cases taken with
    | true =>
      exact ⟨⟨kept.orderly.same, kept.orderly.once, kept.orderly.bounded, kept.orderly.longer⟩,
        kept.counted, kept.first, kept.second⟩
    | false => exact kept.finish false
  | expire =>
    obtain ⟨waiting, next⟩ := Option.ite_none_right_eq_some.mp stepped
    cases next
    exact kept.retransmit waiting.1 (quiet waiting)
  | fails =>
    obtain ⟨_, next⟩ := Option.ite_none_right_eq_some.mp stepped
    cases next
    exact kept.finish false
  | receive fuel packets =>
    obtain ⟨waiting, next⟩ := Option.ite_none_right_eq_some.mp stepped
    obtain ⟨received, came, rfl⟩ := Option.map_eq_some_iff.mp next
    exact kept.receive (quiet waiting received came)

/-- Under the condition only a response ends the exchange. -/
theorem heeds_of_quiet {event : ExchangeEvent} (quiet : s.Quiet request event)
    (stepped : ExchangeStep request s event s') : s.Heeds request s' event := by
  cases event with
  | send taken =>
    obtain ⟨sending, next⟩ := Option.ite_none_right_eq_some.mp stepped
    cases next
    cases taken <;> simp [Heeds, sending.1, Exchange.finish]
  | expire =>
    obtain ⟨waiting, next⟩ := Option.ite_none_right_eq_some.mp stepped
    cases next
    exact continue_outcome request waiting.1
  | fails =>
    obtain ⟨_, next⟩ := Option.ite_none_right_eq_some.mp stepped
    cases next
    simp [Heeds, Exchange.finish]
  | receive fuel packets =>
    intro received came
    obtain ⟨waiting, _⟩ := Option.ite_none_right_eq_some.mp stepped
    have accepted := quiet waiting received came
    exact ⟨fun _ => isResponse_of_accepted accepted, fun refused => absurd accepted refused⟩

theorem KeptExchange.quiet (kept : KeptExchange request s) {event : ExchangeEvent}
    (stays : s.StaysOrderly request event) : s.Quiet request event := by
  cases event with
  | send taken => trivial
  | fails => trivial
  | expire =>
    intro waiting
    exact kept.first_of_longer waiting.1 (stays _ (if_pos waiting)).1.longer
  | receive fuel packets =>
    intro waiting received came
    have next : ExchangeStep request s (.receive fuel packets) (s.receive request received) := by
      simp [ExchangeStep, ExchangeEvent.exec, waiting, came]
    have heeds : s.Heeds request (s.receive request received) (.receive fuel packets) :=
      (stays _ next).2
    by_contra refused
    exact refused (accepted_of_undisturbed ((heeds received came).2 refused))

theorem KeptExchange.stays_iff (kept : KeptExchange request s) (event : ExchangeEvent) :
    s.StaysOrderly request event ↔ s.Quiet request event := by
  constructor
  · exact kept.quiet
  · intro quiet s' stepped
    exact ⟨(kept.step quiet stepped).orderly, heeds_of_quiet quiet stepped⟩

/-- An exchange is orderly all along exactly if nothing but the response is received, and the time
    to wait is over once at most. -/
theorem staysOrderly_iff (request : AcknowledgedRequest σ) (values : σ)
    (events : List ExchangeEvent) :
    AllSteps (ExchangeStep request) (StaysOrderly request) (begin request values) events ↔
      AllSteps (ExchangeStep request) (Quiet request) (begin request values) events := by
  have agree : ∀ (s : Exchange σ) event, KeptExchange request s →
      (s.StaysOrderly request event ↔ s.Quiet request event) :=
    fun s event kept => kept.stays_iff event
  have preserved : ∀ (s : Exchange σ) event s', KeptExchange request s →
      s.StaysOrderly request event → ExchangeStep request s event s' → KeptExchange request s' :=
    fun s event s' kept stays stepped => kept.step (kept.quiet stays) stepped
  exact AllSteps.congr_of_kept agree preserved (keptExchange_begin request values) events

/-- The request of DATA CHECK, of which the AC hears nothing for some time. -/
def unansweredRequest : AcknowledgedRequest Unit where
  CW_DEBUGGING := false
  seqNum := 1
  messages := [[0, 16, 0, 0, 0, 0, 0, 0]]
  handler := changeStateEventResponse

/-- The second wait is two seconds and the first was three. -/
theorem unanswered_not_orderly : ¬ ∀ (request : AcknowledgedRequest Unit) (values : Unit)
    (events : List ExchangeEvent),
    AllSteps (ExchangeStep request) (StaysOrderly request) (begin request values) events := by
  intro holds
  let events : List ExchangeEvent := [.send true, .expire, .send true]
  have all := holds unansweredRequest () (events ++ [.expire])
  have waited : (events.foldlM (fun s event => ExchangeEvent.exec unansweredRequest s event)
      (begin unansweredRequest ())).any (fun s => s.Waiting ∧
        (s.continueExternalLoop unansweredRequest).waits = [2, 3]) = true := by
    decide +kernel
  obtain ⟨s, returned, found⟩ := (Option.any_eq_true _ _).mp waited
  obtain ⟨waiting, waits⟩ := of_decide_eq_true found
  have stays : s.StaysOrderly unansweredRequest .expire := all.at_end (trace_of_foldlM returned)
  have longer := (stays _ (if_pos waiting)).1.longer
  rw [waits] at longer
  simp at longer

end Exchange

end WlanController.WTP
