import WlanController.Interface.ListReply
import WlanController.Operator.TargetSelection

/-!
# What an application sends

A thread of the AC reads the commands of one local application from its socket.  Every command has
its own format, and the lengths in it say how much is read next and where to.  A read stops at the
end of the stream and then leaves the rest of its target as it was, and no caller looks at how much
was read.
-/

namespace WlanController.Interface

open Operator (atoi)

/-! ## Memory -/

/-- A byte that was read, or one that was there before. -/
inductive Cell where
  | stream (b : UInt8)
  | old (b : UInt8)

def Cell.value : Cell → UInt8
  | .stream b => b
  | .old b => b

def values (cells : List Cell) : List UInt8 := cells.map Cell.value

/-- What the target holds after `Readn` has been called for all of it. -/
def fill (old stream : List UInt8) : List Cell :=
  (stream.take old.length).map Cell.stream ++ (old.drop stream.length).map Cell.old

/-- What memory holds that nothing has been written to: the flag before the table, and the fields of
the objects that `malloc` has returned. -/
structure Memory where
  isNotFree : Int → Bool
  wumType : UInt8
  radioID : Int
  wlanID : Int

/-! ## What the thread does -/

/-- The values that a session reads from its command. -/
inductive Parameters where
  | ofdm (ofdmValues : List Cell)
  | uci (command commandLength commandArgs : List Cell)
  | wum (type arguments : List Cell)
  | addWlan (radioID wlanID : Option Int) (ssid : Option (List UInt8))
  | delWlan (radioID wlanID : Option Int)

inductive Event where
  /-- A slot of `gWTPs` is read. -/
  | lookup (index : Int)
  /-- So many bytes are stored where there is room for so many. -/
  | fill (room stored : Nat)
  /-- A session gets a command. -/
  | hand (index : Int) (parameters : Parameters)

/-- What happens, and what is left of the stream unless the thread ends. -/
abbrev Outcome := List Event × Option (List UInt8)

def commandBufferSize : Nat := 5120

section

variable (table : SessionTable) (memory : Memory)

def isNotFree (index : Int) : Bool :=
  if 0 ≤ index then (table.gWTPs[index.toNat]?).elim false Session.isNotFree
  else memory.isNotFree index

/-- The two behaviours: one message for all the active WTPs, or one for a specific WTP. -/
def setValues (wtpIndex : Int) (parameters : Parameters) : List Event :=
  if wtpIndex = -1 then
    if 0 < table.gActiveWTPs then
      (List.range table.gWTPs.length).flatMap fun i : Nat =>
        .lookup i :: if isNotFree table memory i then [.hand i parameters] else []
    else []
  else
    [.hand wtpIndex parameters]

/-- The object for the values has 12 bytes. -/
def ofdm (wtpIndex : Int) (stream : List UInt8) : Outcome :=
  (.fill 12 (min 12 stream.length) ::
      setValues table memory wtpIndex (.ofdm (fill (List.replicate 12 0) stream)),
    some (stream.drop 12))

/-- The command and the length of its arguments are read over what the command buffer begins with,
and the arguments behind them. -/
def uci (commandBuffer : List UInt8) (wtpIndex : Int) (stream : List UInt8) : Outcome :=
  let cells := fill commandBuffer stream
  let commandLength := ntohl (values (cells.drop 1))
  if 0 < commandLength then
    (.fill commandBufferSize (min 5 stream.length) ::
      .fill (commandBufferSize - 5) (min commandLength.toNat (stream.drop 5).length) ::
      setValues table memory wtpIndex (.uci (cells.take 1) (cells.drop 1)
        (fill (List.replicate commandLength.toNat 0) (stream.drop 5))),
      some ((stream.drop 5).drop commandLength.toNat))
  else
    (.fill commandBufferSize (min 5 stream.length) ::
      setValues table memory wtpIndex (.uci (cells.take 1) (cells.drop 1) []),
      some (stream.drop 5))

/-- `WTP_UPDATE_REQUEST`: the version and the size of the package. -/
def wumUpdate (commandBuffer : List UInt8) (type : List Cell) (wtpIndex : Int)
    (stream : List UInt8) : Outcome :=
  (.fill commandBufferSize (min 7 stream.length) ::
      setValues table memory wtpIndex (.wum type (fill (commandBuffer ++ [0, 0]) stream)),
    some (stream.drop 7))

/-- `WTP_CUP_FRAGMENT`: the sequence number, the size and a fragment of the package. -/
def wumFragment (commandBuffer : List UInt8) (type : List Cell) (wtpIndex : Int)
    (stream : List UInt8) : Outcome :=
  let cells := fill (commandBuffer ++ [0, 0, 0]) stream
  let seqNum := ntohl (values (cells.take 4))
  let fragSize := ntohl (values (cells.drop 4))
  if seqNum < 0 ∨ fragSize ≤ 0 then
    ([.fill commandBufferSize (min 8 stream.length)], none)
  else
    (.fill commandBufferSize (min 8 stream.length) ::
      .fill fragSize.toNat (min fragSize.toNat (stream.drop 8).length) ::
      setValues table memory wtpIndex
        (.wum type (cells ++ fill (List.replicate fragSize.toNat 0) (stream.drop 8))),
      some ((stream.drop 8).drop fragSize.toNat))

def wum (commandBuffer : List UInt8) (wtpIndex : Int) (stream : List UInt8) : Outcome :=
  let type := fill [memory.wumType] stream
  let outcome : Outcome :=
    match (values type).headD 0 with
    | 3 => wumUpdate table memory commandBuffer type wtpIndex (stream.drop 1)
    | 5 => wumFragment table memory commandBuffer type wtpIndex (stream.drop 1)
    | _ => (setValues table memory wtpIndex (.wum type []), some (stream.drop 1))
  (.fill 1 (min 1 stream.length) :: outcome.1, outcome.2)

/-- The tokens that `strtok` finds between colons in the string. -/
def tokens (payload : List UInt8) : List (List UInt8) :=
  ((cString payload).splitOn 58).filter fun token => token ≠ []

def atoiBytes (token : List UInt8) : Int := atoi (token.map fun b => Char.ofNat b.toNat)

/-- A number in the order of the machine, which is little-endian. -/
def machineOrder (bytes : List UInt8) : Int := ntohl bytes.reverse

/-- The type of the request, the length of the text and the text.  A negative length is a huge
`size_t` for `Readn`, and for `calloc` once one has been added. -/
def wlanText (stream : List UInt8) : List Event × Option (List (List UInt8) × List UInt8) :=
  let msgLen := machineOrder (values (fill [0, 0, 0, 0] (stream.drop 1)))
  let text := stream.drop 5
  let header := [.fill 1 (min 1 stream.length), .fill 4 (min 4 (stream.drop 1).length)]
  if msgLen + 1 < 0 then (header, none)
  else if msgLen < 0 then (header ++ [.fill 0 text.length], some ([], []))
  else
    (header ++ [.fill (msgLen.toNat + 1) (min msgLen.toNat text.length)],
      some (tokens (text.take msgLen.toNat), text.drop msgLen.toNat))

/-- The ids count from one in the text. -/
def deviceID (token : List UInt8) : Int :=
  if 0 < atoiBytes token then atoiBytes token - 1 else atoiBytes token

def addWlan (wtpIndex : Int) (stream : List UInt8) : Outcome :=
  match wlanText stream with
  | (events, none) => (events, none)
  | (events, some (found, left)) =>
    let radioID := found[0]?.map deviceID
    let wlanID := found[1]?.map deviceID
    if radioID.getD memory.radioID < 0 ∨ wlanID.getD memory.wlanID < 0 then (events, some left)
    else (events ++ setValues table memory wtpIndex (.addWlan radioID wlanID found[2]?), some left)

def delWlan (wtpIndex : Int) (stream : List UInt8) : Outcome :=
  match wlanText stream with
  | (events, none) => (events, none)
  | (events, some (found, left)) =>
    (events ++ setValues table memory wtpIndex
      (.delWlan (found[0]?.map atoiBytes) (found[1]?.map atoiBytes)), some left)

def manageElement (commandBuffer : List UInt8) (wtpIndex : Int) (stream : List UInt8) : Outcome :=
  match commandBuffer.headD 0 with
  | 1 => ofdm table memory wtpIndex stream
  | 2 => uci table memory commandBuffer wtpIndex stream
  | 3 => wum table memory commandBuffer wtpIndex stream
  | 4 => addWlan table memory wtpIndex stream
  | 5 => delWlan table memory wtpIndex stream
  | _ => ([], some stream)

/-- `CONF_UPDATE_MSG`: the element and the index, with `is_valid_wtp_index`. -/
def confUpdate (stream : List UInt8) : Outcome :=
  let commandBuffer := values (fill (List.replicate 5 0) stream)
  let wtpIndex := ntohl (commandBuffer.drop 1)
  if wtpIndex < table.gWTPs.length then
    if isNotFree table memory wtpIndex then
      let outcome := manageElement table memory commandBuffer wtpIndex (stream.drop 5)
      (.fill commandBufferSize (min 5 stream.length) :: .lookup wtpIndex :: outcome.1, outcome.2)
    else
      ([.fill commandBufferSize (min 5 stream.length), .lookup wtpIndex], none)
  else
    ([.fill commandBufferSize (min 5 stream.length)], none)

def scan : List Event := (List.range table.gWTPs.length).map fun i : Nat => .lookup i

/-- `LIST_MSG`: the table is gone through to count and to list. -/
def list : List Event :=
  if 0 < table.gActiveWTPs then
    scan table ++ if 0 < withoutUnnamed table.gWTPs table.gActiveWTPs then scan table else []
  else []

/-- One round of the main loop, with the byte that it has read. -/
def manageCommand (cmdMsg : UInt8) (stream : List UInt8) : Outcome :=
  match cmdMsg with
  | 0 => ([], none)
  | 1 => (list table, some stream)
  | 2 => confUpdate table memory stream
  | _ => ([], some stream)

/-! ## The main loop

A command takes nothing back from what it has read, so the stream gets shorter with every round. -/

variable {table memory} {stream left : List UInt8} {wtpIndex : Int}

theorem drop_of_some {n : Nat} (rest : some (stream.drop n) = some left) :
    left.length ≤ stream.length := by
  cases rest
  rw [List.length_drop]
  exact Nat.sub_le _ _

theorem uci_left {commandBuffer : List UInt8}
    (rest : (uci table memory commandBuffer wtpIndex stream).2 = some left) :
    left.length ≤ stream.length := by
  simp only [uci] at rest
  generalize ntohl _ = commandLength at rest
  split at rest
  · rw [List.drop_drop] at rest
    exact drop_of_some rest
  · exact drop_of_some rest

theorem wumFragment_left {commandBuffer : List UInt8} {type : List Cell}
    (rest : (wumFragment table memory commandBuffer type wtpIndex stream).2 = some left) :
    left.length ≤ stream.length := by
  simp only [wumFragment] at rest
  generalize ntohl (values (List.take 4 _)) = seqNum at rest
  generalize ntohl _ = fragSize at rest
  split at rest
  · cases rest
  · rw [List.drop_drop] at rest
    exact drop_of_some rest

theorem wum_left {commandBuffer : List UInt8}
    (rest : (wum table memory commandBuffer wtpIndex stream).2 = some left) :
    left.length ≤ stream.length := by
  have shorter : (stream.drop 1).length ≤ stream.length := drop_of_some rfl
  simp only [wum] at rest
  split at rest
  · exact (drop_of_some rest).trans shorter
  · exact (wumFragment_left rest).trans shorter
  · exact drop_of_some rest

theorem wlanText_left {found : List (List UInt8)}
    (rest : (wlanText stream).2 = some (found, left)) : left.length ≤ stream.length := by
  simp only [wlanText] at rest
  generalize machineOrder _ = msgLen at rest
  split at rest
  · cases rest
  · split at rest
    · cases rest
      exact Nat.zero_le _
    · cases rest
      rw [List.drop_drop]
      exact drop_of_some rfl

theorem addWlan_left (rest : (addWlan table memory wtpIndex stream).2 = some left) :
    left.length ≤ stream.length := by
  simp only [addWlan] at rest
  split at rest
  · cases rest
  · rename_i events found left' text
    have read : (wlanText stream).2 = some (found, left') := by rw [text]
    have shorter := wlanText_left read
    split at rest
    · cases rest
      exact shorter
    · cases rest
      exact shorter

theorem delWlan_left (rest : (delWlan table memory wtpIndex stream).2 = some left) :
    left.length ≤ stream.length := by
  simp only [delWlan] at rest
  split at rest
  · cases rest
  · rename_i events found left' text
    have read : (wlanText stream).2 = some (found, left') := by rw [text]
    have shorter := wlanText_left read
    cases rest
    exact shorter

theorem manageElement_left {commandBuffer : List UInt8}
    (rest : (manageElement table memory commandBuffer wtpIndex stream).2 = some left) :
    left.length ≤ stream.length := by
  simp only [manageElement] at rest
  split at rest
  · exact drop_of_some rest
  · exact uci_left rest
  · exact wum_left rest
  · exact addWlan_left rest
  · exact delWlan_left rest
  · cases rest
    exact le_rfl

theorem manageCommand_left {cmdMsg : UInt8}
    (rest : (manageCommand table memory cmdMsg stream).2 = some left) :
    left.length ≤ stream.length := by
  simp only [manageCommand] at rest
  split at rest
  · cases rest
  · cases rest
    exact le_rfl
  · simp only [confUpdate] at rest
    generalize ntohl _ = wtpIndex at rest
    split at rest
    · split at rest
      · exact (manageElement_left rest).trans (drop_of_some rfl)
      · cases rest
    · cases rest
  · cases rest
    exact le_rfl

end

/-- What happens from command `k` on, each event with the table at its command.  The table and the
memory may be others at every command. -/
def manageApplication (tables : Nat → SessionTable) (memories : Nat → Memory) (k : Nat) :
    (stream : List UInt8) → List (SessionTable × Event)
  | [] => []
  | cmdMsg :: stream =>
    let outcome := manageCommand (tables k) (memories k) cmdMsg stream
    let events := (.fill 1 1 :: outcome.1).map fun event => (tables k, event)
    match _rest : outcome.2 with
    | none => events
    | some left => events ++ manageApplication tables memories (k + 1) left
termination_by stream => stream.length
decreasing_by
  have shorter := manageCommand_left _rest
  rw [List.length_cons]
  omega

/-! ## What is safe -/

def Cell.FromStream : Cell → Prop
  | .stream _ => True
  | .old _ => False

def Parameters.Assigned : Parameters → Prop
  | .ofdm ofdmValues => ∀ cell ∈ ofdmValues, cell.FromStream
  | .uci command commandLength commandArgs =>
    ∀ cell ∈ command ++ commandLength ++ commandArgs, cell.FromStream
  | .wum type arguments => ∀ cell ∈ type ++ arguments, cell.FromStream
  | .addWlan radioID wlanID ssid => radioID.isSome ∧ wlanID.isSome ∧ ssid.isSome
  | .delWlan radioID wlanID => radioID.isSome ∧ wlanID.isSome

/-- There is a session in the slot. -/
def Live (table : SessionTable) (index : Int) : Prop :=
  0 ≤ index ∧ ∃ session, table.gWTPs[index.toNat]? = some session ∧ session.isNotFree

def Event.Safe (table : SessionTable) : Event → Prop
  | .lookup index => 0 ≤ index ∧ index < table.gWTPs.length
  | .fill room stored => stored ≤ room
  | .hand index parameters => Live table index ∧ parameters.Assigned

/-- Whatever memory holds that has not been written to, nothing goes wrong from command `k` on. -/
def StreamSafe (tables : Nat → SessionTable) (k : Nat) (stream : List UInt8) : Prop :=
  ∀ memories, ∀ happened ∈ manageApplication tables memories k stream,
    happened.2.Safe happened.1

end WlanController.Interface
