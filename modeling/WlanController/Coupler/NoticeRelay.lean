import WlanController.Coupler.NoticeDocument
import WlanController.Foundation.Run

/-!
# What the relay tells the controller

The AC looks for its document in the directory above the one that it saves it in.  So every notice
goes into the ring of the same document, and the earlier ones are not in it; and a relay finds the
notices only where it runs in a directory inside the one of the AC.
-/

namespace WlanController.Coupler

/-! ## Rings -/

local instance neZero_blocks : NeZero 3 := ⟨Nat.succ_ne_zero 2⟩

def digit (position : Fin 3) : Text := [UInt8.ofNat (48 + position.val)]

/-- What a document with three blocks has in it. -/
structure Ring where
  head : Option Text
  empty : Option Text
  messages : Fin 3 → Option Text
  completes : Fin 3 → Option Text

namespace Ring

def leaves (messages completes : Fin 3 → Option Text) : List Leaf :=
  [⟨"Buffer_Position", some (digit 0)⟩, ⟨"CAPWAP_Msg_Param", messages 0⟩, ⟨"Complete", completes 0⟩,
    ⟨"Buffer_Position", some (digit 1)⟩, ⟨"CAPWAP_Msg_Param", messages 1⟩,
    ⟨"Complete", completes 1⟩, ⟨"Buffer_Position", some (digit 2)⟩,
    ⟨"CAPWAP_Msg_Param", messages 2⟩, ⟨"Complete", completes 2⟩]

def sections (ring : Ring) : List Section :=
  [⟨"Head", ring.head, []⟩, ⟨"Empty_Slots", ring.empty, []⟩,
    ⟨"Buffer", none, leaves ring.messages ring.completes⟩]

def document (ring : Ring) : Document := ⟨"init", ring.sections⟩

/-- The ring with a text in one more block, and that block as its head. -/
def noted (ring : Ring) (position : Fin 3) (buffer : Text) : Ring where
  head := some (digit position)
  empty := some (digit (2 - position))
  messages := Function.update ring.messages position (some buffer)
  completes := ring.completes

end Ring

/-- The position behind this one. -/
def following (position : Fin 3) : Fin 3 := position + 1

theorem digit_ne_nil (position : Fin 3) : digit position ≠ [] := List.cons_ne_nil _ _

theorem digit_short (position : Fin 3) : (digit position).length < headSize := by
  simp [digit, headSize]

/-- The writer once it is at a position. -/
def Writer.at (writer : Writer) (position : Fin 3) : Writer :=
  { writer with
    headCount := position
    headCountString := digit position
    emptyCountString := digit (2 - position) }

theorem advance_eq (writer : Writer) {position : Fin 3} (here : writer.headCount = position) :
    writer.advance = writer.at (following position) := by
  match position with
  | 0 => simp [Writer.advance, Writer.myCrudeItoa, here, maxHeadCount, following, digit, ascii,
      Writer.at]
  | 1 => simp [Writer.advance, Writer.myCrudeItoa, here, maxHeadCount, following, digit, ascii,
      Writer.at]
  | 2 => simp [Writer.advance, Writer.myCrudeItoa, here, maxHeadCount, following, digit, ascii,
      Writer.at]

/-- The message goes into the block at the head. -/
theorem parseBuffer_ring (writer : Writer) (position : Fin 3) (some : writer.buffer ≠ [])
    (messages completes : Fin 3 → Option Text) :
    (writer.at position).parseBuffer (Ring.leaves messages completes) =
      Option.some ({ writer.at position with updateBufferBlock := position = 2 },
        Ring.leaves (Function.update messages position writer.buffer) completes) := by
  match position with
  | 0 => simp [Writer.parseBuffer, Writer.visit, Ring.leaves, digit, contentOf, Writer.at, some]
  | 1 => simp [Writer.parseBuffer, Writer.visit, Ring.leaves, digit, contentOf, Writer.at, some]
  | 2 => simp [Writer.parseBuffer, Writer.visit, Ring.leaves, digit, contentOf, Writer.at, some]

/-- The variables of a writer that has gone on to a position with its text. -/
structure Writer.Past (writer writer' : Writer) (position : Fin 3) : Prop where
  head : writer'.headCount = position
  buffer : writer'.buffer = writer.buffer
  bmBssid : writer'.bmBssid = writer.bmBssid
  bmSourceAddr : writer'.bmSourceAddr = writer.bmSourceAddr

/-- The AC moves the head on and puts its text there. -/
theorem parseInit_ring (writer : Writer) {position : Fin 3} (here : writer.headCount = position)
    (some : writer.buffer ≠ []) (ring : Ring) :
    ∃ writer', writer.parseInit ring.sections =
        Option.some (writer', (ring.noted (following position) writer.buffer).sections) ∧
      writer.Past writer' (following position) := by
  have written := parseBuffer_ring writer (following position) some ring.messages ring.completes
  refine ⟨{ writer.at (following position) with
    updateBufferBlock := following position = 2 }, ?_, rfl, rfl, rfl, rfl⟩
  simp only [Writer.parseInit, Ring.sections, Writer.visitSection, if_true, String.reduceEq,
    if_false, advance_eq writer here, contentOf, Writer.at, digit_ne_nil,
    Option.bind_eq_bind, Option.bind_some]
  simp only [Writer.at] at written
  rw [written]
  rfl

/-! ## What is read -/

/-- The relay finds the message of the block at the head. -/
theorem foldlM_ring (reader : Reader) {position : Fin 3} (head : reader.head = digit position)
    (fresh : reader.updateBufferBlock = false) (messages completes : Fin 3 → Option Text) :
    (Ring.leaves messages completes).foldlM Reader.visit reader =
      if (printed (messages position)).length < bufferSize then
        some { reader with buffer := printed (messages position) }
      else none := by
  by_cases fits : (printed (messages position)).length < bufferSize
  · match position with
    | 0 => simp [Reader.visit, Ring.leaves, head, digit, fresh, fits]
    | 1 => simp [Reader.visit, Ring.leaves, head, digit, fresh, fits]
    | 2 => simp [Reader.visit, Ring.leaves, head, digit, fresh, fits]
  · match position with
    | 0 => simp [Reader.visit, Ring.leaves, head, digit, fits]
    | 1 => simp [Reader.visit, Ring.leaves, head, digit, fresh, fits]
    | 2 => simp [Reader.visit, Ring.leaves, head, digit, fresh, fits]

/-- Where the head is at none of the blocks nothing is read. -/
theorem foldlM_elsewhere (reader : Reader) (elsewhere : ∀ position, reader.head ≠ digit position)
    (fresh : reader.updateBufferBlock = false) (messages completes : Fin 3 → Option Text) :
    (Ring.leaves messages completes).foldlM Reader.visit reader = some reader := by
  have others : ∀ position, ¬ digit position = reader.head :=
    fun position same => elsewhere position same.symm
  simp [Ring.leaves, Reader.visit, others, fresh]

theorem reader_parseInit (reader : Reader) (ring : Ring) :
    reader.parseInit ring.sections =
      if (printed ring.head).length < headSize then
        (Ring.leaves ring.messages ring.completes).foldlM Reader.visit
          { reader with head := printed ring.head }
      else none := by
  by_cases short : (printed ring.head).length < headSize
  · simp [Reader.parseInit, Ring.sections, Reader.visitSection, short]
  · simp [Reader.parseInit, Ring.sections, Reader.visitSection, short]

/-- The text of the last notice comes out again. -/
theorem reader_parseInit_noted (reader : Reader) (fresh : reader.updateBufferBlock = false)
    (ring : Ring) (position : Fin 3) {buffer : Text} (short : buffer.length < bufferSize) :
    reader.parseInit (ring.noted position buffer).sections =
      some ⟨digit position, buffer, false⟩ := by
  have found : (ring.noted position buffer).messages position = some buffer :=
    Function.update_self _ _ _
  have small : (printed (some (digit position))).length < headSize := digit_short position
  have read := foldlM_ring ⟨digit position, reader.buffer, false⟩ rfl rfl
    (ring.noted position buffer).messages ring.completes
  rw [found, if_pos (show (printed (some buffer)).length < bufferSize from short)] at read
  rw [reader_parseInit, if_pos (show (printed (ring.noted position buffer).head).length < headSize
    from small), fresh]
  exact read

/-- Every block that the relay looks for is found within the ring. -/
theorem read_fresh {reader reader' : Reader} {ring : Ring}
    (fresh : reader.updateBufferBlock = false)
    (read : reader.parseInit ring.sections = some reader') : reader'.updateBufferBlock = false := by
  rw [reader_parseInit] at read
  obtain ⟨_, read⟩ := Option.ite_none_right_eq_some.mp read
  by_cases here : ∃ position, printed ring.head = digit position
  · obtain ⟨position, here⟩ := here
    have found := foldlM_ring { reader with head := printed ring.head } here fresh ring.messages
      ring.completes
    rw [found] at read
    obtain ⟨_, read⟩ := Option.ite_none_right_eq_some.mp read
    cases read
    exact fresh
  · have elsewhere : ∀ position, printed ring.head ≠ digit position := not_exists.mp here
    have passed := foldlM_elsewhere { reader with head := printed ring.head } elsewhere fresh
      ring.messages ring.completes
    rw [passed] at read
    cases read
    exact fresh

/-! ## Runs -/

/-- Where the AC and the relay run, and the rings that are there. -/
structure Deployment where
  acDirectory : List String
  inside : acDirectory ≠ []
  relayDirectory : List String
  rings : List String → Option Ring

/-- The AC and the relay, with the files and what has been sent to the controller. -/
structure Coupling where
  writer : Writer
  reader : Reader
  files : Files
  sent : List Text

/-- The AC notes a frame, or the relay is told of a change and sends what it finds. -/
inductive CouplingEvent where
  | noted (notice : Notice)
  | modified

/-- There is no result where an array is overrun. -/
def Coupling.act (d : Deployment) (s : Coupling) : CouplingEvent → Option Coupling
  | .noted notice =>
    (s.writer.bufferMain d.acDirectory notice s.files).map fun noted =>
      { s with writer := noted.1, files := noted.2 }
  | .modified =>
    (s.reader.bufferMain d.relayDirectory s.files).map fun reader =>
      { s with reader, sent := s.sent ++ [reader.buffer] }

def CouplingStep (d : Deployment) (s : Coupling) (event : CouplingEvent) (s' : Coupling) : Prop :=
  s.act d event = some s'

namespace Deployment

def files (d : Deployment) : Files := fun path => (d.rings path).map Ring.document

def start (d : Deployment) : Coupling := ⟨.initial, .initial, d.files, []⟩

/-- The files once a text has been noted at a position, where there is a document for it. -/
def filesWith (d : Deployment) (position : Fin 3) (buffer : Text) : Files :=
  match d.rings (docPath d.acDirectory) with
  | none => d.files
  | some ring =>
    if buffer = [] then d.files
    else Function.update d.files (savedPath d.acDirectory) (some (ring.noted position buffer).document)

theorem savedPath_ne_docPath (d : Deployment) :
    savedPath d.acDirectory ≠ docPath d.acDirectory := by
  intro same
  have length := congrArg List.length same
  have some := List.length_pos_iff.mpr d.inside
  simp only [savedPath, docPath, List.length_append, List.length_dropLast,
    List.length_singleton] at length
  omega

theorem filesWith_nil (d : Deployment) (position : Fin 3) : d.filesWith position [] = d.files := by
  unfold filesWith
  cases d.rings (docPath d.acDirectory) with
  | none => rfl
  | some ring => rfl

theorem filesWith_none (d : Deployment) (absent : d.rings (docPath d.acDirectory) = none)
    (position : Fin 3) (buffer : Text) : d.filesWith position buffer = d.files := by
  simp [filesWith, absent]

theorem filesWith_of_ne (d : Deployment) {path : List String} (other : path ≠ savedPath d.acDirectory)
    (position : Fin 3) (buffer : Text) : d.filesWith position buffer path = d.files path := by
  unfold filesWith
  cases d.rings (docPath d.acDirectory) with
  | none => rfl
  | some ring =>
    by_cases empty : buffer = []
    · simp [empty]
    · simp [empty, other]

theorem filesWith_saved (d : Deployment) {ring : Ring}
    (found : d.rings (docPath d.acDirectory) = some ring) (position : Fin 3) {buffer : Text}
    (text : buffer ≠ []) :
    d.filesWith position buffer (savedPath d.acDirectory) =
      some (ring.noted position buffer).document := by
  simp [filesWith, found, text]

/-- Every file is a ring. -/
theorem filesWith_ring (d : Deployment) (position : Fin 3) (buffer : Text) (path : List String) :
    d.filesWith position buffer path = none ∨
      ∃ ring : Ring, d.filesWith position buffer path = some ring.document := by
  have before : d.files path = none ∨ ∃ ring : Ring, d.files path = some ring.document := by
    unfold files
    cases d.rings path with
    | none => exact .inl rfl
    | some ring => exact .inr ⟨ring, rfl⟩
  by_cases other : path = savedPath d.acDirectory
  · cases found : d.rings (docPath d.acDirectory) with
    | none =>
      rw [d.filesWith_none found]
      exact before
    | some ring =>
      by_cases empty : buffer = []
      · rw [empty, d.filesWith_nil]
        exact before
      · rw [other]
        exact .inr ⟨_, d.filesWith_saved found position empty⟩
  · rw [d.filesWith_of_ne other]
    exact before

/-- A later text takes the place of the earlier one. -/
theorem filesWith_update (d : Deployment) {ring : Ring}
    (found : d.rings (docPath d.acDirectory) = some ring) (position position' : Fin 3)
    (buffer : Text) {buffer' : Text} (text : buffer' ≠ []) :
    Function.update (d.filesWith position buffer) (savedPath d.acDirectory)
      (some (ring.noted position' buffer').document) = d.filesWith position' buffer' := by
  by_cases empty : buffer = []
  · simp [filesWith, found, empty, text]
  · simp [filesWith, found, empty, text]

/-- What is known of the AC and the relay: only the last text is in the files. -/
structure Noted (d : Deployment) (s : Coupling) (position : Fin 3) : Prop where
  files : s.files = d.filesWith position s.writer.buffer
  head : s.writer.headCount = position
  short : s.writer.buffer.length < bufferSize
  fresh : s.reader.updateBufferBlock = false

theorem noted_start (d : Deployment) : d.Noted d.start 2 where
  files := (d.filesWith_nil 2).symm
  head := rfl
  short := Nat.succ_pos 99
  fresh := rfl

end Deployment

theorem print_cases {writer writer' : Writer} {text : Text}
    (printed : writer.print (text ++ [10]) = some writer') :
    writer'.buffer ≠ [] ∧ writer'.buffer.length < bufferSize ∧
      writer'.headCount = writer.headCount := by
  obtain ⟨fits, same⟩ := Option.ite_none_right_eq_some.mp printed
  cases same
  exact ⟨by simp, fits, rfl⟩

/-- What a notice leaves in `buffer`. -/
theorem notify_cases {writer writer' : Writer} {notice : Notice}
    (notified : writer.notify notice = some writer') :
    writer'.buffer ≠ [] ∧ writer'.buffer.length < bufferSize ∧
      writer'.headCount = writer.headCount := by
  cases notice with
  | association frame =>
    obtain ⟨bmBssid, _, notified⟩ := Option.bind_eq_some_iff.mp notified
    obtain ⟨bmSourceAddr, _, notified⟩ := Option.bind_eq_some_iff.mp notified
    exact @print_cases { writer with bmBssid, bmSourceAddr } _ _ notified
  | probe SSID plain frame =>
    obtain ⟨bmBssid, _, notified⟩ := Option.bind_eq_some_iff.mp notified
    obtain ⟨bmSourceAddr, _, notified⟩ := Option.bind_eq_some_iff.mp notified
    exact @print_cases { writer with bmBssid, bmSourceAddr } _ _ notified

namespace Deployment

variable {d : Deployment} {s s' : Coupling} {position : Fin 3}

/-- A notice takes the place of the one before. -/
theorem Noted.bufferMain (noted : d.Noted s position) {notice : Notice} {writer : Writer}
    (notified : s.writer.notify notice = some writer) :
    ∃ (writer' : Writer) (position' : Fin 3),
      s.writer.bufferMain d.acDirectory notice s.files =
        some (writer', d.filesWith position' writer.buffer) ∧
      writer.Past writer' position' := by
  obtain ⟨text, _, kept⟩ := notify_cases notified
  have looked : s.files (docPath d.acDirectory) =
      (d.rings (docPath d.acDirectory)).map Ring.document := by
    rw [noted.files]
    exact d.filesWith_of_ne d.savedPath_ne_docPath.symm _ _
  cases found : d.rings (docPath d.acDirectory) with
  | none =>
    have unchanged : d.filesWith position writer.buffer = s.files := by
      rw [noted.files, d.filesWith_none found, d.filesWith_none found]
    refine ⟨writer, position, ?_, kept.trans noted.head, rfl, rfl, rfl⟩
    rw [found] at looked
    simp [Writer.bufferMain, notified, looked, unchanged]
  | some ring =>
    obtain ⟨writer', parsed, past⟩ := parseInit_ring writer (kept.trans noted.head) text ring
    have updated := d.filesWith_update found position (following position) s.writer.buffer text
    refine ⟨writer', following position, ?_, past⟩
    rw [found] at looked
    rw [← updated, ← noted.files]
    simp [Writer.bufferMain, notified, looked, Ring.document, parsed]

theorem Noted.noted (noted : d.Noted s position) {notice : Notice}
    (step : CouplingStep d s (.noted notice) s') : ∃ position', d.Noted s' position' := by
  obtain ⟨result, main, same⟩ := Option.map_eq_some_iff.mp step
  cases same
  obtain ⟨writer, notified, _⟩ := Option.bind_eq_some_iff.mp main
  obtain ⟨_, short, _⟩ := notify_cases notified
  obtain ⟨writer', position', done, past⟩ := noted.bufferMain notified
  cases main.symm.trans done
  exact ⟨position', by rw [past.buffer], past.head, by rwa [past.buffer], noted.fresh⟩

/-- The relay only reads. -/
theorem Noted.modified (noted : d.Noted s position) (step : CouplingStep d s .modified s') :
    d.Noted s' position := by
  obtain ⟨reader, main, same⟩ := Option.map_eq_some_iff.mp step
  cases same
  refine ⟨noted.files, noted.head, noted.short, ?_⟩
  rw [Reader.bufferMain, noted.files] at main
  cases d.filesWith_ring position s.writer.buffer (docPath d.relayDirectory) with
  | inl absent =>
    rw [absent] at main
    cases main
    exact noted.fresh
  | inr present =>
    obtain ⟨ring, found⟩ := present
    rw [found] at main
    exact read_fresh noted.fresh main

theorem Noted.step (noted : d.Noted s position) {event : CouplingEvent}
    (step : CouplingStep d s event s') : ∃ position', d.Noted s' position' := by
  cases event with
  | noted notice => exact noted.noted step
  | modified => exact ⟨position, noted.modified step⟩

/-- What is saved at the end of a run. -/
def SavesLatest (d : Deployment) (s : Coupling) (_ : CouplingEvent) : Prop :=
  ∃ position : Fin 3, s.writer.headCount = position ∧
    s.files = d.filesWith position s.writer.buffer

/-- The text of the last notice is sent. -/
def Forwards (d : Deployment) (s : Coupling) (event : CouplingEvent) : Prop :=
  event = .modified → s.writer.buffer ≠ [] →
    ∃ s', CouplingStep d s .modified s' ∧ s'.sent = s.sent ++ [s.writer.buffer]

/-- The AC finds a document, and the relay runs right below the directory that the AC saves it in. -/
def Placed (d : Deployment) : Prop :=
  (d.rings (docPath d.acDirectory)).isSome ∧ d.relayDirectory.dropLast = d.acDirectory

theorem Noted.forwards (noted : d.Noted s position) (placed : d.Placed) (event : CouplingEvent) :
    d.Forwards s event := by
  intro _ text
  obtain ⟨ring, found⟩ := Option.isSome_iff_exists.mp placed.1
  have path : docPath d.relayDirectory = savedPath d.acDirectory := by
    rw [docPath, placed.2, savedPath]
  have saved := d.filesWith_saved found position text
  have read := reader_parseInit_noted s.reader noted.fresh ring position noted.short
  have main : s.reader.bufferMain d.relayDirectory s.files =
      some ⟨digit position, s.writer.buffer, false⟩ := by
    rw [Reader.bufferMain, noted.files, path, saved]
    exact read
  refine ⟨{ s with
    reader := ⟨digit position, s.writer.buffer, false⟩
    sent := s.sent ++ [s.writer.buffer] }, ?_, rfl⟩
  simp [CouplingStep, Coupling.act, main]

/-- Elsewhere the relay finds what was there before the first notice. -/
theorem Noted.elsewhere (noted : d.Noted s position) (elsewhere : ¬ d.Placed) :
    s.files (docPath d.relayDirectory) = d.files (docPath d.relayDirectory) := by
  rw [noted.files]
  cases found : d.rings (docPath d.acDirectory) with
  | none => rw [d.filesWith_none found]
  | some ring =>
    refine d.filesWith_of_ne ?_ _ _
    intro same
    have inside := List.append_cancel_right same
    exact elsewhere ⟨by simp [found], inside⟩

/-- Two probe requests may differ in their SSID only. -/
theorem notify_probe : ∃ (frame : NoticeFrame) (before : Text), ∀ byte plain, ∃ writer,
    Writer.initial.notify (.probe [byte] plain frame) = some writer ∧
      writer.buffer = before ++ [byte, 10] := by
  refine ⟨⟨⟨List.replicate ethALen 2, by simp⟩, ⟨List.replicate ethALen 2, by simp⟩, []⟩, ?_⟩
  refine ⟨ascii "Probe request received from UE:" ++ hexAddress (List.replicate ethALen 2) ++
    ascii " at AP:", fun byte plain => ?_⟩
  have some : byte ≠ 0 := by
    intro zero
    have least := (plain byte (List.mem_singleton_self byte)).1
    rw [zero] at least
    exact absurd least (by decide)
  have SSID : strcpy Writer.initial.bmBssid [byte] = Option.some (byte :: List.replicate 49 0) := by
    simp [strcpy, Writer.initial, some]
  have address : strcpy Writer.initial.bmSourceAddr
      (List.replicate ethALen 2 ++ (List.replicate ethALen 2 ++ [])) =
        Option.some (List.replicate 12 2 ++ List.replicate 38 0) := by decide
  have printed : hexAddress (List.replicate 12 2 ++ List.replicate 38 0) =
      hexAddress (List.replicate ethALen 2) := by decide
  simp only [Writer.notify, SSID, address, Option.bind_eq_bind, Option.bind_some, printed]
  have length : (hexAddress (List.replicate ethALen 2)).length = 17 := by decide
  simp [Writer.print, some, length, ascii, bufferSize]

end Deployment

end WlanController.Coupler
