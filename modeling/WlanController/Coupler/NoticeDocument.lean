import Mathlib.Data.UInt
import Mathlib.Logic.Function.Basic
import WlanController.Common.EthAddr

/-!
# Notices in a document

The AC notes the probe requests and associations it sees in an XML document, where a relay finds
them.  The document has a ring of three blocks and the position of the one that was written last.
Both sides go through the nodes of the document in order; what they do not look at (the text between
elements, comments, the nodes below others) is left out here.
-/

namespace WlanController.Coupler

/-- Bytes without a terminating zero. -/
abbrev Text := List UInt8

def ascii (text : String) : Text := text.toList.map fun c => UInt8.ofNat c.toNat

/-! ## Documents -/

/-- An element with its text, as `xmlNodeListGetString` gives it: `none` where there is none. -/
structure Leaf where
  name : String
  content : Option Text
  deriving DecidableEq, Repr

structure Section where
  name : String
  content : Option Text
  children : List Leaf
  deriving DecidableEq, Repr

structure Document where
  name : String
  sections : List Section
  deriving DecidableEq, Repr

/-- `xmlNodeSetContent` for a text without entities: no node is made for an empty one. -/
def contentOf (text : Text) : Option Text := if text = [] then none else some text

/-- What `printf` makes of a text that may be `NULL`. -/
def printed (content : Option Text) : Text := content.getD (ascii "(null)")

/-! ## The notices of the AC -/

/-- The addresses in a frame, and what is in memory behind them up to a zero. -/
structure NoticeFrame where
  SA : EthAddr
  BSSID : EthAddr
  behind : List UInt8

/-- The SSID of a probe request is printable and without entities. -/
inductive Notice where
  | association (frame : NoticeFrame)
  | probe (SSID : Text) (plain : ∀ byte ∈ SSID, 32 ≤ byte ∧ byte < 127 ∧ byte ≠ 38)
    (frame : NoticeFrame)

/-- What `strcpy` makes of an array, and `none` where the string does not fit. -/
def strcpy (array source : List UInt8) : Option (List UInt8) :=
  let string := source.takeWhile (· ≠ 0)
  if string.length < array.length then some (string ++ 0 :: array.drop (string.length + 1))
  else none

def hexDigit (value : Nat) : UInt8 := UInt8.ofNat (if value < 10 then 48 + value else 87 + value)

/-- `%02x` -/
def hex (byte : UInt8) : Text := [hexDigit (byte.toNat / 16), hexDigit (byte.toNat % 16)]

/-- `%02x:%02x:%02x:%02x:%02x:%02x` -/
def hexAddress (array : List UInt8) : Text := [58].intercalate ((array.take ethALen).map hex)

/-- The variables of the AC.  `bmBssid` and `bmSourceAddr` have fifty bytes. -/
structure Writer where
  bmBssid : List UInt8
  bmSourceAddr : List UInt8
  buffer : Text
  headCount : Nat
  headCountString : Text
  emptyCountString : Text
  updateBufferBlock : Bool

def Writer.initial : Writer where
  bmBssid := List.replicate 50 0
  bmSourceAddr := List.replicate 50 0
  buffer := []
  headCount := 2
  headCountString := []
  emptyCountString := []
  updateBufferBlock := false

def maxHeadCount : Nat := 2

def bufferSize : Nat := 100

namespace Writer

/-- `sprintf` into `buffer`, and `none` where the text does not fit. -/
def print (writer : Writer) (text : Text) : Option Writer :=
  if text.length < bufferSize then some { writer with buffer := text } else none

/-- The text of a notice.  Addresses are copied as if they were strings. -/
def notify (writer : Writer) : Notice → Option Writer
  | .association frame => do
    let bmBssid ← strcpy writer.bmBssid (frame.BSSID.bytes ++ frame.behind)
    let bmSourceAddr ← strcpy writer.bmSourceAddr
      (frame.SA.bytes ++ (frame.BSSID.bytes ++ frame.behind))
    let writer := { writer with bmBssid, bmSourceAddr }
    writer.print (ascii "Association received from UE:" ++ hexAddress bmSourceAddr ++
      ascii " at AP:" ++ hexAddress bmBssid ++ [10])
  | .probe SSID _ frame => do
    let bmBssid ← strcpy writer.bmBssid SSID
    let bmSourceAddr ← strcpy writer.bmSourceAddr
      (frame.SA.bytes ++ (frame.BSSID.bytes ++ frame.behind))
    let writer := { writer with bmBssid, bmSourceAddr }
    writer.print (ascii "Probe request received from UE:" ++ hexAddress bmSourceAddr ++
      ascii " at AP:" ++ bmBssid.takeWhile (· ≠ 0) ++ [10])

def myCrudeItoa (writer : Writer) : Writer :=
  if writer.headCount = 0 then
    { writer with headCountString := ascii "0", emptyCountString := ascii "2" }
  else if writer.headCount = 1 then
    { writer with headCountString := ascii "1", emptyCountString := ascii "1" }
  else if writer.headCount = 2 then
    { writer with headCountString := ascii "2", emptyCountString := ascii "0" }
  else writer

/-- A node of the buffer.  There is no result where `strcmp` gets `NULL`. -/
def visit (writer : Writer) (leaf : Leaf) : Option (Writer × Leaf) :=
  if leaf.name = "Buffer_Position" then
    leaf.content.map fun key =>
      ({ writer with updateBufferBlock := key = writer.headCountString }, leaf)
  else if leaf.name = "CAPWAP_Msg_Param" then
    if writer.updateBufferBlock then
      some (writer, { leaf with content := contentOf writer.buffer })
    else some (writer, leaf)
  else some (writer, leaf)

def parseBuffer (writer : Writer) : List Leaf → Option (Writer × List Leaf)
  | [] => some (writer, [])
  | leaf :: leaves => do
    let visited ← writer.visit leaf
    let rest ← parseBuffer visited.1 leaves
    return (rest.1, visited.2 :: rest.2)

def advance (writer : Writer) : Writer :=
  { writer with
    headCount := if writer.headCount < maxHeadCount then writer.headCount + 1 else 0 }.myCrudeItoa

def visitSection (writer : Writer) (part : Section) : Option (Writer × Section) :=
  if part.name = "Head" then
    let writer := writer.advance
    some (writer, ⟨part.name, contentOf writer.headCountString, []⟩)
  else if part.name = "Empty_Slots" then
    some (writer, ⟨part.name, contentOf writer.emptyCountString, []⟩)
  else if part.name = "Buffer" then
    (writer.parseBuffer part.children).map fun visited =>
      (visited.1, { part with children := visited.2 })
  else some (writer, part)

def parseInit (writer : Writer) : List Section → Option (Writer × List Section)
  | [] => some (writer, [])
  | part :: parts => do
    let visited ← writer.visitSection part
    let rest ← parseInit visited.1 parts
    return (rest.1, visited.2 :: rest.2)

end Writer

/-! ## The relay -/

/-- The variables of the relay. -/
structure Reader where
  head : Text
  buffer : Text
  updateBufferBlock : Bool

def Reader.initial : Reader := ⟨[], [], false⟩

def headSize : Nat := 10

namespace Reader

def visit (reader : Reader) (leaf : Leaf) : Option Reader :=
  if leaf.name = "Buffer_Position" then
    leaf.content.map fun key =>
      if key = reader.head then { reader with updateBufferBlock := true } else reader
  else if leaf.name = "CAPWAP_Msg_Param" then
    if reader.updateBufferBlock then
      if (printed leaf.content).length < bufferSize then
        some { reader with buffer := printed leaf.content, updateBufferBlock := false }
      else none
    else some reader
  else some reader

def visitSection (reader : Reader) (part : Section) : Option Reader :=
  if part.name = "Head" then
    if (printed part.content).length < headSize then
      some { reader with head := printed part.content }
    else none
  else if part.name = "Buffer" then part.children.foldlM visit reader
  else some reader

def parseInit (reader : Reader) (parts : List Section) : Option Reader :=
  parts.foldlM visitSection reader

end Reader

/-! ## Files -/

abbrev Files := List String → Option Document

def docName : String := "buffer.xml"

/-- The file that both sides look into: `../buffer.xml` -/
def docPath (directory : List String) : List String := directory.dropLast ++ [docName]

/-- The file that the AC saves: `buffer.xml` -/
def savedPath (directory : List String) : List String := directory ++ [docName]

/-- `buffer_main` of the AC. -/
def Writer.bufferMain (directory : List String) (notice : Notice) (writer : Writer)
    (files : Files) : Option (Writer × Files) := do
  let writer ← writer.notify notice
  match files (docPath directory) with
  | none => return (writer, files)
  | some doc =>
    if doc.name ≠ "init" then return (writer, files)
    let parsed ← writer.parseInit doc.sections
    return (parsed.1, Function.update files (savedPath directory) (some ⟨doc.name, parsed.2⟩))

/-- `buffer_main` of the relay. -/
def Reader.bufferMain (directory : List String) (reader : Reader) (files : Files) :
    Option Reader :=
  match files (docPath directory) with
  | none => some reader
  | some doc => if doc.name ≠ "init" then some reader else reader.parseInit doc.sections

end WlanController.Coupler
