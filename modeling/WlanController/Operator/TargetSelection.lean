import Mathlib.Algebra.Order.Ring.Int
import Mathlib.Data.List.TakeWhile

/-!
# The targets of an operator command

The operator's tool asks the AC for the list of its WTPs and runs one command on those that the
operator names, by a comma-separated string of ids or of names.
-/

namespace WlanController.Operator

structure WTPInfo where
  wtpId : Int
  name : List Char
deriving Repr, DecidableEq

/-! ## Library functions -/

/-- The characters that `isspace` accepts. -/
def isSpace (c : Char) : Bool := c = ' ' || (9 ≤ c.toNat && c.toNat ≤ 13)

def digits (text : List Char) : Nat :=
  (text.takeWhile Char.isDigit).foldl (fun value c => 10 * value + (c.toNat - '0'.toNat)) 0

/-- `strtol` saturates at the bounds of `long`. -/
def strtol (text : List Char) : Int :=
  match text.dropWhile isSpace with
  | '-' :: text' => max (-2 ^ 63) (-(digits text' : Int))
  | '+' :: text' => min (2 ^ 63 - 1) (digits text')
  | text' => min (2 ^ 63 - 1) (digits text')

/-- The `long` is cut to an `int`. -/
def atoi (text : List Char) : Int := (strtol text).bmod (2 ^ 32)

/-- The next token and what `strtok` keeps for the next call. -/
def strtok (text : List Char) : Option (List Char × List Char) :=
  match text.dropWhile (· = ',') with
  | [] => none
  | text' => some (text'.takeWhile (· ≠ ','), (text'.dropWhile (· ≠ ',')).tail)

/-! ## The list of WTPs -/

section

variable (wtpList : List WTPInfo)

def wtpId2name (id : Int) : Option (List Char) :=
  (wtpList.find? fun wtp => wtp.wtpId = id).map WTPInfo.name

def wtpName2id (name : List Char) : Int :=
  ((wtpList.find? fun wtp => wtp.name = name).map WTPInfo.wtpId).getD (-1)

def allWTPs : List Int := wtpList.map WTPInfo.wtpId

/-! ## The working list -/

/-- `for (j = i; j < new_size - 1; j++) work_list[j] = work_list[j+1]` -/
def shiftDown (work : List Int) (j newSize : Nat) : List Int :=
  if j + 1 < newSize then shiftDown (work.set j (work.getD (j + 1) 0)) (j + 1) newSize else work
termination_by newSize - j

/-- The index stays where it is when an entry has been deleted. -/
def deleteUnknown (work : List Int) (i newSize : Nat) : List Int × Nat :=
  if i < newSize then
    if wtpId2name wtpList (work.getD i 0) = none then
      deleteUnknown (shiftDown work i newSize) i (newSize - 1)
    else
      deleteUnknown work (i + 1) newSize
  else
    (work, newSize)
termination_by newSize - i

def deleteEqual (work : List Int) (i j newSize : Nat) : List Int × Nat :=
  if j < newSize then
    if work.getD i 0 = work.getD j 0 then
      deleteEqual (shiftDown work j newSize) i j (newSize - 1)
    else
      deleteEqual work i (j + 1) newSize
  else
    (work, newSize)
termination_by newSize - j

theorem deleteEqual_size_le (work : List Int) (i j newSize : Nat) :
    (deleteEqual work i j newSize).2 ≤ newSize := by
  induction work, j, newSize using deleteEqual.induct i with
  | case1 work j newSize inside same ih =>
    rw [deleteEqual, if_pos inside, if_pos same]
    exact ih.trans (Nat.sub_le _ _)
  | case2 work j newSize inside other ih =>
    rw [deleteEqual, if_pos inside, if_neg other]
    exact ih
  | case3 work j newSize outside => rw [deleteEqual, if_neg outside]

def deleteDuplicates (work : List Int) (i newSize : Nat) : List Int × Nat :=
  if i < newSize then
    deleteDuplicates (deleteEqual work i (i + 1) newSize).1 (i + 1)
      (deleteEqual work i (i + 1) newSize).2
  else
    (work, newSize)
termination_by newSize - i
decreasing_by
  have smaller := deleteEqual_size_le work i (i + 1) newSize
  omega

def sanitizeWtpList (work : List Int) (n : Nat) : List Int × Nat :=
  let (work', newSize) := deleteUnknown wtpList work 0 n
  deleteDuplicates work' 0 newSize

/-! ## From the operator's string to the working list -/

/-- A comma counts when a character other than a comma follows it. -/
def countCommas : List Char → Nat
  | [] => 0
  | c :: text =>
    if c = ',' ∧ text.head? ≠ some ',' ∧ text ≠ [] then countCommas text + 1 else countCommas text

def countTokens (str1 str2 : Option (List Char)) : Nat :=
  match str1, str2 with
  | some text, _ => countCommas text + 1
  | none, some text => countCommas text + 1
  | none, none => 0

/-- Converting a missing token goes through a null pointer: there is no result. -/
def readTokens (convert : List Char → Int) : Nat → List Char → Option (List Int)
  | 0, _ => some []
  | rounds + 1, text =>
    match strtok text with
    | none => none
    | some (token, text') => (readTokens convert rounds text').map (convert token :: ·)

/-- What `get_id_list` comes to. -/
inductive Selection where
  | fault
  | null
  | list (ret : List Int) (n : Nat)
deriving Repr, DecidableEq

def sanitized (n : Nat) : Option (List Int) → Selection
  | none => .fault
  | some ret => .list (sanitizeWtpList wtpList ret n).1 (sanitizeWtpList wtpList ret n).2

def all : List Char := ['a', 'l', 'l']

/-- In the form for all WTPs, `n` remains the number of tokens. -/
def getIdList (wtpIds wtpNames : Option (List Char)) : Selection :=
  let n := countTokens wtpIds wtpNames
  match wtpIds, wtpNames with
  | some text, _ =>
    match strtok text with
    | none => .fault
    | some (token, text') =>
      if atoi token = -1 then .list (allWTPs wtpList) n
      else sanitized wtpList n ((readTokens atoi (n - 1) text').map (atoi token :: ·))
  | none, some text =>
    match strtok text with
    | none => .fault
    | some (token, text') =>
      if token = all then .list (allWTPs wtpList) n
      else sanitized wtpList n
        ((readTokens (wtpName2id wtpList) (n - 1) text').map (wtpName2id wtpList token :: ·))
  | none, none => .null

/-! ## The commands

What a command does is kept as the list of the WTPs it calls the AC for.  It has no result when it
reads an entry that is not there. -/

/-- Round `i` reads its entry of the working list. -/
def overList (address : Nat → Int → Option Int) : Selection → Option (List Int)
  | .fault => none
  | .null => some []
  | .list ret n => (List.range n).mapM fun i => (ret[i]?).bind (address i)

/-- The row for a version is printed from the entry with the id as its index. -/
def printVersionInfo (id : Int) : Option Int :=
  if 0 ≤ id ∧ id < wtpList.length then some id else none

def doVersionCmd (wtpIds wtpNames : Option (List Char)) : Option (List Int) :=
  overList (fun _ id => printVersionInfo wtpList id) (getIdList wtpList wtpIds wtpNames)

/-- An update is sent to the index, and the row is printed from the entry at the index.  The working
list is not read. -/
def doUpdateCmd (wtpIds wtpNames : Option (List Char)) : Option (List Int) :=
  match getIdList wtpList wtpIds wtpNames with
  | .fault => none
  | .null => some []
  | .list _ n => (List.range n).mapM fun i : Nat => (wtpList[i]?).map fun _ => (i : Int)

def doCancelCmd (wtpIds wtpNames : Option (List Char)) : Option (List Int) :=
  overList (fun _ id => some id) (getIdList wtpList wtpIds wtpNames)

def doWlanAddCmd (wtpIds wtpNames : Option (List Char)) : Option (List Int) :=
  match getIdList wtpList wtpIds wtpNames with
  | .list _ 0 => some []
  | selection => overList (fun _ id => some id) selection

def doWlanDelCmd (wtpIds wtpNames : Option (List Char)) : Option (List Int) :=
  overList (fun _ id => some id) (getIdList wtpList wtpIds wtpNames)

end

end WlanController.Operator
