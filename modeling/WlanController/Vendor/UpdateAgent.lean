import WlanController.Foundation.FileTree
import WlanController.Interface.ListReply

/-!
# The update agent

When the WTP has ended, the update agent unpacks the package, saves the directory of the WTP, lets
the package change it and starts the WTP again.  Where the second half fails the directory is
emptied and filled from what was saved.  Every command may fail and may then have done any part of
its work.

The directory is taken to have a name that the shell leaves alone.  That the agent waits for the
WTP is left out, and so is what it logs.
-/

namespace WlanController.Vendor

open FileTree
open Interface (cString)

/-! ## The descriptor -/

structure CWUpdateDescriptor where
  version : List UInt8
  preScript : List UInt8
  postScript : List UInt8
  deriving DecidableEq

def CWUpdateDescriptor.initial : CWUpdateDescriptor := ⟨[], [], []⟩

/-- `BUF_SIZE` -/
def wuaBufSize : Nat := 1024

def characters (text : String) : List UInt8 := text.toList.map fun c => UInt8.ofNat c.toNat

/-- `CUP_UNPACK_DIR` -/
def cupUnpackDir : List UInt8 := characters "/tmp/cup.unpack"

/-- `BACKUP_DIR` -/
def backupDir : List UInt8 := characters "/tmp/cup.backup"

/-- What `fgets` of the C library reads where there is room for as many bytes, and what it leaves. -/
def lineOf : Nat → List UInt8 → List UInt8 × List UInt8
  | 0, file => ([], file)
  | _ + 1, [] => ([], [])
  | room + 1, byte :: file =>
    if byte = 10 then ([byte], file)
    else (byte :: (lineOf room file).1, (lineOf room file).2)

/-- The lines of a file, as so many calls return them; the loop ends with the file. -/
def linesFrom : Nat → List UInt8 → List (List UInt8)
  | 0, _ => []
  | _ + 1, [] => []
  | rounds + 1, byte :: file =>
    (lineOf (wuaBufSize - 1) (byte :: file)).1 ::
      linesFrom rounds (lineOf (wuaBufSize - 1) (byte :: file)).2

/-- No call returns nothing, so there are no more calls than bytes. -/
def linesOf (file : List UInt8) : List (List UInt8) := linesFrom file.length file

theorem lineOf_append (room : Nat) (file : List UInt8) :
    (lineOf room file).1 ++ (lineOf room file).2 = file := by
  induction room generalizing file with
  | zero => rfl
  | succ room inductionHypothesis =>
    cases file with
    | nil => rfl
    | cons byte file =>
      by_cases ends : byte = 10
      case pos => simp [lineOf, ends]
      case neg => simp [lineOf, ends, inductionHypothesis file]

theorem lineOf_pos (byte : UInt8) (file : List UInt8) :
    0 < (lineOf (wuaBufSize - 1) (byte :: file)).1.length := by
  by_cases ends : byte = 10 <;> simp [lineOf, wuaBufSize, ends]

theorem linesFrom_flatten {rounds : Nat} {file : List UInt8} (enough : file.length ≤ rounds) :
    (linesFrom rounds file).flatten = file := by
  induction rounds generalizing file with
  | zero =>
    rw [List.length_eq_zero_iff.mp (Nat.le_zero.mp enough)]
    rfl
  | succ rounds inductionHypothesis =>
    cases file with
    | nil => rfl
    | cons byte file =>
      have whole := lineOf_append (wuaBufSize - 1) (byte :: file)
      have length := congrArg List.length whole
      have some_ := lineOf_pos byte file
      rw [List.length_append, List.length_cons] at length
      rw [List.length_cons] at enough
      rw [linesFrom, List.flatten_cons, inductionHypothesis (by omega), whole]

/-- Every byte of the file is in a line. -/
theorem linesOf_flatten (file : List UInt8) : (linesOf file).flatten = file :=
  linesFrom_flatten (Nat.le_refl _)

def blank : UInt8 := 32

/-- The next token between blanks, and what `strtok` keeps for the next call. -/
def blankToken (text : List UInt8) : Option (List UInt8 × List UInt8) :=
  match text.dropWhile (· = blank) with
  | [] => none
  | text => some (text.takeWhile (· ≠ blank), (text.dropWhile (· ≠ blank)).tail)

def toLower (byte : UInt8) : UInt8 := if 65 ≤ byte ∧ byte ≤ 90 then byte + 32 else byte

/-- What comes of a descriptor: the agent reads through a null pointer, refuses it or has it. -/
inductive DescriptorRead where
  | crashes
  | refuses
  | reads (cud : CWUpdateDescriptor)
  deriving DecidableEq

/-- `snprintf(…, BUF_SIZE, "%s/scripts/%s", CUP_UNPACK_DIR, token)` -/
def scriptPath (token : List UInt8) : List UInt8 :=
  (cupUnpackDir ++ characters "/scripts/" ++ token).take (wuaBufSize - 1)

/-- The first token of a line is compared as far as the keyword goes. -/
def parseLine (cud : CWUpdateDescriptor) (line : List UInt8) : DescriptorRead :=
  match blankToken (cString line) with
  | none => .crashes
  | some (token, rest) =>
    let word := token.map toLower
    let assign (set : List UInt8 → CWUpdateDescriptor) : DescriptorRead :=
      match blankToken rest with
      | none => .refuses
      | some (token, _) => .reads (set token)
    if characters "preupdate" <+: word then
      assign fun token => { cud with preScript := scriptPath token }
    else if characters "postupdate" <+: word then
      assign fun token => { cud with postScript := scriptPath token }
    else if characters "version" <+: word then
      assign fun token => { cud with version := token.take (wuaBufSize - 1) }
    else .reads cud

def parseLines (cud : CWUpdateDescriptor) : List (List UInt8) → DescriptorRead
  | [] => if cud.version = [] then .refuses else .reads cud
  | line :: lines =>
    match parseLine cud line with
    | .reads cud => parseLines cud lines
    | .refuses => .refuses
    | .crashes => .crashes

/-- There is no file to read where there is no descriptor. -/
def parseCUD (file : Option (List UInt8)) : DescriptorRead :=
  file.elim .refuses fun bytes => parseLines .initial (linesOf bytes)

/-! ## The machine -/

/-- The directory of the WTP, the two temporary directories and the package. -/
structure Disk where
  wtp : Dir
  unpack : Option Dir
  backup : Option Dir
  cup : Option (List UInt8)

/-- What the agent meets with.  Of a command that fails it says what has been left. -/
structure Surroundings where
  logOpens : Bool
  cwdFound : Bool
  unpackMade : Bool
  /-- What `tar` makes of the package, and whether it succeeds. -/
  unzip : Option (List UInt8) → Dir × Bool
  backupMade : Bool
  backupFails : Option Dir
  environmentSet : Bool
  /-- What a script does to the directory of the WTP and to its own, and whether it succeeds. -/
  preScript : List UInt8 → Dir → Dir → Dir × Dir × Bool
  copyFails : Option Dir
  postScript : List UInt8 → Dir → Dir → Dir × Dir × Bool
  removeFails : Option Dir
  restoreFails : Option Dir
  cupRemoved : Bool
  cleanFails : Option (Option Dir × Option Dir)
  forks : Bool

inductive AgentStop where
  | critical | crashed

abbrev AgentM := EStateM AgentStop Disk

/-- A command fits the buffer it is put together in. -/
def FitsCommand (command : List UInt8) : Prop := command.length < wuaBufSize

instance (command : List UInt8) : Decidable (FitsCommand command) :=
  inferInstanceAs (Decidable (_ < _))

/-- What a command leaves that has failed on the visible part of a directory. -/
def leaves (left target : Dir) : Dir := Dir.overlay left.visible target.hidden

/-- `cp -r source/* target` -/
def copyAll (fails : Option Dir) (source target : Dir) : Dir × Bool :=
  match fails with
  | none => (Dir.overlay source.visible target, true)
  | some left => (leaves left target, false)

/-- `rm -rf target/*` -/
def removeAll (fails : Option Dir) (target : Dir) : Dir × Bool :=
  match fails with
  | none => (target.hidden, true)
  | some left => (leaves left target, false)

section Agent

variable (outside : Surroundings) (cupPath wtpDir : List UInt8)

/-! ## Stage 1 -/

/-- A directory that is there cannot be made. -/
def makeDir (there : Option Dir) (made : Bool) : Option Dir :=
  if there.isSome ∨ made = false then none else some .empty

def unzip (unpacked : Dir) : AgentM Bool := do
  let command := characters "tar xzf " ++ cupPath ++ characters " -C " ++ cupUnpackDir
  if ¬ FitsCommand command then return false
  let unzipped := outside.unzip (← get).cup
  modify fun disk => { disk with unpack := some (Dir.overlay unzipped.1 unpacked) }
  return unzipped.2

def backupCurrentWTP (saved : Dir) : AgentM Bool := do
  let command := characters "cp -ar " ++ wtpDir ++ characters "/* " ++ backupDir
  if ¬ FitsCommand command then return false
  let copied := copyAll outside.backupFails (← get).wtp saved
  modify fun disk => { disk with backup := some copied.1 }
  return copied.2

/-- There is no descriptor where the stage fails. -/
def wuaStage1 : AgentM (Option CWUpdateDescriptor) := do
  match makeDir (← get).unpack outside.unpackMade with
  | none => return none
  | some unpacked =>
    modify fun disk => { disk with unpack := some unpacked }
    if ¬ (← unzip outside cupPath unpacked) then return none
    match parseCUD ((← get).unpack.bind (Dir.fileAt · (characters "update.cud"))) with
    | .crashes => throw .crashed
    | .refuses => return none
    | .reads cud =>
      match makeDir (← get).backup outside.backupMade with
      | none => return none
      | some saved =>
        modify fun disk => { disk with backup := some saved }
        if ¬ (← backupCurrentWTP outside wtpDir saved) then return none
        return some cud

/-! ## Stage 2 -/

/-- A script is run where there is one. -/
def runScript (script : List UInt8 → Dir → Dir → Dir × Dir × Bool) (path : List UInt8) :
    AgentM Bool := do
  if path = [] then return true
  let disk ← get
  let ran := script path disk.wtp (disk.unpack.getD .empty)
  set { disk with wtp := ran.1, unpack := some ran.2.1 }
  return ran.2.2

/-- The new files of the WTP. -/
def copyWTP : AgentM Bool := do
  let command := characters "cp -r " ++ cupUnpackDir ++ characters "/WTP/* " ++ wtpDir ++
    characters "/"
  if ¬ FitsCommand command then return false
  let disk ← get
  let copied :=
    copyAll outside.copyFails ((disk.unpack.getD .empty).below (characters "WTP")) disk.wtp
  set { disk with wtp := copied.1 }
  return copied.2

def wuaStage2 (cud : CWUpdateDescriptor) : AgentM Bool := do
  if ¬ outside.environmentSet then return false
  if ¬ (← runScript outside.preScript cud.preScript) then return false
  if ¬ (← copyWTP outside wtpDir) then return false
  runScript outside.postScript cud.postScript

/-! ## What comes last -/

def restoreBackupWTP : AgentM Bool := do
  if ¬ FitsCommand (characters "rm -rf " ++ wtpDir ++ characters "/*") then return false
  let removed := removeAll outside.removeFails (← get).wtp
  modify fun disk => { disk with wtp := removed.1 }
  if ¬ removed.2 then return false
  let command := characters "cp -ra " ++ backupDir ++ characters "/* " ++ wtpDir ++ characters "/"
  if ¬ FitsCommand command then return false
  let disk ← get
  let copied := copyAll outside.restoreFails (disk.backup.getD .empty) disk.wtp
  set { disk with wtp := copied.1 }
  return copied.2

def cleanTmpFiles : AgentM Unit :=
  modify fun disk => { disk with
    cup := if outside.cupRemoved then none else disk.cup
    unpack := outside.cleanFails.bind Prod.fst
    backup := outside.cleanFails.bind Prod.snd }

/-- Where the WTP is started: in its directory, or where a buffer points that has not been filled. -/
inductive Start where
  | nowhere | directory | astray
  deriving DecidableEq

def startWTP : Start :=
  if FitsCommand (wtpDir ++ characters "/WTP") ∧ outside.forks then .directory else .nowhere

/-- The exit status, and where the WTP is started. -/
def wtpUpdateAgent : AgentM (Bool × Start) := do
  if ¬ outside.logOpens then
    cleanTmpFiles outside
    return (true, .astray)
  if ¬ (outside.cwdFound ∧ wtpDir.length < wuaBufSize) then
    cleanTmpFiles outside
    return (false, .astray)
  match ← wuaStage1 outside cupPath wtpDir with
  | none =>
    cleanTmpFiles outside
    return (false, startWTP outside wtpDir)
  | some cud =>
    if ← wuaStage2 outside wtpDir cud then
      cleanTmpFiles outside
      return (true, startWTP outside wtpDir)
    if ¬ (← restoreBackupWTP outside wtpDir) then throw .critical
    cleanTmpFiles outside
    return (false, startWTP outside wtpDir)

end Agent

end WlanController.Vendor
