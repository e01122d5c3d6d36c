import WlanController.Operator.TargetSelection
import WlanController.Settings.ConfigFile

/-!
# The values of a configuration file

A setting is a line that begins with its code, and a list of strings is a section of lines between
two codes.  The file is read twice: the strings of the lists are counted first, and then everything is
stored.  Where nothing has been stored in a list there is whatever was in memory.

There is memory, and the file is there and the same both times.
-/

namespace WlanController.Settings

/-- The member of the union that the type names.  An entry of an array is `none` where nothing has
    been stored. -/
inductive CWConfigUnion where
  | integer (int_value : Int)
  | string (str_value : Option (List UInt8))
  | stringArray (endCode : List UInt8) (count : Nat) (str_array_value : List (Option (List UInt8)))
  deriving DecidableEq

structure CWConfigValue where
  code : List UInt8
  value : CWConfigUnion
  deriving DecidableEq

/-! ## The parser -/

theorem cwFgets_length_le {bufSize : Nat} {f f' : List UInt8} {buff : Option (List UInt8)}
    (read : cwFgets bufSize f = some (buff, f')) : f'.length ≤ f.length := by
  cases buff with
  | some buff => exact Nat.le_of_lt (cwFgets_length read)
  | none =>
    rw [cwFgets] at read
    split at read
    next =>
      cases read
      exact Nat.le_refl _
    next =>
      rw [Option.bind_eq_bind, Option.bind_eq_some_iff] at read
      obtain ⟨⟨stored, f''⟩, looped, kept⟩ := read
      have length := fgetsLoop_length looped
      simp only at kept
      split at kept
      next =>
        cases kept
        omega
      next => split at kept <;> cases kept

theorem cwGetCommand_length_le {f f' : List UInt8} {command : Option (List UInt8)}
    (got : cwGetCommand f = some (command, f')) : f'.length ≤ f.length := by
  induction f using cwGetCommand.induct with
  | case1 f read =>
    rw [getCommand_overrun read] at got
    cases got
  | case2 f f'' read =>
    rw [getCommand_end read] at got
    cases got
    exact cwFgets_length_le read
  | case3 f buff f'' read skipped inductionHypothesis =>
    rw [getCommand_skipped read skipped] at got
    exact Nat.le_trans (inductionHypothesis got) (cwFgets_length_le read)
  | case4 f buff f'' read kept =>
    rw [getCommand_kept read kept, Option.map_eq_some_iff] at got
    obtain ⟨_, _, same⟩ := got
    cases same
    exact cwFgets_length_le read

/-- The lines up to the one that ends the section, and what is left of the file.  The section also
    ends where there is no further line. -/
def sectionLines (endCode configFile : List UInt8) : Option (List (List UInt8) × List UInt8) :=
  match _got : cwGetCommand configFile with
  | none => none
  | some (none, configFile) => some ([], configFile)
  | some (some line, configFile) =>
      if line = endCode then some ([], configFile)
      else (sectionLines endCode configFile).map fun (lines, configFile) => (line :: lines, configFile)
termination_by configFile.length
decreasing_by exact cwGetCommand_length _got

/-- The strings of a section are stored from the first entry on.  `none` where one is stored behind
    the last entry. -/
def storeLines : (lines : List (List UInt8)) → (entries : List (Option (List UInt8))) →
    Option (List (Option (List UInt8)))
  | [], entries => some entries
  | line :: lines, _ :: entries => (storeLines lines entries).map (some line :: ·)
  | _ :: _, [] => none

def CWConfigUnion.endCode? : CWConfigUnion → Option (List UInt8)
  | .integer _ | .string _ => none
  | .stringArray endCode _ _ => some endCode

/-- What is read for a value behind its line. -/
def linesBehind : (endCode? : Option (List UInt8)) → (configFile : List UInt8) →
    Option (List (List UInt8) × List UInt8)
  | none, configFile => some ([], configFile)
  | some endCode, configFile => sectionLines endCode configFile

/-- A line without its code, and the lines of its section. -/
structure Item where
  myLine : List UInt8
  lines : List (List UInt8)
  deriving DecidableEq

def atoiLine (myLine : List UInt8) : Int := Operator.atoi (myLine.map fun b => Char.ofNat b.toNat)

/-- The `switch` on the type of a value.  In the first pass nothing is stored but integers. -/
def CWConfigUnion.take (isCount : Bool) (item : Item) : CWConfigUnion → Option CWConfigUnion
  | .integer _ => some (.integer (atoiLine item.myLine))
  | .string str_value => some (.string (if isCount then str_value else some item.myLine))
  | .stringArray endCode count entries =>
      if isCount then some (.stringArray endCode (count + item.lines.length) entries)
      else (storeLines item.lines entries).map (.stringArray endCode count)

/-! ## A pass over the file -/

section Reading

variable {f f' behind : List UInt8} {lines : List (List UInt8)}

theorem section_overrun {endCode : List UInt8} (got : cwGetCommand f = none) :
    sectionLines endCode f = none := by
  rw [sectionLines]
  split <;> simp_all

theorem section_end {endCode : List UInt8} (got : cwGetCommand f = some (none, f')) :
    sectionLines endCode f = some ([], f') := by
  rw [sectionLines]
  split <;> simp_all

theorem section_line {line endCode : List UInt8} (got : cwGetCommand f = some (some line, f')) :
    sectionLines endCode f =
      if line = endCode then some ([], f')
      else (sectionLines endCode f').map fun (lines, behind) => (line :: lines, behind) := by
  rw [sectionLines]
  split <;> simp_all

theorem sectionLines_length {endCode : List UInt8}
    (read : sectionLines endCode f = some (lines, behind)) : behind.length ≤ f.length := by
  induction f using sectionLines.induct endCode generalizing lines with
  | case1 f got =>
    rw [section_overrun got] at read
    cases read
  | case2 f f' got =>
    rw [section_end got] at read
    cases read
    exact cwGetCommand_length_le got
  | case3 f f' got =>
    rw [section_line got, if_pos rfl] at read
    cases read
    exact cwGetCommand_length_le got
  | case4 f f' line got other inductionHypothesis =>
    rw [section_line got, if_neg other, Option.map_eq_some_iff] at read
    obtain ⟨⟨lines', behind'⟩, later, same⟩ := read
    cases same
    exact Nat.le_trans (inductionHypothesis later) (cwGetCommand_length_le got)

theorem linesBehind_length {endCode? : Option (List UInt8)}
    (read : linesBehind endCode? f = some (lines, behind)) : behind.length ≤ f.length := by
  cases endCode? with
  | none =>
    cases read
    exact Nat.le_refl _
  | some endCode => exact sectionLines_length read

end Reading

/-- The loop over the values, which ends at the first whose code the line begins with. -/
def takeLine (isCount : Bool) (line configFile : List UInt8) :
    (gConfigValues : List CWConfigValue) → Option (List CWConfigValue × List UInt8)
  | [] => some ([], configFile)
  | configValue :: gConfigValues =>
      if configValue.code.isPrefixOf line then do
        let (lines, configFile) ← linesBehind configValue.value.endCode? configFile
        let value ← configValue.value.take isCount ⟨line.drop configValue.code.length, lines⟩
        return ({ configValue with value } :: gConfigValues, configFile)
      else do
        let (gConfigValues, configFile) ← takeLine isCount line configFile gConfigValues
        return (configValue :: gConfigValues, configFile)

theorem takeLine_length {isCount : Bool} {line configFile behind : List UInt8}
    {gConfigValues taken : List CWConfigValue}
    (took : takeLine isCount line configFile gConfigValues = some (taken, behind)) :
    behind.length ≤ configFile.length := by
  induction gConfigValues generalizing taken with
  | nil =>
    cases took
    exact Nat.le_refl _
  | cons configValue gConfigValues inductionHypothesis =>
    rw [takeLine] at took
    split at took
    next =>
      simp only [Option.bind_eq_bind, Option.bind_eq_some_iff] at took
      obtain ⟨⟨lines, behind'⟩, read, value, _, same⟩ := took
      cases same
      exact linesBehind_length read
    next =>
      simp only [Option.bind_eq_bind, Option.bind_eq_some_iff] at took
      obtain ⟨⟨taken', behind'⟩, later, same⟩ := took
      cases same
      exact inductionHypothesis later

/-- The loop over the lines. -/
def parseLines (isCount : Bool) (gConfigValues : List CWConfigValue) (configFile : List UInt8) :
    Option (List CWConfigValue) :=
  match _got : cwGetCommand configFile with
  | none => none
  | some (none, _) => some gConfigValues
  | some (some line, configFile) =>
      match _took : takeLine isCount line configFile gConfigValues with
      | none => none
      | some (gConfigValues, configFile) => parseLines isCount gConfigValues configFile
termination_by configFile.length
decreasing_by exact Nat.lt_of_le_of_lt (takeLine_length _took) (cwGetCommand_length _got)

/-- What becomes of a value before the first line is read. -/
def CWConfigUnion.begin (isCount : Bool) : CWConfigUnion → CWConfigUnion
  | .stringArray endCode count entries =>
      if isCount then .stringArray endCode 0 entries
      else .stringArray endCode count (if count = 0 then entries else List.replicate count none)
  | value => value

def cwParseTheFile (isCount : Bool) (gConfigValues : List CWConfigValue) (configFile : List UInt8) :
    Option (List CWConfigValue) :=
  parseLines isCount
    (gConfigValues.map fun configValue => { configValue with value := configValue.value.begin isCount })
    configFile

def cwParseConfigFile (gConfigValues : List CWConfigValue) (configFile : List UInt8) :
    Option (List CWConfigValue) := do
  let gConfigValues ← cwParseTheFile true gConfigValues configFile
  cwParseTheFile false gConfigValues configFile

/-! ## The tables -/

def tag (text : String) : List UInt8 := text.toList.map fun c => UInt8.ofNat c.toNat

def integer (code : String) (int_value : Int) : CWConfigValue := ⟨tag code, .integer int_value⟩

def string (code : String) : CWConfigValue := ⟨tag code, .string none⟩

def stringArray (code endCode : String) : CWConfigValue := ⟨tag code, .stringArray (tag endCode) 0 []⟩

/-- `DEFAULT_LOG_SIZE` -/
def defaultLogSize : Int := 1000000

/-- `CWConfigFileInitLib` of the WTP. -/
def wtpConfigValues : List CWConfigValue :=
  [stringArray "<AC_ADDRESSES>" "</AC_ADDRESSES>", integer "</WTP_FORCE_MTU>" 0,
    string "</WTP_LEV3_PROTOCOL>", string "</WTP_NAME>", string "</WTP_LOCATION>",
    string "</WTP_FORCE_AC_ADDRESS>", string "</WTP_FORCE_SECURITY>",
    integer "</WTP_LOG_FILE_ENABLE>" 0, integer "</WTP_LOG_FILE_SIZE>" defaultLogSize,
    string "</WTP_SECURITY_CERTIFICATE>", string "</WTP_SECURITY_KEYFILE>",
    string "</WTP_SECURITY_PASSWORD>", integer "</WTP_PORT_CONTROL>" (-1),
    integer "</WTP_PORT_DATA>" (-1)]

/-- `CWConfigFileInitLib` of the AC. -/
def acConfigValues : List CWConfigValue :=
  [integer "</AC_HW_VERSION>" 0, integer "</AC_SW_VERSION>" 0, integer "</AC_MAX_STATIONS>" 0,
    integer "</AC_MAX_WTPS>" 0, string "</AC_SECURITY>", string "</AC_NAME>",
    stringArray "<AC_MCAST_GROUPS>" "</AC_MCAST_GROUPS>", integer "</AC_FORCE_MTU>" 0,
    string "</AC_LEV3_PROTOCOL>", integer "</AC_LOG_FILE_ENABLE>" 0,
    integer "</AC_LOG_FILE_SIZE>" defaultLogSize, string "</AC_SECURITY_CERTIFICATE>",
    string "</AC_SECURITY_KEYFILE>", string "</AC_SECURITY_PASSWORD>"]

/-! ## What is saved of the values -/

def CWConfigUnion.intValue : CWConfigUnion → Option Int
  | .integer int_value => some int_value
  | _ => none

def CWConfigUnion.strValue : CWConfigUnion → Option (Option (List UInt8))
  | .string str_value => some str_value
  | _ => none

/-- The strings are copied, each from where its entry points.  `none` where nothing has been stored in
    an entry. -/
def copies (entries : List (Option (List UInt8))) : Option (List (List UInt8)) :=
  entries.mapM fun entry => entry

def CWConfigUnion.copied : CWConfigUnion → Option (List (List UInt8))
  | .stringArray _ _ entries => copies entries
  | _ => none

section Saving

variable (gConfigValues : List CWConfigValue)

def intAt (i : Nat) : Option Int := gConfigValues[i]?.bind fun configValue => configValue.value.intValue

def strAt (i : Nat) : Option (Option (List UInt8)) :=
  gConfigValues[i]?.bind fun configValue => configValue.value.strValue

def copiedAt (i : Nat) : Option (List (List UInt8)) :=
  gConfigValues[i]?.bind fun configValue => configValue.value.copied

/-- `CW_STRING_GET_START_WHITE_SPACES` -/
def behindBlanks (str : List UInt8) : List UInt8 := str.dropWhile fun b => b = 32 ∨ b = 9

inductive PreferredFamily where
  | ipv4
  | ipv6
  deriving DecidableEq

/-- The blanks in front of this value are not passed over. -/
def preferredFamily (str_value : Option (List UInt8)) : PreferredFamily :=
  if str_value = some (tag "IPv6") then .ipv6 else .ipv4

inductive CWSecurity where
  | x509Certificate
  | preshared
  deriving DecidableEq

def securityOf (str_value : List UInt8) : CWSecurity :=
  if behindBlanks str_value = tag "PRESHARED" then .preshared else .x509Certificate

/-- What the WTP takes from its file, with `none` for what keeps the value that it had. -/
structure WTPSettings where
  gCWACAddresses : List (List UInt8)
  gCWForceMTU : Int
  gNetworkPreferredFamily : PreferredFamily
  gWTPName : Option (List UInt8)
  gWTPLocation : Option (List UInt8)
  gWTPForceACAddress : Option (List UInt8)
  gWTPForceSecurity : Option CWSecurity
  gEnabledLog : Int
  gMaxLogFileSize : Int
  gWTPCertificate : Option (List UInt8)
  gWTPKeyfile : Option (List UInt8)
  gWTPPassword : Option (List UInt8)
  wtpPortControl : Int
  wtpPortData : Int
  deriving DecidableEq

/-- `CWConfigFileDestroyLib` of the WTP. -/
def wtpConfigFileDestroyLib : Option WTPSettings := do
  return {
    gCWACAddresses := ← copiedAt gConfigValues 0
    gCWForceMTU := ← intAt gConfigValues 1
    gNetworkPreferredFamily := preferredFamily (← strAt gConfigValues 2)
    gWTPName := (← strAt gConfigValues 3).map behindBlanks
    gWTPLocation := (← strAt gConfigValues 4).map behindBlanks
    gWTPForceACAddress := (← strAt gConfigValues 5).map behindBlanks
    gWTPForceSecurity := (← strAt gConfigValues 6).map securityOf
    gEnabledLog := ← intAt gConfigValues 7
    gMaxLogFileSize := ← intAt gConfigValues 8
    gWTPCertificate := (← strAt gConfigValues 9).map behindBlanks
    gWTPKeyfile := (← strAt gConfigValues 10).map behindBlanks
    gWTPPassword := (← strAt gConfigValues 11).map behindBlanks
    wtpPortControl := ← intAt gConfigValues 12
    wtpPortData := ← intAt gConfigValues 13 }

structure ACSettings where
  gACHWVersion : Int
  gACSWVersion : Int
  gLimit : Int
  gMaxWTPs : Int
  gACDescriptorSecurity : Option CWSecurity
  gACName : Option (List UInt8)
  gMulticastGroups : List (List UInt8)
  gCWForceMTU : Int
  gNetworkPreferredFamily : PreferredFamily
  gEnabledLog : Int
  gMaxLogFileSize : Int
  gACCertificate : Option (List UInt8)
  gACKeyfile : Option (List UInt8)
  gACPassword : Option (List UInt8)
  deriving DecidableEq

/-- `CWConfigFileDestroyLib` of the AC. -/
def acConfigFileDestroyLib : Option ACSettings := do
  return {
    gACHWVersion := ← intAt gConfigValues 0
    gACSWVersion := ← intAt gConfigValues 1
    gLimit := ← intAt gConfigValues 2
    gMaxWTPs := ← intAt gConfigValues 3
    gACDescriptorSecurity := (← strAt gConfigValues 4).map securityOf
    gACName := (← strAt gConfigValues 5).map behindBlanks
    gMulticastGroups := ← copiedAt gConfigValues 6
    gCWForceMTU := ← intAt gConfigValues 7
    gNetworkPreferredFamily := preferredFamily (← strAt gConfigValues 8)
    gEnabledLog := ← intAt gConfigValues 9
    gMaxLogFileSize := ← intAt gConfigValues 10
    gACCertificate := (← strAt gConfigValues 11).map behindBlanks
    gACKeyfile := (← strAt gConfigValues 12).map behindBlanks
    gACPassword := (← strAt gConfigValues 13).map behindBlanks }

end Saving

/-- `CWParseConfigFile` of the WTP.  `none` where memory is read or written that is not there, or that
    nothing has been stored in. -/
def wtpParseConfigFile (configFile : List UInt8) : Option WTPSettings :=
  (cwParseConfigFile wtpConfigValues configFile).bind wtpConfigFileDestroyLib

def acParseConfigFile (configFile : List UInt8) : Option ACSettings :=
  (cwParseConfigFile acConfigValues configFile).bind acConfigFileDestroyLib

end WlanController.Settings
