import WlanController.Foundation.StructLayout
import WlanController.Radios.RadiosInfo

/-!
# The radio entries of a discovery request

The values of a discovery request have a pointer to entries of type `WTPSinglePhyInfo`, and the
entries are stored through it.  What the pointer is given is an array of `ACWTPSinglePhyInfo`,
a type with a part of the members.
-/

namespace WlanController.Requests

open Radios

/-- An `int` has four bytes in either of them, a pointer has four or eight. -/
inductive DataModel where
  | ilp32 | lp64
  deriving DecidableEq, Repr

namespace DataModel

open CType

def pointer : DataModel → CType
  | ilp32 => scalar 4
  | lp64 => scalar 8

/-- Also the size of an enumeration, such as `CWBool`. -/
def int : CType := scalar 4

def short : CType := scalar 2

def char : CType := scalar 1

/-- `wlanID`, `realWlanID`, `typeInterface`; `ifName`; `capability`, `capabilityBit`;
    `keyIndex`, `keyStatus`, `keyLength`, `key`, `groupTSC`; `qos`, `authType`, `MACmode`,
    `frameTunnelMode`, `suppressSSID`; `SSID`, `MACaddr`, `BSSID`; `nl_mgmt`, `nl_cb`. -/
def wtpInterfaceInfo (model : DataModel) : CType :=
  struct [int, int, int, model.pointer, array 16 char, short, char, char, short, array 4 char,
    array 6 char, char, char, char, int, char, model.pointer, model.pointer, model.pointer,
    model.pointer, model.pointer]

/-- The members of `WTPSinglePhyInfo` up to `phyStandardN`: `radioID`, `realRadioID`; `phyName`,
    `phyStandard2400MH`, `phyStandard5000MH`, `phyMbpsSet`, `supportedRates`,
    `lenSupportedRates`; `phyHT20`, `phyHT40` and the four standards. -/
def beforeStandardValue (model : DataModel) : List CType :=
  [int, int, model.pointer, int, int, model.pointer, model.pointer, int, int, int, int, int, int,
    int]

/-- Behind `phyStandardValue` come `phyFrequencyInfo`, `fragmentationTreshold`, `rtsThreshold`,
    `shortRetry`, `longRetry`, `txMSDU`, `rxMSDU`, `numInterfaces`, the interfaces and the
    monitor interface, `nl_beacons` and `nl_cb`. -/
def wtpSinglePhyInfo (model : DataModel) : CType :=
  struct (model.beforeStandardValue ++ [char, struct [int, model.pointer], int, int, char, char,
    int, int, int, array wtpMaxInterfaces model.wtpInterfaceInfo, model.wtpInterfaceInfo,
    model.pointer, model.pointer])

/-- `radioID`, `phyName`, `phyStandard2400MH`, `phyStandard5000MH`, `phyMbpsSet`, `phyHT20`,
    `phyHT40`, the four standards, `phyStandardValue` and `numInterfaces`. -/
def acWTPSinglePhyInfo (model : DataModel) : CType :=
  struct [int, model.pointer, int, int, model.pointer, int, int, int, int, int, int, char, int]

/-- What `CW_CREATE_ARRAY_CALLOC_ERR(singlePhyInfo, WTP_RADIO_MAX, ACWTPSinglePhyInfo)`
    allocates. -/
def allocatedEntries (model : DataModel) : Nat := wtpRadioMax * model.acWTPSinglePhyInfo.size

/-- Where the members of `singlePhyInfo[index]` end that are stored. -/
def entryEnd (model : DataModel) (index : Nat) : Nat :=
  index * model.wtpSinglePhyInfo.size +
    max int.size (offset model.beforeStandardValue char + char.size)

/-- Both stores lie inside the allocation. -/
def EntryFits (model : DataModel) (index : Nat) : Prop := model.entryEnd index ≤ model.allocatedEntries

instance (model : DataModel) (index : Nat) : Decidable (model.EntryFits index) :=
  inferInstanceAs (Decidable (_ ≤ _))

/-- There is room for no entry but the first. -/
theorem entryFits_iff (model : DataModel) (index : Nat) : model.EntryFits index ↔ index = 0 := by
  have large : model.allocatedEntries ≤ model.wtpSinglePhyInfo.size := by cases model <;> decide
  have first : model.entryEnd 0 ≤ model.allocatedEntries := by cases model <;> decide
  constructor
  · intro fits
    cases index with
    | zero => rfl
    | succ index =>
      simp only [EntryFits, entryEnd] at fits
      have stored : 0 < max int.size (offset model.beforeStandardValue char + char.size) :=
        lt_max_of_lt_left (by decide)
      rw [Nat.succ_mul] at fits
      omega
  · intro zero
    rw [zero]
    exact first

example : DataModel.lp64.wtpSinglePhyInfo.size = 352 ∧ DataModel.lp64.allocatedEntries = 320 := by
  decide

end DataModel

end WlanController.Requests
