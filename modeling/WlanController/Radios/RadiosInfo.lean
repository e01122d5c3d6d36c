import WlanController.Common.EthAddr

/-!
# The radios of a session

The AC keeps the radios of a WTP in the array `radiosInfo`, which has `radioCount` elements
and is filled up to `WTP_RADIO_MAX`.  Each radio has `WTP_MAX_INTERFACES` interfaces, one
for every WLAN, and the BSSID of an interface is a pointer that stays `NULL` until the WTP
has reported the BSSID of the WLAN.
-/

namespace WlanController.Radios

abbrev wtpRadioMax : Nat := 5

abbrev wtpMaxInterfaces : Nat := 1

inductive InterfaceType where
  | cwSTAMode | cwAPMode
  deriving DecidableEq, Repr

/-- An interface becomes an access point when its BSSID is stored. -/
structure WTPInterfaceInfo where
  wlanID : Int
  typeInterface : InterfaceType
  BSSID : Option EthAddr
  accessPoint : BSSID ≠ none → typeInterface = .cwAPMode

structure CWWTPRadioInfoValues where
  radioID : Int
  interfaces : Fin wtpMaxInterfaces → WTPInterfaceInfo

/-- The elements of the array that have been filled. -/
structure CWWTPRadiosInfo where
  radioCount : Nat
  radiosInfo : List CWWTPRadioInfoValues
  filled : radiosInfo.length = min radioCount wtpRadioMax

def cwIEEEBindingGetIndexFromDevID (devID : Int) : Int := devID

def cwIEEEBindingGetDevFromIndexID (indexID : Int) : Int :=
  if indexID < 0 then -1 else indexID + 1

/-- `CWSaveJoinRequestMessage` for a radio of the request. -/
def joinedRadio (radioID : Int) : CWWTPRadioInfoValues where
  radioID := radioID
  interfaces := fun indexWlan =>
    { wlanID := cwIEEEBindingGetDevFromIndexID indexWlan
      typeInterface := .cwSTAMode
      BSSID := none
      accessPoint := fun stored => absurd rfl stored }

/-- `CWSaveJoinRequestMessage`: the array is made anew for the radios in use. -/
def cwSaveJoinRequestMessage (radiosInUse : Nat) (radioID : Fin wtpRadioMax → Int) :
    CWWTPRadiosInfo where
  radioCount := radiosInUse
  radiosInfo := (List.ofFn fun i => joinedRadio (radioID i)).take radiosInUse
  filled := by simp

def WTPInterfaceInfo.assign (interfaceInfo : WTPInterfaceInfo) (bssid : EthAddr) :
    WTPInterfaceInfo where
  wlanID := interfaceInfo.wlanID
  typeInterface := .cwAPMode
  BSSID := some bssid
  accessPoint := fun _ => rfl

def CWWTPRadioInfoValues.modify (radio : CWWTPRadioInfoValues) (indexWlan : Fin wtpMaxInterfaces)
    (change : WTPInterfaceInfo → WTPInterfaceInfo) : CWWTPRadioInfoValues where
  radioID := radio.radioID
  interfaces := Function.update radio.interfaces indexWlan (change (radio.interfaces indexWlan))

def CWWTPRadiosInfo.modify (table : CWWTPRadiosInfo) (indexRadio : Nat)
    (indexWlan : Fin wtpMaxInterfaces) (change : WTPInterfaceInfo → WTPInterfaceInfo) :
    CWWTPRadiosInfo where
  radioCount := table.radioCount
  radiosInfo := table.radiosInfo.modify indexRadio (·.modify indexWlan change)
  filled := by rw [List.length_modify, table.filled]

/-- An assigned BSSID in a WLAN configuration response: `none` where the source writes
    outside the filled elements. -/
def assignBSSID (table : CWWTPRadiosInfo) (radioID wlanID : Nat) (bssid : EthAddr) :
    Option CWWTPRadiosInfo :=
  if inTable : radioID < wtpRadioMax ∧ wlanID < wtpMaxInterfaces then
    if radioID < table.radiosInfo.length then
      some (table.modify radioID ⟨wlanID, inTable.2⟩ (·.assign bssid))
    else none
  else some table

/-- `ACUpdateInfoWlanInterface`, on the interface that a command for a WLAN names. -/
def acUpdateInfoWlanInterface (wlanID : Int) (interfaceInfo : WTPInterfaceInfo) :
    WTPInterfaceInfo where
  wlanID := wlanID
  typeInterface := interfaceInfo.typeInterface
  BSSID := interfaceInfo.BSSID
  accessPoint := interfaceInfo.accessPoint

/-- The BSSID that the table stores for a radio and a WLAN. -/
def CWWTPRadiosInfo.storedBSSID (table : CWWTPRadiosInfo) (indexRadio : Nat)
    (indexWlan : Fin wtpMaxInterfaces) : Option EthAddr :=
  (table.radiosInfo[indexRadio]?).bind fun radio => (radio.interfaces indexWlan).BSSID

end WlanController.Radios
