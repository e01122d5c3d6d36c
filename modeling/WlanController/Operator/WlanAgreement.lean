import Mathlib.Data.Set.Basic
import Mathlib.Data.List.Nodup
import Mathlib.Data.List.Range
import WlanController.Operator.WlanExchange

/-!
# Where the two tables agree

An order that adds WLANs keeps both tables of a session alike, where the AC has the radio and the
WTP starts the WLAN or has it under the same name.  An order that deletes one keeps nothing.
-/

namespace WlanController.Operator

open Protocol Radios Elements Requests

/-! ## Tokens -/

/-- A text that `strtok` finds between two colons. -/
def Apart (text : List UInt8) : Prop := text ≠ [] ∧ colon ∉ text

theorem nextToken_append {text : List UInt8} (apart : Apart text) (rest : List UInt8) :
    nextToken (text ++ colon :: rest) = some (text, rest) := by
  obtain ⟨some, none⟩ := apart
  have other : ∀ byte ∈ text, byte ≠ colon := fun byte member same => none (same ▸ member)
  cases text with
  | nil => exact absurd rfl some
  | cons byte text =>
    have first : byte ≠ colon := other byte List.mem_cons_self
    have taken : (byte :: text ++ colon :: rest).takeWhile (· ≠ colon) = byte :: text := by
      rw [List.takeWhile_append_of_pos (by simpa using other)]
      simp
    have dropped : (byte :: text ++ colon :: rest).dropWhile (· ≠ colon) = colon :: rest := by
      rw [List.dropWhile_append_of_pos (by simpa using other)]
      simp
    have here : (byte :: text ++ colon :: rest).dropWhile (· = colon) =
        byte :: text ++ colon :: rest := by simp [first]
    rw [nextToken, here]
    simp only [List.cons_append] at taken dropped ⊢
    rw [taken, dropped]
    rfl

theorem nextToken_of_apart {text : List UInt8} (apart : Apart text) :
    nextToken text = some (text, []) := by
  obtain ⟨some, none⟩ := apart
  have other : ∀ byte ∈ text, byte ≠ colon := fun byte member same => none (same ▸ member)
  cases text with
  | nil => exact absurd rfl some
  | cons byte text =>
    have first : byte ≠ colon := other byte List.mem_cons_self
    have here : (byte :: text).dropWhile (· = colon) = byte :: text := by simp [first]
    have taken : (byte :: text).takeWhile (· ≠ colon) = byte :: text := by
      rw [List.takeWhile_eq_self_iff]
      simpa using other
    have dropped : (byte :: text).dropWhile (· ≠ colon) = [] := by
      rw [List.dropWhile_eq_nil_iff]
      simpa using other
    rw [nextToken, here]
    simp only [taken, dropped, List.tail_nil]

/-- There is a token where there is anything but colons. -/
theorem nextToken_of_mem {payload : List UInt8} {byte : UInt8} (member : byte ∈ payload)
    (other : byte ≠ colon) : ∃ token rest, nextToken payload = some (token, rest) := by
  rw [nextToken]
  cases text : payload.dropWhile (· = colon) with
  | nil =>
    rw [List.dropWhile_eq_nil_iff] at text
    exact absurd (text byte member) (by simpa using other)
  | cons first text => exact ⟨_, _, rfl⟩

/-- The name that the AC takes from the texts behind the numbers. -/
def networkName (ssid tunnel : List UInt8) : List UInt8 :=
  ((nextToken (ssid ++ colon :: tunnel)).map Prod.fst).getD []

/-- Each text is one token, but the last two, which have one between them. -/
def WlanCommand.Plain : WlanCommand → Prop
  | add radioID wlanID ssid tunnel =>
    Apart radioID ∧ Apart wlanID ∧ ∃ byte ∈ ssid ++ colon :: tunnel, byte ≠ colon
  | del radioID wlanID => Apart radioID ∧ Apart wlanID

theorem read_add {radioID wlanID ssid tunnel : List UInt8}
    (plain : (WlanCommand.add radioID wlanID ssid tunnel).Plain) :
    (WlanCommand.add radioID wlanID ssid tunnel).read =
      some ⟨.addWlan, lowered (atoiBytes radioID), lowered (atoiBytes wlanID),
        networkName ssid tunnel⟩ := by
  obtain ⟨radio, wlan, byte, member, other⟩ := plain
  obtain ⟨token, rest, found⟩ := nextToken_of_mem member other
  rw [WlanCommand.read, addPayload, readAddWlan, nextToken_append radio]
  simp only [Option.bind_eq_bind, Option.bind_some]
  rw [nextToken_append wlan]
  simp only [Option.bind_some, found, networkName, Option.map_some, Option.getD_some]
  rfl

theorem read_del {radioID wlanID : List UInt8} (plain : (WlanCommand.del radioID wlanID).Plain) :
    (WlanCommand.del radioID wlanID).read =
      some ⟨.delWlan, atoiBytes radioID, atoiBytes wlanID, []⟩ := by
  obtain ⟨radio, wlan⟩ := plain
  rw [WlanCommand.read, delPayload, readDelWlan, nextToken_append radio]
  simp only [Option.bind_eq_bind, Option.bind_some]
  rw [nextToken_of_apart wlan]
  rfl

/-! ## What orders are for -/

/-- An entry of a table: a radio and one of its interfaces. -/
abbrev Entry := Nat × Fin wtpMaxInterfaces

/-- The entry that is there for a pair, where both sides have one. -/
def entryOf (radioCount : Nat) (radioID wlanID : Int) : Option Entry :=
  if inside : (0 ≤ lowered radioID ∧ lowered radioID < radioCount ∧ lowered radioID < wtpRadioMax) ∧
      0 ≤ lowered wlanID ∧ (lowered wlanID).toNat < wtpMaxInterfaces then
    some ((lowered radioID).toNat, ⟨(lowered wlanID).toNat, inside.2.2⟩)
  else none

def WlanCommand.entry (radioCount : Nat) : WlanCommand → Option Entry
  | add radioID wlanID _ _ => entryOf radioCount (atoiBytes radioID) (atoiBytes wlanID)
  | del radioID wlanID => entryOf radioCount (atoiBytes radioID) (atoiBytes wlanID)

/-- The entries with a WLAN when a command has been carried out. -/
def networksAfter (radioCount : Nat) (networks : Set Entry) (command : WlanCommand) : Set Entry :=
  match command with
  | .add _ _ _ _ => {e | e ∈ networks ∨ command.entry radioCount = some e}
  | .del _ _ => {e | e ∈ networks ∧ command.entry radioCount ≠ some e}

/-- The entries of a session that have been added and not been deleted since. -/
def networks (sessions : Sessions) (radioCount i : Nat) (orders : List Order) : Set Entry :=
  orders.foldl (fun networks order =>
    {e | if i ∈ sessions.selected order.target then
      e ∈ networksAfter radioCount networks order.command else e ∈ networks}) ∅

namespace Link

def acNetworks (link : Link) : Set Entry :=
  {e | e.1 < link.radioCount ∧ (link.radiosInfo e.1 e.2).typeInterface = .cwAPMode}

def wtpNetworks (link : Link) : Set Entry :=
  {e | e.1 < link.radioCount ∧ (link.gRadiosInfo e.1 e.2).typeInterface = .cwAPMode}

/-- No interface is an access point. -/
def Fresh (link : Link) : Prop :=
  ∀ (e : Entry), (link.radiosInfo e.1 e.2).typeInterface = .cwSTAMode ∧
    (link.gRadiosInfo e.1 e.2).typeInterface = .cwSTAMode

end Link

/-- The command is for an entry that is not there, or not one that the WTP can do it to. -/
def WlanCommand.Refused (command : WlanCommand) (link : Link) : Prop :=
  ∀ e, command.entry link.radioCount = some e →
    match command with
    | .add _ _ _ _ => (link.gRadiosInfo e.1 e.2).typeInterface ≠ .cwSTAMode
    | .del _ _ => (link.gRadiosInfo e.1 e.2).typeInterface ≠ .cwAPMode

/-- The sessions when some of the orders have been carried out: both tables of each have the entries
that they are to have. -/
structure Agreed (sessions : Sessions) (links : Nat → Link) (done : List Order)
    (reached : Nat → Link) : Prop where
  ac : ∀ i, (reached i).acNetworks = networks sessions (links i).radioCount i done
  wtp : ∀ i, (reached i).wtpNetworks = networks sessions (links i).radioCount i done

/-- Every order is carried out, behind each of them the tables agree, and an order that is refused
changes nothing. -/
def WlansAgree (sessions : Sessions) (links : Nat → Link) (orders : List Order) : Prop :=
  ∀ done left, done ++ left = orders → ∃ reached,
    manageOrders sessions done links = .ok reached ∧ Agreed sessions links done reached ∧
      ∀ order rest, left = order :: rest → ∃ next,
        manageOrder sessions order reached = .ok next ∧
          ∀ i, order.command.Refused (reached i) → next i = reached i

/-! ## Orders that are carried out alike -/

/-- The WTP starts the WLAN, or the AC has noted it as it is. -/
def Link.Serves (link : Link) (indexRadio : Nat) (indexWlan : Fin wtpMaxInterfaces)
    (name : List UInt8) : Prop :=
  indexRadio < link.radioCount ∧ cwMsgIEEEAddWlanMinLen + name.length < 65529 ∧
    (indexRadio < wtpRadioMax ∧ (link.gRadiosInfo indexRadio indexWlan).typeInterface = .cwSTAMode ∨
      indexRadio < 256 ∧
        acUpdateInfoWlan (link.radiosInfo indexRadio indexWlan).info indexWlan name =
          (link.radiosInfo indexRadio indexWlan).info)

/-- Nothing is deleted.  A WLAN that is added has a negative number, which the AC does not let
through, or each of the sessions has its radio and serves it. -/
def Order.Kept (order : Order) (sessions : Sessions) (links : Nat → Link) : Prop :=
  order.command.Plain ∧
    match order.command with
    | .add radioID wlanID ssid tunnel =>
      lowered (atoiBytes radioID) < 0 ∨ lowered (atoiBytes wlanID) < 0 ∨
        ∃ (indexRadio : Nat) (indexWlan : Fin wtpMaxInterfaces),
          lowered (atoiBytes radioID) = indexRadio ∧ lowered (atoiBytes wlanID) = indexWlan.val ∧
            ∀ i ∈ sessions.selected order.target,
              (links i).Serves indexRadio indexWlan (networkName ssid tunnel)
    | .del _ _ => sessions.selected order.target = []

/-! ## One session -/

theorem update_entry {α : Type} (table : Nat → Fin wtpMaxInterfaces → α) (entry e : Entry)
    (value : α) :
    Function.update table entry.1 (Function.update (table entry.1) entry.2 value) e.1 e.2 =
      if e = entry then value else table e.1 e.2 := by
  by_cases radio : e.1 = entry.1
  · rw [radio, Function.update_self]
    by_cases wlan : e.2 = entry.2
    · rw [wlan, Function.update_self, if_pos (Prod.ext radio wlan)]
    · rw [Function.update_of_ne wlan, if_neg fun same => wlan (congrArg Prod.snd same)]
  · rw [Function.update_of_ne radio, if_neg fun same => radio (congrArg Prod.fst same)]

namespace Link

variable {link : Link} {indexRadio : Nat} {indexWlan : Fin wtpMaxInterfaces} {name : List UInt8}

theorem asking_of_noted
    (noted : acUpdateInfoWlan (link.radiosInfo indexRadio indexWlan).info indexWlan name =
      (link.radiosInfo indexRadio indexWlan).info) : link.asking indexRadio indexWlan name = link := by
  rw [asking, noted, setAC, Function.update_eq_self, Function.update_eq_self]

theorem gRadiosInfo_running (e : Entry) :
    (link.running indexRadio indexWlan name).gRadiosInfo e.1 e.2 =
      if e = (indexRadio, indexWlan) then (link.gRadiosInfo indexRadio indexWlan).started
        (addRequest link indexRadio indexWlan name) else link.gRadiosInfo e.1 e.2 :=
  update_entry link.gRadiosInfo (indexRadio, indexWlan) e _

theorem radiosInfo_asking (e : Entry) (other : e ≠ (indexRadio, indexWlan)) :
    (link.asking indexRadio indexWlan name).radiosInfo e.1 e.2 = link.radiosInfo e.1 e.2 := by
  have table := update_entry link.radiosInfo (indexRadio, indexWlan) e
  simp only [if_neg other] at table
  exact table _

theorem typeInterface_running (e : Entry) :
    ((link.running indexRadio indexWlan name).radiosInfo e.1 e.2).typeInterface =
      if e = (indexRadio, indexWlan) then .cwAPMode else
        (link.radiosInfo e.1 e.2).typeInterface := by
  have table := update_entry (link.asking indexRadio indexWlan name).radiosInfo
    (indexRadio, indexWlan) e
  by_cases here : e = (indexRadio, indexWlan)
  · simp only [if_pos here] at table ⊢
    exact congrArg ACInterface.typeInterface (table _)
  · simp only [if_neg here] at table ⊢
    exact congrArg ACInterface.typeInterface ((table _).trans (radiosInfo_asking e here))

theorem acNetworks_running (inside : indexRadio < link.radioCount) :
    (link.running indexRadio indexWlan name).acNetworks =
      {e | e ∈ link.acNetworks ∨ e = (indexRadio, indexWlan)} := by
  ext e
  show e.1 < link.radioCount ∧ _ = _ ↔ (e.1 < link.radioCount ∧ _ = _) ∨ e = _
  rw [typeInterface_running]
  by_cases here : e = (indexRadio, indexWlan)
  · simp [here, inside]
  · simp [here]

theorem wtpNetworks_running (inside : indexRadio < link.radioCount) :
    (link.running indexRadio indexWlan name).wtpNetworks =
      {e | e ∈ link.wtpNetworks ∨ e = (indexRadio, indexWlan)} := by
  ext e
  show e.1 < link.radioCount ∧ _ = _ ↔ (e.1 < link.radioCount ∧ _ = _) ∨ e = _
  rw [gRadiosInfo_running]
  by_cases here : e = (indexRadio, indexWlan)
  · simp [here, inside, WTPInterface.started]
  · simp [here]

end Link

/-- The entry of a pair whose radio the AC has. -/
theorem entryOf_eq {radioCount : Nat} {radioID wlanID : Int} {indexRadio : Nat}
    {indexWlan : Fin wtpMaxInterfaces} (radio : lowered radioID = indexRadio)
    (wlan : lowered wlanID = indexWlan.val) (inside : indexRadio < radioCount) :
    entryOf radioCount radioID wlanID =
      if indexRadio < wtpRadioMax then some (indexRadio, indexWlan) else none := by
  have known : (lowered wlanID).toNat = indexWlan.val := by
    rw [wlan]
    exact Int.toNat_natCast _
  have last := indexWlan.isLt
  by_cases few : indexRadio < wtpRadioMax
  · have within : (0 ≤ lowered radioID ∧ lowered radioID < radioCount ∧
        lowered radioID < wtpRadioMax) ∧
          0 ≤ lowered wlanID ∧ (lowered wlanID).toNat < wtpMaxInterfaces := by omega
    have row : (lowered radioID).toNat = indexRadio := by
      rw [radio]
      exact Int.toNat_natCast _
    rw [entryOf, dif_pos within, if_pos few]
    exact congrArg some (Prod.ext row (Fin.ext known))
  · have without : ¬ ((0 ≤ lowered radioID ∧ lowered radioID < radioCount ∧
        lowered radioID < wtpRadioMax) ∧
          0 ≤ lowered wlanID ∧ (lowered wlanID).toNat < wtpMaxInterfaces) := by omega
    rw [entryOf, dif_neg without, if_neg few]

theorem entryOf_lt {radioCount : Nat} {radioID wlanID : Int} {e : Entry}
    (found : entryOf radioCount radioID wlanID = some e) : e.1 < radioCount := by
  rw [entryOf, Option.dite_none_right_eq_some] at found
  obtain ⟨inside, same⟩ := found
  cases same
  show (lowered radioID).toNat < radioCount
  omega

/-- What an order to add a WLAN makes of a session that serves it: nothing, where the WTP refuses,
and an access point on both sides where it does not. -/
theorem exchange_of_serves (seqNum : UInt8) {link : Link} {radioID wlanID : Int} {indexRadio : Nat}
    {indexWlan : Fin wtpMaxInterfaces} {name : List UInt8} (radio : lowered radioID = indexRadio)
    (wlan : lowered wlanID = indexWlan.val) (serves : link.Serves indexRadio indexWlan name) :
    ∃ link', exchange seqNum ⟨.addWlan, lowered radioID, lowered wlanID, name⟩ link = .ok link' ∧
      (link' = link ∧ (∀ e, entryOf link.radioCount radioID wlanID = some e →
          (link.gRadiosInfo e.1 e.2).typeInterface = .cwAPMode) ∨
        link' = link.running indexRadio indexWlan name ∧
          entryOf link.radioCount radioID wlanID = some (indexRadio, indexWlan) ∧
            (link.gRadiosInfo indexRadio indexWlan).typeInterface = .cwSTAMode) := by
  obtain ⟨inside, short, settled⟩ := serves
  rw [radio, wlan, entryOf_eq radio wlan inside]
  by_cases starts : indexRadio < wtpRadioMax ∧
      (link.gRadiosInfo indexRadio indexWlan).typeInterface = .cwSTAMode
  · obtain ⟨few, free⟩ := starts
    exact ⟨_, exchange_starts seqNum indexWlan inside few short free,
      .inr ⟨rfl, if_pos few, free⟩⟩
  · have noted := settled.resolve_left starts
    have refused : wtpRadioMax ≤ indexRadio ∨
        (link.gRadiosInfo indexRadio indexWlan).typeInterface = .cwAPMode := by
      cases mode : (link.gRadiosInfo indexRadio indexWlan).typeInterface with
      | cwSTAMode => exact .inl (Nat.not_lt.mp fun few => starts ⟨few, mode⟩)
      | cwAPMode => exact .inr rfl
    have ran := exchange_refused seqNum indexWlan inside noted.1 short refused
    rw [Link.asking_of_noted noted.2] at ran
    refine ⟨link, ran, .inl ⟨rfl, ?_⟩⟩
    intro e found
    obtain ⟨few, same⟩ := Option.ite_none_right_eq_some.mp found
    cases same
    exact refused.resolve_left (Nat.not_le.mpr few)

/-- Both tables of a session have these entries. -/
structure Link.Has (link : Link) (radioCount : Nat) (entries : Set Entry) : Prop where
  radios : link.radioCount = radioCount
  ac : link.acNetworks = entries
  wtp : link.wtpNetworks = entries

/-- A session that serves an order has what it is to have, and the order has changed it only where
the WTP has not refused. -/
theorem has_of_serves (seqNum : UInt8) {link : Link} {radioCount : Nat} {entries : Set Entry}
    (has : link.Has radioCount entries) {radioID wlanID ssid tunnel : List UInt8} {indexRadio : Nat}
    {indexWlan : Fin wtpMaxInterfaces} (radio : lowered (atoiBytes radioID) = indexRadio)
    (wlan : lowered (atoiBytes wlanID) = indexWlan.val)
    (serves : link.Serves indexRadio indexWlan (networkName ssid tunnel)) :
    ∃ link', exchange seqNum ⟨.addWlan, lowered (atoiBytes radioID), lowered (atoiBytes wlanID),
        networkName ssid tunnel⟩ link = .ok link' ∧
      link'.Has radioCount
        (networksAfter radioCount entries (.add radioID wlanID ssid tunnel)) ∧
      ((WlanCommand.add radioID wlanID ssid tunnel).Refused link → link' = link) := by
  obtain ⟨radios, ac, wtp⟩ := has
  obtain ⟨link', ran, unchanged | started⟩ := exchange_of_serves seqNum radio wlan serves
  · obtain ⟨rfl, taken⟩ := unchanged
    refine ⟨link', ran, ?_, fun _ => rfl⟩
    have kept : networksAfter radioCount entries (.add radioID wlanID ssid tunnel) = entries := by
      ext e
      constructor
      · intro either
        cases either with
        | inl member => exact member
        | inr found =>
          -- what the WTP has taken is in its table
          have here : e ∈ link'.wtpNetworks := by
            have found : entryOf radioCount (atoiBytes radioID) (atoiBytes wlanID) = some e := found
            rw [← radios] at found
            exact ⟨entryOf_lt found, taken e found⟩
          rwa [wtp] at here
      · exact Or.inl
    rw [kept]
    exact ⟨radios, ac, wtp⟩
  · obtain ⟨rfl, found, free⟩ := started
    refine ⟨_, ran, ?_, fun refused => absurd free (refused _ found)⟩
    have inside := entryOf_lt found
    have added : networksAfter radioCount entries (.add radioID wlanID ssid tunnel) =
        {e | e ∈ entries ∨ e = (indexRadio, indexWlan)} := by
      ext e
      show e ∈ entries ∨ entryOf radioCount (atoiBytes radioID) (atoiBytes wlanID) = some e ↔ _
      rw [← radios, found, Option.some.injEq, eq_comm]
      exact Iff.rfl
    rw [added]
    refine ⟨radios, ?_, ?_⟩
    · rw [Link.acNetworks_running inside, ac]
    · rw [Link.wtpNetworks_running inside, wtp]

/-! ## All sessions -/

theorem selected_nodup (sessions : Sessions) (target : Target) :
    (sessions.selected target).Nodup := by
  cases target with
  | allActive =>
    rw [Sessions.selected]
    split
    · exact List.nodup_range.filter _
    · exact List.nodup_nil
  | one wtpIndex =>
    rw [Sessions.selected]
    split
    · exact List.nodup_singleton wtpIndex
    · exact List.nodup_nil

/-- Each session is the only one that its exchange changes. -/
theorem foldlM_exchange (seqNum : Nat → UInt8) (cmd : WUMWLANCmdParameters) (after : Nat → Link) :
    ∀ (selected : List Nat) (links : Nat → Link), selected.Nodup →
      (∀ i ∈ selected, exchange (seqNum i) cmd (links i) = .ok (after i)) →
      selected.foldlM (fun links i => do
        return Function.update links i (← exchange (seqNum i) cmd (links i))) links =
          .ok fun i => if i ∈ selected then after i else links i := by
  intro selected
  induction selected with
  | nil =>
    intro links _ _
    simp
    rfl
  | cons first selected inductionHypothesis =>
    intro links once exchanged
    obtain ⟨notAgain, once⟩ := List.nodup_cons.mp once
    rw [List.foldlM_cons, exchanged first List.mem_cons_self]
    have others : ∀ i ∈ selected,
        exchange (seqNum i) cmd (Function.update links first (after first) i) = .ok (after i) := by
      intro i member
      have other : i ≠ first := fun same => notAgain (same ▸ member)
      rw [Function.update_of_ne other]
      exact exchanged i (List.mem_cons_of_mem _ member)
    have rest := inductionHypothesis (Function.update links first (after first)) once others
    simp only [ok_bind, pure_bind, rest]
    congr 1
    funext i
    by_cases here : i = first
    · subst here
      simp [notAgain]
    · simp [here]

variable {sessions : Sessions} {order : Order} {reached : Nat → Link} {radioCount : Nat → Nat}
  {entries : Nat → Set Entry}

/-- The entries of a session behind an order. -/
def entriesAfter (sessions : Sessions) (radioCount i : Nat) (entries : Set Entry) (order : Order) :
    Set Entry :=
  {e | if i ∈ sessions.selected order.target then
    e ∈ networksAfter radioCount entries order.command else e ∈ entries}

/-- Where a number is negative there is no entry. -/
theorem networksAfter_negative {radioCount : Nat} {entries : Set Entry}
    {radioID wlanID ssid tunnel : List UInt8}
    (negative : lowered (atoiBytes radioID) < 0 ∨ lowered (atoiBytes wlanID) < 0) :
    networksAfter radioCount entries (.add radioID wlanID ssid tunnel) = entries := by
  have none : entryOf radioCount (atoiBytes radioID) (atoiBytes wlanID) = none := by
    rw [entryOf, dif_neg]
    omega
  ext e
  show e ∈ entries ∨ entryOf radioCount (atoiBytes radioID) (atoiBytes wlanID) = some e ↔ _
  simp [none]

theorem entriesAfter_of_notMem {radioCount i : Nat} {entries : Set Entry}
    (other : i ∉ sessions.selected order.target) :
    entriesAfter sessions radioCount i entries order = entries := by
  ext e
  simp [entriesAfter, other]

theorem entriesAfter_of_mem {radioCount i : Nat} {entries : Set Entry}
    (member : i ∈ sessions.selected order.target) :
    entriesAfter sessions radioCount i entries order =
      networksAfter radioCount entries order.command := by
  ext e
  simp [entriesAfter, member]

/-- One order.  Sessions that it is not for are left alone. -/
theorem manageOrder_kept (has : ∀ i, (reached i).Has (radioCount i) (entries i))
    (kept : order.Kept sessions reached) :
    ∃ next, manageOrder sessions order reached = .ok next ∧
      (∀ i, (next i).Has (radioCount i)
        (entriesAfter sessions (radioCount i) i (entries i) order)) ∧
      ∀ i, order.command.Refused (reached i) → next i = reached i := by
  obtain ⟨plain, kept⟩ := kept
  cases command : order.command with
  | add radioID wlanID ssid tunnel =>
    rw [command] at plain kept
    have read := read_add plain
    by_cases negative : lowered (atoiBytes radioID) < 0 ∨ lowered (atoiBytes wlanID) < 0
    · refine ⟨reached, ?_, ?_, fun _ _ => rfl⟩
      · rw [manageOrder, command, read]
        simp only [true_and]
        rw [if_pos negative]
        rfl
      · intro i
        have same : entriesAfter sessions (radioCount i) i (entries i) order = entries i := by
          by_cases member : i ∈ sessions.selected order.target
          · rw [entriesAfter_of_mem member, command, networksAfter_negative negative]
          · exact entriesAfter_of_notMem member
        rw [same]
        exact has i
    · have serves := (kept.resolve_left fun less => negative (.inl less)).resolve_left
        fun less => negative (.inr less)
      obtain ⟨indexRadio, indexWlan, radio, wlan, serves⟩ := serves
      -- The exchanges of the selected WTPs do not touch each other, so each can be run on its own link.
      have : Nonempty Link := ⟨reached 0⟩
      have steps := fun i member =>
        has_of_serves (order.seqNum i) (has i) radio wlan (serves i member)
      choose! after ran has' same using steps
      refine ⟨fun i => if i ∈ sessions.selected order.target then after i else reached i,
        ?_, ?_, ?_⟩
      · rw [manageOrder, command, read]
        simp only [true_and]
        rw [if_neg negative]
        exact foldlM_exchange order.seqNum _ after _ reached
          (selected_nodup sessions order.target) ran
      · intro i
        beta_reduce
        by_cases member : i ∈ sessions.selected order.target
        · rw [entriesAfter_of_mem member, command, if_pos member]
          exact has' i member
        · rw [entriesAfter_of_notMem member, if_neg member]
          exact has i
      · intro i refused
        beta_reduce
        by_cases member : i ∈ sessions.selected order.target
        · rw [if_pos member]
          exact same i member refused
        · exact if_neg member
  | del radioID wlanID =>
    -- No WTP is selected: a kept order deletes nothing, since the two sides would disagree then.
    rw [command] at plain kept
    have none : sessions.selected order.target = [] := kept
    refine ⟨reached, ?_, ?_, fun _ _ => rfl⟩
    · rw [manageOrder, command, read_del plain]
      simp [none]
      rfl
    · intro i
      rw [entriesAfter_of_notMem (by simp [none])]
      exact has i

/-! ## Runs -/

/-- A fresh session has no entries. -/
theorem has_of_fresh {link : Link} (fresh : link.Fresh) : link.Has link.radioCount ∅ := by
  refine ⟨rfl, ?_, ?_⟩
  · ext e
    have mode := (fresh e).1
    simp [Link.acNetworks, mode]
  · ext e
    have mode := (fresh e).2
    simp [Link.wtpNetworks, mode]

/-- The orders keep both tables, from any sessions whose tables agree. -/
theorem manageOrders_kept (sessions : Sessions) (radioCount : Nat → Nat) :
    ∀ (orders : List Order) (links : Nat → Link) (entries : Nat → Set Entry),
      (∀ i, (links i).Has (radioCount i) (entries i)) →
      (∀ done order left reached, done ++ order :: left = orders →
        manageOrders sessions done links = .ok reached → order.Kept sessions reached) →
      ∃ reached, manageOrders sessions orders links = .ok reached ∧
        ∀ i, (reached i).Has (radioCount i)
          (orders.foldl (entriesAfter sessions (radioCount i) i) (entries i)) := by
  intro orders
  induction orders with
  | nil => exact fun links entries has _ => ⟨links, rfl, has⟩
  | cons order orders inductionHypothesis =>
    intro links entries has kept
    obtain ⟨next, ran, has', _⟩ := manageOrder_kept has (kept [] order orders links rfl rfl)
    have rest := inductionHypothesis next _ has' (by
      intro done order' left reached split manages
      apply kept (order :: done) order' left reached (by rw [← split]; rfl)
      rw [manageOrders, List.foldlM_cons, ran]
      exact manages)
    obtain ⟨reached, manages, all⟩ := rest
    refine ⟨reached, ?_, all⟩
    rw [manageOrders, List.foldlM_cons, ran]
    exact manages

/-- One session, for a WTP with one radio. -/
def oneSession : Sessions := ⟨1, 1, fun _ => true⟩

def freshLink : Link where
  radioCount := 1
  radiosInfo := fun _ _ => ⟨.cwSTAMode, none, defaultWlan⟩
  gRadiosInfo := fun _ _ => ⟨.cwSTAMode, ⟨[0, 27, 99, 1, 2, 3], rfl⟩, none, none⟩

/-- `1:1:net:1` -/
def addOrder : Order := ⟨.one 0, .add [49] [49] [110, 101, 116] [49], fun _ => 7⟩

/-- `1:1` -/
def delOrder : Order := ⟨.one 0, .del [49] [49], fun _ => 8⟩

theorem freshLink_fresh : freshLink.Fresh := fun _ => ⟨rfl, rfl⟩

/-- No order that deletes a WLAN of a session is carried out. -/
theorem manageOrder_del (sessions : Sessions) (target : Target) (radioID wlanID : List UInt8)
    (seqNum : Nat → UInt8) (links : Nat → Link) (plain : (WlanCommand.del radioID wlanID).Plain)
    (some : sessions.selected target ≠ []) :
    manageOrder sessions ⟨target, .del radioID wlanID, seqNum⟩ links = .error .hangs := by
  rw [manageOrder, read_del plain]
  cases selected : sessions.selected target with
  | nil => exact absurd selected some
  | cons first selected =>
    simp only [reduceCtorEq, false_and, if_false, List.foldlM_cons, exchange_delWlan]
    rfl

end WlanController.Operator
