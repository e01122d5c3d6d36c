import Mathlib.Data.List.Perm.Subperm
import WlanController.Foundation.Pieces
import WlanController.Foundation.Run
import WlanController.Vendor.FirmwareUpdate

/-!
# Sessions of the firmware update

What is required of a session is about the fragments it has stored since the update was
requested, which the WTP itself does not remember: that it is ready with all of them, refuses
those that do not belong to the update, starts the agent when it is ready and leaves nothing
behind when it is cancelled.
-/

namespace WlanController.Vendor

open Tiling (Block)

/-! ## Messages -/

/-- What the parser returns: a fragment whose size is negative as an `int` has no buffer. -/
def CWVendorWumValues.Parsed : CWVendorWumValues → Prop
  | .cupFragment _ size buf =>
    if size.toNat < 2147483648 then ∃ bytes, buf = some bytes ∧ bytes.length = size.toNat
    else buf = none
  | _ => True

/-- A message with the space that is free when it arrives. -/
structure WUMMessage where
  values : CWVendorWumValues
  free : UInt64
  parsed : values.Parsed

theorem WUMMessage.length_buf (message : WUMMessage) {seqNum size : UInt32}
    {buf : Option (List UInt8)} (values : message.values = .cupFragment seqNum size buf)
    (small : size.toNat < 2147483648) : (buf.getD []).length = size.toNat := by
  have parsed := message.parsed
  rw [values] at parsed
  simp only [CWVendorWumValues.Parsed, if_pos small] at parsed
  obtain ⟨bytes, same, length⟩ := parsed
  rw [same]
  exact length

/-! ## Sessions -/

structure StoredFragment where
  index : Nat
  bytes : List UInt8

def StoredFragment.block (fragment : StoredFragment) : Block UInt8 :=
  ⟨fragment.index * cupFragmentSize, fragment.bytes⟩

/-- The session and the fragments stored since the last update request that was accepted. -/
structure Session where
  wum : WUMState
  stored : List StoredFragment

def Session.initial : Session := ⟨.initial, []⟩

structure Handled where
  session : Session
  success : Bool

def Session.storedAfter (s : Session) : CWVendorWumValues → List StoredFragment
  | .updateRequest .. => []
  | .cupFragment seqNum _ buf => s.stored ++ [⟨seqNum.toNat, buf.getD []⟩]
  | .plain .. => s.stored

def Session.handle (s : Session) (message : WUMMessage) : Option Handled := do
  let saved ← cwWTPSaveWUMValues s.wum message.free message.values
  return ⟨⟨saved.wum, if saved.success then s.storedAfter message.values else s.stored⟩,
    saved.success⟩

def Session.Step (s : Session) (message : WUMMessage) (s' : Session) : Prop :=
  ∃ success, s.handle message = some ⟨s', success⟩

/-! ## What is required -/

/-- Every fragment is there, and the file has as many bytes as were announced, each of which a
    fragment has sent for its position. -/
structure Session.Complete (s : Session) : Prop where
  all : ∀ i : Nat, (i : Int) < s.wum.totalFragments → ∃ fragment ∈ s.stored, fragment.index = i
  file : ∃ bytes, s.wum.tmpFile = some bytes ∧ (bytes.length : Int) = s.wum.cupSize ∧
    ∀ (position : Nat) (byte : UInt8), bytes[position]? = some byte →
      ∃ fragment ∈ s.stored, fragment.block.Contains position ∧
        fragment.block.items[position - fragment.block.start]? = some byte

/-- The size the fragment with an index has. -/
def WUMState.dueSize (s : WUMState) (index : Nat) : Int :=
  min cupFragmentSize (s.cupSize - index * cupFragmentSize)

/-- The fragment belongs to the update. -/
def WUMState.Due (s : WUMState) (seqNum size : UInt32) : Prop :=
  (seqNum.toNat : Int) < s.totalFragments ∧ (size.toNat : Int) = s.dueSize seqNum.toNat

/-- What is required of a session when it gets a message. -/
structure Session.Sound (s : Session) (message : WUMMessage) : Prop where
  completed : ∀ handled, s.handle message = some handled → s.wum.state ≠ .ready →
    handled.session.wum.state = .ready → handled.session.Complete
  refuses : ∀ seqNum size buf, message.values = .cupFragment seqNum size buf →
    ¬ s.wum.Due seqNum size → s.handle message = some ⟨s, false⟩
  commits : ∀ handled, s.handle message = some handled →
    handled.session.wum.agentStarts ≠ s.wum.agentStarts ∨
      handled.session.wum.exitOnUpdateCommit ≠ s.wum.exitOnUpdateCommit →
    message.values.type = wtpCommitUpdate ∧ s.wum.state = .ready
  cancelled : message.values.type = wtpCancelUpdateRequest →
    ∃ handled, s.handle message = some handled ∧
      handled.session.wum.state = .wait ∧ handled.session.wum.tmpFile = none

/-- What a message has to be for that: a commit comes when the session is ready, and while it is
    busy a fragment belongs to the update, and the last one makes them all different, or it is
    refused for its index. -/
def Session.Regular (s : Session) (message : WUMMessage) : Prop :=
  match message.values with
  | .cupFragment seqNum size _ => s.wum.state = .busy →
      (s.wum.Due seqNum size ∧ (s.wum.receivedFragments + 1 = s.wum.totalFragments →
        (s.stored.map StoredFragment.index ++ [seqNum.toNat]).Nodup)) ∨
      0 < s.wum.totalFragments ∧ Declined s.wum.totalFragments seqNum
  | .plain type _ => type = wtpCommitUpdate → s.wum.state = .ready
  | .updateRequest .. => True

/-! ## What a session knows -/

/-- The update of a session that is busy. -/
structure Session.Busy (s : Session) : Prop where
  opened : s.wum.cupTmp = true
  file : s.wum.tmpFile = some (SparseFile.fileOf (s.stored.map StoredFragment.block))
  counted : (s.stored.length : Int) = s.wum.receivedFragments
  small : s.wum.cupSize < 2147483648
  total : s.wum.totalFragments =
    s.wum.cupSize.tdiv cupFragmentSize + if 0 < s.wum.cupSize.tmod cupFragmentSize then 1 else 0
  due : ∀ fragment ∈ s.stored, (fragment.index : Int) < s.wum.totalFragments ∧
    (fragment.bytes.length : Int) = s.wum.dueSize fragment.index
  unfinished : 0 < s.wum.totalFragments → s.wum.receivedFragments < s.wum.totalFragments

structure Session.Inv (s : Session) : Prop where
  waiting : s.wum.state = .wait → s.wum.tmpFile = none
  busy : s.wum.state = .busy → s.Busy

/-! ## The number of fragments -/

theorem numFragments_of_nonneg (size : Nat) :
    (size : Int).tdiv cupFragmentSize + (if 0 < (size : Int).tmod cupFragmentSize then 1 else 0) =
      Pieces.count cupFragmentSize size := by
  rw [Int.tdiv_eq_ediv_of_nonneg (by omega), Int.tmod_eq_emod_of_nonneg (by omega), Pieces.count]
  split <;> split <;> simp only [cupFragmentSize] at * <;> omega

theorem numFragments_of_neg (size : Nat) :
    (-(size : Int)).tdiv cupFragmentSize +
      (if 0 < (-(size : Int)).tmod cupFragmentSize then 1 else 0) ≤ 0 := by
  rw [Int.neg_tdiv, Int.neg_tmod, Int.tdiv_eq_ediv_of_nonneg (by omega),
    Int.tmod_eq_emod_of_nonneg (by omega)]
  split <;> simp only [cupFragmentSize] at * <;> omega

/-- An update that has fragments has the pieces of its size. -/
theorem Session.Busy.total_eq {s : Session} (busy : s.Busy) (positive : 0 < s.wum.totalFragments) :
    ∃ size : Nat, s.wum.cupSize = size ∧
      s.wum.totalFragments = Pieces.count cupFragmentSize size := by
  have total := busy.total
  obtain ⟨size, same⟩ := Int.eq_nat_or_neg s.wum.cupSize
  cases same with
  | inl same =>
    rw [same, numFragments_of_nonneg] at total
    exact ⟨size, same, total⟩
  | inr same =>
    have none := numFragments_of_neg size
    rw [← same] at none
    omega

theorem mul_lt_iff_lt_count {size i : Nat} :
    i * cupFragmentSize < size ↔ i < Pieces.count cupFragmentSize size := by
  constructor
  · intro inside
    have bound := Pieces.length_le_count_mul size (show 0 < cupFragmentSize by simp [cupFragmentSize])
    exact Nat.lt_of_mul_lt_mul_right (Nat.lt_of_lt_of_le inside bound)
  · intro inside
    exact Pieces.mul_lt_length (by simp [cupFragmentSize]) inside

theorem count_le (size : Nat) : Pieces.count cupFragmentSize size ≤ size := by
  unfold Pieces.count
  split <;> simp only [cupFragmentSize] at * <;> omega

/-! ## What becomes of a fragment -/

/-- The fragments of an update lie where a file can be positioned. -/
theorem Session.Busy.due_inside {s : Session} (busy : s.Busy) {seqNum size : UInt32}
    (due : s.wum.Due seqNum size) :
    ¬ Declined s.wum.totalFragments seqNum ∧ size.toNat < 2147483648 ∧
      (fragmentOffset seqNum).toNat = seqNum.toNat * cupFragmentSize := by
  have index : (0 : Int) ≤ seqNum.toNat := by omega
  have positive : 0 < s.wum.totalFragments := lt_of_le_of_lt index due.1
  obtain ⟨whole, same, total⟩ := busy.total_eq positive
  have small := busy.small
  have below : seqNum.toNat < Pieces.count cupFragmentSize whole := by
    have below := due.1
    omega
  have inside := mul_lt_iff_lt_count.mpr below
  have offset : fragmentOffset seqNum = (seqNum.toNat * cupFragmentSize : Nat) :=
    asInt_of_lt (by omega)
  have sized := due.2
  simp only [WUMState.dueSize, cupFragmentSize] at sized inside
  have room := count_le whole
  have unsigned := Int.emod_eq_of_lt (show 0 ≤ s.wum.totalFragments by omega)
    (show s.wum.totalFragments < 4294967296 by omega)
  refine ⟨fun declined => ?_, by omega, by rw [offset]; rfl⟩
  cases declined with
  | inl above =>
    rw [unsigned] at above
    omega
  | inr before => omega

/-- The session with a fragment that has been stored. -/
def Session.store (s : Session) (seqNum : UInt32) (bytes : List UInt8) : Session where
  wum := { s.wum with
    tmpFile := s.wum.tmpFile.map
      (SparseFile.write · ⟨(fragmentOffset seqNum).toNat, bytes⟩)
    receivedFragments := s.wum.receivedFragments + 1 }
  stored := s.stored ++ [⟨seqNum.toNat, bytes⟩]

/-- The session behind the test for the last fragment. -/
def Session.finish (s : Session) : Session :=
  { s with wum := if WUMIsComplete s.wum then wumCloseFile s.wum else s.wum }

theorem Session.finish_of_complete {s : Session} (complete : WUMIsComplete s.wum) :
    s.finish = ⟨wumCloseFile s.wum, s.stored⟩ := by
  simp [finish, complete]

theorem Session.finish_of_not {s : Session} (open_ : ¬ WUMIsComplete s.wum) : s.finish = s := by
  simp [finish, open_]

section Fragment

variable {s : Session} {message : WUMMessage} {seqNum size : UInt32} {buf : Option (List UInt8)}
  (values : message.values = .cupFragment seqNum size buf)

include values

theorem handle_idle (idle : s.wum.state ≠ .busy) : s.handle message = some ⟨s, false⟩ := by
  have open_ : ¬ WUMIsComplete s.wum := fun complete => idle complete.1
  simp [Session.handle, values, cwWTPSaveWUMValues, wumStoreFragment, idle, open_]

theorem handle_declined (busy : s.wum.state = .busy)
    (declined : Declined s.wum.totalFragments seqNum) :
    s.handle message = some ⟨s.finish, false⟩ := by
  simp [Session.handle, values, cwWTPSaveWUMValues, wumStoreFragment, busy, declined,
    Session.finish]

theorem handle_stored (busy : s.wum.state = .busy) (opened : s.wum.cupTmp = true)
    (taken : ¬ Declined s.wum.totalFragments seqNum) (small : size.toNat < 2147483648) :
    s.handle message = some ⟨(s.store seqNum (buf.getD [])).finish, true⟩ := by
  have parsed := message.parsed
  rw [values] at parsed
  simp only [CWVendorWumValues.Parsed, if_pos small] at parsed
  obtain ⟨bytes, same, length⟩ := parsed
  subst same
  have read : bytesOf (some bytes) size = some bytes := by
    rw [bytesOf, Option.getD_some, if_pos ⟨length.ge, small⟩, List.take_of_length_le length.le]
  simp [Session.handle, values, cwWTPSaveWUMValues, wumStoreFragment, busy, taken, opened, read,
    Session.finish, Session.store, Session.storedAfter]

theorem handle_astray (busy : s.wum.state = .busy)
    (taken : ¬ Declined s.wum.totalFragments seqNum) (large : ¬ size.toNat < 2147483648) :
    s.handle message = none := by
  have unread : bytesOf buf size = none := by simp [bytesOf, large]
  cases opened : s.wum.cupTmp <;>
    simp [Session.handle, values, cwWTPSaveWUMValues, wumStoreFragment, busy, taken, opened, unread]

end Fragment

/-! ## The last fragment -/

/-- The indices of fragments below a number of as many are all different if and only if each is
    there. -/
theorem nodup_iff_all {indices : List Nat} {count : Nat} (length : indices.length = count)
    (below : ∀ i ∈ indices, i < count) : indices.Nodup ↔ ∀ i < count, i ∈ indices := by
  have range : (List.range count).Nodup := List.nodup_range
  constructor
  · intro different i inside
    have within : indices ⊆ List.range count := fun i member =>
      List.mem_range.mpr (below i member)
    have same := (different.subperm within).perm_of_length_le (by simp [length])
    exact same.mem_iff.mpr (List.mem_range.mpr inside)
  · intro all
    have within : List.range count ⊆ indices := fun i member => all i (List.mem_range.mp member)
    have same := (range.subperm within).perm_of_length_le (by simp [length])
    exact same.nodup_iff.mp range

/-- A fragment of an update ends inside of it. -/
theorem stop_block {s : Session} {fragment : StoredFragment} {size : Nat}
    (cupSize : s.wum.cupSize = size) (inside : fragment.index < Pieces.count cupFragmentSize size)
    (due : (fragment.bytes.length : Int) = s.wum.dueSize fragment.index) :
    fragment.block.stop = min ((fragment.index + 1) * cupFragmentSize) size := by
  have before := mul_lt_iff_lt_count.mpr inside
  simp only [WUMState.dueSize, cupSize, cupFragmentSize] at due before
  simp only [Block.stop, StoredFragment.block, cupFragmentSize]
  omega

/-- With all its fragments an update is complete. -/
theorem complete_of_all {s : Session} {size : Nat} (cupSize : s.wum.cupSize = size)
    (total : s.wum.totalFragments = Pieces.count cupFragmentSize size)
    (file : s.wum.tmpFile = some (SparseFile.fileOf (s.stored.map StoredFragment.block)))
    (due : ∀ fragment ∈ s.stored, (fragment.index : Int) < s.wum.totalFragments ∧
      (fragment.bytes.length : Int) = s.wum.dueSize fragment.index)
    (all : ∀ i < Pieces.count cupFragmentSize size, ∃ fragment ∈ s.stored, fragment.index = i) :
    s.Complete := by
  have stops : ∀ fragment ∈ s.stored,
      fragment.block.stop = min ((fragment.index + 1) * cupFragmentSize) size := by
    intro fragment member
    have here := due fragment member
    exact stop_block cupSize (by omega) here.2
  -- every position of the file belongs to the fragment with its index
  have covered : ∀ position < size, ∃ fragment ∈ s.stored, fragment.block.Contains position := by
    intro position inside
    have index : position / cupFragmentSize * cupFragmentSize < size :=
      Nat.lt_of_le_of_lt (Nat.div_mul_le_self _ _) inside
    obtain ⟨fragment, member, same⟩ := all _ (mul_lt_iff_lt_count.mp index)
    refine ⟨fragment, member, ?_⟩
    rw [Block.Contains, stops fragment member]
    simp only [StoredFragment.block, same, cupFragmentSize]
    omega
  have upper : (SparseFile.fileOf (s.stored.map StoredFragment.block)).length ≤ size := by
    apply SparseFile.length_fileOf_le
    intro block member
    obtain ⟨fragment, member, same⟩ := List.mem_map.mp member
    rw [← same, stops fragment member]
    exact Nat.min_le_right _ _
  have lower : size ≤ (SparseFile.fileOf (s.stored.map StoredFragment.block)).length := by
    cases size with
    | zero => exact Nat.zero_le _
    | succ last =>
      obtain ⟨fragment, member, inside⟩ := covered last (Nat.lt_succ_self last)
      exact SparseFile.lt_length_fileOf (List.mem_map_of_mem member) inside
  constructor
  case all => exact fun i inside => all i (by omega)
  case file =>
    refine ⟨_, file, by omega, ?_⟩
    intro position byte there
    cases SparseFile.getElem?_fileOf _ there with
    | inl found =>
      obtain ⟨block, member, found⟩ := found
      obtain ⟨fragment, stored, same⟩ := List.mem_map.mp member
      subst same
      exact ⟨fragment, stored, found⟩
    | inr free =>
      obtain ⟨room, _⟩ := List.getElem?_eq_some_iff.mp there
      obtain ⟨fragment, member, inside⟩ := covered position (by omega)
      exact absurd inside (free.2 _ (List.mem_map_of_mem member))

/-! ## What is required and what is met -/

theorem Session.Busy.received_nonneg {s : Session} (busy : s.Busy) :
    0 ≤ s.wum.receivedFragments := by
  have counted := busy.counted
  omega

/-- A session that stores a fragment that belongs to it. -/
theorem Session.Busy.store {s : Session} (busy : s.Busy) {seqNum size : UInt32}
    {bytes : List UInt8} (due : s.wum.Due seqNum size) (length : bytes.length = size.toNat)
    (unfinished : s.wum.receivedFragments + 1 < s.wum.totalFragments) :
    (s.store seqNum bytes).Busy := by
  obtain ⟨_, _, offset⟩ := busy.due_inside due
  constructor
  case opened => exact busy.opened
  case file =>
    simp [Session.store, busy.file, SparseFile.fileOf_append, StoredFragment.block, offset]
  case counted =>
    have counted := busy.counted
    simp [Session.store, counted]
  case small => exact busy.small
  case total => exact busy.total
  case due =>
    intro fragment member
    cases List.mem_append.mp member with
    | inl earlier => exact busy.due fragment earlier
    | inr last =>
      cases List.mem_singleton.mp last
      exact ⟨due.1, by rw [length]; exact due.2⟩
  case unfinished => exact fun _ => unfinished

/-- The session in which a fragment that belongs to it is stored last. -/
theorem Session.Busy.complete_store_iff {s : Session} (busy : s.Busy) {seqNum size : UInt32}
    {bytes : List UInt8} (due : s.wum.Due seqNum size) (length : bytes.length = size.toNat)
    (last : s.wum.receivedFragments + 1 = s.wum.totalFragments) :
    Session.Complete ⟨wumCloseFile (s.store seqNum bytes).wum, (s.store seqNum bytes).stored⟩ ↔
      (s.stored.map StoredFragment.index ++ [seqNum.toNat]).Nodup := by
  have counted := busy.counted
  have index := due.1
  obtain ⟨_, _, offset⟩ := busy.due_inside due
  obtain ⟨whole, cupSize, total⟩ := busy.total_eq (by omega)
  have indices : (s.store seqNum bytes).stored.map StoredFragment.index =
      s.stored.map StoredFragment.index ++ [seqNum.toNat] := by
    simp [Session.store]
  have dueAll : ∀ fragment ∈ (s.store seqNum bytes).stored,
      (fragment.index : Int) < s.wum.totalFragments ∧
        (fragment.bytes.length : Int) = s.wum.dueSize fragment.index := by
    intro fragment member
    cases List.mem_append.mp member with
    | inl earlier => exact busy.due fragment earlier
    | inr same =>
      cases List.mem_singleton.mp same
      exact ⟨due.1, by rw [length]; exact due.2⟩
  have below : ∀ i ∈ s.stored.map StoredFragment.index ++ [seqNum.toNat],
      i < Pieces.count cupFragmentSize whole := by
    rw [← indices]
    intro i member
    obtain ⟨fragment, stored, same⟩ := List.mem_map.mp member
    have inside := (dueAll fragment stored).1
    omega
  rw [nodup_iff_all (by simp; omega) below, ← indices]
  constructor
  · intro complete i inside
    obtain ⟨fragment, stored, same⟩ := complete.all i (by simp [wumCloseFile, Session.store]; omega)
    exact List.mem_map.mpr ⟨fragment, stored, same⟩
  · intro all
    refine complete_of_all cupSize total ?file dueAll fun i inside => ?member
    case file =>
      simp [Session.store, wumCloseFile, busy.file, SparseFile.fileOf_append, StoredFragment.block,
        offset]
    case member => exact List.mem_map.mp (all i inside)

/-- What does not complete the update, start the agent or cancel is sound if it is refused
    where it should be. -/
theorem sound_of_fragment {s : Session} {message : WUMMessage} {seqNum size : UInt32}
    {buf : Option (List UInt8)} (values : message.values = .cupFragment seqNum size buf)
    {handled : Handled} (handles : s.handle message = some handled)
    (completed : s.wum.state ≠ .ready → handled.session.wum.state = .ready →
      handled.session.Complete)
    (kept : handled.session.wum.agentStarts = s.wum.agentStarts ∧
      handled.session.wum.exitOnUpdateCommit = s.wum.exitOnUpdateCommit)
    (refuses : ¬ s.wum.Due seqNum size → handled = ⟨s, false⟩) : s.Sound message := by
  constructor
  case completed =>
    intro handled' handles'
    rw [handles] at handles'
    cases handles'
    exact completed
  case refuses =>
    intro seqNum' size' buf' values' notDue
    rw [values] at values'
    cases values'
    rw [handles, refuses notDue]
  case commits =>
    intro handled' handles' changed
    rw [handles] at handles'
    cases handles'
    cases changed with
    | inl started => exact absurd kept.1 started
    | inr exits => exact absurd kept.2 exits
  case cancelled =>
    intro cancel
    simp [values, CWVendorWumValues.type, wtpCupFragment, wtpCancelUpdateRequest] at cancel

/-- A fragment that belongs to the update. -/
theorem Session.Busy.sound_due_iff {s : Session} (busy : s.Busy) (phase : s.wum.state = .busy)
    {message : WUMMessage} {seqNum size : UInt32} {buf : Option (List UInt8)}
    (values : message.values = .cupFragment seqNum size buf) (due : s.wum.Due seqNum size) :
    s.Sound message ↔ (s.wum.receivedFragments + 1 = s.wum.totalFragments →
      (s.stored.map StoredFragment.index ++ [seqNum.toNat]).Nodup) := by
  obtain ⟨taken, small, _⟩ := busy.due_inside due
  have handled := handle_stored values phase busy.opened taken small
  have length : (buf.getD []).length = size.toNat := message.length_buf values small
  have unfinished := busy.unfinished (lt_of_le_of_lt (Int.natCast_nonneg _) due.1)
  have completes : WUMIsComplete (s.store seqNum (buf.getD [])).wum ↔
      s.wum.receivedFragments + 1 = s.wum.totalFragments := by
    simp only [WUMIsComplete, Session.store, phase, true_and]
    omega
  constructor
  · intro sound last
    rw [Session.finish_of_complete (completes.mpr last)] at handled
    have complete := sound.completed _ handled (by simp [phase]) rfl
    exact (busy.complete_store_iff due length last).mp complete
  · intro different
    refine sound_of_fragment values handled ?_ ?_ fun notDue => absurd due notDue
    · intro _ ready
      by_cases last : s.wum.receivedFragments + 1 = s.wum.totalFragments
      case pos =>
        rw [Session.finish_of_complete (completes.mpr last)]
        exact (busy.complete_store_iff due length last).mpr (different last)
      case neg =>
        rw [Session.finish_of_not (mt completes.mp last)] at ready
        simp [Session.store, phase] at ready
    · by_cases last : s.wum.receivedFragments + 1 = s.wum.totalFragments
      case pos =>
        rw [Session.finish_of_complete (completes.mpr last)]
        exact ⟨rfl, rfl⟩
      case neg =>
        rw [Session.finish_of_not (mt completes.mp last)]
        exact ⟨rfl, rfl⟩

/-- A fragment that does not belong to the update. -/
theorem Session.Busy.sound_stray_iff {s : Session} (busy : s.Busy) (phase : s.wum.state = .busy)
    {message : WUMMessage} {seqNum size : UInt32} {buf : Option (List UInt8)}
    (values : message.values = .cupFragment seqNum size buf) (notDue : ¬ s.wum.Due seqNum size) :
    s.Sound message ↔ 0 < s.wum.totalFragments ∧ Declined s.wum.totalFragments seqNum := by
  have received := busy.received_nonneg
  constructor
  · intro sound
    have refused := sound.refuses seqNum size buf values notDue
    have declined : Declined s.wum.totalFragments seqNum := by
      by_contra taken
      by_cases small : size.toNat < 2147483648
      case pos =>
        rw [handle_stored values phase busy.opened taken small] at refused
        simp at refused
      case neg =>
        rw [handle_astray values phase taken small] at refused
        cases refused
    refine ⟨?_, declined⟩
    rw [handle_declined values phase declined] at refused
    by_contra nothing
    have complete : WUMIsComplete s.wum := ⟨phase, by omega⟩
    have closed : (wumCloseFile s.wum).state = s.wum.state := by
      rw [Session.finish_of_complete complete] at refused
      simp only [Option.some.injEq, Handled.mk.injEq, and_true] at refused
      exact congrArg (fun s => s.wum.state) refused
    simp [wumCloseFile, phase] at closed
  · intro both
    obtain ⟨positive, declined⟩ := both
    have unfinished := busy.unfinished positive
    have handled := handle_declined values phase declined
    rw [Session.finish_of_not fun complete => complete.2 unfinished] at handled
    refine sound_of_fragment values handled ?_ ⟨rfl, rfl⟩ fun _ => rfl
    intro _ ready
    rw [phase] at ready
    cases ready

/-- What an update request leads to: nothing, or a session that is busy. -/
theorem handle_request (s : Session) {message : WUMMessage} {major minor revision : UInt8}
    {packSize : UInt32} (values : message.values = .updateRequest major minor revision packSize) :
    s.handle message = some ⟨s, false⟩ ∨
      ∃ wum, wumPrepareForUpdate s.wum (asInt packSize.toNat) = some wum ∧
        s.handle message = some ⟨⟨wum, []⟩, true⟩ := by
  simp only [Session.handle, values, cwWTPSaveWUMValues]
  split
  · exact .inl rfl
  split
  · exact .inl rfl
  cases prepared : wumPrepareForUpdate s.wum (asInt packSize.toNat) with
  | none => exact .inl rfl
  | some wum => exact .inr ⟨wum, rfl, rfl⟩

/-- A request for a newer version, for which there is room. -/
theorem handle_accepted {s : Session} {message : WUMMessage} {major minor revision : UInt8}
    {packSize : UInt32} (values : message.values = .updateRequest major minor revision packSize)
    (newer : cwWTPCheckVersion major minor revision = true)
    (room : checkFreeSpace message.free (asInt packSize.toNat) = true) {wum : WUMState}
    (prepared : wumPrepareForUpdate s.wum (asInt packSize.toNat) = some wum) :
    s.handle message = some ⟨⟨wum, []⟩, true⟩ := by
  simp [Session.handle, values, cwWTPSaveWUMValues, newer, room, prepared, Session.storedAfter]

theorem sound_request (s : Session) {message : WUMMessage} {major minor revision : UInt8}
    {packSize : UInt32} (values : message.values = .updateRequest major minor revision packSize) :
    s.Sound message := by
  have type : message.values.type = wtpUpdateRequest := by rw [values]; rfl
  constructor
  case completed =>
    intro handled handles notReady ready
    cases handle_request s values with
    | inl same =>
      rw [same] at handles
      cases handles
      exact absurd ready notReady
    | inr prepares =>
      obtain ⟨wum, prepared, same⟩ := prepares
      rw [same] at handles
      cases handles
      simp only [wumPrepareForUpdate] at prepared
      split at prepared <;> cases prepared
      cases ready
  case refuses =>
    intro seqNum size buf other
    rw [values] at other
    cases other
  case commits =>
    intro handled handles changed
    cases handle_request s values with
    | inl same =>
      rw [same] at handles
      cases handles
      simp at changed
    | inr prepares =>
      obtain ⟨wum, prepared, same⟩ := prepares
      rw [same] at handles
      cases handles
      simp only [wumPrepareForUpdate] at prepared
      split at prepared <;> cases prepared
      simp at changed
  case cancelled =>
    intro cancel
    simp [type, wtpUpdateRequest, wtpCancelUpdateRequest] at cancel

section Plain

variable {s : Session} {message : WUMMessage} {type : UInt8} {other : type ≠ 3 ∧ type ≠ 5}
  (values : message.values = .plain type other)

include values

theorem handle_commit (commit : type = wtpCommitUpdate) :
    s.handle message = some ⟨⟨{ s.wum with
      agentStarts := s.wum.agentStarts + 1, exitOnUpdateCommit := true }, s.stored⟩,
      s.wum.state = .ready⟩ := by
  have different : wtpCommitUpdate ≠ wtpVersionRequest := by
    simp [wtpCommitUpdate, wtpVersionRequest]
  simp [Session.handle, values, cwWTPSaveWUMValues, commit, different, Session.storedAfter]

theorem handle_cancel (cancel : type = wtpCancelUpdateRequest) :
    s.handle message = some ⟨⟨cancelUpdate s.wum, s.stored⟩, true⟩ := by
  have different : wtpCancelUpdateRequest ≠ wtpVersionRequest := by
    simp [wtpCancelUpdateRequest, wtpVersionRequest]
  have different' : wtpCancelUpdateRequest ≠ wtpCommitUpdate := by
    simp [wtpCancelUpdateRequest, wtpCommitUpdate]
  simp [Session.handle, values, cwWTPSaveWUMValues, cancel, different, different',
    Session.storedAfter]

theorem handle_plain (noCommit : type ≠ wtpCommitUpdate)
    (noCancel : type ≠ wtpCancelUpdateRequest) : s.handle message = some ⟨s, true⟩ := by
  by_cases version : type = wtpVersionRequest <;>
    simp [Session.handle, values, cwWTPSaveWUMValues, version, noCommit, noCancel,
      Session.storedAfter]

end Plain

theorem cancelUpdate_state (s : WUMState) : (cancelUpdate s).state = .wait := rfl

theorem Session.Inv.cancelUpdate_tmpFile {s : Session} (inv : s.Inv) :
    (cancelUpdate s.wum).tmpFile = none := by
  cases phase : s.wum.state with
  | wait => simpa [cancelUpdate, phase] using inv.waiting phase
  | busy => simp [cancelUpdate, phase]
  | ready => simp [cancelUpdate, phase]

theorem Session.Inv.sound_plain_iff {s : Session} (inv : s.Inv) {message : WUMMessage}
    {type : UInt8} {other : type ≠ 3 ∧ type ≠ 5} (values : message.values = .plain type other) :
    s.Sound message ↔ (type = wtpCommitUpdate → s.wum.state = .ready) := by
  have same : message.values.type = type := by rw [values]; rfl
  constructor
  · intro sound commit
    exact (sound.commits _ (handle_commit values commit) (.inl (by simp))).2
  · intro ready
    constructor
    case completed =>
      intro handled handles notReady readyAfter
      by_cases commit : type = wtpCommitUpdate
      case pos => exact absurd (ready commit) notReady
      case neg =>
        by_cases cancel : type = wtpCancelUpdateRequest
        case pos =>
          rw [handle_cancel values cancel] at handles
          cases handles
          cases readyAfter
        case neg =>
          rw [handle_plain values commit cancel] at handles
          cases handles
          exact absurd readyAfter notReady
    case refuses =>
      intro seqNum size buf values'
      rw [values] at values'
      cases values'
    case commits =>
      intro handled handles changed
      by_cases commit : type = wtpCommitUpdate
      case pos => exact ⟨same.trans commit, ready commit⟩
      case neg =>
        by_cases cancel : type = wtpCancelUpdateRequest
        case pos =>
          rw [handle_cancel values cancel] at handles
          cases handles
          cases phase : s.wum.state <;> simp [cancelUpdate, phase, wumCloseFile] at changed
        case neg =>
          rw [handle_plain values commit cancel] at handles
          cases handles
          simp at changed
    case cancelled =>
      intro cancel
      exact ⟨_, handle_cancel values (same.symm.trans cancel), cancelUpdate_state s.wum,
        inv.cancelUpdate_tmpFile⟩

/-- What is required is met exactly by the regular messages. -/
theorem Session.Inv.sound_iff {s : Session} (inv : s.Inv) (message : WUMMessage) :
    s.Sound message ↔ s.Regular message := by
  cases values : message.values with
  | plain type other =>
    rw [inv.sound_plain_iff values]
    simp [Session.Regular, values]
  | updateRequest major minor revision packSize =>
    have regular : s.Regular message := by simp [Session.Regular, values]
    exact iff_of_true (sound_request s values) regular
  | cupFragment seqNum size buf =>
    by_cases phase : s.wum.state = .busy
    case neg =>
      have regular : s.Regular message := by simp [Session.Regular, values, phase]
      have sound : s.Sound message :=
        sound_of_fragment values (handle_idle values phase)
          (fun notReady ready => absurd ready notReady) ⟨rfl, rfl⟩ fun _ => rfl
      exact iff_of_true sound regular
    case pos =>
      have busy := inv.busy phase
      simp only [Session.Regular, values, phase, true_imp_iff]
      by_cases due : s.wum.Due seqNum size
      case pos =>
        have taken := (busy.due_inside due).1
        rw [busy.sound_due_iff phase values due]
        simp [due, taken]
      case neg =>
        rw [busy.sound_stray_iff phase values due]
        simp [due]

/-- A session that is neither waiting nor busy has nothing to keep. -/
theorem inv_of_ready {s : Session} (ready : s.wum.state = .ready) : s.Inv := by
  constructor
  case waiting =>
    intro waiting
    rw [ready] at waiting
    cases waiting
  case busy =>
    intro busy
    rw [ready] at busy
    cases busy

theorem Session.Inv.step_plain {s s' : Session} (inv : s.Inv) {message : WUMMessage} {type : UInt8}
    {other : type ≠ 3 ∧ type ≠ 5} (values : message.values = .plain type other)
    (regular : type = wtpCommitUpdate → s.wum.state = .ready) {success : Bool}
    (handles : s.handle message = some ⟨s', success⟩) : s'.Inv := by
  by_cases commit : type = wtpCommitUpdate
  case pos =>
    rw [handle_commit values commit] at handles
    cases handles
    exact inv_of_ready (regular commit)
  case neg =>
    by_cases cancel : type = wtpCancelUpdateRequest
    case pos =>
      rw [handle_cancel values cancel] at handles
      cases handles
      exact ⟨fun _ => inv.cancelUpdate_tmpFile, fun busy => by cases busy⟩
    case neg =>
      rw [handle_plain values commit cancel] at handles
      cases handles
      exact inv

/-- The session an accepted request begins. -/
theorem busy_of_prepared {wum wum' : WUMState} {packSize : Nat}
    (prepared : wumPrepareForUpdate wum (asInt packSize) = some wum') :
    wum'.state = .busy ∧ wum'.cupSize = asInt packSize ∧ Session.Busy ⟨wum', []⟩ := by
  have small : asInt packSize < 2147483648 := Int.bmod_lt (by decide)
  generalize asInt packSize = size at prepared small
  simp only [wumPrepareForUpdate] at prepared
  split at prepared <;> cases prepared
  refine ⟨rfl, rfl, ?_⟩
  constructor
  case opened => rfl
  case file => rfl
  case counted => rfl
  case small => exact small
  case total => rfl
  case due =>
    intro fragment member
    cases member
  case unfinished => exact id

theorem Session.Inv.step_fragment {s s' : Session} (inv : s.Inv) {message : WUMMessage}
    {seqNum size : UInt32} {buf : Option (List UInt8)}
    (values : message.values = .cupFragment seqNum size buf) (sound : s.Sound message)
    {success : Bool} (handles : s.handle message = some ⟨s', success⟩) : s'.Inv := by
  by_cases phase : s.wum.state = .busy
  case neg =>
    rw [handle_idle values phase] at handles
    cases handles
    exact inv
  case pos =>
    have busy := inv.busy phase
    by_cases due : s.wum.Due seqNum size
    case neg =>
      rw [sound.refuses seqNum size buf values due] at handles
      cases handles
      exact inv
    case pos =>
      obtain ⟨taken, small, _⟩ := busy.due_inside due
      have length : (buf.getD []).length = size.toNat := message.length_buf values small
      rw [handle_stored values phase busy.opened taken small] at handles
      cases handles
      by_cases complete : WUMIsComplete (s.store seqNum (buf.getD [])).wum
      case pos =>
        rw [Session.finish_of_complete complete]
        exact inv_of_ready rfl
      case neg =>
        rw [Session.finish_of_not complete]
        have unfinished : s.wum.receivedFragments + 1 < s.wum.totalFragments := by
          by_contra finished
          exact complete ⟨phase, finished⟩
        refine ⟨fun waiting => ?_, fun _ => busy.store due length unfinished⟩
        have kept : s.wum.state = .wait := waiting
        rw [phase] at kept
        cases kept

/-- A regular message keeps what the session knows. -/
theorem Session.Inv.step {s s' : Session} (inv : s.Inv) {message : WUMMessage}
    (sound : s.Sound message) (step : s.Step message s') : s'.Inv := by
  obtain ⟨success, handles⟩ := step
  cases values : message.values with
  | plain type other =>
    exact inv.step_plain values ((inv.sound_plain_iff values).mp sound) handles
  | updateRequest major minor revision packSize =>
    cases handle_request s values with
    | inl same =>
      rw [same] at handles
      cases handles
      exact inv
    | inr prepares =>
      obtain ⟨wum, prepared, same⟩ := prepares
      rw [same] at handles
      cases handles
      obtain ⟨phase, _, busy⟩ := busy_of_prepared prepared
      refine ⟨fun waiting => ?_, fun _ => busy⟩
      have kept : wum.state = .wait := waiting
      rw [phase] at kept
      cases kept
  | cupFragment seqNum size buf => exact inv.step_fragment values sound handles

/-- What is required of a run of the WTP, from its start. -/
def SoundRun (messages : List WUMMessage) : Prop :=
  Run.AllSteps Session.Step Session.Sound .initial messages

/-- A run of regular messages. -/
def RegularRun (messages : List WUMMessage) : Prop :=
  Run.AllSteps Session.Step Session.Regular .initial messages

theorem soundRun_iff (messages : List WUMMessage) : SoundRun messages ↔ RegularRun messages := by
  have start : Session.initial.Inv := by
    constructor
    case waiting => exact fun _ => rfl
    case busy =>
      intro busy
      cases busy
  exact Run.AllSteps.congr_of_kept (fun s message inv => inv.sound_iff message)
    (fun s message s' inv sound step => inv.step sound step) start messages

end WlanController.Vendor
