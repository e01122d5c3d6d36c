import Mathlib.Data.List.Pairwise
import WlanController.Protocol.ReassemblySafety

/-!
# When a reassembled message is made of the fragments that were received

The receiver compares nothing but sizes.  Where the loop ends at the very position the
last fragment announced, the fragments it went through tile the message; it may end
elsewhere when two fragments say that they are the last.
-/

namespace WlanController.Protocol

open Tiling (Block Chain Tiles)

/-- The bytes a fragment carries, at their position in the message. -/
def byteBlock (el : CWProtocolFragment) : Block UInt8 := ⟨8 * el.fragmentOffset, el.data⟩

/-- The message consists of stored fragments of one identifier that do not overlap and
    cover every byte up to the announced size. -/
def MadeOf (fragmentsList : List CWProtocolFragment) (message : CWProtocolMessage) : Prop :=
  ∃ parts, parts ⊆ fragmentsList ∧
    (∀ el ∈ parts, ∀ el' ∈ parts, el.fragmentID = el'.fragmentID) ∧
    Tiles (parts.map byteBlock) message.contents ∧
    (message.contents.length : Int) = totalSize fragmentsList ∧
    message.msg = message.contents

/-- The bytes in the unfinished units of the fragments. -/
def unaligned (passed : List CWProtocolFragment) : Nat := (passed.map (·.data.length % 8)).sum

section Walk

variable {fragmentsList : List CWProtocolFragment}

/-- A walk falls behind by the bytes that do not fill a unit. -/
theorem Walk.position {offset final : Nat} {passed : List CWProtocolFragment}
    (walk : Walk fragmentsList offset passed final) :
    8 * final + unaligned passed = 8 * offset + (passedBytes passed).length := by
  induction walk with
  | nil offset => rfl
  | cons member notLast rest inductionHypothesis =>
    rename_i el passed final
    have units := Nat.div_add_mod el.data.length 8
    simp only [unaligned, passedBytes, List.map_cons, List.sum_cons, List.flatMap_cons,
      List.length_append] at inductionHypothesis ⊢
    omega

/-- A walk past whole units is a chain of blocks. -/
theorem Walk.chain {offset final : Nat} {passed : List CWProtocolFragment}
    (walk : Walk fragmentsList offset passed final) (aligned : unaligned passed = 0) :
    Chain (8 * offset) (passed.map byteBlock) (8 * final) := by
  induction walk with
  | nil offset => exact .nil _
  | cons member notLast rest inductionHypothesis =>
    rename_i el passed final
    have units := Nat.div_add_mod el.data.length 8
    simp only [unaligned, List.map_cons, List.sum_cons, Nat.add_eq_zero_iff] at aligned
    have stop : (byteBlock el).stop = 8 * (el.fragmentOffset + el.data.length / 8) := by
      simp only [byteBlock, Block.stop]
      omega
    have tail := inductionHypothesis aligned.2
    rw [← stop] at tail
    exact .cons tail

end Walk

/-- The loop made a message of what it walked through, and the walk ended where the last
    fragment was announced to end. -/
theorem madeOf_of_walk {fragmentsList passed : List CWProtocolFragment}
    (one : OneMessage fragmentsList) {el : CWProtocolFragment} (member : el ∈ fragmentsList)
    (walk : Walk fragmentsList 0 passed el.fragmentOffset) {size : Nat}
    (announced : totalSize fragmentsList = size)
    (fits : (passedBytes passed).length + el.data.length ≤ size)
    (ends : (8 * el.fragmentOffset + el.dataLen : Int) = size)
    (dataMsgType : Option CWDataMsgType) :
    MadeOf fragmentsList (partly (passedBytes passed ++ el.data)
      (size - ((passedBytes passed).length + el.data.length)) dataMsgType) := by
  have position := walk.position
  have length := el.dataLen_eq
  have aligned : unaligned passed = 0 := by omega
  have exact : (passedBytes passed).length + el.data.length = size := by omega
  have chain : Chain 0 (passed.map byteBlock ++ [byteBlock el]) (byteBlock el).stop :=
    Chain.concat (walk.chain aligned)
  have parts := walk.concat_subset member
  have items : (passed.map byteBlock ++ [byteBlock el]).flatMap Block.items =
      passedBytes passed ++ el.data := by
    simp [passedBytes, byteBlock, List.flatMap_map]
  refine ⟨passed ++ [el], parts, ?sameID, ?tiles, ?announced, ?whole⟩
  case sameID =>
    intro first inside second inside'
    exact one.sameID first (parts inside) second (parts inside')
  case tiles =>
    rw [contents_partly, ← items, List.map_append, List.map_singleton]
    exact chain.tiles
  case announced => rw [contents_partly, List.length_append, exact, announced]
  case whole =>
    rw [contents_partly, exact, Nat.sub_self]
    simp [partly, filled]

/-! ## Calls -/

/-- Whenever the call returns a message that came in fragments, the message is made of
    the stored fragments and the one in the packet. -/
def CallSound (fragmentsList : List CWProtocolFragment) (call : ParseCall) : Prop :=
  ∀ fragments dataMsgType fuel outcome message,
    fragmentsWith fragmentsList call = some (fragments, dataMsgType) →
    cwProtocolParseFragment fuel call.packet fragmentsList call.dataFlag call.radioMAC =
      some outcome →
    outcome.result = .ok message → MadeOf fragments message

/-- With the packet the stored fragments are complete by size, and following offsets
    from the beginning leads to a last fragment that ends elsewhere than announced. -/
def EndsElsewhere (fragmentsList : List CWProtocolFragment) (call : ParseCall) : Prop :=
  ∃ fragments dataMsgType,
    fragmentsWith fragmentsList call = some (fragments, dataMsgType) ∧ Complete fragments ∧
    ∃ el, Reached fragments el ∧ el.last = 1 ∧
      (8 * el.fragmentOffset + el.dataLen : Int) ≠ totalSize fragments

theorem callSound_of_not_endsElsewhere {fragmentsList : List CWProtocolFragment}
    (one : OneMessage fragmentsList) {call : ParseCall}
    (ends : ¬ EndsElsewhere fragmentsList call) : CallSound fragmentsList call := by
  intro fragments dataMsgType fuel outcome message extended returned result
  obtain ⟨dataFlag, radioMAC, returns⟩ := cwProtocolParseFragment_of_some extended
  rw [returns fuel] at returned
  by_cases complete : Complete fragments
  · rw [completeMessage_of_complete complete, Option.map_map, Option.map_eq_some_iff] at returned
    obtain ⟨looped, returned, rfl⟩ := returned
    simp only [Function.comp_apply] at result
    subst result
    rw [cwCreateProtocolMessage_eq_partly] at returned
    obtain ⟨passed, el, member, last, walk, room, rfl⟩ := reassemble_ok fuel returned
    have announced : totalSize fragments = (totalSize fragments).toNat := by
      rw [← complete.size, currentSize_eq, Int.toNat_natCast]
    refine madeOf_of_walk (one.fragmentsWith extended) member walk announced room ?_ dataMsgType
    by_contra elsewhere
    rw [← announced] at elsewhere
    exact ends ⟨fragments, dataMsgType, extended, complete, el, ⟨member, passed, walk⟩, last,
      elsewhere⟩
  · rw [completeMessage_of_incomplete complete] at returned
    cases returned
    cases result

/-! ## The condition is exact

A message that is made of stored fragments takes in every fragment that is not empty,
so the ones the loop went through do not overlap. -/

section Exact

variable {fragmentsList : List CWProtocolFragment}

/-- From a short fragment a walk leads nowhere. -/
theorem Walk.stuck (one : OneMessage fragmentsList) {offset final : Nat}
    {passed : List CWProtocolFragment} (walk : Walk fragmentsList offset passed final)
    {el : CWProtocolFragment} (member : el ∈ fragmentsList) (here : el.fragmentOffset = offset)
    (short : Short el) : final = offset := by
  induction walk with
  | nil offset => rfl
  | cons member' notLast rest inductionHypothesis =>
    rename_i first passed final
    obtain rfl := one.eq_of_offset member member' here
    have size := el.dataLen_eq
    have less := short.2
    have same : el.fragmentOffset + el.data.length / 8 = el.fragmentOffset := by omega
    rw [same] at inductionHypothesis
    exact inductionHypothesis rfl

/-- A walk that comes to a last fragment has passed no short one. -/
theorem Walk.long_of_last (one : OneMessage fragmentsList) {offset : Nat}
    {passed : List CWProtocolFragment} {el : CWProtocolFragment}
    (walk : Walk fragmentsList offset passed el.fragmentOffset) (member : el ∈ fragmentsList)
    (last : el.last = 1) : ∀ other ∈ passed, 8 ≤ other.data.length := by
  generalize arrives : el.fragmentOffset = final at walk
  induction walk with
  | nil => exact fun _ inside => nomatch inside
  | cons member' notLast rest inductionHypothesis =>
    rename_i first passed final
    rw [List.forall_mem_cons]
    refine ⟨eight_le_of_not_short (fun short => ?_) notLast, inductionHypothesis arrives⟩
    have size := first.dataLen_eq
    have less := short.2
    have same : first.fragmentOffset = first.fragmentOffset + first.data.length / 8 := by omega
    have stays := rest.stuck one member' same short
    rw [← same, ← arrives] at stays
    exact notLast (one.eq_of_offset member member' stays ▸ last)

theorem Walk.exists_next {offset final : Nat} {passed : List CWProtocolFragment}
    (walk : Walk fragmentsList offset passed final) {el : CWProtocolFragment}
    (arrives : el.fragmentOffset = final) :
    ∃ next ∈ passed ++ [el], next.fragmentOffset = offset := by
  cases walk with
  | nil => exact ⟨el, by simp, arrives⟩
  | cons member notLast rest => exact ⟨_, List.mem_cons_self, rfl⟩

/-- Where the fragments of a walk do not overlap, all but the last are whole units. -/
theorem Walk.aligned {offset : Nat} {passed : List CWProtocolFragment} {el : CWProtocolFragment}
    (walk : Walk fragmentsList offset passed el.fragmentOffset)
    (long : ∀ other ∈ passed, 8 ≤ other.data.length) (some : 0 < el.data.length)
    (apart : (passed ++ [el]).Pairwise fun first second =>
      (byteBlock first).Apart (byteBlock second)) : unaligned passed = 0 := by
  generalize arrives : el.fragmentOffset = final at walk
  induction walk with
  | nil => rfl
  | cons member notLast rest inductionHypothesis =>
    rename_i first passed final
    rw [List.forall_mem_cons] at long
    rw [List.cons_append, List.pairwise_cons] at apart
    have tail := inductionHypothesis long.2 apart.2 arrives
    rw [unaligned, List.map_cons, List.sum_cons, ← unaligned, tail, Nat.add_zero]
    by_contra remainder
    -- the next fragment starts inside this one
    obtain ⟨next, inside, place⟩ := rest.exists_next arrives
    have nonempty : 0 < next.data.length := by
      rcases List.mem_append.mp inside with passedNext | single
      · have wide := long.2 next passedNext
        omega
      · rwa [List.mem_singleton.mp single]
    refine apart.1 next inside (8 * next.fragmentOffset) ⟨⟨?_, ?_⟩, Nat.le_refl _, ?_⟩
    · simp only [byteBlock]
      omega
    · simp only [byteBlock, Block.stop]
      omega
    · simp only [byteBlock, Block.stop]
      omega

theorem Walk.of_snoc {offset final : Nat} {passed : List CWProtocolFragment}
    {el : CWProtocolFragment} (walk : Walk fragmentsList offset (passed ++ [el]) final) :
    Walk fragmentsList offset passed el.fragmentOffset := by
  generalize whole : passed ++ [el] = all at walk
  induction walk generalizing passed with
  | nil => cases passed <;> cases whole
  | cons member notLast rest inductionHypothesis =>
    cases passed with
    | nil =>
      cases whole
      exact .nil _
    | cons first passed =>
      cases whole
      exact .cons member notLast (inductionHypothesis rfl)

/-- The announced size is where some last fragment ends. -/
theorem exists_last_of_totalSize {fragmentsList : List CWProtocolFragment}
    (announced : totalSize fragmentsList ≠ 0) :
    ∃ el ∈ fragmentsList, el.last = 1 ∧
      totalSize fragmentsList = el.fragmentOffset * 8 + el.dataLen := by
  induction fragmentsList using List.reverseRecOn with
  | nil => exact absurd rfl announced
  | append_singleton fragmentsList el inductionHypothesis =>
    rw [totalSize, List.foldl_append, List.foldl_cons, List.foldl_nil, ← totalSize] at announced ⊢
    by_cases last : el.last = 1
    · exact ⟨el, by simp, last, if_pos last⟩
    · rw [if_neg last] at announced ⊢
      obtain ⟨other, member, isLast, ends⟩ := inductionHypothesis announced
      exact ⟨other, List.mem_append_left _ member, isLast, ends⟩

/-- Fragments that tile as many bytes as the list holds include every fragment of the
    list that is not empty. -/
theorem mem_of_tiles {parts : List CWProtocolFragment} (subset : parts ⊆ fragmentsList)
    {whole : List UInt8} (tiles : Tiles (parts.map byteBlock) whole)
    (everything : (fragmentsList.map (·.data.length)).sum ≤ whole.length)
    {el : CWProtocolFragment} (member : el ∈ fragmentsList) (some : 0 < el.data.length) :
    el ∈ parts := by
  by_contra outside
  have apart := List.pairwise_map.mp tiles.apart
  -- parts that hold something occur once, since nothing overlaps itself
  have nodup : (parts.filter (·.data.length ≠ 0)).Nodup := by
    refine (apart.filter _).imp_of_mem fun {first second} inside _ apart equal => ?_
    subst equal
    have holds : first.data.length ≠ 0 := by simpa using (List.mem_filter.mp inside).2
    exact Block.not_apart_self (Nat.pos_of_ne_zero holds) apart
  have length : whole.length ≤ (parts.map (·.data.length)).sum := by
    have blocks := tiles.length_le
    rwa [List.map_map] at blocks
  rw [← Tiling.sum_filter_ne_zero] at length
  have nothing := Tiling.weight_eq_zero_of_sum_le (·.data.length) nodup
    (fun other inside => subset (List.mem_of_mem_filter inside)) (everything.trans length) member
    (fun inside => outside (List.mem_of_mem_filter inside))
  omega

/-- Nonempty fragments that all belong to a tiling do not overlap. -/
theorem apart_of_tiles {parts : List CWProtocolFragment} (subset : parts ⊆ fragmentsList)
    {whole : List UInt8} (tiles : Tiles (parts.map byteBlock) whole)
    (everything : (fragmentsList.map (·.data.length)).sum ≤ whole.length)
    {chosen : List CWProtocolFragment} (nodup : chosen.Nodup) (walked : chosen ⊆ fragmentsList)
    (some : ∀ el ∈ chosen, 0 < el.data.length) :
    chosen.Pairwise fun first second => (byteBlock first).Apart (byteBlock second) := by
  have : Std.Symm fun first second : CWProtocolFragment =>
      (byteBlock first).Apart (byteBlock second) := ⟨fun _ _ => Block.Apart.symm⟩
  have inParts : ∀ el ∈ chosen, el ∈ parts := fun el inside =>
    mem_of_tiles subset tiles everything (walked inside) (some el inside)
  have apart := List.pairwise_map.mp tiles.apart
  exact List.Pairwise.imp_of_mem (fun inside inside' different =>
    apart.forall (inParts _ inside) (inParts _ inside') different) nodup

/-- A walk whose fragments tile the message ends where it was announced to end. -/
theorem ends_of_tiles (complete : Complete fragmentsList) {passed : List CWProtocolFragment}
    {el : CWProtocolFragment} (member : el ∈ fragmentsList)
    (walk : Walk fragmentsList 0 passed el.fragmentOffset)
    (long : ∀ other ∈ passed, 8 ≤ other.data.length) {parts : List CWProtocolFragment}
    (subset : parts ⊆ fragmentsList)
    (tiles : Tiles (parts.map byteBlock) (passedBytes passed ++ el.data))
    (announced : ((passedBytes passed ++ el.data).length : Int) = totalSize fragmentsList) :
    (8 * el.fragmentOffset + el.dataLen : Int) = totalSize fragmentsList := by
  have sum : (fragmentsList.map (·.data.length)).sum = (passedBytes passed ++ el.data).length := by
    have size := complete.size
    rw [← announced, currentSize_eq] at size
    exact_mod_cast size
  have nodup := walk.nodup_concat long
  have walked := walk.concat_subset member
  have positive : ∀ other ∈ passed, 0 < other.data.length := fun other inside =>
    Nat.lt_of_lt_of_le (by decide) (long other inside)
  have apart : ∀ chosen : List CWProtocolFragment, chosen.Sublist (passed ++ [el]) →
      (∀ other ∈ chosen, 0 < other.data.length) →
      chosen.Pairwise fun first second => (byteBlock first).Apart (byteBlock second) :=
    fun _ sublist => apart_of_tiles subset tiles sum.le (nodup.sublist sublist)
      (fun _ inside => walked (sublist.subset inside))
  have position := walk.position
  have length := el.dataLen_eq
  rw [List.length_append] at sum announced
  rcases Nat.eq_zero_or_pos el.data.length with empty | some
  · -- the walk ends with an empty fragment: what it passed last reaches to the end
    cases passed using List.reverseRecOn with
    | nil =>
      simp only [passedBytes, List.flatMap_nil, List.length_nil, empty] at announced
      exact absurd announced.symm complete.announced
    | append_singleton passed final =>
      have before := walk.of_snoc
      rw [List.forall_mem_append] at long
      have aligned := before.aligned long.1 (positive final (by simp))
        (apart _ (List.sublist_append_left _ _) positive)
      -- the fragment that announced the size is this one or holds nothing
      obtain ⟨other, inside, otherLast, ends⟩ := exists_last_of_totalSize complete.announced
      by_cases same : other = el
      · rw [ends, same, Int.mul_comm]
      · have outside : other ∉ passed ++ [final] ++ [el] := by
          intro walkedOther
          rcases List.mem_append.mp walkedOther with passedOther | single
          · exact (walk.mem passedOther).2 otherLast
          · exact same (List.mem_singleton.mp single)
        have everything : (fragmentsList.map (·.data.length)).sum ≤
            ((passed ++ [final] ++ [el]).map (·.data.length)).sum := by
          rw [sum, length_passedBytes]
          simp [Nat.add_assoc]
        have nothing := Tiling.weight_eq_zero_of_sum_le _ nodup walked everything inside outside
        have otherLength := other.dataLen_eq
        have position' := before.position
        simp only [unaligned, passedBytes, List.map_append, List.sum_append, List.map_singleton,
          List.sum_singleton, List.flatMap_append, List.flatMap_singleton, List.length_append]
          at aligned position position' announced
        omega
  · have aligned := walk.aligned long some (apart _ (List.Sublist.refl _) (by
      rw [List.forall_mem_append, List.forall_mem_singleton]
      exact ⟨positive, some⟩))
    omega

theorem not_callSound_of_endsElsewhere {fragmentsList : List CWProtocolFragment}
    (one : OneMessage fragmentsList) {call : ParseCall} (ends : EndsElsewhere fragmentsList call) :
    ¬ CallSound fragmentsList call := by
  intro sound
  obtain ⟨fragments, dataMsgType, extended, complete, el, ⟨member, passed, walk⟩, last,
    elsewhere⟩ := ends
  have one' := one.fragmentsWith extended
  have long := walk.long_of_last one' member last
  obtain ⟨fuel, dataFlag, radioMAC, room, returned⟩ :=
    cwProtocolParseFragment_of_walk extended one' complete member last walk (walk.fits member long)
  obtain ⟨parts, subset, -, tiles, announced, -⟩ :=
    sound fragments dataMsgType _ _ _ extended returned rfl
  rw [contents_partly] at tiles announced
  exact elsewhere (ends_of_tiles complete member walk long subset tiles announced)

theorem callSound_iff {fragmentsList : List CWProtocolFragment} (one : OneMessage fragmentsList)
    (call : ParseCall) : CallSound fragmentsList call ↔ ¬ EndsElsewhere fragmentsList call :=
  ⟨fun sound ends => not_callSound_of_endsElsewhere one ends sound,
    callSound_of_not_endsElsewhere one⟩

end Exact

/-! ## Runs -/

/-- The list is in order after every run, and every message of a run is made of stored
    fragments exactly when no call of the run ends elsewhere. -/
theorem cwProtocolParseFragment_sound_iff (calls : List ParseCall) :
    (∀ fragmentsList, Run.Trace ParseStep [] calls fragmentsList →
      OneMessage fragmentsList ∧ ∀ el ∈ fragmentsList, 0 ≤ el.dataLen) ∧
    (Run.AllSteps ParseStep CallSound [] calls ↔
      Run.AllSteps ParseStep (fun fragmentsList call => ¬ EndsElsewhere fragmentsList call) []
        calls) :=
  ⟨fun _ trace => ⟨oneMessage_run trace, fun el _ => dataLen_nonneg el⟩,
    Run.AllSteps.congr_of_invariant oneMessage_preserved (fun _ call one => callSound_iff one call)
      oneMessage_nil calls⟩

/-- Two fragments that say they are the last; the size of the one in front ends the
    message early, and the sizes of all three add up to what the other one announced. -/
def twoLastFragments : List CWProtocolFragment :=
  [arrivedFragment ⟨7, 5, 0⟩ [17, 18, 19, 20, 21, 22, 23, 24],
    arrivedFragment ⟨7, 0, 1⟩ [9, 10, 11, 12, 13, 14, 15, 16],
    arrivedFragment ⟨7, 2, 1⟩ [1, 2, 3, 4, 5, 6, 7, 8]]

theorem cwProtocolParseFragment_not_sound :
    ¬ Run.AllSteps ParseStep CallSound []
      [fragmentCall ⟨7, 2, 1⟩ [1, 2, 3, 4, 5, 6, 7, 8],
        fragmentCall ⟨7, 0, 1⟩ [9, 10, 11, 12, 13, 14, 15, 16],
        fragmentCall ⟨7, 5, 0⟩ [17, 18, 19, 20, 21, 22, 23, 24]] := by
  rintro ⟨-, sound⟩
  obtain ⟨_, first⟩ := fragmentsWith_fragmentCall
    (representable_plain 7 2 1 (by decide) (by decide) (by decide))
    [1, 2, 3, 4, 5, 6, 7, 8]
    (show storeFragment [] _ _ = .ok twoLastFragments.tail.tail from rfl)
  obtain ⟨_, second⟩ := fragmentsWith_fragmentCall
    (representable_plain 7 0 1 (by decide) (by decide) (by decide))
    [9, 10, 11, 12, 13, 14, 15, 16]
    (show storeFragment twoLastFragments.tail.tail _ _ = .ok twoLastFragments.tail from rfl)
  obtain ⟨_, third⟩ := fragmentsWith_fragmentCall
    (representable_plain 7 5 0 (by decide) (by decide) (by decide))
    [17, 18, 19, 20, 21, 22, 23, 24]
    (show storeFragment twoLastFragments.tail _ _ = .ok twoLastFragments from rfl)
  have short : ∀ fragments, currentSize fragments ≠ totalSize fragments → ¬ Complete fragments :=
    fun fragments different complete => different complete.size
  obtain ⟨-, sound⟩ := sound _ (parseStep_of_incomplete first (short _ (by decide)))
  obtain ⟨sound, -⟩ := sound _ (parseStep_of_incomplete second (short _ (by decide)))
  have one : OneMessage twoLastFragments.tail := by
    constructor <;> decide
  refine (callSound_iff one _).mp sound ⟨twoLastFragments, _, third, ⟨by decide, by decide⟩, ?_⟩
  exact ⟨arrivedFragment ⟨7, 0, 1⟩ [9, 10, 11, 12, 13, 14, 15, 16],
    ⟨by decide, [], .nil 0⟩, by decide, by decide⟩

end WlanController.Protocol
