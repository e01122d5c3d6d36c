import WlanController.Admission.SlotSafety

/-!
# Whose session a packet belongs to

The lookup of a session has a key of its own for each kind of packet: the control address, the
data address that the session has been bound to, and the ID in a keep-alive.  Sessions are told
apart as long as no two of them have a key in common.
-/

namespace WlanController.Admission

def Controller.Live (c : Controller) (i : Nat) : Prop :=
  i < c.gMaxWTPs ∧ (c.gWTPs i).isNotFree = true

/-- A thread of the slot has begun, and so has forgotten the session before it. -/
def Controller.Begun (c : Controller) (i : Nat) : Prop :=
  ∃ thread ∈ c.threads, thread.index = i ∧ thread.phase ≠ .starting

def Controller.Negotiated (c : Controller) (i : Nat) (sessionID : SessionID) : Prop :=
  c.Begun i ∧ (c.gWTPs i).sessionID = some sessionID

/-- The packet has the key of the session. -/
def Controller.Owns (c : Controller) (i : Nat) (packet : IncomingPacket) : Prop :=
  match packet.channel with
  | .control => sameAddress packet.sender (c.gWTPs i).address = true
  | .data => sameAddress packet.sender (c.gWTPs i).dataaddress = true
  | .keepAlive sessionID =>
      c.Negotiated i sessionID ∨ sameAddress packet.sender (c.gWTPs i).dataaddress = true

/-- The packet has the key in the slot, whichever session has left it there. -/
def Controller.Matches (c : Controller) (i : Nat) (packet : IncomingPacket) : Prop :=
  match packet.channel with
  | .control => sameAddress packet.sender (c.gWTPs i).address = true
  | .data => sameAddress packet.sender (c.gWTPs i).dataaddress = true
  | .keepAlive sessionID =>
      (c.gWTPs i).sessionID = some sessionID ∨
        sameAddress packet.sender (c.gWTPs i).dataaddress = true

structure Demultiplexed (c : Controller) (packet : IncomingPacket) : Prop where
  returned : ∀ i, cwWTPByAddress c.gMaxWTPs c.gWTPs packet = .found i → c.Live i ∧ c.Owns i packet
  defined : cwWTPByAddress c.gMaxWTPs c.gWTPs packet ≠ .crashed
  unique : ∀ i j, c.Live i → c.Live j → c.Matches i packet → c.Matches j packet → i = j

/-- A keep-alive with this ID that comes from the data address of a session has the ID of no
    other session. -/
def Controller.OwnAddress (c : Controller) (sender : CWNetworkLev4Address) (sessionID : SessionID) :
    Prop :=
  ∀ i j, c.Live i → c.Live j → sameAddress sender (c.gWTPs i).dataaddress = true →
    (c.gWTPs j).sessionID = some sessionID → i = j

/-- When the packet can be told apart by the table, if no two sessions have a key in common. -/
def Distinguishes (c : Controller) (packet : IncomingPacket) : Prop :=
  match packet.channel with
  | .control | .data => True
  | .keepAlive sessionID =>
      (∀ i, c.Live i → (c.gWTPs i).sessionID = none →
        ∃ j < i, c.Live j ∧ slotMatches (c.gWTPs j) packet = some true) ∧
      c.OwnAddress packet.sender sessionID ∧
      ∀ i, c.Live i → (c.gWTPs i).sessionID = some sessionID →
        c.Begun i ∨ sameAddress packet.sender (c.gWTPs i).dataaddress = true

/-- The step gives no session a key of another one. -/
def KeepsApart (c : Controller) : Event → Prop
  | .incoming packet =>
      (Reserves c packet →
        ∀ i, c.Live i → sameAddress packet.sender (c.gWTPs i).address = false) ∧
      ∀ sessionID, packet.channel = .keepAlive sessionID → c.OwnAddress packet.sender sessionID
  | .start _ specific => specific = true
  | .saveSessionID k sessionID =>
      ∀ i j, c.threadIn k .running = some i → c.Live j → c.Negotiated j sessionID → j = i
  | .create _ | .leave _ | .release _ => True

/-- No two sessions have a key in common. -/
structure Apart (c : Controller) : Prop where
  address : ∀ i j, c.Live i → c.Live j →
    sameAddress (c.gWTPs i).address (c.gWTPs j).address = true → i = j
  dataaddress : ∀ i j, c.Live i → c.Live j →
    sameAddress (c.gWTPs i).dataaddress (c.gWTPs j).dataaddress = true → i = j
  sessionID : ∀ i j sessionID, c.Live i → c.Live j →
    c.Negotiated i sessionID → c.Negotiated j sessionID → i = j

variable {c c' : Controller} {event : Event} {packet : IncomingPacket}

/-! ## Addresses -/

theorem sameAddress_iff {address1 address2 : CWNetworkLev4Address} :
    sameAddress address1 address2 = true ↔
      ∃ sinAddr sinPort, address1 = .inet sinAddr sinPort ∧ address2 = .inet sinAddr sinPort := by
  cases address1 with
  | unspec => simp [sameAddress, sockCmpAddr]
  | other => simp [sameAddress, sockCmpAddr]
  | inet sinAddr sinPort =>
    cases address2 with
    | unspec => simp [sameAddress, sockCmpAddr]
    | other => simp [sameAddress, sockCmpAddr]
    | inet sinAddr' sinPort' =>
      constructor
      · intro same
        simp only [sameAddress, sockCmpAddr, sockCmpPort, Bool.and_eq_true] at same
        obtain ⟨addr, port⟩ := same
        split at addr
        next sameAddr =>
          split at port
          next samePort => exact ⟨sinAddr, sinPort, rfl, by rw [sameAddr, samePort]⟩
          next => cases port
        next => cases addr
      · intro ⟨_, _, first, second⟩
        cases first
        cases second
        simp [sameAddress, sockCmpAddr, sockCmpPort]

/-- Two addresses that a sender has are the same. -/
theorem sameAddress_trans {sender address1 address2 : CWNetworkLev4Address}
    (first : sameAddress sender address1 = true) (second : sameAddress sender address2 = true) :
    sameAddress address1 address2 = true := by
  obtain ⟨sinAddr, sinPort, rfl, rfl⟩ := sameAddress_iff.mp first
  exact second

theorem sameAddress_symm {address1 address2 : CWNetworkLev4Address}
    (same : sameAddress address1 address2 = true) : sameAddress address2 address1 = true := by
  obtain ⟨sinAddr, sinPort, rfl, rfl⟩ := sameAddress_iff.mp same
  exact same

/-! ## The lookup -/

/-- The lookup has passed these slots. -/
def Passed (gWTPs : Nat → SessionSlot) (packet : IncomingPacket) (start stop : Nat) : Prop :=
  ∀ j, start ≤ j → j < stop → (gWTPs j).isNotFree = true → slotMatches (gWTPs j) packet = some false

theorem passed_succ {gWTPs : Nat → SessionSlot} {start stop : Nat}
    (here : (gWTPs start).isNotFree = true → slotMatches (gWTPs start) packet = some false)
    (later : Passed gWTPs packet (start + 1) stop) : Passed gWTPs packet start stop := by
  intro j low high live
  cases Nat.eq_or_lt_of_le low with
  | inl same =>
    subst same
    exact here live
  | inr after => exact later j after high live

/-- Where the lookup ends, in the slots of a range. -/
def EndsAt (gWTPs : Nat → SessionSlot) (packet : IncomingPacket) (start stop : Nat) : Lookup → Prop
  | .found i => start ≤ i ∧ i < stop ∧ (gWTPs i).isNotFree = true ∧
      slotMatches (gWTPs i) packet = some true ∧ Passed gWTPs packet start i
  | .notFound => Passed gWTPs packet start stop
  | .crashed => ∃ i, start ≤ i ∧ i < stop ∧ (gWTPs i).isNotFree = true ∧
      slotMatches (gWTPs i) packet = none ∧ Passed gWTPs packet start i

theorem endsAt_succ {gWTPs : Nat → SessionSlot} {start stop : Nat} {result : Lookup}
    (here : (gWTPs start).isNotFree = true → slotMatches (gWTPs start) packet = some false)
    (later : EndsAt gWTPs packet (start + 1) stop result) : EndsAt gWTPs packet start stop result := by
  cases result with
  | found i =>
    obtain ⟨low, high, live, matched, before⟩ := later
    exact ⟨Nat.le_of_succ_le low, high, live, matched, passed_succ here before⟩
  | notFound => exact passed_succ here later
  | crashed =>
    obtain ⟨i, low, high, live, unset, before⟩ := later
    exact ⟨i, Nat.le_of_succ_le low, high, live, unset, passed_succ here before⟩

theorem lookupIn_endsAt (gWTPs : Nat → SessionSlot) (packet : IncomingPacket)
    (length start : Nat) :
    EndsAt gWTPs packet start (start + length)
      (lookupIn gWTPs packet (List.range' start length)) := by
  induction length generalizing start with
  | zero =>
    intro j low high
    omega
  | succ length inductionHypothesis =>
    have later := inductionHypothesis (start + 1)
    rw [Nat.add_assoc, Nat.add_comm 1] at later
    have empty : Passed gWTPs packet start start := fun j low high => absurd low (by omega)
    rw [List.range'_succ, lookupIn]
    split
    next live =>
      split
      next unset => exact ⟨start, Nat.le_refl start, by omega, live, unset, empty⟩
      next matched => exact ⟨Nat.le_refl start, by omega, live, matched, empty⟩
      next differs => exact endsAt_succ (fun _ => differs) later
    next free => exact endsAt_succ (fun live => absurd live free) later

/-- Each packet ends the lookup as it should. -/
theorem cwWTPByAddress_endsAt (c : Controller) (packet : IncomingPacket) :
    EndsAt c.gWTPs packet 0 c.gMaxWTPs (cwWTPByAddress c.gMaxWTPs c.gWTPs packet) := by
  have ends := lookupIn_endsAt c.gWTPs packet c.gMaxWTPs 0
  rwa [Nat.zero_add, ← List.range_eq_range'] at ends

/-- The key in the slot decides, where there is an ID to compare. -/
theorem slotMatches_iff {i : Nat} {result : Bool}
    (compared : slotMatches (c.gWTPs i) packet = some result) :
    c.Matches i packet ↔ result = true := by
  cases channel : packet.channel with
  | control =>
    simp only [slotMatches, channel, Option.some.injEq] at compared
    simp only [Controller.Matches, channel, compared]
  | data =>
    simp only [slotMatches, channel, Option.some.injEq] at compared
    simp only [Controller.Matches, channel, compared]
  | keepAlive sessionID =>
    simp only [slotMatches, channel, Option.map_eq_some_iff] at compared
    obtain ⟨stored, has, same⟩ := compared
    simp [Controller.Matches, channel, has, ← same]

theorem slotMatches_eq_none_iff {slot : SessionSlot} : slotMatches slot packet = none ↔
    (∃ sessionID, packet.channel = .keepAlive sessionID) ∧ slot.sessionID = none := by
  cases channel : packet.channel with
  | control => simp [slotMatches, channel]
  | data => simp [slotMatches, channel]
  | keepAlive sessionID => simp [slotMatches, channel]

/-! ## One packet -/

theorem Controller.Owns.matches {i : Nat} (owns : c.Owns i packet) : c.Matches i packet := by
  unfold Controller.Owns at owns
  unfold Controller.Matches
  cases channel : packet.channel with
  | control => rwa [channel] at owns
  | data => rwa [channel] at owns
  | keepAlive sessionID =>
    rw [channel] at owns
    exact owns.imp_left fun negotiated => negotiated.2

/-- A packet that no ID is compared for. -/
theorem Apart.demultiplexed_of_address (apart : Apart c)
    (address : ∀ sessionID, packet.channel ≠ .keepAlive sessionID) : Demultiplexed c packet := by
  have ends := cwWTPByAddress_endsAt c packet
  refine ⟨?_, ?_, ?_⟩
  · intro i found
    rw [found] at ends
    obtain ⟨-, inside, live, matched, -⟩ := ends
    have has := (slotMatches_iff matched).mpr rfl
    refine ⟨⟨inside, live⟩, ?_⟩
    cases channel : packet.channel with
    | control => simpa [Controller.Owns, Controller.Matches, channel] using has
    | data => simpa [Controller.Owns, Controller.Matches, channel] using has
    | keepAlive sessionID => exact absurd channel (address sessionID)
  · intro crashed
    rw [crashed] at ends
    obtain ⟨i, -, -, -, unset, -⟩ := ends
    obtain ⟨⟨sessionID, channel⟩, -⟩ := slotMatches_eq_none_iff.mp unset
    exact address sessionID channel
  · intro i j live live' has has'
    cases channel : packet.channel with
    | control =>
      simp only [Controller.Matches, channel] at has has'
      exact apart.address i j live live' (sameAddress_trans has has')
    | data =>
      simp only [Controller.Matches, channel] at has has'
      exact apart.dataaddress i j live live' (sameAddress_trans has has')
    | keepAlive sessionID => exact absurd channel (address sessionID)

section KeepAlive

variable {sessionID : SessionID} (channel : packet.channel = .keepAlive sessionID)

include channel

theorem matches_keepAlive_iff {i : Nat} : c.Matches i packet ↔
    (c.gWTPs i).sessionID = some sessionID ∨
      sameAddress packet.sender (c.gWTPs i).dataaddress = true := by
  rw [Controller.Matches, channel]

theorem owns_keepAlive_iff {i : Nat} : c.Owns i packet ↔
    c.Negotiated i sessionID ∨ sameAddress packet.sender (c.gWTPs i).dataaddress = true := by
  rw [Controller.Owns, channel]

theorem distinguishes_keepAlive_iff : Distinguishes c packet ↔
    (∀ i, c.Live i → (c.gWTPs i).sessionID = none →
      ∃ j < i, c.Live j ∧ slotMatches (c.gWTPs j) packet = some true) ∧
    c.OwnAddress packet.sender sessionID ∧
    ∀ i, c.Live i → (c.gWTPs i).sessionID = some sessionID →
      c.Begun i ∨ sameAddress packet.sender (c.gWTPs i).dataaddress = true := by
  rw [Distinguishes, channel]

/-- A slot that has no ID stops the lookup, unless it ends before. -/
theorem Demultiplexed.matched_before (demultiplexed : Demultiplexed c packet) {i : Nat}
    (live : c.Live i) (unset : (c.gWTPs i).sessionID = none) :
    ∃ j < i, c.Live j ∧ slotMatches (c.gWTPs j) packet = some true := by
  have stops : slotMatches (c.gWTPs i) packet = none :=
    slotMatches_eq_none_iff.mpr ⟨⟨sessionID, channel⟩, unset⟩
  have ends := cwWTPByAddress_endsAt c packet
  cases result : cwWTPByAddress c.gMaxWTPs c.gWTPs packet with
  | crashed => exact absurd result demultiplexed.defined
  | notFound =>
    rw [result] at ends
    have passed := ends i (Nat.zero_le i) live.1 live.2
    rw [stops] at passed
    cases passed
  | found j =>
    rw [result] at ends
    obtain ⟨-, inside, live', matched, before⟩ := ends
    refine ⟨j, ?_, ⟨inside, live'⟩, matched⟩
    cases Nat.lt_trichotomy j i with
    | inl earlier => exact earlier
    | inr notEarlier =>
      cases notEarlier with
      | inl same =>
        rw [same, stops] at matched
        cases matched
      | inr later =>
        have passed := before i (Nat.zero_le i) later live.2
        rw [stops] at passed
        cases passed

theorem Demultiplexed.distinguishes (demultiplexed : Demultiplexed c packet) :
    Distinguishes c packet := by
  refine (distinguishes_keepAlive_iff channel).mpr ⟨?_, ?_, ?_⟩
  · intro i live unset
    exact demultiplexed.matched_before channel live unset
  · intro i j live live' address has
    exact demultiplexed.unique i j live live' ((matches_keepAlive_iff channel).mpr (.inr address))
      ((matches_keepAlive_iff channel).mpr (.inl has))
  · intro i live has
    have here := (matches_keepAlive_iff channel).mpr (.inl has)
    have ends := cwWTPByAddress_endsAt c packet
    cases result : cwWTPByAddress c.gMaxWTPs c.gWTPs packet with
    | crashed => exact absurd result demultiplexed.defined
    | notFound =>
      rw [result] at ends
      cases (slotMatches_iff (ends i (Nat.zero_le i) live.1 live.2)).mp here
    | found j =>
      rw [result] at ends
      obtain ⟨-, -, -, matched, -⟩ := ends
      obtain ⟨live', owns⟩ := demultiplexed.returned j result
      -- the slot that is returned is this one
      obtain rfl := demultiplexed.unique i j live live' here owns.matches
      exact ((owns_keepAlive_iff channel).mp owns).imp_left fun negotiated => negotiated.1

theorem Apart.demultiplexed (apart : Apart c) (distinguishes : Distinguishes c packet) :
    Demultiplexed c packet := by
  obtain ⟨set, own, begun⟩ := (distinguishes_keepAlive_iff channel).mp distinguishes
  have ends := cwWTPByAddress_endsAt c packet
  refine ⟨?_, ?_, ?_⟩
  · intro i found
    rw [found] at ends
    obtain ⟨-, inside, live, matched, -⟩ := ends
    refine ⟨⟨inside, live⟩, (owns_keepAlive_iff channel).mpr ?_⟩
    cases (matches_keepAlive_iff channel).mp ((slotMatches_iff matched).mpr rfl) with
    | inl has => exact (begun i ⟨inside, live⟩ has).imp_left fun begun => ⟨begun, has⟩
    | inr address => exact .inr address
  · intro crashed
    rw [crashed] at ends
    obtain ⟨i, -, inside, live, unset, before⟩ := ends
    obtain ⟨j, earlier, live', matched⟩ :=
      set i ⟨inside, live⟩ (slotMatches_eq_none_iff.mp unset).2
    have passed := before j (Nat.zero_le j) earlier live'.2
    rw [matched] at passed
    cases passed
  · intro i j live live' here here'
    cases (matches_keepAlive_iff channel).mp here with
    | inr address =>
      cases (matches_keepAlive_iff channel).mp here' with
      | inr address' => exact apart.dataaddress i j live live' (sameAddress_trans address address')
      | inl has' => exact own i j live live' address has'
    | inl has =>
      cases (matches_keepAlive_iff channel).mp here' with
      | inr address' => exact (own j i live' live address' has).symm
      | inl has' =>
        cases begun i live has with
        | inr address => exact own i j live live' address has'
        | inl begun' =>
          cases begun j live' has' with
          | inr address' => exact (own j i live' live address' has).symm
          | inl begun'' =>
            exact apart.sessionID i j sessionID live live' ⟨begun', has⟩ ⟨begun'', has'⟩

end KeepAlive

theorem Apart.demultiplexed_iff (apart : Apart c) (packet : IncomingPacket) :
    Demultiplexed c packet ↔ Distinguishes c packet := by
  cases channel : packet.channel with
  | control =>
    have always : Distinguishes c packet := by
      rw [Distinguishes, channel]
      trivial
    exact iff_of_true (apart.demultiplexed_of_address (by simp [channel])) always
  | data =>
    have always : Distinguishes c packet := by
      rw [Distinguishes, channel]
      trivial
    exact iff_of_true (apart.demultiplexed_of_address (by simp [channel])) always
  | keepAlive sessionID =>
    exact ⟨fun demultiplexed => demultiplexed.distinguishes channel,
      fun distinguishes => apart.demultiplexed channel distinguishes⟩

/-! ## Runs -/

/-- One slot changes, and has afterwards nothing in common with another that is live. -/
theorem separate_update {live live' : Nat → Prop} {common common' : Nat → Nat → Prop}
    (separate : ∀ j k, live j → live k → common j k → j = k) (i : Nat)
    (lives : ∀ j, j ≠ i → live' j → live j)
    (kept : ∀ j k, j ≠ i → k ≠ i → common' j k → common j k)
    (symm : ∀ j k, common' j k → common' k j)
    (alone : live' i → ∀ j, j ≠ i → live j → ¬ common' i j) :
    ∀ j k, live' j → live' k → common' j k → j = k := by
  intro j k here here' shared
  by_cases first : j = i
  · subst first
    by_cases second : k = j
    · exact second.symm
    · exact absurd shared (alone here k second (lives k second here'))
  · by_cases second : k = i
    · subst second
      exact absurd (symm j k shared) (alone here' j first (lives j first here))
    · exact separate j k (lives j first here) (lives k second here') (kept j k first second shared)

/-- One slot changes, and gets no key of another live one. -/
theorem Apart.update (apart : Apart c) (i : Nat) (gMaxWTPs : c'.gMaxWTPs = c.gMaxWTPs)
    (others : ∀ j, j ≠ i → c'.gWTPs j = c.gWTPs j) (begun : ∀ j, j ≠ i → c'.Begun j → c.Begun j)
    (address : c'.Live i → ∀ j, j ≠ i → c.Live j →
      sameAddress (c'.gWTPs i).address (c.gWTPs j).address = false)
    (dataaddress : c'.Live i → ∀ j, j ≠ i → c.Live j →
      sameAddress (c'.gWTPs i).dataaddress (c.gWTPs j).dataaddress = false)
    (sessionID : c'.Live i → ∀ j sessionID, j ≠ i → c.Live j →
      c'.Negotiated i sessionID → ¬ c.Negotiated j sessionID) : Apart c' := by
  have lives : ∀ j, j ≠ i → c'.Live j → c.Live j := by
    intro j different live
    rwa [Controller.Live, gMaxWTPs, others j different] at live
  have negotiated : ∀ j sessionID, j ≠ i → c'.Negotiated j sessionID → c.Negotiated j sessionID := by
    intro j sessionID different has
    exact ⟨begun j different has.1, others j different ▸ has.2⟩
  refine ⟨?_, ?_, ?_⟩
  · refine separate_update apart.address i lives ?_ (fun j k => sameAddress_symm) ?_
    · intro j k first second same
      rwa [others j first, others k second] at same
    · intro live j different live'
      rw [others j different, address live j different live']
      exact Bool.false_ne_true
  · refine separate_update apart.dataaddress i lives ?_ (fun j k => sameAddress_symm) ?_
    · intro j k first second same
      rwa [others j first, others k second] at same
    · intro live j different live'
      rw [others j different, dataaddress live j different live']
      exact Bool.false_ne_true
  · intro j k sessionID' live live' has has'
    refine @separate_update c.Live c'.Live
      (fun j k => c.Negotiated j sessionID' ∧ c.Negotiated k sessionID')
      (fun j k => c'.Negotiated j sessionID' ∧ c'.Negotiated k sessionID')
      (fun j k live live' has => apart.sessionID j k sessionID' live live' has.1 has.2)
      i lives ?_ (fun j k has => has.symm) ?_ j k live live' ⟨has, has'⟩
    · intro j k first second has
      exact ⟨negotiated j sessionID' first has.1, negotiated k sessionID' second has.2⟩
    · intro live j different live' has
      exact sessionID live j sessionID' different live' has.1 (negotiated j sessionID' different has.2)

/-- No slot gets a key, and none becomes live. -/
theorem Apart.of_fewer (apart : Apart c) (lives : ∀ j, c'.Live j → c.Live j)
    (begun : ∀ j, c'.Begun j → c.Begun j)
    (address : ∀ j, (c'.gWTPs j).address = (c.gWTPs j).address)
    (dataaddress : ∀ j, (c'.gWTPs j).dataaddress = (c.gWTPs j).dataaddress)
    (sessionID : ∀ j, (c'.gWTPs j).sessionID = (c.gWTPs j).sessionID) : Apart c' := by
  have negotiated : ∀ j sessionID, c'.Negotiated j sessionID → c.Negotiated j sessionID :=
    fun j _ has => ⟨begun j has.1, sessionID j ▸ has.2⟩
  refine ⟨?_, ?_, ?_⟩
  · intro i j live live' same
    rw [address, address] at same
    exact apart.address i j (lives i live) (lives j live') same
  · intro i j live live' same
    rw [dataaddress, dataaddress] at same
    exact apart.dataaddress i j (lives i live) (lives j live') same
  · intro i j sessionID' live live' has has'
    exact apart.sessionID i j sessionID' (lives i live) (lives j live')
      (negotiated i sessionID' has) (negotiated j sessionID' has')

theorem Apart.freeSlot (apart : Apart c) {i : Nat} (gMaxWTPs : c'.gMaxWTPs = c.gMaxWTPs)
    (gWTPs : c'.gWTPs = Function.update c.gWTPs i { c.gWTPs i with isNotFree := false })
    (begun : ∀ j, c'.Begun j → c.Begun j) : Apart c' := by
  have slots : ∀ j, c'.gWTPs j =
      if j = i then { c.gWTPs j with isNotFree := false } else c.gWTPs j := by
    intro j
    rw [gWTPs]
    exact modifySlot_apply c i j fun slot => { slot with isNotFree := false }
  refine apart.of_fewer ?_ begun ?_ ?_ ?_
  · intro j ⟨inside, live⟩
    rw [slots] at live
    split at live
    next => cases live
    next => exact ⟨gMaxWTPs ▸ inside, live⟩
  · intro j
    rw [slots]
    split <;> rfl
  · intro j
    rw [slots]
    split <;> rfl
  · intro j
    rw [slots]
    split <;> rfl

section Others

variable (apart : Apart c) {i j : Nat} (live : c.Live i) (different : j ≠ i) (live' : c.Live j)

include apart live different live'

theorem Apart.address_ne : sameAddress (c.gWTPs i).address (c.gWTPs j).address = false := by
  rw [← Bool.not_eq_true]
  exact fun same => different (apart.address i j live live' same).symm

theorem Apart.dataaddress_ne :
    sameAddress (c.gWTPs i).dataaddress (c.gWTPs j).dataaddress = false := by
  rw [← Bool.not_eq_true]
  exact fun same => different (apart.dataaddress i j live live' same).symm

theorem Apart.not_negotiated {sessionID : SessionID} (has : c.Negotiated i sessionID) :
    ¬ c.Negotiated j sessionID :=
  fun has' => different (apart.sessionID i j sessionID live live' has has').symm

end Others

theorem begun_setPhase {k i j : Nat} {phase : Phase} (begun : (c.setPhase k i phase).Begun j) :
    c.Begun j ∨ j = i := by
  obtain ⟨thread, member, same, started⟩ := begun
  cases List.mem_or_eq_of_mem_set member with
  | inl before => exact .inl ⟨thread, before, same, started⟩
  | inr new => exact .inr (by rw [← same, new])

theorem begun_of_threadIn {k i : Nat} {phase : Phase} (here : c.threadIn k phase = some i)
    (started : phase ≠ .starting) : c.Begun i :=
  ⟨⟨i, phase⟩, List.mem_of_getElem? (threadIn_eq_some_iff.mp here), rfl, started⟩

/-- A packet of a session that has no data address yet is told by the ID. -/
theorem keepAlive_of_unspec {i : Nat} (found : cwWTPByAddress c.gMaxWTPs c.gWTPs packet = .found i)
    (data : packet.channel ≠ .control) (unspec : (c.gWTPs i).dataaddress = .unspec) :
    ∃ sessionID, packet.channel = .keepAlive sessionID ∧
      (c.gWTPs i).sessionID = some sessionID := by
  have ends := cwWTPByAddress_endsAt c packet
  rw [found] at ends
  obtain ⟨-, -, -, matched, -⟩ := ends
  have has := (slotMatches_iff matched).mpr rfl
  have unbound : ¬ sameAddress packet.sender (c.gWTPs i).dataaddress = true := by
    rw [unspec, sameAddress_iff]
    intro ⟨_, _, _, same⟩
    cases same
  cases channel : packet.channel with
  | control => exact absurd channel data
  | data =>
    rw [Controller.Matches, channel] at has
    exact absurd has unbound
  | keepAlive sessionID =>
    exact ⟨sessionID, rfl, ((matches_keepAlive_iff channel).mp has).resolve_right unbound⟩

theorem Apart.bind (apart : Apart c) {i : Nat}
    (found : cwWTPByAddress c.gMaxWTPs c.gWTPs packet = .found i) (data : packet.channel ≠ .control)
    (own : ∀ sessionID, packet.channel = .keepAlive sessionID → c.OwnAddress packet.sender sessionID) :
    Apart (c.modifySlot i (bindDataAddress packet.sender)) := by
  have ends := cwWTPByAddress_endsAt c packet
  rw [found] at ends
  obtain ⟨-, inside, live, -⟩ := ends
  by_cases unspec : (c.gWTPs i).dataaddress = .unspec
  · obtain ⟨sessionID, channel, has⟩ := keepAlive_of_unspec found data unspec
    have bound : bindDataAddress packet.sender (c.gWTPs i) =
        { c.gWTPs i with dataaddress := packet.sender } := if_pos unspec
    refine apart.update i rfl (fun j different => modifySlot_of_ne c _ different)
      (fun j _ begun => begun) ?_ ?_ ?_
    · intro _ j different live'
      rw [modifySlot_self, bound]
      exact apart.address_ne ⟨inside, live⟩ different live'
    · intro _ j different live'
      rw [modifySlot_self, bound, ← Bool.not_eq_true]
      -- otherwise the packet would have the ID of another session than that of its address
      exact fun same => different (own sessionID channel j i live' ⟨inside, live⟩ same has)
    · intro _ j sessionID' different live' has'
      refine apart.not_negotiated ⟨inside, live⟩ different live' ⟨has'.1, ?_⟩
      have stored := has'.2
      rwa [modifySlot_self, bound] at stored
  · have unchanged : ∀ j, (c.modifySlot i (bindDataAddress packet.sender)).gWTPs j = c.gWTPs j := by
      intro j
      rw [modifySlot_apply]
      split
      next same => rw [same, bindDataAddress, if_neg unspec]
      next => rfl
    refine apart.of_fewer ?_ (fun j begun => begun) ?_ ?_ ?_
    · intro j live'
      rwa [Controller.Live, unchanged j] at live'
    · exact fun j => by rw [unchanged]
    · exact fun j => by rw [unchanged]
    · exact fun j => by rw [unchanged]

theorem Apart.reserve (apart : Apart c) (placed : Placed c)
    (other : ∀ i, c.Live i → sameAddress packet.sender (c.gWTPs i).address = false) :
    Apart (c.reserve packet) := by
  have here : (c.reserve packet).gWTPs (firstFree c.gWTPs c.gMaxWTPs 0) =
      takeSlot packet.sender (c.gWTPs (firstFree c.gWTPs c.gMaxWTPs 0)) := by
    rw [reserve_apply, if_pos rfl]
  refine apart.update (firstFree c.gWTPs c.gMaxWTPs 0) rfl ?_ (fun j _ begun => begun) ?_ ?_ ?_
  · intro j different
    rw [reserve_apply, if_neg different]
  · intro _ j _ live'
    rw [here]
    exact other j live'
  · intro _ j _ _
    rw [here, ← Bool.not_eq_true, sameAddress_iff]
    intro ⟨_, _, same, _⟩
    cases same
  · -- the slot was free, so it has no thread that could have begun
    intro live j sessionID _ _ has
    have vacant := firstFree_free live.1
    obtain ⟨thread, member, same, _⟩ := has.1
    have taken := placed.taken _ live.1
      (List.mem_append_right _ (List.mem_map.mpr ⟨thread, member, same⟩))
    rw [vacant] at taken
    cases taken

theorem Apart.step (apart : Apart c) (placed : Placed c) (keeps : KeepsApart c event)
    (step : Step c event c') : Apart c' := by
  cases event with
  | incoming packet =>
    obtain ⟨_, managed⟩ := Event.exec_incoming step
    obtain rfl | ⟨i, found, data, rfl⟩ | ⟨reserves, rfl⟩ := cwACManageIncomingPacket_cases managed
    · exact apart
    · exact apart.bind found data keeps.2
    · exact apart.reserve placed (keeps.1 reserves)
  | create creation =>
    obtain ⟨i, _, rfl⟩ := Option.map_eq_some_iff.mp step
    cases creation with
    | succeeded =>
      refine apart.of_fewer (fun j live => live) ?_ (fun j => rfl) (fun j => rfl) fun j => rfl
      intro j ⟨thread, member, same, started⟩
      cases List.mem_append.mp member with
      | inl before => exact ⟨thread, before, same, started⟩
      | inr new =>
        rw [List.mem_singleton.mp new] at started
        exact absurd rfl started
    | failed => exact apart.freeSlot rfl rfl fun j begun => begun
    | outOfMemory =>
      exact apart.of_fewer (fun j live => live) (fun j begun => begun) (fun j => rfl) (fun j => rfl)
        fun j => rfl
  | start k specific =>
    obtain ⟨i, here, rfl⟩ := Option.map_eq_some_iff.mp step
    rw [if_pos (show specific = true from keeps)]
    have restarted : ∀ change, ({ (c.setPhase k i .running).modifySlot i change with
        gActiveWTPs := c.gActiveWTPs + 1 } : Controller).gWTPs i = change (c.gWTPs i) :=
      fun change => modifySlot_self (c.setPhase k i .running) i change
    refine apart.update i rfl ?_ ?_ ?_ ?_ ?_
    · intro j different
      exact modifySlot_of_ne (c.setPhase k i .running) (fun slot => { slot with sessionID := none })
        different
    · intro j different begun
      exact (begun_setPhase begun).resolve_right different
    · intro live j different live'
      rw [restarted]
      refine apart.address_ne ⟨live.1, ?_⟩ different live'
      exact (restarted _ ▸ live.2 :)
    · intro live j different live'
      rw [restarted]
      refine apart.dataaddress_ne ⟨live.1, ?_⟩ different live'
      exact (restarted _ ▸ live.2 :)
    · -- the session has no ID yet
      intro _ j sessionID _ _ has
      have stored := has.2
      rw [restarted] at stored
      cases stored
  | saveSessionID k sessionID =>
    obtain ⟨i, here, rfl⟩ := Option.map_eq_some_iff.mp step
    refine apart.update i rfl (fun j different => modifySlot_of_ne c _ different)
      (fun j _ begun => begun) ?_ ?_ ?_
    · intro live j different live'
      rw [Controller.Live, modifySlot_self] at live
      rw [modifySlot_self]
      exact apart.address_ne live different live'
    · intro live j different live'
      rw [Controller.Live, modifySlot_self] at live
      rw [modifySlot_self]
      exact apart.dataaddress_ne live different live'
    · intro live j sessionID' different live' has has'
      have stored := has.2
      rw [modifySlot_self] at stored
      cases stored
      exact different (keeps i j here live' has')
  | leave k =>
    obtain ⟨i, here, rfl⟩ := Option.map_eq_some_iff.mp step
    refine apart.of_fewer (fun j live => live) ?_ (fun j => rfl) (fun j => rfl) fun j => rfl
    intro j begun
    cases begun_setPhase begun with
    | inl before => exact before
    | inr same => exact same ▸ begun_of_threadIn here Phase.noConfusion
  | release k =>
    obtain ⟨i, here, rfl⟩ := Option.map_eq_some_iff.mp step
    refine apart.freeSlot rfl rfl ?_
    intro j ⟨thread, member, same, started⟩
    exact ⟨thread, List.mem_of_mem_eraseIdx member, same, started⟩

theorem apart_initial (gMaxWTPs : Nat) : Apart (.initial gMaxWTPs) := by
  have free : ∀ i, ¬ (Controller.initial gMaxWTPs).Live i := fun i live => Bool.false_ne_true live.2
  exact ⟨fun i _ live => absurd live (free i), fun i _ live => absurd live (free i),
    fun i _ _ live => absurd live (free i)⟩

/-- In every run whose steps keep the sessions apart, a packet is demultiplexed in the state
    that is reached exactly when the table distinguishes it. -/
theorem run_demultiplexed_iff (gMaxWTPs : Nat) {events : List Event} {c : Controller}
    (trace : Run.Trace Step (.initial gMaxWTPs) events c)
    (keeps : Run.AllSteps Step KeepsApart (.initial gMaxWTPs) events) (packet : IncomingPacket) :
    Demultiplexed c packet ↔ Distinguishes c packet := by
  have kept : ∀ c event c', Placed c ∧ Apart c → KeepsApart c event → Step c event c' →
      Placed c' ∧ Apart c' := fun _ _ _ holds keeps step =>
    ⟨holds.1.step step, holds.2.step holds.1 keeps step⟩
  have invariant := trace.kept kept ⟨placed_initial gMaxWTPs, apart_initial gMaxWTPs⟩ keeps
  exact invariant.2.demultiplexed_iff packet

def zeroSessionID : SessionID := ⟨List.replicate wtpSessionIDLength 0, List.length_replicate⟩

/-- A keep-alive from a port of its own. -/
def keepAlivePacket : IncomingPacket :=
  { packetFrom 5247 with channel := .keepAlive zeroSessionID }

theorem run_demultiplexed_iff_joined : ∃ c,
    Run.Trace Step (.initial 1) [.incoming (packetFrom 5246), .create .succeeded, .start 0 true,
      .saveSessionID 0 zeroSessionID] c ∧ Demultiplexed c keepAlivePacket := by
  have trace : Run.Trace Step (.initial 1) [.incoming (packetFrom 5246), .create .succeeded,
      .start 0 true, .saveSessionID 0 zeroSessionID] _ :=
    .cons rfl (.cons rfl (.cons rfl (.cons rfl (.nil _))))
  refine ⟨_, trace, (run_demultiplexed_iff 1 trace ?_ keepAlivePacket).mpr ?_⟩
  · refine ⟨⟨?_, ?_⟩, ?_⟩
    · intro _ i live
      cases live.2
    · intro sessionID channel
      cases channel
    · intro c reserved
      cases reserved
      refine ⟨trivial, ?_⟩
      intro c created
      cases created
      refine ⟨rfl, ?_⟩
      intro c started
      cases started
      refine ⟨?_, fun c saved => trivial⟩
      intro i j here live _
      cases here
      exact Nat.lt_one_iff.mp live.1
  · -- the only session has this ID
    refine ⟨?_, ?_, ?_⟩
    · intro i live unset
      obtain rfl := Nat.lt_one_iff.mp live.1
      cases unset
    · intro i j live live' _ _
      rw [Nat.lt_one_iff.mp live.1, Nat.lt_one_iff.mp live'.1]
    · intro i live _
      obtain rfl := Nat.lt_one_iff.mp live.1
      exact .inl ⟨_, List.mem_singleton_self _, rfl, Phase.noConfusion⟩

/-- A session has begun, but there has been no Join Request; or two sessions have joined with
    one ID. -/
theorem run_not_demultiplexed :
    (¬ ∀ (gMaxWTPs : Nat) (events : List Event) (c : Controller),
      Run.Trace Step (.initial gMaxWTPs) events c →
        ∀ packet, cwWTPByAddress c.gMaxWTPs c.gWTPs packet ≠ .crashed) ∧
    ¬ ∀ (gMaxWTPs : Nat) (events : List Event) (c : Controller),
      Run.Trace Step (.initial gMaxWTPs) events c → ∀ packet, Demultiplexed c packet := by
  constructor
  · intro holds
    exact holds 1 [.incoming (packetFrom 5246), .create .succeeded, .start 0 true] _
      (.cons rfl (.cons rfl (.cons rfl (.nil _)))) keepAlivePacket rfl
  · intro holds
    have demultiplexed := holds 2
      [.incoming (packetFrom 5246), .create .succeeded, .start 0 true,
        .saveSessionID 0 zeroSessionID,
        .incoming (packetFrom 5248), .create .succeeded, .start 1 true,
        .saveSessionID 1 zeroSessionID] _
      (.cons rfl (.cons rfl (.cons rfl (.cons rfl
        (.cons rfl (.cons rfl (.cons rfl (.cons rfl (.nil _)))))))))
      keepAlivePacket
    have same := demultiplexed.unique 0 1 ⟨by decide, rfl⟩ ⟨by decide, rfl⟩ (.inl rfl) (.inl rfl)
    cases same

end WlanController.Admission
