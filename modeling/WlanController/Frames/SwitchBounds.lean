import WlanController.Frames.SwitchedDelivery

/-!
# Frames that are too short

Nobody on the way of a data frame asks how long it is before its header is read, nor the AC before it
writes the frame for the tap into its buffer.
-/

namespace WlanController.Frames

open Protocol Settings Stations

/-! ## Any frame with a header -/

/-- An address and what is behind it. -/
theorem exists_addr {msg : List UInt8} (long : ethALen ≤ msg.length) :
    ∃ addr : EthAddr, ∃ rest, msg = addr.bytes ++ rest ∧ msg.length = ethALen + rest.length := by
  have length : (msg.take ethALen).length = ethALen := by
    rw [List.length_take, min_eq_left long]
  refine ⟨⟨msg.take ethALen, length⟩, msg.drop ethALen, (List.take_append_drop _ _).symm, ?_⟩
  rw [List.length_drop]
  omega

theorem exists_bytes {msg : List UInt8} (long : 2 ≤ msg.length) :
    ∃ low high, ∃ rest, msg = low :: high :: rest ∧ msg.length = 2 + rest.length := by
  cases msg with
  | nil => simp at long
  | cons low msg =>
    cases msg with
    | nil => simp at long
    | cons high rest =>
      refine ⟨low, high, rest, rfl, ?_⟩
      simp only [List.length_cons]
      omega

/-- Behind any frame control there are the fields of a header, and what the frame carries. -/
theorem exists_fields {msg : List UInt8} (long : hlen80211 ≤ msg.length) :
    ∃ (controlLow controlHigh : UInt8) (frame : DataFrame .toDS),
      msg = frame.withControl controlLow controlHigh := by
  simp only [hlen80211] at long
  obtain ⟨c₀, c₁, behind, split, length⟩ := exists_bytes (show 2 ≤ msg.length by omega)
  obtain ⟨d₀, d₁, rest, split', length'⟩ := exists_bytes (show 2 ≤ behind.length by omega)
  -- the three addresses, each with at least what the rest of the header takes behind it
  have addrs : ∀ {bytes : List UInt8}, 8 ≤ bytes.length → ethALen ≤ bytes.length := by
    intro bytes long
    simp only [ethALen]
    omega
  obtain ⟨BSSID, rest₁, split₁, length₁⟩ := exists_addr (addrs (show 8 ≤ rest.length by omega))
  simp only [ethALen] at length₁
  obtain ⟨SA, rest₂, split₂, length₂⟩ := exists_addr (addrs (show 8 ≤ rest₁.length by omega))
  simp only [ethALen] at length₂
  obtain ⟨DA, rest₃, split₃, length₃⟩ := exists_addr (addrs (show 8 ≤ rest₂.length by omega))
  simp only [ethALen] at length₃
  obtain ⟨s₀, s₁, body, split₄, -⟩ := exists_bytes (show 2 ≤ rest₃.length by omega)
  refine ⟨c₀, c₁, ⟨8, 1, d₀, d₁, BSSID, SA, DA, s₀, s₁, body, plain_data, directed_toDS⟩, ?_⟩
  simp [DataFrame.withControl, DataFrame.bytes, DataFrame.header, Direction.addresses, split,
    split', split₁, split₂, split₃, split₄]

section Fields

variable (frame : DataFrame .toDS) (controlLow controlHigh : UInt8)

/-- To the other parser the addresses are in other places. -/
theorem parseHdr_fromDS :
    parseHdr cw80211ParseDataFrameFromDS (frame.withControl controlLow controlHigh) =
      .ok ⟨ByteOrder.load [controlLow, controlHigh],
        ByteOrder.load [frame.durationLow, frame.durationHigh], frame.SA.bytes, frame.DA.bytes,
        frame.BSSID.bytes, ByteOrder.load [frame.seqLow, frame.seqHigh]⟩ := by
  rw [withControl_eq]
  exact parseHdr_of_reads ((reads_short _ _).andThen ((reads_short _ _).andThen
    ((reads_addr frame.BSSID).andThen ((reads_addr frame.SA).andThen
      ((reads_addr frame.DA).andThen ((reads_short _ _).andReturn (reads_pure _)))))))

end Fields

theorem frameAddr_withControl (frame : DataFrame .toDS) (controlLow controlHigh : UInt8) :
    frameAddr (frame.withControl controlLow controlHigh) 16 = .ok frame.DA := by
  have found := frameAddr_at
    ([controlLow, controlHigh, frame.durationLow, frame.durationHigh] ++ (frame.BSSID.bytes ++
      frame.SA.bytes)) ([frame.seqLow, frame.seqHigh] ++ frame.body) frame.DA
  have front : ([controlLow, controlHigh, frame.durationLow, frame.durationHigh] ++
      (frame.BSSID.bytes ++ frame.SA.bytes)).length = 16 := by simp [ethALen]
  rw [front] at found
  rw [withControl_eq]
  simpa using found

theorem run_of_parseHdr {α : Type} {parser : MessageM α} {msg : List UInt8} {value : α}
    (parsed : parseHdr parser msg = .ok value) :
    ∃ after, parser.run ⟨msg, 0, none⟩ = .ok value after := by
  rw [parseHdr] at parsed
  cases run : parser.run ⟨msg, 0, none⟩ with
  | error failure after => simp [run] at parsed
  | ok value' after =>
    simp only [run] at parsed
    cases parsed
    exact ⟨after, rfl⟩

/-- Without a whole header nothing is parsed. -/
theorem parseHdr_short {α : Type} {parser : MessageM α} {count : Nat} (takes : Takes parser count)
    {msg : List UInt8} (short : msg.length < count) : parseHdr parser msg = .error .outside := by
  obtain ⟨value, follows⟩ := takes
  have run := follows ⟨msg, 0, none⟩
  have outside : ¬ count ≤ (⟨msg, 0, none⟩ : CWProtocolMessage).ahead.length := not_le.mpr short
  rw [taking, if_neg outside] at run
  obtain ⟨after, failed⟩ := run
  rw [parseHdr, failed]

theorem takes_fromDS : Takes cw80211ParseDataFrameFromDS hlen80211 :=
  takes_short.bind fun _ => takes_short.bind fun _ => takes_addr.bind fun _ =>
    takes_addr.bind fun _ => takes_addr.bind fun _ => takes_short.bind fun _ => takes_pure _

/-! ## On the AC -/

namespace Controller

variable {ac : Controller} {WTPIndex : Nat} {msg : List UInt8}

/-- The frame for the tap can be made and has room in its buffer. -/
theorem bounded_toTap_iff :
    Bounded (toTap msg) ↔ hlen80211 + encapsHdrLen ≤ msg.length ∧
      2 * ethALen + (unwrapped (msg.drop hlen80211)).length ≤ cwBufferSize := by
  by_cases long : 32 ≤ msg.length
  · obtain ⟨controlLow, controlHigh, frame, rfl⟩ := exists_fields (le_trans (by decide) long)
    obtain ⟨after, parsed⟩ := run_of_parseHdr (parseHdr_toDS frame controlLow controlHigh)
    have converted := cwConvertDataFrame80211To8023_of_parsed long parsed
    generalize unwrapped ((frame.withControl controlLow controlHigh).drop hlen80211) = behind
      at converted ⊢
    have length : (frame.hdr.DA ++ frame.hdr.SA ++ behind).length = 2 * ethALen + behind.length := by
      simp only [DataFrame.hdr, List.length_append, EthAddr.length_bytes, ethALen]
    have made : toTap (frame.withControl controlLow controlHigh) =
        if 2 * ethALen + behind.length ≤ cwBufferSize
        then .ok (frame.hdr.DA ++ frame.hdr.SA ++ behind) else .error .outside := by
      rw [← length, toTap, converted]
      rfl
    rw [made]
    by_cases fits : 2 * ethALen + behind.length ≤ cwBufferSize
    · rw [if_pos fits]
      exact iff_of_true ⟨_, rfl⟩ ⟨long, fits⟩
    · rw [if_neg fits]
      refine iff_of_false ?_ fun both => fits both.2
      rintro ⟨value, made⟩
      cases made
  · have stray : ¬ Bounded (cwConvertDataFrame80211To8023 msg) :=
      cwConvertDataFrame80211To8023_short (not_le.mp long)
    refine iff_of_false ?_ fun both => long both.1
    rintro ⟨frame8023, made⟩
    cases converted : cwConvertDataFrame80211To8023 msg with
    | error reason => simp [toTap, converted, bind, Except.bind] at made
    | ok value => exact stray ⟨value, converted⟩

/-- The destination of the frame, if there is one, has the tap among its ports. -/
def ToTap (ac : Controller) (msg : List UInt8) : Prop :=
  ∃ DA : EthAddr, frameAddr msg 16 = .ok DA ∧ .wire ∈ ac.ports DA

theorem toTap_withControl (frame : DataFrame .toDS) (controlLow controlHigh : UInt8) :
    ac.ToTap (frame.withControl controlLow controlHigh) ↔ .wire ∈ ac.ports frame.DA := by
  have addr := frameAddr_withControl frame controlLow controlHigh
  constructor
  · rintro ⟨DA, found, wire⟩
    rw [addr] at found
    cases found
    exact wire
  · intro wire
    exact ⟨frame.DA, addr, wire⟩

theorem bounded_acEnterRunDataFrame_iff :
    Bounded (ac.acEnterRunDataFrame WTPIndex msg) ↔ hlen80211 ≤ msg.length ∧
      (ac.ToTap msg → hlen80211 + encapsHdrLen ≤ msg.length ∧
        2 * ethALen + (unwrapped (msg.drop hlen80211)).length ≤ cwBufferSize) := by
  by_cases long : hlen80211 ≤ msg.length
  · obtain ⟨controlLow, controlHigh, frame, rfl⟩ := exists_fields long
    rw [toTap_withControl, ← bounded_toTap_iff, acEnterRunDataFrame_withControl]
    generalize frame.withControl controlLow controlHigh = msg at long ⊢
    have through (result : EStateM.Result Leaving Forwarding Unit) :
        Bounded (do
          let frame8023 ← toTap msg
          return (⟨some frame8023, result⟩ : Switched)) ↔ Bounded (toTap msg) := by
      cases made : toTap msg <;> simp [Bounded, bind, Except.bind, pure, Except.pure]
    by_cases everybody : checkAddressBroadcast frame.DA = true
    · have ports_eq : ac.ports frame.DA = _ := ports_everybody everybody
      rw [if_pos everybody, through]
      simp [ports_eq, long]
    · rw [if_neg everybody]
      cases found : avlFind frame.DA ac.avlTree with
      | none =>
        have ports_eq := ports_unknown everybody found
        rw [through]
        simp [ports_eq, long]
      | some tmpNode =>
        have ports_eq := ports_station everybody found
        refine iff_of_true ⟨_, rfl⟩ ⟨long, ?_⟩
        simp [ports_eq]
  · refine iff_of_false ?_ fun both => long both.1
    have stray := parseHdr_short takes_toDS (not_le.mp long)
    rintro ⟨switched, done⟩
    simp [acEnterRunDataFrame, stray, bind, Except.bind] at done

end Controller

/-! ## On the WTP -/

section WTP

variable {avlTree : StationTree}

/-- The type in the first two bytes is that of a data frame. -/
def IsData (msg : List UInt8) : Prop := wlanFCGetType (ByteOrder.load (msg.take 2)) = wlanFCTypeData

instance (msg : List UInt8) : Decidable (IsData msg) :=
  inferInstanceAs (Decidable (wlanFCGetType _ = wlanFCTypeData))

theorem parseHdr_control_of_le {msg : List UInt8} (long : 2 ≤ msg.length) :
    parseHdr cw80211ParseFrameIEControl msg = .ok (ByteOrder.load (msg.take 2)) := by
  match msg, long with
  | controlLow :: controlHigh :: rest, _ =>
    have read := reads_short controlLow controlHigh
      ⟨controlLow :: controlHigh :: rest, 0, none⟩ rest rfl
    rw [parseHdr, cw80211ParseFrameIEControl, read]
    rfl

/-- A frame with a whole header is injected. -/
theorem inject_of_le {msg : List UInt8} (long : hlen80211 ≤ msg.length) :
    cwInjectFrameMonitor msg = .ok (some (rtapHdr ++ msg)) := by
  obtain ⟨controlLow, controlHigh, frame, rfl⟩ := exists_fields long
  have some : (frame.withControl controlLow controlHigh).length ≠ 0 := by
    rw [length_withControl, hlen80211]
    omega
  simp only [cwInjectFrameMonitor, if_neg some, parseHdr_fromDS, bind, Except.bind]
  rfl

/-- A data frame needs a whole header, and nothing else of a frame is read here. -/
theorem bounded_cwWTPManageDataPacket_iff {msg : List UInt8} :
    Bounded (cwWTPManageDataPacket avlTree msg) ↔
      2 ≤ msg.length ∧ (IsData msg → hlen80211 ≤ msg.length) := by
  by_cases some : 2 ≤ msg.length
  · have control := parseHdr_control_of_le some
    by_cases data : IsData msg
    · have type : ¬ wlanFCGetType (ByteOrder.load (msg.take 2)) ≠ wlanFCTypeData := not_not.mpr data
      by_cases long : hlen80211 ≤ msg.length
      · have injected := inject_of_le long
        refine iff_of_true ?_ ⟨some, fun _ => long⟩
        obtain ⟨controlLow, controlHigh, frame, rfl⟩ := exists_fields long
        have addr : frameAddr frame.BSSID.bytes 0 = .ok frame.BSSID := frameAddr_bytes frame.BSSID
        simp only [cwWTPManageDataPacket, control, if_neg type, parseHdr_fromDS, addr, injected, bind,
          Except.bind]
        by_cases everybody : checkAddressBroadcast frame.BSSID = true
        · rw [if_pos everybody]
          exact ⟨_, rfl⟩
        · rw [if_neg everybody]
          cases avlFind frame.BSSID avlTree <;> exact ⟨_, rfl⟩
      · refine iff_of_false ?_ fun both => long (both.2 data)
        have stray := parseHdr_short takes_fromDS (not_le.mp long)
        rintro ⟨injected, done⟩
        simp [cwWTPManageDataPacket, control, if_neg type, stray, bind, Except.bind] at done
    · have type : wlanFCGetType (ByteOrder.load (msg.take 2)) ≠ wlanFCTypeData := data
      refine iff_of_true ?_ ⟨some, fun isData => absurd isData data⟩
      simp only [cwWTPManageDataPacket, control, if_pos type, bind, Except.bind]
      exact ⟨_, rfl⟩
  · refine iff_of_false ?_ fun both => some both.1
    have stray := parseHdr_short takes_short (not_le.mp some)
    rintro ⟨injected, done⟩
    simp [cwWTPManageDataPacket, cw80211ParseFrameIEControl, stray, bind, Except.bind] at done

theorem cwWTPReceiveFrame_data {buffer : List UInt8} {length : Nat}
    (announced : itLen buffer = .ok length) (data : IsData (buffer.drop length))
    (long : length + hlen80211 ≤ buffer.length) : Bounded (cwWTPReceiveFrame avlTree buffer) := by
  have rest : (buffer.drop length).length = buffer.length - length := List.length_drop
  have whole : hlen80211 ≤ (buffer.drop length).length := by omega
  have control := parseHdr_control_of_le (le_trans (show 2 ≤ hlen80211 by decide) whole)
  have type : ¬ wlanFCGetType (ByteOrder.load ((buffer.drop length).take 2)) ≠ wlanFCTypeData :=
    not_not.mpr data
  obtain ⟨controlLow, controlHigh, frame, same⟩ := exists_fields whole
  have parsed := parseHdr_toDS frame controlLow controlHigh
  rw [← same] at parsed
  have addr : frameAddr frame.hdr.SA 0 = .ok frame.SA := frameAddr_bytes frame.SA
  have count : (buffer.length : Int) - length = (buffer.length - length : Nat) := by omega
  have bytes := frameBytes_of_le buffer
    (show length + (buffer.length - length) ≤ buffer.length by omega)
  simp only [cwWTPReceiveFrame, announced, control, if_neg type, parsed, addr, count, bytes,
    bind, Except.bind]
  split
  · cases avlFind frame.SA avlTree <;> exact ⟨_, rfl⟩
  · exact ⟨_, rfl⟩

/-- The length that the radiotap header announces is taken as it is. -/
theorem bounded_cwWTPReceiveFrame_iff {buffer : List UInt8} :
    Bounded (cwWTPReceiveFrame avlTree buffer) ↔
      ∃ length, itLen buffer = .ok length ∧ length + 2 ≤ buffer.length ∧
        (IsData (buffer.drop length) → length + hlen80211 ≤ buffer.length) := by
  constructor
  · rintro ⟨frame, done⟩
    cases announced : itLen buffer with
    | error stray => simp [cwWTPReceiveFrame, announced, bind, Except.bind] at done
    | ok length =>
      have rest : (buffer.drop length).length = buffer.length - length := List.length_drop
      -- The frame control is read from every frame, the rest of the header from data frames only.
      have some : length + 2 ≤ buffer.length := by
        by_contra short
        have outside : (buffer.drop length).length < 2 := by omega
        have stray := parseHdr_short takes_short outside
        simp [cwWTPReceiveFrame, cw80211ParseFrameIEControl, announced, stray, bind, Except.bind]
          at done
      refine ⟨length, rfl, some, fun data => ?_⟩
      by_contra short
      have inside : 2 ≤ (buffer.drop length).length := by omega
      have control := parseHdr_control_of_le inside
      have type : ¬ wlanFCGetType (ByteOrder.load ((buffer.drop length).take 2)) ≠ wlanFCTypeData :=
        not_not.mpr data
      have outside : (buffer.drop length).length < hlen80211 := by omega
      have stray := parseHdr_short takes_toDS outside
      simp [cwWTPReceiveFrame, announced, control, if_neg type, stray, bind, Except.bind] at done
  · rintro ⟨length, announced, some, whole⟩
    by_cases data : IsData (buffer.drop length)
    · exact cwWTPReceiveFrame_data announced data (whole data)
    · have rest : (buffer.drop length).length = buffer.length - length := List.length_drop
      have inside : 2 ≤ (buffer.drop length).length := by omega
      have control := parseHdr_control_of_le inside
      have type : wlanFCGetType (ByteOrder.load ((buffer.drop length).take 2)) ≠ wlanFCTypeData :=
        data
      simp only [cwWTPReceiveFrame, announced, control, if_pos type, bind, Except.bind]
      exact ⟨_, rfl⟩

end WTP

end WlanController.Frames
