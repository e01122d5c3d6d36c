import WlanController.Common.EthAddr

/-!
# Bytes of a frame that was received

A frame is as long as it was when it arrived, whatever the buffer it lies in can hold.
-/

namespace WlanController.Frames

/-- How an access to a frame can go wrong. -/
inductive Stray where
  /-- A byte is read that did not arrive. -/
  | outside
  /-- A negative number of bytes is copied. -/
  | negative
  /-- A null pointer is followed. -/
  | null
  deriving DecidableEq, Repr

abbrev FrameM := Except Stray

/-- No access on the way to the result goes wrong. -/
def Bounded {α : Type} (result : FrameM α) : Prop := ∃ value, result = .ok value

def frameByte (frame : List UInt8) (index : Nat) : FrameM UInt8 :=
  match frame[index]? with
  | some byte => .ok byte
  | none => .error .outside

/-- `CW_COPY_MEMORY` of `count` bytes. -/
def frameBytes (frame : List UInt8) (start : Nat) (count : Int) : FrameM (List UInt8) :=
  if count < 0 then .error .negative
  else if start + count.toNat ≤ frame.length then .ok ((frame.drop start).take count.toNat)
  else .error .outside

/-- `CW_COPY_MEMORY` of an address. -/
def frameAddr (frame : List UInt8) (start : Nat) : FrameM EthAddr :=
  if inside : start + ethALen ≤ frame.length then
    .ok ⟨(frame.drop start).take ethALen, by simp only [List.length_take, List.length_drop]; omega⟩
  else .error .outside

theorem frameByte_of_lt (frame : List UInt8) {index : Nat} (inside : index < frame.length) :
    frameByte frame index = .ok frame[index] := by
  rw [frameByte, List.getElem?_eq_getElem inside]

theorem frameByte_at (before after : List UInt8) (byte : UInt8) :
    frameByte (before ++ byte :: after) before.length = .ok byte := by
  simp [frameByte]

theorem frameByte_outside {frame : List UInt8} {index : Nat} (outside : frame.length ≤ index) :
    frameByte frame index = .error .outside := by
  rw [frameByte, List.getElem?_eq_none outside]

theorem frameBytes_of_le (frame : List UInt8) {start count : Nat}
    (inside : start + count ≤ frame.length) :
    frameBytes frame start count = .ok ((frame.drop start).take count) := by
  have positive : ¬ (count : Int) < 0 := by omega
  rw [frameBytes, if_neg positive, Int.toNat_natCast, if_pos inside]

theorem frameAddr_of_le (frame : List UInt8) {start : Nat}
    (inside : start + ethALen ≤ frame.length) :
    ∃ addr : EthAddr, addr.bytes = (frame.drop start).take ethALen ∧
      frameAddr frame start = .ok addr := by
  rw [frameAddr, dif_pos inside]
  exact ⟨_, rfl, rfl⟩

theorem frameAddr_at (before after : List UInt8) (addr : EthAddr) :
    frameAddr (before ++ (addr.bytes ++ after)) before.length = .ok addr := by
  have inside : before.length + ethALen ≤ (before ++ (addr.bytes ++ after)).length := by
    simp only [List.length_append, EthAddr.length_bytes]
    omega
  rw [frameAddr, dif_pos inside]
  refine congrArg Except.ok (EthAddr.ext_bytes ?_)
  simp

theorem frameAddr_outside {frame : List UInt8} {start : Nat}
    (outside : frame.length < start + ethALen) : frameAddr frame start = .error .outside := by
  rw [frameAddr, dif_neg (by omega)]

end WlanController.Frames
