/-
Frames of a fixed size, and the flags and the metadata they carry.

A frame is written in place into whatever its slot held before, so bytes of older
frames stay behind the new payload. The `u32` fields hold a natural number; what
is stored in them is taken modulo their range.
-/

import Mathlib.Algebra.Order.Ring.Int

namespace Framing

/-! ### Flags -/

/-- Bit 0 is set on the first frame of a message, bit 1 on the last. -/
def frameFlags (isFirst isLast : Bool) : UInt8 :=
  let flags : UInt8 := 0
  let flags := if isFirst then flags ||| 0b01 else flags
  if isLast then flags ||| 0b10 else flags

def isSingleFrame (flags : UInt8) : Bool := flags &&& 0b11 == 0b11

def isLastFrame (flags : UInt8) : Bool := flags &&& 0b10 != 0

/-- The test for a first frame in the batch receiver. -/
def isFirstFrame (flags : UInt8) : Bool := flags &&& 0x01 != 0

@[simp] theorem isSingleFrame_frameFlags (isFirst isLast : Bool) :
    isSingleFrame (frameFlags isFirst isLast) = (isFirst && isLast) := by
  cases isFirst <;> cases isLast <;> decide

@[simp] theorem isLastFrame_frameFlags (isFirst isLast : Bool) :
    isLastFrame (frameFlags isFirst isLast) = isLast := by
  cases isFirst <;> cases isLast <;> decide

@[simp] theorem isFirstFrame_frameFlags (isFirst isLast : Bool) :
    isFirstFrame (frameFlags isFirst isLast) = isFirst := by
  cases isFirst <;> cases isLast <;> decide

/-! ### Frames -/

/-- A borrowed view of a frame; its data has the logical length. -/
structure FrameMeta where
  len : Nat
  kind : UInt8
  flags : UInt8
  msgId : Nat
  data : List UInt8
  deriving DecidableEq

/-- What a type of frames can do. Both operations panic, and then have no result,
where a length exceeds the capacity. -/
class FramedTransportFrame (F : Type) where
  payloadCapacity : Nat
  frameMeta : F → Option FrameMeta
  writeFrame : F → List UInt8 → UInt8 → Nat → UInt8 → Option F

structure FixedFrame (dataBytes : Nat) where
  len : Nat
  kind : UInt8
  flags : UInt8
  msgId : Nat
  data : List UInt8
  sized : data.length = dataBytes

structure AlignedPayload (dataBytes : Nat) where
  bytes : List UInt8
  sized : bytes.length = dataBytes

structure AlignedFixedFrame (dataBytes : Nat) where
  len : Nat
  kind : UInt8
  flags : UInt8
  msgId : Nat
  data : AlignedPayload dataBytes

def overwrite (payload data : List UInt8) : List UInt8 :=
  payload ++ data.drop payload.length

theorem overwrite_length {payload data : List UInt8} (fits : payload.length ≤ data.length) :
    (overwrite payload data).length = data.length := by
  rw [overwrite, List.length_append, List.length_drop]
  omega

theorem overwrite_take (payload data : List UInt8) :
    (overwrite payload data).take payload.length = payload :=
  List.take_left

instance (dataBytes : Nat) : FramedTransportFrame (FixedFrame dataBytes) where
  payloadCapacity := dataBytes
  frameMeta := fun frame =>
    if frame.len ≤ dataBytes then
      some
        { len := frame.len
          kind := frame.kind
          flags := frame.flags
          msgId := frame.msgId
          data := frame.data.take frame.len }
    else none
  writeFrame := fun frame payload kind msgId flags =>
    if fits : payload.length ≤ dataBytes then
      some
        { len := payload.length % 2 ^ 32
          kind
          flags
          msgId
          data := overwrite payload frame.data
          sized := by rw [overwrite_length (by rw [frame.sized]; exact fits), frame.sized] }
    else none

instance (dataBytes : Nat) : FramedTransportFrame (AlignedFixedFrame dataBytes) where
  payloadCapacity := dataBytes
  frameMeta := fun frame =>
    if frame.len ≤ dataBytes then
      some
        { len := frame.len
          kind := frame.kind
          flags := frame.flags
          msgId := frame.msgId
          data := frame.data.bytes.take frame.len }
    else none
  writeFrame := fun frame payload kind msgId flags =>
    if fits : payload.length ≤ dataBytes then
      some
        { len := payload.length % 2 ^ 32
          kind
          flags
          msgId
          data :=
            { bytes := overwrite payload frame.data.bytes
              sized := by
                rw [overwrite_length (by rw [frame.data.sized]; exact fits),
                  frame.data.sized] } }
    else none

/-! ### What a written frame carries -/

structure FrameWrite where
  chunk : List UInt8
  kind : UInt8
  msgId : Nat
  flags : UInt8
  deriving DecidableEq

def FrameWrite.shown (write : FrameWrite) : FrameMeta :=
  { len := write.chunk.length
    kind := write.kind
    flags := write.flags
    msgId := write.msgId
    data := write.chunk }

/-- A frame that is written shows what was written, whatever it showed before. -/
structure Carries (F : Type) [FramedTransportFrame F] : Prop where
  written : ∀ (frame : F) (write : FrameWrite),
    write.chunk.length ≤ FramedTransportFrame.payloadCapacity F →
    ∃ after, FramedTransportFrame.writeFrame frame write.chunk write.kind write.msgId
        write.flags = some after ∧
      FramedTransportFrame.frameMeta after = some write.shown
  /-- A payload that is too long for the frame is not written. -/
  refused : ∀ (frame : F) (write : FrameWrite),
    FramedTransportFrame.payloadCapacity F < write.chunk.length →
    FramedTransportFrame.writeFrame frame write.chunk write.kind write.msgId write.flags = none

theorem fixedFrame_carries {dataBytes : Nat} (bounded : dataBytes < 2 ^ 32) :
    Carries (FixedFrame dataBytes) where
  written := by
    intro frame write fits
    change write.chunk.length ≤ dataBytes at fits
    have length : write.chunk.length % 2 ^ 32 = write.chunk.length :=
      Nat.mod_eq_of_lt (by omega)
    refine ⟨_, dif_pos fits, ?_⟩
    simp only [FramedTransportFrame.frameMeta, length, if_pos fits, overwrite_take,
      FrameWrite.shown]
  refused := fun frame write long => dif_neg (Nat.not_le_of_lt long)

theorem alignedFixedFrame_carries {dataBytes : Nat} (bounded : dataBytes < 2 ^ 32) :
    Carries (AlignedFixedFrame dataBytes) where
  written := by
    intro frame write fits
    change write.chunk.length ≤ dataBytes at fits
    have length : write.chunk.length % 2 ^ 32 = write.chunk.length :=
      Nat.mod_eq_of_lt (by omega)
    refine ⟨_, dif_pos fits, ?_⟩
    simp only [FramedTransportFrame.frameMeta, length, if_pos fits, overwrite_take,
      FrameWrite.shown]
  refused := fun frame write long => dif_neg (Nat.not_le_of_lt long)

end Framing
