import TrafficInspector.Packets.RADIUSPacket

/-!
Owns what the RADIUS decoder makes of a frame in a pool buffer. The header of
the RADIUS packet starts 42 bytes into the frame and its attribute area 62 bytes
in. The first `assert` compares the Length field with the received size less 42,
a subtraction that wraps for a shorter frame; past it, the outcome is decided by
the reading of the attribute area.
-/

namespace TrafficInspector

open Foundation
open Foundation.ByteOrder
open Foundation.TypeLengthValue

namespace ETHPacket

/-- The header of the RADIUS packet a frame would carry. -/
def radiusHeader (frame : ETHPacket) : Pointer := ⟨frame.data, 42⟩

def radiusLength (frame : ETHPacket) : UInt16 :=
  ntohs (RADIUSPacket.length frame.memory frame.radiusHeader)

/-- The received bytes behind the RADIUS header. -/
def attributeArea (frame : ETHPacket) : List UInt8 :=
  block frame.memory 62 (frame.size.toNat - 62)

def PassesLengthAssert (frame : ETHPacket) : Prop :=
  42 ≤ frame.size.toNat ∧ frame.radiusLength.toNat = frame.size.toNat - 42

instance (frame : ETHPacket) : Decidable frame.PassesLengthAssert :=
  inferInstanceAs (Decidable (_ ∧ _))

/-- The packet the decoder has built when it starts on the attributes. -/
def decoderPacket (frame : ETHPacket) : RADIUSPacket where
  timeStamp := frame.timeStamp
  prevLayerPacket :=
    { timeStamp := frame.timeStamp
      prevLayerPacket :=
        { timeStamp := frame.timeStamp
          ipHeader := some frame.getPayloadDataImpl
          prevLayerPacket := some frame }
      header := some (frame.getPayloadDataImpl + 20) }
  radiusHeader := some frame.radiusHeader
  avps := ∅

def decoderStart (frame : ETHPacket) : RADIUSPacket.Opened where
  packet := frame.decoderPacket
  memory := frame.memory
  size := frame.radiusLength
  payload := frame.radiusHeader + 20

end ETHPacket

private theorem lengthAssert_iff (frame : ETHPacket) :
    frame.radiusLength.toUInt64 = frame.size - 14 - 20 - 8 ↔ frame.PassesLengthAssert := by
  have sizeSmall := frame.size.toNat_lt
  have lengthSmall := frame.radiusLength.toNat_lt
  rw [← UInt64.toNat_inj, UInt16.toNat_toUInt64, UInt64.toNat_sub, UInt64.toNat_sub,
    UInt64.toNat_sub]
  simp only [UInt64.reduceToNat]
  unfold ETHPacket.PassesLengthAssert
  omega

theorem openPoolItem_unfold (frame : ETHPacket) :
    RADIUSPacket.openPoolItem (some frame) =
      if frame.radiusLength.toUInt64 = frame.size - 14 - 20 - 8 then
        .ok ({ frame.decoderStart with
          size := (min (frame.size - 14 - 20 - 8) frame.radiusLength.toUInt64).toUInt16 }, none)
      else
        .error .lengthAssert :=
  rfl

theorem openPoolItem_of_passes {frame : ETHPacket} (passes : frame.PassesLengthAssert) :
    RADIUSPacket.openPoolItem (some frame) = .ok (frame.decoderStart, none) := by
  have equal := (lengthAssert_iff frame).mpr passes
  have size : (min (frame.size - 14 - 20 - 8) frame.radiusLength.toUInt64).toUInt16 =
      frame.radiusLength := by
    rw [← equal]
    show UInt64.toUInt16 (if _ then _ else _) = _
    rw [ite_self, UInt16.toUInt16_toUInt64]
  rw [openPoolItem_unfold, if_pos equal, size]
  rfl

theorem openPoolItem_of_not_passes {frame : ETHPacket} (fails : ¬ frame.PassesLengthAssert) :
    RADIUSPacket.openPoolItem (some frame) = .error .lengthAssert := by
  rw [openPoolItem_unfold, if_neg (fun equal => fails ((lengthAssert_iff frame).mp equal))]

section

variable {frame : ETHPacket} (inPool : frame.size.toNat ≤ maxPacketSize)
  (passes : frame.PassesLengthAssert)

include passes

theorem start_size : frame.decoderStart.size.toNat = frame.size.toNat - 42 :=
  passes.2

theorem start_remainingArea :
    remainingArea frame.decoderStart.memory frame.decoderStart.size frame.decoderStart.cursor =
      frame.attributeArea := by
  rw [remainingArea, start_size passes, ETHPacket.attributeArea]
  exact congrArg (block frame.memory 62) (Nat.sub_sub frame.size.toNat 42 20)

private theorem start_stop :
    frame.radiusHeader.offset + frame.decoderStart.size.toNat = frame.size.toNat := by
  rw [start_size passes]
  exact Nat.add_sub_cancel' passes.1

include inPool

theorem start_inPool : frame.decoderStart.size.toNat ≤ maxPacketSize := by
  rw [start_size passes]
  exact Nat.le_trans (Nat.sub_le _ _) inPool

/-- What the attribute loop leaves in `m_avps` is a function of the received
attribute area, but for a value that overruns it. -/
theorem attributes_avps :
    frame.decoderStart.attributes.2.map AttributeCursor.avps =
      avpsOfReading (cutArea frame.attributeArea) frame.memory frame.size.toNat ∅ := by
  have loop := attributeLoop_avps frame.decoderStart.memory frame.radiusHeader
    (start_inPool inPool passes) frame.decoderStart.cursor rfl
  rw [start_remainingArea passes, start_stop passes] at loop
  exact loop

/-- The loop reads inside the packet exactly when the area is read without an overrun. -/
theorem attributes_inside_iff :
    (∀ reads ∈ frame.decoderStart.attributes.1,
        reads.Inside frame.radiusHeader frame.decoderStart.size.toNat) ↔
      (cutArea frame.attributeArea).Contained := by
  have loop := attributeLoop_inside_iff frame.decoderStart.memory frame.radiusHeader
    (start_inPool inPool passes) frame.decoderStart.cursor rfl
  rw [start_remainingArea passes] at loop
  exact loop

theorem ofPoolItem_of_passes :
    RADIUSPacket.ofPoolItem (some frame) =
      (avpsOfReading (cutArea frame.attributeArea) frame.memory frame.size.toNat ∅).map
        fun avps => ({ frame.decoderPacket with avps }, none) := by
  rw [← attributes_avps inPool passes]
  unfold RADIUSPacket.ofPoolItem
  rw [openPoolItem_of_passes passes]
  show (frame.decoderStart.attributes.2 >>= fun cursor => _) = _
  cases frame.decoderStart.attributes.2 <;> rfl

end

theorem ofPoolItem_of_not_passes {frame : ETHPacket} (fails : ¬ frame.PassesLengthAssert) :
    RADIUSPacket.ofPoolItem (some frame) = .error .lengthAssert := by
  unfold RADIUSPacket.ofPoolItem
  rw [openPoolItem_of_not_passes fails]
  rfl

/-- A packet that was built is the frame's, with some attributes, and its item is empty. -/
theorem ofPoolItem_ok {frame : ETHPacket} {packet : RADIUSPacket} {left : RawPacketsPoolItem}
    (built : RADIUSPacket.ofPoolItem (some frame) = .ok (packet, left)) :
    left = none ∧ ∃ avps, packet = { frame.decoderPacket with avps } := by
  by_cases passes : frame.PassesLengthAssert
  · obtain ⟨opened, start, rest⟩ := bind_eq_ok built
    rw [openPoolItem_of_passes passes] at start
    cases start
    obtain ⟨cursor, _, final⟩ := bind_eq_ok rest
    cases final
    exact ⟨rfl, cursor.avps, rfl⟩
  · rw [ofPoolItem_of_not_passes passes] at built
    cases built

end TrafficInspector
