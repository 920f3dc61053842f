import TrafficInspector.Packets.RADIUSDecoder

/-!
Owns `RADIUSPacket(UDPPacket&&)`, the other decoder. Its attribute loop is a near copy:
the value must end before the packet does, the check is made in `int`, and a value that
does not fit ends nothing, so the loop may go on without bound.
-/

namespace TrafficInspector

open Foundation
open Foundation.ByteOrder

/-- One iteration of the loop body. What was not parsed is left to the next iteration. -/
def strictIteration (memory : Memory) (size : UInt16) (cursor : AttributeCursor) :
    AttributeReads × Except Fault AttributeCursor :=
  let atrParsed := size.toUInt64 > cursor.dataOffset.toUInt64 + 1
  let type := memory cursor.payload.offset
  let typed := if atrParsed then
      { cursor with dataOffset := cursor.dataOffset + 1, payload := cursor.payload + 1 }
    else cursor
  let lenParsed := size.toUInt64 > typed.dataOffset.toUInt64 + 1 ∧ atrParsed
  let length := if lenParsed then memory typed.payload.offset else 0
  let sized := if lenParsed then
      { typed with dataOffset := typed.dataOffset + 1, payload := typed.payload + 1 }
    else typed
  let valParsed :=
    (size.toNat : Int) > (sized.dataOffset.toNat : Int) + length.toNat - 2 ∧ lenParsed
  let typeAt := if atrParsed then some cursor.payload else none
  let lengthAt := if lenParsed then some typed.payload else none
  if valParsed then
    let value := block memory sized.payload.offset (valueLength length)
    (⟨typeAt, lengthAt, some (sized.payload, valueLength length)⟩,
      .ok { dataOffset := sized.dataOffset + (length - 2).toUInt16,
            payload := sized.payload + valueLength length,
            avps := sized.avps.insertIfNew type value })
  else
    (⟨typeAt, lengthAt, none⟩, .ok sized)

/-- The loop, cut off after `fuel` iterations. -/
def strictLoop (memory : Memory) (size : UInt16) (fuel : Nat) (cursor : AttributeCursor) :
    List AttributeReads × Except Fault AttributeCursor :=
  fueledLoop (attributeGuard size) (strictIteration memory size) .endlessLoop fuel cursor

namespace RADIUSPacket

/-- `RADIUSPacket(UDPPacket&&)` in front of its `assert`, with the packet it leaves. -/
def locateUDPPacket (orig : UDPPacket) :
    Except Fault ((RADIUSPacket × Pointer) × UDPPacket) := do
  let (prevLayerPacket, orig) ← TransportPacket.ofTransportPacket orig
  let located ← locate prevLayerPacket
  return (located, orig)

/-- `RADIUSPacket(UDPPacket&&)` up to its loop. -/
def openUDPPacket (orig : UDPPacket) : Except Fault (Opened × UDPPacket) := do
  let ((packet, header), orig) ← locateUDPPacket orig
  let raw ← packet.rawPacket
  let packLength := ntohs (length raw.memory header)
  let packetSize ← packet.getPacketSizeImpl
  if packLength.toUInt64 = packetSize then
    let payload ← packet.getPayloadDataImpl
    return ({ packet, memory := raw.memory, size := (min packetSize packLength.toUInt64).toUInt16,
              payload }, orig)
  else
    throw .lengthAssert

/-- `RADIUSPacket(UDPPacket&&)`, with the packet it leaves, if `fuel` iterations are enough. -/
def ofUDPPacket (fuel : Nat) (orig : UDPPacket) : Except Fault (RADIUSPacket × UDPPacket) := do
  let (opened, orig) ← openUDPPacket orig
  let cursor ← (strictLoop opened.memory opened.size fuel opened.cursor).2
  return ({ opened.packet with avps := cursor.avps }, orig)

/-- A `UDPPacket` that was moved from. -/
def movedFrom (udp : UDPPacket) : UDPPacket :=
  { udp with
    prevLayerPacket := { udp.prevLayerPacket with prevLayerPacket := none }, header := none }

private theorem openUDPPacket_unfold (frame : ETHPacket) :
    openUDPPacket frame.decoderPacket.prevLayerPacket =
      if frame.radiusLength.toUInt64 = frame.size - 14 - 20 - 8 then
        .ok ({ frame.decoderStart with
          size := (min (frame.size - 14 - 20 - 8) frame.radiusLength.toUInt64).toUInt16 },
          movedFrom frame.decoderPacket.prevLayerPacket)
      else
        .error .lengthAssert :=
  rfl

/-- Both decoders are at the same point when their loops start. -/
theorem openUDPPacket_of_openPoolItem {frame : ETHPacket} {opened : Opened}
    {left udpItem : RawPacketsPoolItem} {udp : UDPPacket}
    (udpBuilt : TransportPacket.ofPoolItem (some frame) = .ok (udp, udpItem))
    (opens : openPoolItem (some frame) = .ok (opened, left)) :
    openUDPPacket udp = .ok (opened, movedFrom udp) := by
  cases udpBuilt
  refine (openUDPPacket_unfold frame).trans ?_
  rw [openPoolItem_unfold] at opens
  split at opens
  · rename_i equal
    rw [if_pos equal]
    cases opens
    rfl
  · cases opens

end RADIUSPacket

/-! ### The header -/

/-- Both constructors take the RADIUS header of the frame to be at `place` before they `assert`
anything, and a packet that is completed has it there. -/
structure ETHPacket.ReadsHeaderAt (frame : ETHPacket) (place : Pointer) : Prop where
  fromPoolItem : ∃ packet left,
    RADIUSPacket.locatePoolItem (some frame) = .ok ((packet, place), left) ∧
      packet.radiusHeader = some place
  fromUDPPacket : ∃ udp item packet left,
    TransportPacket.ofPoolItem (some frame) = .ok (udp, item) ∧
      RADIUSPacket.locateUDPPacket udp = .ok ((packet, place), left) ∧
        packet.radiusHeader = some place
  completed : ∀ packet left, RADIUSPacket.ofPoolItem (some frame) = .ok (packet, left) →
    packet.radiusHeader = some place

theorem readsHeaderAt_iff (frame : ETHPacket) (place : Pointer) :
    frame.ReadsHeaderAt place ↔ place = frame.radiusHeader := by
  constructor
  · intro reads
    obtain ⟨packet, left, located, _⟩ := reads.fromPoolItem
    exact (congrArg (fun located => located.1.2) (Except.ok.inj located)).symm
  · rintro rfl
    refine ⟨⟨frame.decoderPacket, none, rfl, rfl⟩,
      ⟨frame.decoderPacket.prevLayerPacket, none, frame.decoderPacket,
        RADIUSPacket.movedFrom frame.decoderPacket.prevLayerPacket, rfl, rfl, rfl⟩,
      fun packet left built => ?_⟩
    obtain ⟨_, avps, packetIs⟩ := ofPoolItem_ok built
    rw [packetIs]
    rfl

/-! ### One iteration over the natural numbers -/

theorem strictIteration_last (memory : Memory) (size : UInt16) (cursor : AttributeCursor)
    (one : size.toNat = cursor.dataOffset.toNat + 1) :
    (strictIteration memory size cursor).2 = .ok cursor := by
  have closed : ¬ cursor.dataOffset.toNat + 1 < size.toNat := by omega
  unfold strictIteration
  simp only [past_offset_iff, closed, and_false, if_false]

theorem strictIteration_two (memory : Memory) (size : UInt16) (cursor : AttributeCursor)
    (two : size.toNat = cursor.dataOffset.toNat + 2) :
    (strictIteration memory size cursor).2 =
      .ok { cursor with dataOffset := cursor.dataOffset + 1, payload := cursor.payload + 1 } := by
  have sizeSmall := size.toNat_lt
  have typed : cursor.dataOffset.toNat + 1 < size.toNat := by omega
  have moved := offset_succ cursor.dataOffset (by omega)
  have closed : ¬ (cursor.dataOffset + 1).toNat + 1 < size.toNat := by omega
  unfold strictIteration
  simp only [past_offset_iff, typed, closed, if_true, if_false, false_and, and_false]

/-- The cursor behind the type and the length byte of a value that does not fit. -/
def AttributeCursor.skipped (cursor : AttributeCursor) : AttributeCursor :=
  { cursor with dataOffset := cursor.dataOffset + 1 + 1, payload := cursor.payload + 1 + 1 }

theorem strictIteration_skipped (memory : Memory) (size : UInt16) (cursor : AttributeCursor)
    (enough : cursor.dataOffset.toNat + 2 < size.toNat)
    (beyond : size.toNat ≤ cursor.dataOffset.toNat +
      (memory (cursor.payload.offset + 1)).toNat) :
    (strictIteration memory size cursor).2 = .ok cursor.skipped := by
  obtain ⟨typed, sized, moved⟩ := header_offset enough
  have refused : ¬ (size.toNat : Int) > ((cursor.dataOffset + 1 + 1).toNat : Int) +
      (memory (cursor.payload.offset + 1)).toNat - 2 := by
    omega
  unfold strictIteration
  simp only [past_offset_iff, typed, sized, if_true, and_true, Pointer.add_offset]
  simp only [refused, if_false]
  rfl

theorem strictIteration_stored (memory : Memory) (size : UInt16) (cursor : AttributeCursor)
    (enough : cursor.dataOffset.toNat + 2 < size.toNat)
    (within : cursor.dataOffset.toNat + (memory (cursor.payload.offset + 1)).toNat <
      size.toNat) :
    (strictIteration memory size cursor).2 = .ok (cursor.stored memory) := by
  obtain ⟨typed, sized, moved⟩ := header_offset enough
  have admitted : (size.toNat : Int) > ((cursor.dataOffset + 1 + 1).toNat : Int) +
      (memory (cursor.payload.offset + 1)).toNat - 2 := by
    omega
  unfold strictIteration
  simp only [past_offset_iff, typed, sized, if_true, and_true, Pointer.add_offset]
  simp only [admitted, if_true]
  rfl

end TrafficInspector
