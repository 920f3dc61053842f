import TrafficInspector.Packets.WireFormat

/-!
Owns that the attribute loop ends on every input. Its offset has 16 bits and its
length 8, and a length byte of `0` or `1` wraps; but an iteration that goes on
moves the offset by two bytes at least, and the length assert has bound the
packet to a pool buffer, which keeps the offset far from its own end.
-/

namespace TrafficInspector

open Foundation
open Foundation.ByteOrder

/-- An iteration that is entered fails its assert, or moves the offset over the type, the
length and the value without wrapping it. -/
def AttributeCursor.MovesOn (memory : Memory) (size : UInt16) (cursor : AttributeCursor) : Prop :=
  attributeGuard size cursor = true →
    (∃ reads, attributeIteration memory size cursor = (reads, .error .attributeAssert)) ∨
      ∃ reads next, attributeIteration memory size cursor = (reads, .ok next) ∧
        next.dataOffset.toNat = cursor.dataOffset.toNat + 2 +
          valueLength (memory (cursor.payload.offset + 1))

/-- The loop behind the length assert: what its iterations do, how many there are whatever
it is allowed, and how it ends. -/
structure RADIUSPacket.Opened.LoopEnds (opened : Opened) : Prop where
  movesOn : ∀ cursor : AttributeCursor, cursor.MovesOn opened.memory opened.size
  iterations : ∀ fuel, (fueledLoop (attributeGuard opened.size)
      (attributeIteration opened.memory opened.size) .endlessLoop fuel
      opened.cursor).1.length ≤ (opened.size.toNat - 20) / 2 + 1
  ends : (∃ final, opened.attributes.2 = .ok final ∧
      attributeGuard opened.size final = false) ∨
    opened.attributes.2 = .error .attributeAssert

section

variable {size : UInt16} (memory : Memory)

theorem movesOn_of_inPool (inPool : size.toNat ≤ maxPacketSize) (cursor : AttributeCursor) :
    cursor.MovesOn memory size := by
  intro enters
  have below := (attributeGuard_iff size cursor).mp enters
  by_cases enough : cursor.dataOffset.toNat + 2 < size.toNat
  · by_cases within : cursor.dataOffset.toNat +
        (memory (cursor.payload.offset + 1)).toNat ≤ size.toNat
    · refine .inr ⟨_, _, attributeIteration_stored memory size cursor enough within, ?_⟩
      exact cursor.stored_dataOffset memory (Nat.lt_of_lt_of_le below inPool)
    · exact .inl ⟨_, attributeIteration_long memory size cursor enough (Nat.lt_of_not_le within)⟩
  · exact .inl ⟨_, attributeIteration_short memory size cursor (Nat.le_of_not_lt enough)⟩

private theorem ahead_of_inPool (inPool : size.toNat ≤ maxPacketSize) (cursor : AttributeCursor)
    (reads : AttributeReads) (next : AttributeCursor)
    (enters : attributeGuard size cursor = true)
    (step : attributeIteration memory size cursor = (reads, .ok next)) :
    cursor.dataOffset.toNat + 2 ≤ next.dataOffset.toNat := by
  rcases movesOn_of_inPool memory inPool cursor enters with ⟨_, fails⟩ | ⟨_, _, moves, offset⟩
  · rw [step] at fails
    cases fails
  · rw [step] at moves
    cases moves
    rw [offset]
    exact Nat.le_add_right _ _

private theorem failure_of_inPool (inPool : size.toNat ≤ maxPacketSize)
    {cursor : AttributeCursor} {fault : Fault} (enters : attributeGuard size cursor = true)
    (fails : (attributeIteration memory size cursor).2 = .error fault) :
    fault = .attributeAssert := by
  rcases movesOn_of_inPool memory inPool cursor enters with ⟨_, step⟩ | ⟨_, _, step, _⟩
  · rw [step] at fails
    cases fails
    rfl
  · rw [step] at fails
    cases fails

end

/-- The attribute loop ends for every buffer content and received size: an iteration that
goes on gets ahead by two bytes, and there are at most half as many as attribute bytes,
and one. -/
theorem attribute_loop_ends (frame : ReceivedPacket) (opened : RADIUSPacket.Opened)
    (item : RawPacketsPoolItem)
    (asserted : RADIUSPacket.openPoolItem (some frame.val) = .ok (opened, item)) :
    opened.LoopEnds := by
  by_cases passes : frame.val.PassesLengthAssert
  · rw [openPoolItem_of_passes passes] at asserted
    cases asserted
    have inPool := start_inPool frame.property passes
    have bounded := fun cursor => (attributeGuard_iff frame.val.decoderStart.size cursor).mp
    have ahead := ahead_of_inPool frame.val.decoderStart.memory inPool
    have start : frame.val.decoderStart.cursor.dataOffset.toNat = 20 := rfl
    refine ⟨movesOn_of_inPool _ inPool, fun fuel => ?_, ?_⟩
    · have strides := fueledLoop_length_le Fault.endlessLoop bounded ahead fuel
        frame.val.decoderStart.cursor
      rw [start] at strides
      omega
    · have ending := fueledLoop_ends Fault.endlessLoop bounded ahead (by decide)
        frame.val.decoderStart.size.toNat frame.val.decoderStart.cursor (Nat.le_add_left _ _)
      apply ending.imp_right
      rintro ⟨last, fault, ended, enters, fails⟩
      rw [← failure_of_inPool _ inPool enters fails]
      exact ended
  · rw [openPoolItem_of_not_passes passes] at asserted
    cases asserted

/-- A length byte of `0`, which wraps to 254 bytes. -/
theorem attribute_loop_ends_zero_length :
    (receivedFresh (accessRequest [1, 0, 65]).bytes).val.decoderStart.LoopEnds :=
  attribute_loop_ends (receivedFresh (accessRequest [1, 0, 65]).bytes) _ none
    (openPoolItem_of_passes (by decide))

end TrafficInspector
