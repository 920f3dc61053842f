import TrafficInspector.Foundation.FirstWins
import TrafficInspector.Foundation.FueledLoop
import TrafficInspector.Packets.BasePacket

/-!
Owns the attribute loop of `RADIUSPacket(RawPacketsPoolItem&&)`, iteration by
iteration: which bytes it reads, when it gives up on `assert(false)`, and how
its 16-bit offset and 8-bit length move. Each iteration also reports the places
it read, which is what the bounds results are about.
-/

namespace TrafficInspector

open Foundation
open Foundation.ByteOrder

abbrev RadiusAvpType := UInt8

abbrev RadiusAvpValue := List UInt8

/-- `AVPStorage`, a `std::map`: `insert` leaves an existing binding alone. -/
abbrev AVPStorage := Std.ExtTreeMap RadiusAvpType RadiusAvpValue

/-- The variables of the loop that live across iterations. -/
structure AttributeCursor where
  dataOffset : UInt16
  payload : Pointer
  avps : AVPStorage

/-- The places one iteration reads: the type byte, the length byte, and the
source and count of the `memcpy` into the value. -/
structure AttributeReads where
  typeAt : Option Pointer
  lengthAt : Option Pointer
  valueAt : Option (Pointer × Nat)
deriving DecidableEq, Repr

/-- `length -= 2` on a `uint8_t`, as the number of bytes then copied. -/
def valueLength (length : UInt8) : Nat := (length - 2).toNat

/-- One iteration of the loop body. The bound checks are made in `size_t`, the
sum `dataOffset + length` before it in `int`, and only the decremented `length`
wraps. -/
def attributeIteration (memory : Memory) (size : UInt16) (cursor : AttributeCursor) :
    AttributeReads × Except Fault AttributeCursor :=
  let atrParsed := size.toUInt64 > cursor.dataOffset.toUInt64 + 1
  let type := memory cursor.payload.offset
  let typed := if atrParsed then
      { cursor with dataOffset := cursor.dataOffset + 1, payload := cursor.payload + 1 }
    else cursor
  let lenParsed := size.toUInt64 > typed.dataOffset.toUInt64 + 1 ∧ atrParsed
  let length := if lenParsed then memory typed.payload.offset else 0
  let sized := if lenParsed then
      { typed with dataOffset := typed.dataOffset + 1, payload := typed.payload + 1 }
    else typed
  let valParsed :=
    size.toUInt64 ≥ sized.dataOffset.toUInt64 + length.toUInt64 - 1 - 1 ∧ lenParsed
  let typeAt := if atrParsed then some cursor.payload else none
  let lengthAt := if lenParsed then some typed.payload else none
  if valParsed then
    let value := block memory sized.payload.offset (valueLength length)
    (⟨typeAt, lengthAt, some (sized.payload, valueLength length)⟩,
      .ok { dataOffset := sized.dataOffset + (length - 2).toUInt16,
            payload := sized.payload + valueLength length,
            avps := sized.avps.insertIfNew type value })
  else
    (⟨typeAt, lengthAt, none⟩, .error .attributeAssert)

/-- `while(size > dataOffset)`. -/
def attributeGuard (size : UInt16) (cursor : AttributeCursor) : Bool :=
  decide (size > cursor.dataOffset)

/-- The loop, allowed one iteration for every byte of the packet. -/
def attributeLoop (memory : Memory) (size : UInt16) (cursor : AttributeCursor) :
    List AttributeReads × Except Fault AttributeCursor :=
  fueledLoop (attributeGuard size) (attributeIteration memory size) .endlessLoop size.toNat cursor

/-! ### One iteration over the natural numbers -/

theorem valueLength_eq (length : UInt8) :
    valueLength length = if length.toNat < 2 then length.toNat + 254 else length.toNat - 2 := by
  have small := length.toNat_lt
  rw [valueLength, UInt8.toNat_sub]
  simp only [UInt8.reduceToNat]
  split <;> omega

theorem valueLength_le (length : UInt8) : valueLength length ≤ 255 := by
  have small := length.toNat_lt
  rw [valueLength_eq]
  split <;> omega

theorem past_offset_iff (size offset : UInt16) :
    size.toUInt64 > offset.toUInt64 + 1 ↔ offset.toNat + 1 < size.toNat := by
  have small := offset.toNat_lt
  rw [gt_iff_lt, UInt64.lt_iff_toNat_lt, UInt64.toNat_add]
  simp only [UInt16.toNat_toUInt64, UInt64.reduceToNat]
  omega

private theorem value_fits_iff (size offset : UInt16) (length : UInt8)
    (header : 2 ≤ offset.toNat) :
    size.toUInt64 ≥ offset.toUInt64 + length.toUInt64 - 1 - 1 ↔
      offset.toNat + length.toNat ≤ size.toNat + 2 := by
  have small := offset.toNat_lt
  have lengthSmall := length.toNat_lt
  rw [ge_iff_le, UInt64.le_iff_toNat_le, UInt64.toNat_sub, UInt64.toNat_sub, UInt64.toNat_add]
  simp only [UInt16.toNat_toUInt64, UInt8.toNat_toUInt64, UInt64.reduceToNat]
  omega

theorem offset_succ (offset : UInt16) (below : offset.toNat + 1 < 65536) :
    (offset + 1).toNat = offset.toNat + 1 := by
  rw [UInt16.toNat_add]
  simp only [UInt16.reduceToNat]
  omega

/-- Where there is room for a type, a length and a value byte, the offset passes the first
two without wrapping. -/
theorem header_offset {size offset : UInt16} (enough : offset.toNat + 2 < size.toNat) :
    offset.toNat + 1 < size.toNat ∧ (offset + 1).toNat + 1 < size.toNat ∧
      (offset + 1 + 1).toNat = offset.toNat + 2 := by
  have sizeSmall := size.toNat_lt
  have first := offset_succ offset (by omega)
  have second := offset_succ (offset + 1) (by omega)
  omega

theorem attributeIteration_short (memory : Memory) (size : UInt16) (cursor : AttributeCursor)
    (short : size.toNat ≤ cursor.dataOffset.toNat + 2) :
    attributeIteration memory size cursor =
      (⟨if cursor.dataOffset.toNat + 1 < size.toNat then some cursor.payload else none,
        none, none⟩, .error .attributeAssert) := by
  have sizeSmall := size.toNat_lt
  unfold attributeIteration
  by_cases typed : cursor.dataOffset.toNat + 1 < size.toNat
  · have moved := offset_succ cursor.dataOffset (by omega)
    have closed : ¬ (cursor.dataOffset + 1).toNat + 1 < size.toNat := by omega
    simp only [past_offset_iff, typed, closed, if_true, if_false, false_and, and_false]
  · simp only [past_offset_iff, typed, if_false, and_false]

theorem attributeIteration_long (memory : Memory) (size : UInt16) (cursor : AttributeCursor)
    (enough : cursor.dataOffset.toNat + 2 < size.toNat)
    (beyond : size.toNat < cursor.dataOffset.toNat +
      (memory (cursor.payload.offset + 1)).toNat) :
    attributeIteration memory size cursor =
      (⟨some cursor.payload, some (cursor.payload + 1), none⟩, .error .attributeAssert) := by
  obtain ⟨typed, sized, moved⟩ := header_offset enough
  have refused : ¬ size.toUInt64 ≥ (cursor.dataOffset + 1 + 1).toUInt64 +
      (memory (cursor.payload.offset + 1)).toUInt64 - 1 - 1 := by
    rw [value_fits_iff _ _ _ (by omega)]
    omega
  unfold attributeIteration
  simp only [gt_iff_lt, past_offset_iff, typed, sized, if_true, and_true, Pointer.add_offset]
  simp only [refused, if_false]

def AttributeCursor.stored (memory : Memory) (cursor : AttributeCursor) : AttributeCursor :=
  let length := memory (cursor.payload.offset + 1)
  { dataOffset := cursor.dataOffset + 1 + 1 + (length - 2).toUInt16
    payload := cursor.payload + 1 + 1 + valueLength length
    avps := cursor.avps.insertIfNew (memory cursor.payload.offset)
      (block memory (cursor.payload.offset + 1 + 1) (valueLength length)) }

theorem attributeIteration_stored (memory : Memory) (size : UInt16) (cursor : AttributeCursor)
    (enough : cursor.dataOffset.toNat + 2 < size.toNat)
    (within : cursor.dataOffset.toNat + (memory (cursor.payload.offset + 1)).toNat ≤
      size.toNat) :
    attributeIteration memory size cursor =
      (⟨some cursor.payload, some (cursor.payload + 1),
          some (cursor.payload + 1 + 1, valueLength (memory (cursor.payload.offset + 1)))⟩,
        .ok (cursor.stored memory)) := by
  obtain ⟨typed, sized, moved⟩ := header_offset enough
  have admitted : size.toUInt64 ≥ (cursor.dataOffset + 1 + 1).toUInt64 +
      (memory (cursor.payload.offset + 1)).toUInt64 - 1 - 1 := by
    rw [value_fits_iff _ _ _ (by omega)]
    omega
  unfold attributeIteration
  simp only [past_offset_iff, typed, sized, if_true, and_true, Pointer.add_offset]
  simp only [admitted, if_true]
  rfl

/-- The offset cannot wrap in a packet of pool size. -/
theorem AttributeCursor.stored_dataOffset (memory : Memory) (cursor : AttributeCursor)
    (below : cursor.dataOffset.toNat < maxPacketSize) :
    (cursor.stored memory).dataOffset.toNat =
      cursor.dataOffset.toNat + 2 + valueLength (memory (cursor.payload.offset + 1)) := by
  have bound := valueLength_le (memory (cursor.payload.offset + 1))
  have poolSize : maxPacketSize = 4096 := rfl
  show (cursor.dataOffset + 1 + 1 +
    (memory (cursor.payload.offset + 1) - 2).toUInt16).toNat = _
  rw [UInt16.toNat_add, offset_succ _ (by rw [offset_succ _ (by omega)]; omega),
    offset_succ _ (by omega), UInt8.toNat_toUInt16, ← valueLength]
  omega

end TrafficInspector
