import Mathlib.Data.List.Basic
import Mathlib.Tactic.Ring

/-!
Owns byte memory as a little-endian host reads it: fixed-width loads at an
offset, the 16-bit swap between network and host order, and the block of bytes
a copy takes. Nothing here knows what the bytes mean.
-/

namespace Foundation.ByteOrder

/-- Bytes by their offset from a base address. -/
abbrev Memory := Nat → UInt8

def loadU16 (memory : Memory) (offset : Nat) : UInt16 :=
  (memory offset).toUInt16 + 256 * (memory (offset + 1)).toUInt16

def loadU32 (memory : Memory) (offset : Nat) : UInt32 :=
  (memory offset).toUInt32 + 256 * (memory (offset + 1)).toUInt32 +
    65536 * (memory (offset + 2)).toUInt32 + 16777216 * (memory (offset + 3)).toUInt32

def ntohs (value : UInt16) : UInt16 :=
  value % 256 * 256 + value / 256

/-- The `count` bytes from `start` on, in order. -/
def block (memory : Memory) (start count : Nat) : List UInt8 :=
  (List.range count).map fun index => memory (start + index)

theorem loadU16_toNat (memory : Memory) (offset : Nat) :
    (loadU16 memory offset).toNat =
      (memory offset).toNat + 256 * (memory (offset + 1)).toNat := by
  have low := (memory offset).toNat_lt
  have high := (memory (offset + 1)).toNat_lt
  simp only [loadU16, UInt16.toNat_add, UInt16.toNat_mul, UInt8.toNat_toUInt16,
    UInt16.reduceToNat]
  omega

theorem loadU32_toNat (memory : Memory) (offset : Nat) :
    (loadU32 memory offset).toNat =
      (memory offset).toNat + 256 * (memory (offset + 1)).toNat +
        65536 * (memory (offset + 2)).toNat + 16777216 * (memory (offset + 3)).toNat := by
  have first := (memory offset).toNat_lt
  have second := (memory (offset + 1)).toNat_lt
  have third := (memory (offset + 2)).toNat_lt
  have fourth := (memory (offset + 3)).toNat_lt
  simp only [loadU32, UInt32.toNat_add, UInt32.toNat_mul, UInt8.toNat_toUInt32,
    UInt32.reduceToNat]
  omega

theorem ntohs_loadU16_toNat (memory : Memory) (offset : Nat) :
    (ntohs (loadU16 memory offset)).toNat =
      256 * (memory offset).toNat + (memory (offset + 1)).toNat := by
  have low := (memory offset).toNat_lt
  have high := (memory (offset + 1)).toNat_lt
  have lowByte : ((memory offset).toNat + 256 * (memory (offset + 1)).toNat) % 256 =
      (memory offset).toNat := by omega
  have highByte : ((memory offset).toNat + 256 * (memory (offset + 1)).toNat) / 256 =
      (memory (offset + 1)).toNat := by omega
  simp only [ntohs, UInt16.toNat_add, UInt16.toNat_mul, UInt16.toNat_mod, UInt16.toNat_div,
    UInt16.reduceToNat, loadU16_toNat, lowByte, highByte]
  omega

/-! ### Blocks -/

@[simp] theorem block_length (memory : Memory) (start count : Nat) :
    (block memory start count).length = count := by
  simp [block]

@[simp] theorem block_zero (memory : Memory) (start : Nat) : block memory start 0 = [] :=
  rfl

@[simp] theorem block_getElem (memory : Memory) (start count index : Nat)
    (below : index < (block memory start count).length) :
    (block memory start count)[index] = memory (start + index) := by
  simp [block]

theorem block_succ (memory : Memory) (start count : Nat) :
    block memory start (count + 1) = memory start :: block memory (start + 1) count := by
  simp only [block, List.range_succ_eq_map, List.map_cons, List.map_map, Nat.add_zero]
  congr 1
  apply List.map_congr_left
  intro index _
  simp only [Function.comp_apply, Nat.succ_eq_add_one]
  congr 1
  ring

theorem block_take (memory : Memory) (start count keep : Nat) (le : keep ≤ count) :
    (block memory start count).take keep = block memory start keep := by
  apply List.ext_getElem
  · simpa using le
  · intro index _ _
    simp

theorem block_drop (memory : Memory) (start count skip : Nat) :
    (block memory start count).drop skip = block memory (start + skip) (count - skip) := by
  apply List.ext_getElem
  · simp
  · intro index _ _
    simp [Nat.add_assoc]

theorem block_append (memory : Memory) (start first second : Nat) :
    block memory start (first + second) =
      block memory start first ++ block memory (start + first) second := by
  rw [← List.take_append_drop first (block memory start (first + second)),
    block_take _ _ _ _ (Nat.le_add_right first second), block_drop, Nat.add_sub_cancel_left]

theorem block_congr {left right : Memory} {start count : Nat}
    (agree : ∀ index, start ≤ index → index < start + count → left index = right index) :
    block left start count = block right start count := by
  apply List.ext_getElem
  · simp
  · intro index below _
    simp only [block_length] at below
    simpa using agree (start + index) (by omega) (by omega)

end Foundation.ByteOrder
