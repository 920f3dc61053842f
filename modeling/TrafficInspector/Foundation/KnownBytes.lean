import TrafficInspector.Foundation.ByteOrder

/-!
Owns byte memory of which only some offsets are known: agreement on the known
ones, and refilling the others at will.
-/

namespace Foundation.ByteOrder

variable {known : Nat → Prop}

/-- Two memories agree where the bytes are known. -/
def AgreeOn (known : Nat → Prop) (memory other : Memory) : Prop :=
  ∀ offset, known offset → other offset = memory offset

/-- Keep the known bytes and take all others from `stale`. -/
def refill (known : Nat → Prop) [DecidablePred known] (memory stale : Memory) : Memory :=
  fun offset => if known offset then memory offset else stale offset

theorem refill_known [DecidablePred known] (memory stale : Memory) {offset : Nat}
    (isKnown : known offset) : refill known memory stale offset = memory offset :=
  if_pos isKnown

theorem refill_unknown [DecidablePred known] (memory stale : Memory) {offset : Nat}
    (isUnknown : ¬ known offset) : refill known memory stale offset = stale offset :=
  if_neg isUnknown

theorem agreeOn_refill [DecidablePred known] (memory stale : Memory) :
    AgreeOn known memory (refill known memory stale) :=
  fun _ isKnown => refill_known memory stale isKnown

theorem refill_mem [DecidablePred known] {memory stale : Memory} {offset : Nat}
    {wanted : List UInt8} (open_ : known offset → memory offset ∈ wanted)
    (filled : stale offset ∈ wanted) : refill known memory stale offset ∈ wanted := by
  by_cases isKnown : known offset
  · rw [refill_known memory stale isKnown]
    exact open_ isKnown
  · rw [refill_unknown memory stale isKnown]
    exact filled

end Foundation.ByteOrder
