import TrafficInspector.Foundation.ByteOrder

/-!
Owns what every packet class shares: the control message ids, the fields of
`BasePacket`, pointers into a pool buffer, and the ways in which a modelled
function can end without returning.

`size_t` is 64 bits wide and the host is little-endian.
-/

namespace TrafficInspector

open Foundation.ByteOrder

abbrev SizeT := UInt64

inductive ControlMessageId where
  | processing
  | syncTimeout
  | shutdown
  | maxControlMessageId
deriving DecidableEq, Repr

/-- How a call ends when it does not return. Undefined behaviour is a fault of
its own, so that no result depends on what a compiler makes of it. -/
inductive Fault where
  /-- `*` or `->` on an empty `unique_ptr`. -/
  | emptyPoolItem
  /-- A value is read that nothing has initialised. -/
  | indeterminateValue
  /-- `assert(pack_lenght == getPacketSizeImpl())` fails. -/
  | lengthAssert
  /-- `assert(false)` of the attribute loop is reached. -/
  | attributeAssert
  /-- The attribute loop is still running after as many iterations as it has bytes. -/
  | endlessLoop
  /-- The call chain needs more stack frames than there are. -/
  | stackExhausted
  /-- `% m_receivedPacketQueue.size()` with no worker. -/
  | divisionByZero
deriving DecidableEq, Repr

/-- The two asserts of the RADIUS decoder; the build keeps them (no `NDEBUG`). -/
def Fault.IsAssert (fault : Fault) : Prop :=
  fault = .lengthAssert ∨ fault = .attributeAssert

/-- A pointer into a pool buffer: the buffer it points into and the distance
from the start of that buffer. -/
structure Pointer where
  buffer : Nat
  offset : Nat
deriving DecidableEq, Repr

instance : HAdd Pointer Nat Pointer where
  hAdd pointer distance := ⟨pointer.buffer, pointer.offset + distance⟩

@[simp] theorem Pointer.add_offset (pointer : Pointer) (distance : Nat) :
    (pointer + distance).offset = pointer.offset + distance :=
  rfl

theorem Pointer.add_assoc (pointer : Pointer) (first second : Nat) :
    pointer + first + second = pointer + (first + second) :=
  congrArg (Pointer.mk pointer.buffer) (Nat.add_assoc pointer.offset first second)

/-- The members of `BasePacket`. The constructor from a control message leaves
`m_timeStamp` indeterminate; the model holds `0` there and no function reads it. -/
structure BasePacket where
  ctrlMessageId : ControlMessageId := .processing
  timeStamp : SizeT := 0

def maxPacketSize : Nat := 4096

def deref {Object : Type} : Option Object → Except Fault Object
  | some object => .ok object
  | none => .error .emptyPoolItem

@[simp] theorem deref_some {Object : Type} (object : Object) :
    deref (some object) = .ok object :=
  rfl

/-- A call that returned went through everything it is made of. -/
theorem bind_eq_ok {First Second : Type} {first : Except Fault First}
    {next : First → Except Fault Second} {result : Second}
    (returned : first >>= next = .ok result) :
    ∃ middle, first = .ok middle ∧ next middle = .ok result := by
  cases first with
  | error fault => cases returned
  | ok middle => exact ⟨middle, rfl, returned⟩

end TrafficInspector
