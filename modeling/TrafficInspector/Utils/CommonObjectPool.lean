import TrafficInspector.Foundation.Holdings
import TrafficInspector.NIC
import TrafficInspector.Packets.RADIUSPacket
import TrafficInspector.Utils.ObjectQueue

/-!
Owns `ObjectPool` and the way a pool object takes back to it. A `RawPacketsPoolItem` that
is destroyed hands its object to the pool it came from, and a packet owns one of these
three layers further down. An object is known by the address of its buffer.
-/

namespace TrafficInspector

open Foundation
open Foundation.ByteOrder

/-- The pool of raw packets: the queue of the objects that nobody uses. -/
abbrev ObjectPool := ObjectQueue RawPacketsPoolItem

namespace ObjectPool

/-- `ObjectPool(size)`, when the buffers are allocated at these addresses. -/
def create {size : Nat} (allocate : Fin size → Nat) (behind : Nat → Memory) : ObjectPool :=
  (List.finRange size).map fun index =>
    some (ETHPacket.create (allocate index) (behind (allocate index)))

def releaseObject (pool : ObjectPool) (objPtr : ETHPacket) : ObjectPool :=
  ObjectQueue.putObject pool (some objPtr)

/-- `~unique_ptr` of an item; it calls the deleter when there is an object. -/
def destroyItem (pool : ObjectPool) : RawPacketsPoolItem → ObjectPool
  | some ptr => pool.releaseObject ptr
  | none => pool

end ObjectPool

/-! ### The destructors, as far as the pool sees them -/

def IPPacket.destroy (packet : IPPacket) (pool : ObjectPool) : ObjectPool :=
  pool.destroyItem packet.prevLayerPacket

def TransportPacket.destroy {headerSize : SizeT} (packet : TransportPacket headerSize)
    (pool : ObjectPool) : ObjectPool :=
  packet.prevLayerPacket.destroy pool

def RADIUSPacket.destroy (packet : RADIUSPacket) (pool : ObjectPool) : ObjectPool :=
  packet.prevLayerPacket.destroy pool

/-! ### Which objects are where -/

def RawPacketsPoolItem.objects : RawPacketsPoolItem → Multiset Nat
  | some object => {object.data}
  | none => 0

/-- The objects a packet owns. -/
def RADIUSPacket.objects (packet : RADIUSPacket) : Multiset Nat :=
  packet.prevLayerPacket.prevLayerPacket.prevLayerPacket.objects

def ObjectPool.objects (pool : ObjectPool) : Multiset Nat :=
  listHolds RawPacketsPoolItem.objects pool

theorem RADIUSPacket.card_objects_le (packet : RADIUSPacket) : packet.objects.card ≤ 1 := by
  unfold RADIUSPacket.objects
  cases packet.prevLayerPacket.prevLayerPacket.prevLayerPacket with
  | none => exact Nat.zero_le 1
  | some object => exact Nat.le_of_eq (Multiset.card_singleton object.data)

theorem ObjectPool.objects_create {size : Nat} (allocate : Fin size → Nat)
    (behind : Nat → Memory) :
    (create allocate behind).objects = Multiset.map allocate Finset.univ.val := by
  have created (indices : List (Fin size)) :
      listHolds RawPacketsPoolItem.objects (indices.map fun index =>
        some (ETHPacket.create (allocate index) (behind (allocate index)))) =
          ↑(indices.map allocate) := by
    induction indices with
    | nil => rfl
    | cons index indices inductionHypothesis =>
        rw [List.map_cons, List.map_cons, listHolds_cons, inductionHypothesis]
        rfl
  exact created (List.finRange size)

theorem ObjectPool.objects_destroyItem (pool : ObjectPool) (item : RawPacketsPoolItem) :
    (pool.destroyItem item).objects = pool.objects + item.objects := by
  cases item with
  | none => exact (add_zero _).symm
  | some ptr =>
      show listHolds _ (pool ++ [some ptr]) = _
      rw [listHolds_append, listHolds_cons, listHolds_nil, add_zero]
      rfl

/-- A destroyed packet gives its object back. -/
theorem RADIUSPacket.objects_destroy (packet : RADIUSPacket) (pool : ObjectPool) :
    (packet.destroy pool).objects = pool.objects + packet.objects :=
  pool.objects_destroyItem _

end TrafficInspector
