import TrafficInspector.Foundation.QueueWorkers
import TrafficInspector.Threads.RadiusLoop

/-!
Owns the loop of the workers of `PacketProcessor<UDPPacket>` and `PacketProcessor<TCPPacket>`, which
is the same text but for the class: a worker logs the packet it takes, leaves at a `SHUTDOWN`, and
keeps nothing, so that a packet's buffer is back in the pool when its worker tests the flag again.
-/

namespace TrafficInspector

open Foundation

namespace SpecificPacket

/-- The item that the innermost layer holds. -/
def poolItem : (specific : SpecificPacket) → specific.Packet → RawPacketsPoolItem
  | radius, packet => (packet : RADIUSPacket).prevLayerPacket.prevLayerPacket.prevLayerPacket
  | udp, packet => (packet : UDPPacket).prevLayerPacket.prevLayerPacket
  | tcp, packet => (packet : TCPPacket).prevLayerPacket.prevLayerPacket

/-- The destructors, as far as the pool sees them. -/
def destroy : (specific : SpecificPacket) → specific.Packet → ObjectPool → ObjectPool
  | radius, packet => (packet : RADIUSPacket).destroy
  | udp, packet => (packet : UDPPacket).destroy
  | tcp, packet => (packet : TCPPacket).destroy

/-- The objects a packet owns. -/
def objects (specific : SpecificPacket) (packet : specific.Packet) : Multiset Nat :=
  (specific.poolItem packet).objects

variable {specific : SpecificPacket}

theorem destroy_eq (packet : specific.Packet) (pool : ObjectPool) :
    specific.destroy packet pool = pool.destroyItem (specific.poolItem packet) := by
  cases specific <;> rfl

theorem poolItem_ofControlMessageId (inst : ControlMessageId) :
    specific.poolItem (specific.ofControlMessageId inst) = none := by
  cases specific <;> rfl

/-- A packet that is built owns the frame, and is none of the control messages. -/
theorem createPacketPtr_ok {frame : ETHPacket} {packet : specific.Packet}
    {left : RawPacketsPoolItem}
    (built : specific.createPacketPtr (some frame) = .ok (packet, left)) :
    left = none ∧ specific.poolItem packet = some frame ∧
      specific.getCtrlMessageId packet = .processing := by
  cases specific with
  | radius =>
      obtain ⟨rfl, avps, rfl⟩ := ofPoolItem_ok built
      exact ⟨rfl, rfl, rfl⟩
  | udp =>
      cases built
      exact ⟨rfl, rfl, rfl⟩
  | tcp =>
      cases built
      exact ⟨rfl, rfl, rfl⟩

end SpecificPacket

/-- Where a worker is in its loop. Its session map is never used. -/
inductive TransportPlace (specific : SpecificPacket) where
  /-- In front of `while(!stopFlag)`. -/
  | testing
  /-- In `getObject`. -/
  | receiving
  /-- Behind `getObject`. -/
  | holding (packet : specific.Packet)
  /-- At the end of the body, where the packet is destroyed. -/
  | ending (packet : specific.Packet)
  | finished

namespace TransportPlace

variable {specific : SpecificPacket}

def take : TransportPlace specific → specific.Packet → Option (TransportPlace specific)
  | receiving, packet => some (holding packet)
  | _, _ => none

/-- Nothing in the loop reads the clock. -/
def act (_clockMsec : SizeT) (stop : Bool) (shared : SharedObjects) :
    TransportPlace specific → Option (Bool × SharedObjects × TransportPlace specific)
  | testing => some (stop, shared, if stop then finished else receiving)
  | receiving => none
  -- a SYNC goes on with the loop, as the end of the body does
  | holding packet =>
      some (if specific.getCtrlMessageId packet = .shutdown then true else stop, shared,
        ending packet)
  -- `break` is behind the test for `SHUTDOWN`
  | ending packet =>
      some (stop, { shared with pool := specific.destroy packet shared.pool },
        if specific.getCtrlMessageId packet = .shutdown then finished else testing)
  | finished => none

end TransportPlace

/-- The loop over the queue of a worker. -/
def transportLoop (specific : SpecificPacket) :
    QueueLoop specific.Packet (TransportPlace specific) SharedObjects SizeT where
  take := TransportPlace.take
  act := TransportPlace.act

namespace TransportPlace

variable {specific : SpecificPacket}

/-- Everything that a step of a worker's own can do. -/
inductive Turn (stop : Bool) (shared : SharedObjects) :
    TransportPlace specific → Bool → SharedObjects → TransportPlace specific → Prop
  | enters (lowered : stop = false) : Turn stop shared testing stop shared receiving
  | exits (raised : stop = true) : Turn stop shared testing stop shared finished
  | shutsDown {packet : specific.Packet}
      (control : specific.getCtrlMessageId packet = .shutdown) :
      Turn stop shared (holding packet) true shared (ending packet)
  | logs {packet : specific.Packet} (stays : specific.getCtrlMessageId packet ≠ .shutdown) :
      Turn stop shared (holding packet) stop shared (ending packet)
  | ends {packet : specific.Packet} (stays : specific.getCtrlMessageId packet ≠ .shutdown) :
      Turn stop shared (ending packet) stop
        { shared with pool := specific.destroy packet shared.pool } testing
  | breaks {packet : specific.Packet} (leaves : specific.getCtrlMessageId packet = .shutdown) :
      Turn stop shared (ending packet) stop
        { shared with pool := specific.destroy packet shared.pool } finished

variable {stop stopAfter : Bool} {shared sharedAfter : SharedObjects}
  {place after : TransportPlace specific}

theorem turn_of_act (clockMsec : SizeT)
    (acted : act clockMsec stop shared place = some (stopAfter, sharedAfter, after)) :
    Turn stop shared place stopAfter sharedAfter after := by
  cases place with
  | testing =>
      cases stop with
      | false =>
          cases acted
          exact .enters rfl
      | true =>
          cases acted
          exact .exits rfl
  | receiving => cases acted
  | holding packet =>
      by_cases control : specific.getCtrlMessageId packet = .shutdown
      · rw [act, if_pos control] at acted
        cases acted
        exact .shutsDown control
      · rw [act, if_neg control] at acted
        cases acted
        exact .logs control
  | ending packet =>
      by_cases leaves : specific.getCtrlMessageId packet = .shutdown
      · rw [act, if_pos leaves] at acted
        cases acted
        exact .breaks leaves
      · rw [act, if_neg leaves] at acted
        cases acted
        exact .ends leaves
  | finished => cases acted

/-! ### Where the objects are -/

def inHands : TransportPlace specific → Multiset Nat
  | holding packet | ending packet => specific.objects packet
  | testing | receiving | finished => 0

theorem turn_objects (turn : Turn stop shared place stopAfter sharedAfter after) :
    sharedAfter.pool.objects + after.inHands = shared.pool.objects + place.inHands := by
  have destroyed (packet : specific.Packet) :
      (specific.destroy packet shared.pool).objects + 0 =
        shared.pool.objects + specific.objects packet := by
    rw [SpecificPacket.destroy_eq, ObjectPool.objects_destroyItem, add_zero]
    rfl
  cases turn with
  | ends stays => exact destroyed _
  | breaks leaves => exact destroyed _
  | enters | exits | shutsDown | logs => rfl

theorem conserves (specific : SpecificPacket) :
    (transportLoop specific).Conserves inHands specific.objects
      (fun shared => shared.pool.objects) fun _ => True := by
  refine ⟨fun place packet after _ taken => ?_, fun clockMsec _ _ _ _ _ _ _ acted =>
    ⟨trivial, turn_objects (turn_of_act clockMsec acted)⟩⟩
  cases place with
  | receiving =>
      cases taken
      exact ⟨trivial, (zero_add _).symm⟩
  | _ => cases taken

theorem turn_stocked (turn : Turn stop shared place stopAfter sharedAfter after)
    (stocked : shared.pool.Stocked) : sharedAfter.pool.Stocked := by
  have destroyed (packet : specific.Packet) :
      ObjectPool.Stocked (specific.destroy packet shared.pool) := by
    rw [SpecificPacket.destroy_eq]
    exact stocked.destroyItem _
  cases turn with
  | ends stays => exact destroyed _
  | breaks leaves => exact destroyed _
  | enters | exits | shutsDown | logs => exact stocked

/-! ### Workers that nobody tells to leave -/

/-- A worker that does not leave, with no `SHUTDOWN` in its hands. -/
def Calm : TransportPlace specific → Prop
  | testing | receiving => True
  | holding packet | ending packet => specific.getCtrlMessageId packet ≠ .shutdown
  | finished => False

/-- How many steps a worker can take by itself. -/
def work : TransportPlace specific → Nat
  | receiving | finished => 0
  | testing => 1
  | ending _ => 2
  | holding _ => 3

/-- How many a message makes. -/
def messageWork (_packet : specific.Packet) : Nat := 4

private theorem turn_calm
    (turn : Turn false shared place stopAfter sharedAfter after) (calm : place.Calm) :
    stopAfter = false ∧ after.Calm ∧ after.work + 1 ≤ place.work := by
  cases turn with
  | enters lowered => exact ⟨rfl, trivial, Nat.le_refl _⟩
  | exits raised => cases raised
  | shutsDown control => exact absurd control calm
  | logs stays => exact ⟨rfl, calm, Nat.le_refl _⟩
  | ends stays => exact ⟨rfl, trivial, Nat.le_refl _⟩
  | breaks leaves => exact absurd leaves calm

theorem settles (specific : SpecificPacket) :
    (transportLoop specific).Settles (fun packet => specific.getCtrlMessageId packet ≠ .shutdown)
      Calm messageWork work := by
  refine ⟨fun place packet after calm known taken => ?_,
    fun clockMsec _ _ _ _ _ calm acted => turn_calm (turn_of_act clockMsec acted) calm,
    fun place calm => ?_⟩
  · cases place with
    | receiving =>
        cases taken
        exact ⟨known, Nat.le_refl _⟩
    | _ => cases taken
  · cases place with
    | receiving => exact .inl fun _ => rfl
    | testing => exact .inr ⟨0, fun _ => rfl⟩
    | holding packet => exact .inr ⟨0, fun _ => rfl⟩
    | ending packet => exact .inr ⟨0, fun _ => rfl⟩
    | finished => exact calm.elim

theorem inHands_of_waits {place : TransportPlace specific}
    (waits : (transportLoop specific).Waits place) : place.inHands = 0 := by
  have taken := waits (specific.ofControlMessageId .syncTimeout)
  cases place with
  | receiving => rfl
  | _ => cases taken

/-- Between two messages. -/
def Quiet : TransportPlace specific → Prop
  | testing | receiving => True
  | _ => False

theorem keepsQuiet (specific : SpecificPacket) : (transportLoop specific).Keeps Quiet := by
  intro clockMsec shared place stopAfter sharedAfter after quiet acted
  cases place with
  | testing =>
      cases acted
      exact ⟨rfl, rfl, trivial⟩
  | receiving => cases acted
  | _ => cases quiet

end TransportPlace

end TrafficInspector
