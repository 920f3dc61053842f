import TrafficInspector.PacketProcessor
import TrafficInspector.Packets.WireFormat

/-!
Owns on which worker queue `PacketProcessor::onDispatchImpl` puts a packet. The
built packet's own hash is the same for both directions of an exchange, but the
function asks the pool item it has just emptied, so it never gets as far as a
queue.
-/

namespace TrafficInspector

open Foundation.ByteOrder

/-- A frame going the other way: addresses and ports swapped, same RADIUS identifier. -/
structure ETHPacket.IsReplyTo (reply frame : ETHPacket) : Prop where
  source : IPPacket.saddr reply.memory reply.getPayloadDataImpl =
    IPPacket.daddr frame.memory frame.getPayloadDataImpl
  destination : IPPacket.daddr reply.memory reply.getPayloadDataImpl =
    IPPacket.saddr frame.memory frame.getPayloadDataImpl
  sourcePort : TransportPacket.sport reply.memory (reply.getPayloadDataImpl + 20) =
    TransportPacket.dport frame.memory (frame.getPayloadDataImpl + 20)
  destinationPort : TransportPacket.dport reply.memory (reply.getPayloadDataImpl + 20) =
    TransportPacket.sport frame.memory (frame.getPayloadDataImpl + 20)
  identifier : RADIUSPacket.packetIdentifier reply.memory reply.radiusHeader =
    RADIUSPacket.packetIdentifier frame.memory frame.radiusHeader

/-! ### The hash of a built packet -/

def transportHash (frame : ETHPacket) : SizeT :=
  (IPPacket.saddr frame.memory frame.getPayloadDataImpl +
      IPPacket.daddr frame.memory frame.getPayloadDataImpl).toUInt64 +
    (TransportPacket.dport frame.memory (frame.getPayloadDataImpl + 20)).toUInt64 +
    (TransportPacket.sport frame.memory (frame.getPayloadDataImpl + 20)).toUInt64

/-- The hash that the class computes of a packet built from the frame. -/
def SpecificPacket.frameHash : SpecificPacket → ETHPacket → SizeT
  | radius, frame =>
      transportHash frame + (RADIUSPacket.packetIdentifier frame.memory frame.radiusHeader).toUInt64
  | udp, frame => transportHash frame
  | tcp, frame => transportHash frame

theorem createPacketPtr_empties {specific : SpecificPacket} {inst left : RawPacketsPoolItem}
    {packet : specific.Packet} (built : specific.createPacketPtr inst = .ok (packet, left)) :
    left = none := by
  cases inst with
  | none => cases specific <;> cases built
  | some frame =>
      cases specific with
      | radius => exact (ofPoolItem_ok built).1
      | udp =>
          cases built
          rfl
      | tcp =>
          cases built
          rfl

theorem hash_of_built {specific : SpecificPacket} {frame : ETHPacket} {left : RawPacketsPoolItem}
    {packet : specific.Packet}
    (built : specific.createPacketPtr (some frame) = .ok (packet, left)) :
    specific.getPacketSpecificHash packet = .ok (specific.frameHash frame) := by
  cases specific with
  | radius =>
      obtain ⟨_, avps, rfl⟩ := ofPoolItem_ok built
      rfl
  | udp =>
      cases built
      rfl
  | tcp =>
      cases built
      rfl

/-- A frame and its reply have the same hash, also where the address sum wraps. -/
theorem frameHash_reply (specific : SpecificPacket) {reply frame : ETHPacket}
    (isReply : reply.IsReplyTo frame) : specific.frameHash reply = specific.frameHash frame := by
  have transport : transportHash reply = transportHash frame := by
    unfold transportHash
    rw [isReply.source, isReply.destination, isReply.sourcePort, isReply.destinationPort,
      UInt32.add_comm, UInt64.add_assoc, UInt64.add_assoc, UInt64.add_comm
        (TransportPacket.sport frame.memory (frame.getPayloadDataImpl + 20)).toUInt64]
  cases specific with
  | radius =>
      show transportHash reply + _ = transportHash frame + _
      rw [transport, isReply.identifier]
  | udp => exact transport
  | tcp => exact transport

/-! ### Placing a packet -/

namespace PacketProcessor

variable {specific : SpecificPacket}

/-- `onDispatchImpl` returns with the packet built from the frame behind the
others on the queue of `workerId`, and no other queue changed. -/
def AppendsTo (processor : PacketProcessor specific) (frame : ETHPacket) (workerId : Nat) : Prop :=
  ∃ packet left, specific.createPacketPtr (some frame) = .ok (packet, none) ∧
    processor.onDispatchImpl (some frame) =
      .ok (true, left, { processor with
        receivedPacketQueue := processor.receivedPacketQueue.modify workerId
          (ObjectQueue.putObject · packet) })

/-- The frame's packet goes to the worker its own hash names, and so does the
packet of every reply that the class accepts and can build. -/
structure Places (processor : PacketProcessor specific) (frame : ETHPacket) : Prop where
  placed : ∃ packet hash, specific.createPacketPtr (some frame) = .ok (packet, none) ∧
    specific.getPacketSpecificHash packet = .ok hash ∧
    processor.AppendsTo frame (hash.toNat % processor.receivedPacketQueue.length)
  reply : ∀ reply : ETHPacket, reply.IsReplyTo frame →
    (specific.isDispatchableTypeImpl reply).isSome →
    (∃ packet, specific.createPacketPtr (some reply) = .ok (packet, none)) →
      ∃ workerId, processor.AppendsTo frame workerId ∧ processor.AppendsTo reply workerId

theorem onDispatchImpl_derefs_emptied (processor : PacketProcessor specific)
    {inst left : RawPacketsPoolItem} {packet : specific.Packet}
    (built : specific.createPacketPtr inst = .ok (packet, left)) :
    processor.onDispatchImpl inst = .error .emptyPoolItem := by
  have emptied := createPacketPtr_empties built
  unfold onDispatchImpl
  rw [built, emptied]
  rfl

theorem onDispatchImpl_faults (processor : PacketProcessor specific) (inst : RawPacketsPoolItem) :
    ∃ fault, processor.onDispatchImpl inst = .error fault := by
  cases built : specific.createPacketPtr inst with
  | ok result => exact ⟨_, processor.onDispatchImpl_derefs_emptied built⟩
  | error fault =>
      refine ⟨fault, ?_⟩
      unfold onDispatchImpl
      rw [built]
      rfl

/-- No frame is placed, whatever its class, the workers and their queues. -/
theorem never_places (processor : PacketProcessor specific) (frame : ETHPacket) :
    ¬ processor.Places frame := by
  intro places
  obtain ⟨_, _, _, _, _, _, _, returned⟩ := places.placed
  obtain ⟨fault, fails⟩ := processor.onDispatchImpl_faults (some frame)
  rw [fails] at returned
  cases returned

end PacketProcessor

/-- An accepted request that builds, and a processor with one worker. -/
theorem accessRequest_not_placed :
    (SpecificPacket.udp.isDispatchableTypeImpl
        (receivedFresh (accessRequest [1, 3, 65]).bytes).val).isSome ∧
      (∃ packet, SpecificPacket.udp.createPacketPtr
        (some (receivedFresh (accessRequest [1, 3, 65]).bytes).val) = .ok (packet, none)) ∧
      ¬ (PacketProcessor.create .udp 1 2000).Places
        (receivedFresh (accessRequest [1, 3, 65]).bytes).val := by
  refine ⟨by decide, ⟨_, rfl⟩, fun places => ?_⟩
  obtain ⟨_, _, _, _, _, _, _, returned⟩ := places.placed
  rw [PacketProcessor.onDispatchImpl_derefs_emptied _ rfl] at returned
  cases returned

end TrafficInspector
