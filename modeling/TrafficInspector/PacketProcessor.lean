import TrafficInspector.Dispatcher.IDispatchable
import TrafficInspector.Utils.ObjectQueue

/-!
Owns `PacketProcessor` as the main thread sees it: the packet class it is made
for, its worker queues, and `onDispatchImpl`, which builds the packet and picks
a worker for it.
-/

namespace TrafficInspector

inductive SpecificPacket where
  | radius
  | udp
  | tcp
deriving DecidableEq, Repr

namespace SpecificPacket

def Packet : SpecificPacket → Type
  | radius => RADIUSPacket
  | udp => UDPPacket
  | tcp => TCPPacket

def packetClass : SpecificPacket → PacketClass
  | radius => .radius
  | udp => .udp
  | tcp => .tcp

/-- `createPacketPtr(std::move(inst))`: the packet, and what the move leaves in `inst`. -/
def createPacketPtr : (specific : SpecificPacket) → RawPacketsPoolItem →
    Except Fault (specific.Packet × RawPacketsPoolItem)
  | radius, inst => RADIUSPacket.ofPoolItem inst
  | udp, inst => (TransportPacket.ofPoolItem inst : Except Fault (UDPPacket × RawPacketsPoolItem))
  | tcp, inst => (TransportPacket.ofPoolItem inst : Except Fault (TCPPacket × RawPacketsPoolItem))

/-- `createPacketPtr(inst)` of a control message. -/
def ofControlMessageId : (specific : SpecificPacket) → ControlMessageId → specific.Packet
  | radius, inst => RADIUSPacket.ofControlMessageId inst
  | udp, inst => (TransportPacket.ofControlMessageId inst : UDPPacket)
  | tcp, inst => (TransportPacket.ofControlMessageId inst : TCPPacket)

def getCtrlMessageId : (specific : SpecificPacket) → specific.Packet → ControlMessageId
  | radius, packet => (packet : RADIUSPacket).ctrlMessageId
  | udp, packet => (packet : UDPPacket).ctrlMessageId
  | tcp, packet => (packet : TCPPacket).ctrlMessageId

theorem getCtrlMessageId_ofControlMessageId (specific : SpecificPacket)
    (inst : ControlMessageId) :
    specific.getCtrlMessageId (specific.ofControlMessageId inst) = inst := by
  cases specific <;> rfl

def getPacketSpecificHash : (specific : SpecificPacket) → specific.Packet → Except Fault SizeT
  | radius, packet => RADIUSPacket.getPacketSpecificHashImpl packet
  | udp, packet => (TransportPacket.getPacketSpecificHashImpl : UDPPacket → _) packet
  | tcp, packet => (TransportPacket.getPacketSpecificHashImpl : TCPPacket → _) packet

def isDispatchableTypeImpl : SpecificPacket → ETHPacket → Option Pointer
  | radius, src => RADIUSPacket.isDispatchableTypeImpl src
  | udp, src => UDPPacket.isDispatchableTypeImpl src
  | tcp, src => TCPPacket.isDispatchableTypeImpl src

end SpecificPacket

structure PacketProcessor (specific : SpecificPacket) where
  receivedPacketQueue : List (ObjectQueue specific.Packet)
  responseTimeoutMsec : SizeT := 1000
  stop : Bool := false

namespace PacketProcessor

variable {specific : SpecificPacket}

/-- `PacketProcessor(instancesCount, responseTimeoutMsec)`; the second parameter is not used. -/
def create (specific : SpecificPacket) (instancesCount : Nat) (_responseTimeoutMsec : SizeT) :
    PacketProcessor specific where
  receivedPacketQueue := List.replicate instancesCount []

/-- `onDispatchImpl(inst)`: the answer, what is left in `inst`, and the processor. The
worker's number is computed from `inst`, after the packet was built out of it. -/
def onDispatchImpl (processor : PacketProcessor specific) (inst : RawPacketsPoolItem) :
    Except Fault (Bool × RawPacketsPoolItem × PacketProcessor specific) := do
  let (specialPacket, inst) ← specific.createPacketPtr inst
  let raw ← deref inst
  let hash := raw.getPacketSpecificHashImpl
  if processor.receivedPacketQueue.length = 0 then
    throw .divisionByZero
  else
    let workerId := hash.toNat % processor.receivedPacketQueue.length
    return (true, inst,
      { processor with
        receivedPacketQueue := processor.receivedPacketQueue.modify workerId
          (ObjectQueue.putObject · specialPacket) })

/-- `onDispatchBroadcastImpl(inst)`: a control packet of its own for every worker. -/
def onDispatchBroadcastImpl (processor : PacketProcessor specific) (inst : ControlMessageId) :
    Bool × PacketProcessor specific :=
  (true, { processor with
    receivedPacketQueue := processor.receivedPacketQueue.map fun workerQueue =>
      ObjectQueue.putObject workerQueue (specific.ofControlMessageId inst) })

end PacketProcessor

/-! ### The processors as leaves of a dispatcher tree -/

/-- A processor object in a tree: its place there and its packet class. -/
structure ProcessorLeaf where
  place : Nat
  specific : SpecificPacket
deriving DecidableEq, Repr

abbrev Processors := (leaf : ProcessorLeaf) → PacketProcessor leaf.specific

/-- Dispatching to `PacketProcessor` leaves under the given type tests. -/
def processorDispatching
    (isDispatchableType : PacketClass → ETHPacket → OutInfo → Except Fault (Bool × OutInfo)) :
    Dispatching PacketClass ProcessorLeaf ETHPacket Processors where
  isDispatchableType := isDispatchableType
  processorPacket leaf := leaf.specific.packetClass
  onDispatchImpl leaf inst processors :=
    match (processors leaf).onDispatchImpl inst with
    | .ok (answer, inst, processor) =>
        (.ok (answer, inst), Function.update processors leaf processor)
    | .error fault => (.error fault, processors)

end TrafficInspector
