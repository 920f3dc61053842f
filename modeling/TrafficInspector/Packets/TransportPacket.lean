import TrafficInspector.Packets.IPPacket

/-!
Owns `UDPPacket` and `TCPPacket`. The two classes are the same text but for the
header struct, whose first two fields are the ports in both, and the protocol
number their type test asks for; they are one definition over the header size.
-/

namespace TrafficInspector

open Foundation.ByteOrder

/-- A packet class over `IPPacket` whose header struct has `headerSize` bytes. -/
structure TransportPacket (headerSize : SizeT) extends BasePacket where
  prevLayerPacket : IPPacket
  header : Option Pointer

abbrev UDPPacket := TransportPacket 8

abbrev TCPPacket := TransportPacket 20

namespace TransportPacket

variable {headerSize : SizeT}

def getHeaderSizeImpl (_packet : TransportPacket headerSize) : SizeT := headerSize

def ofControlMessageId (id : ControlMessageId) : TransportPacket headerSize where
  ctrlMessageId := id
  prevLayerPacket := IPPacket.ofControlMessageId id
  header := none

/-- The constructor from a `RawPacketsPoolItem&&`, with the item it leaves. -/
def ofPoolItem (orig : RawPacketsPoolItem) :
    Except Fault (TransportPacket headerSize × RawPacketsPoolItem) := do
  let (prevLayerPacket, orig) ← IPPacket.ofPoolItem orig
  let header ← prevLayerPacket.getPayloadDataImpl
  return ({ timeStamp := prevLayerPacket.timeStamp, prevLayerPacket, header := some header }, orig)

/-- The move constructor, with the packet it leaves. -/
def ofTransportPacket (orig : TransportPacket headerSize) :
    Except Fault (TransportPacket headerSize × TransportPacket headerSize) := do
  let (prevLayerPacket, origPrev) ← IPPacket.ofIPPacket orig.prevLayerPacket
  return ({ timeStamp := prevLayerPacket.timeStamp, prevLayerPacket, header := orig.header },
    { orig with prevLayerPacket := origPrev, header := none })

/-- `operator=` from a packet that is moved, with the packet it leaves and the item it lets go. -/
def assign (packet orig : TransportPacket headerSize) :
    Except Fault
      (TransportPacket headerSize × TransportPacket headerSize × RawPacketsPoolItem) := do
  let (prevLayerPacket, origPrev, released) ←
    packet.prevLayerPacket.assign orig.prevLayerPacket
  return ({ packet with
      timeStamp := prevLayerPacket.timeStamp, prevLayerPacket, header := orig.header },
    { orig with prevLayerPacket := origPrev, header := none }, released)

def getDataImpl (packet : TransportPacket headerSize) : Except Fault Pointer :=
  packet.prevLayerPacket.getPayloadDataImpl

def getPayloadDataImpl (packet : TransportPacket headerSize) : Except Fault Pointer := do
  let data ← packet.getDataImpl
  return data + packet.getHeaderSizeImpl.toNat

def getPacketSizeImpl (packet : TransportPacket headerSize) : Except Fault SizeT := do
  let prevSize ← packet.prevLayerPacket.getPacketSizeImpl
  return prevSize - IPPacket.getHeaderSizeImpl

/-- `uh_sport` / `th_sport` as the host loads it, in network order. -/
def sport (memory : Memory) (header : Pointer) : UInt16 := loadU16 memory header.offset

def dport (memory : Memory) (header : Pointer) : UInt16 := loadU16 memory (header.offset + 2)

def getPacketSpecificHashImpl (packet : TransportPacket headerSize) : Except Fault SizeT := do
  let hash ← packet.prevLayerPacket.getPacketSpecificHashImpl
  match packet.header with
  | none => return hash
  | some header =>
      let prev ← deref packet.prevLayerPacket.prevLayerPacket
      return hash + (dport prev.memory header).toUInt64 + (sport prev.memory header).toUInt64

@[simp] theorem ofPoolItem_some (packet : ETHPacket) :
    (ofPoolItem (some packet) : Except Fault (TransportPacket headerSize × RawPacketsPoolItem)) =
      .ok ({ timeStamp := packet.timeStamp,
             prevLayerPacket :=
               { timeStamp := packet.timeStamp,
                 ipHeader := some packet.getPayloadDataImpl,
                 prevLayerPacket := some packet },
             header := some (packet.getPayloadDataImpl + 20) }, none) :=
  rfl

@[simp] theorem ofPoolItem_none :
    (ofPoolItem none : Except Fault (TransportPacket headerSize × RawPacketsPoolItem)) =
      .error .emptyPoolItem :=
  rfl

end TransportPacket

namespace UDPPacket

/-- `UDPPacket::isDispatchableTypeImpl` on `IPPacket`'s answer. -/
def testOn (src : ETHPacket) (ipAnswer : Option Pointer) : Option Pointer :=
  IPPacket.testProtocol 17 src ipAnswer

def isDispatchableTypeImpl (src : ETHPacket) : Option Pointer :=
  testOn src (IPPacket.isDispatchableTypeImpl src)

end UDPPacket

namespace TCPPacket

def testOn (src : ETHPacket) (ipAnswer : Option Pointer) : Option Pointer :=
  IPPacket.testProtocol 6 src ipAnswer

def isDispatchableTypeImpl (src : ETHPacket) : Option Pointer :=
  testOn src (IPPacket.isDispatchableTypeImpl src)

end TCPPacket

end TrafficInspector
