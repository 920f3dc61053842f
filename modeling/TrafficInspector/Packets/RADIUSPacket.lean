import TrafficInspector.Packets.AttributeArea
import TrafficInspector.Packets.TransportPacket

/-!
Owns `RADIUSPacket`: the decoder that runs when a frame is handed to a worker,
the type test that decides whether it is handed over, and the session key. The
decoder is cut in two where its loop starts, so that the loop's reads can be
spoken about.
-/

namespace TrafficInspector

open Foundation
open Foundation.ByteOrder

/-- `struct rad_session_pair`; the identifier is all there is to compare. -/
structure RadSessionPair where
  identifier : UInt8
deriving DecidableEq, Repr

/-- `std::hash<rad_session_pair>`: just sum. -/
instance : Hashable RadSessionPair where
  hash pair := 0 + pair.identifier.toUInt64

structure RADIUSPacket extends BasePacket where
  prevLayerPacket : UDPPacket
  radiusHeader : Option Pointer
  avps : AVPStorage

namespace RADIUSPacket

def getHeaderSizeImpl : SizeT := 20

def ofControlMessageId (id : ControlMessageId) : RADIUSPacket where
  ctrlMessageId := id
  prevLayerPacket := TransportPacket.ofControlMessageId id
  radiusHeader := none
  avps := ∅

/-- `RADIUSPacket(RADIUSPacket&&)`, with the packet it leaves. It does not name `m_avps`,
which starts out empty. -/
def ofRADIUSPacket (orig : RADIUSPacket) : Except Fault (RADIUSPacket × RADIUSPacket) := do
  let (prevLayerPacket, origPrev) ← TransportPacket.ofTransportPacket orig.prevLayerPacket
  return ({ timeStamp := prevLayerPacket.timeStamp, prevLayerPacket,
            radiusHeader := orig.radiusHeader, avps := ∅ },
    { orig with prevLayerPacket := origPrev, radiusHeader := none })

/-- `operator=(RADIUSPacket&&)`, with the packet it leaves and the item it lets go. -/
def assign (packet orig : RADIUSPacket) :
    Except Fault (RADIUSPacket × RADIUSPacket × RawPacketsPoolItem) := do
  let (prevLayerPacket, origPrev, released) ←
    packet.prevLayerPacket.assign orig.prevLayerPacket
  return ({ packet with
      timeStamp := prevLayerPacket.timeStamp, prevLayerPacket, radiusHeader := orig.radiusHeader },
    { orig with prevLayerPacket := origPrev, radiusHeader := none }, released)

def getDataImpl (packet : RADIUSPacket) : Except Fault Pointer :=
  packet.prevLayerPacket.getPayloadDataImpl

def getPayloadDataImpl (packet : RADIUSPacket) : Except Fault Pointer := do
  let data ← packet.getDataImpl
  return data + getHeaderSizeImpl.toNat

def getPacketSizeImpl (packet : RADIUSPacket) : Except Fault SizeT := do
  let prevSize ← packet.prevLayerPacket.getPacketSizeImpl
  return prevSize - packet.prevLayerPacket.getHeaderSizeImpl

/-- The pool object whose buffer the header pointers point into. -/
def rawPacket (packet : RADIUSPacket) : Except Fault ETHPacket :=
  deref packet.prevLayerPacket.prevLayerPacket.prevLayerPacket

def length (memory : Memory) (header : Pointer) : UInt16 := loadU16 memory (header.offset + 2)

def packetIdentifier (memory : Memory) (header : Pointer) : UInt8 := memory (header.offset + 1)

/-- The constructor's local state where the attribute loop starts. -/
structure Opened where
  packet : RADIUSPacket
  memory : Memory
  size : UInt16
  payload : Pointer

/-- Both decoders behind their initializers: the packet over its UDP layer, and the header it
takes there. -/
def locate (prevLayerPacket : UDPPacket) : Except Fault (RADIUSPacket × Pointer) := do
  let header ← prevLayerPacket.getPayloadDataImpl
  return ({ timeStamp := prevLayerPacket.timeStamp, prevLayerPacket, radiusHeader := some header,
            avps := ∅ }, header)

/-- `RADIUSPacket(RawPacketsPoolItem&&)` in front of its `assert`, with the item it leaves. -/
def locatePoolItem (orig : RawPacketsPoolItem) :
    Except Fault ((RADIUSPacket × Pointer) × RawPacketsPoolItem) := do
  let (prevLayerPacket, orig) ← TransportPacket.ofPoolItem orig
  let located ← locate prevLayerPacket
  return (located, orig)

/-- `RADIUSPacket(RawPacketsPoolItem&&)` up to its loop. -/
def openPoolItem (orig : RawPacketsPoolItem) : Except Fault (Opened × RawPacketsPoolItem) := do
  let ((packet, header), orig) ← locatePoolItem orig
  let raw ← packet.rawPacket
  let packLength := ntohs (length raw.memory header)
  let packetSize ← packet.getPacketSizeImpl
  if packLength.toUInt64 = packetSize then
    let payload ← packet.getPayloadDataImpl
    return ({ packet, memory := raw.memory, size := (min packetSize packLength.toUInt64).toUInt16,
              payload }, orig)
  else
    throw .lengthAssert

def Opened.cursor (opened : Opened) : AttributeCursor where
  dataOffset := getHeaderSizeImpl.toUInt16
  payload := opened.payload
  avps := opened.packet.avps

/-- The constructor's attribute loop: its reads, and how it ends. -/
def Opened.attributes (opened : Opened) : List AttributeReads × Except Fault AttributeCursor :=
  attributeLoop opened.memory opened.size opened.cursor

/-- `RADIUSPacket(RawPacketsPoolItem&&)`, with the item it leaves. -/
def ofPoolItem (orig : RawPacketsPoolItem) :
    Except Fault (RADIUSPacket × RawPacketsPoolItem) := do
  let (opened, orig) ← openPoolItem orig
  let cursor ← opened.attributes.2
  return ({ opened.packet with avps := cursor.avps }, orig)

/-- `getPacketSessionPair`. Without a header nothing sets the identifier. -/
def getPacketSessionPair (packet : RADIUSPacket) : Except Fault RadSessionPair :=
  match packet.radiusHeader with
  | none => .error .indeterminateValue
  | some header => do
      let raw ← packet.rawPacket
      return ⟨packetIdentifier raw.memory header⟩

def getPacketSpecificHashImpl (packet : RADIUSPacket) : Except Fault SizeT := do
  let hash ← packet.prevLayerPacket.getPacketSpecificHashImpl
  match packet.radiusHeader with
  | none => return hash
  | some header =>
      let raw ← packet.rawPacket
      return hash + (packetIdentifier raw.memory header).toUInt64

def isRadiusPort (port : UInt16) : Bool := port == 1812 || port == 1813

/-- `isDispatchableTypeImpl` on `UDPPacket`'s answer. It moves on by the size of
an IP header, not of a UDP header. -/
def testOn (src : ETHPacket) (udpAnswer : Option Pointer) : Option Pointer :=
  match udpAnswer with
  | none => none
  | some udpHeader =>
      let dport := ntohs (TransportPacket.dport src.memory udpHeader)
      let sport := ntohs (TransportPacket.sport src.memory udpHeader)
      if isRadiusPort dport || isRadiusPort sport then
        some (udpHeader + IPPacket.getHeaderSizeImpl.toNat)
      else
        none

def isDispatchableTypeImpl (src : ETHPacket) : Option Pointer :=
  testOn src (UDPPacket.isDispatchableTypeImpl src)

end RADIUSPacket

end TrafficInspector
