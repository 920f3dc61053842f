import TrafficInspector.Packets.RawPacket

/-!
Owns `IPPacket`: its constructors, accessors, hash and type test. The test
reads the EtherType only; the IPv4 header is taken to be 20 bytes long
everywhere in the program.
-/

namespace TrafficInspector

open Foundation.ByteOrder

/-- `class IPPacket`; the header pointer is null in a control packet. -/
structure IPPacket extends BasePacket where
  ipHeader : Option Pointer
  prevLayerPacket : RawPacketsPoolItem

namespace IPPacket

def getHeaderSizeImpl : SizeT := 20

def ofControlMessageId (id : ControlMessageId) : IPPacket where
  ctrlMessageId := id
  ipHeader := none
  prevLayerPacket := none

/-- `IPPacket(RawPacketsPoolItem&&)`: the packet, and the item as the move left it. -/
def ofPoolItem (orig : RawPacketsPoolItem) : Except Fault (IPPacket × RawPacketsPoolItem) := do
  let prevLayerPacket := orig
  let packet ← deref prevLayerPacket
  return ({ timeStamp := packet.timeStamp,
            ipHeader := some packet.getPayloadDataImpl,
            prevLayerPacket }, none)

/-- `IPPacket(IPPacket&&)`, with the packet it leaves. -/
def ofIPPacket (orig : IPPacket) : Except Fault (IPPacket × IPPacket) := do
  let prevLayerPacket := orig.prevLayerPacket
  let packet ← deref prevLayerPacket
  return ({ timeStamp := packet.timeStamp, ipHeader := orig.ipHeader, prevLayerPacket },
    { orig with prevLayerPacket := none })

/-- `operator=(IPPacket&&)`: the packet, the one it leaves, and the item it lets go. -/
def assign (packet orig : IPPacket) : Except Fault (IPPacket × IPPacket × RawPacketsPoolItem) := do
  let released := packet.prevLayerPacket
  let prevLayerPacket := orig.prevLayerPacket
  let raw ← deref prevLayerPacket
  return ({ packet with timeStamp := raw.timeStamp, ipHeader := orig.ipHeader, prevLayerPacket },
    { orig with ipHeader := none, prevLayerPacket := none }, released)

def getDataImpl (packet : IPPacket) : Except Fault Pointer := do
  let prev ← deref packet.prevLayerPacket
  return prev.getPayloadDataImpl

def getPayloadDataImpl (packet : IPPacket) : Except Fault Pointer := do
  let data ← packet.getDataImpl
  return data + getHeaderSizeImpl.toNat

def getPacketSizeImpl (packet : IPPacket) : Except Fault SizeT := do
  let prev ← deref packet.prevLayerPacket
  return prev.getPacketSizeImpl - ETHPacket.getHeaderSizeImpl

def saddr (memory : Memory) (header : Pointer) : UInt32 := loadU32 memory (header.offset + 12)

def daddr (memory : Memory) (header : Pointer) : UInt32 := loadU32 memory (header.offset + 16)

/-- The 32-bit sum of both addresses, widened afterwards. -/
def getPacketSpecificHashImpl (packet : IPPacket) : Except Fault SizeT :=
  match packet.ipHeader with
  | none => .ok 0
  | some header => do
      let prev ← deref packet.prevLayerPacket
      return (saddr prev.memory header + daddr prev.memory header).toUInt64

/-- `isDispatchableTypeImpl`. `some p` is the answer `true` with `p` stored in
`*next_level_header`; `none` is `false` with nothing stored. -/
def isDispatchableTypeImpl (src : ETHPacket) : Option Pointer :=
  if ntohs (loadU16 src.memory (src.getHeadetPtr.offset + 12)) = 0x0800 then
    some src.getPayloadDataImpl
  else
    none

/-- The protocol test shared by the two transport classes: given the answer of
`IPPacket`'s own test, accept when the protocol byte is the wanted one. -/
def testProtocol (wanted : UInt8) (src : ETHPacket) (ipAnswer : Option Pointer) :
    Option Pointer :=
  match ipAnswer with
  | none => none
  | some ipHeader =>
      if src.memory (ipHeader.offset + 9) = wanted then
        some (ipHeader + getHeaderSizeImpl.toNat)
      else
        none

@[simp] theorem ofPoolItem_some (packet : ETHPacket) :
    ofPoolItem (some packet) =
      .ok ({ timeStamp := packet.timeStamp,
             ipHeader := some packet.getPayloadDataImpl,
             prevLayerPacket := some packet }, none) :=
  rfl

@[simp] theorem ofPoolItem_none : ofPoolItem none = .error .emptyPoolItem :=
  rfl

end IPPacket

end TrafficInspector
