import TrafficInspector.Packets.BasePacket

/-!
Owns `ETHPacket`, the object the pool recycles, with its accessors and hash.
The buffer behind `m_data` is allocated once per object and never cleared, so
its content past `m_size` is whatever earlier frames left there. Bytes past
`MAX_PACKET_SIZE` are the memory behind the buffer: reading them is outside the
program's rights, and the model lets them hold anything.
-/

namespace TrafficInspector

open Foundation.ByteOrder

/-- `struct ETHPacket`. `data` is the address held by `m_data` and `eth_header`
alike: the two are set together by the constructor and never changed while the
object is in the pool. -/
structure ETHPacket extends BasePacket where
  data : Nat
  memory : Memory
  size : SizeT

/-- `RawPacketsPoolItem`: a `unique_ptr` to an object of the pool. -/
abbrev RawPacketsPoolItem := Option ETHPacket

namespace ETHPacket

def getHeaderSizeImpl : SizeT := 14

def getHeadetPtr (packet : ETHPacket) : Pointer := ⟨packet.data, 0⟩

def getDataImpl (packet : ETHPacket) : Pointer := ⟨packet.data, 0⟩

def getPayloadDataImpl (packet : ETHPacket) : Pointer :=
  packet.getDataImpl + getHeaderSizeImpl.toNat

def getPacketSizeImpl (packet : ETHPacket) : SizeT := packet.size

def setSize (packet : ETHPacket) (packetSize : SizeT) : ETHPacket :=
  { packet with size := packetSize }

/-- `setTimestamp`, given what `clock_gettime(CLOCK_REALTIME)` yields in milliseconds. -/
def setTimestamp (packet : ETHPacket) (now : SizeT) : ETHPacket :=
  { packet with timeStamp := now }

/-- The byte sum of both hardware addresses plus the raw `ether_type`. -/
def getPacketSpecificHashImpl (packet : ETHPacket) : SizeT :=
  let header := packet.getHeadetPtr.offset
  let addresses := (List.range 6).foldl (fun (hash : SizeT) index =>
    hash + (packet.memory (header + 6 + index)).toUInt64 +
      (packet.memory (header + index)).toUInt64) 0
  addresses + (loadU16 packet.memory (header + 12)).toUInt64

end ETHPacket

/-- A buffer as the receive loop hands it on: `recvfrom` is given room for
`MAX_PACKET_SIZE` bytes, so no received size exceeds it. -/
abbrev ReceivedPacket := { packet : ETHPacket // packet.size.toNat ≤ maxPacketSize }

end TrafficInspector
