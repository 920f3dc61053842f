import TrafficInspector.Packets.RawPacket

/-!
Owns the receive loop's side of a pool buffer: how the object is created, and
what `NIC::receivePacket` leaves in it. A receive overwrites the first bytes of
the buffer only; a failed one overwrites nothing and sets the size to zero.
-/

namespace TrafficInspector

open Foundation.ByteOrder

/-- `ETHPacket()`: a zeroed buffer at `data`, with `behind` past its end. -/
def ETHPacket.create (data : Nat) (behind : Memory) : ETHPacket where
  timeStamp := 0
  data := data
  memory := fun offset => if offset < maxPacketSize then 0 else behind offset
  size := 0

namespace NIC

/-- `recvfrom` into the buffer: a longer message is cut at the buffer's size. -/
def recvfrom (memory : Memory) (message : List UInt8) : Memory :=
  fun offset => (message.take maxPacketSize).getD offset (memory offset)

private theorem received_size (message : List UInt8) :
    (UInt64.ofNat (message.take maxPacketSize).length).toNat =
      min maxPacketSize message.length := by
  have poolSize : maxPacketSize = 4096 := rfl
  rw [List.length_take, UInt64.toNat_ofNat_of_lt' (by simp only [UInt64.size]; omega)]

/-- `receivePacket` on the pool object it took. `message` is `none` when
`recvfrom` fails; `now` is the clock's reading. -/
def receivePacket (pack : ETHPacket) (message : Option (List UInt8)) (now : SizeT) :
    ReceivedPacket :=
  match message with
  | none => ⟨pack.setSize 0, Nat.zero_le _⟩
  | some bytes =>
      let filled := { pack with memory := recvfrom pack.memory bytes }
      ⟨(filled.setSize (UInt64.ofNat (bytes.take maxPacketSize).length)).setTimestamp now,
        Nat.le_trans (Nat.le_of_eq (received_size bytes)) (Nat.min_le_left _ _)⟩

section

variable (pack : ETHPacket) (message : List UInt8) (now : SizeT)

theorem receivePacket_size :
    (receivePacket pack (some message) now).val.size.toNat = min maxPacketSize message.length :=
  received_size message

theorem receivePacket_stale (offset : Nat) (behind : message.length ≤ offset) :
    (receivePacket pack (some message) now).val.memory offset = pack.memory offset := by
  show (message.take maxPacketSize).getD offset (pack.memory offset) = _
  have short : (message.take maxPacketSize).length ≤ offset := by
    rw [List.length_take]
    omega
  rw [List.getD_eq_getElem?_getD, List.getElem?_eq_none short, Option.getD_none]

theorem receivePacket_memory (fits : message.length ≤ maxPacketSize) (offset : Nat)
    (below : offset < message.length) :
    (receivePacket pack (some message) now).val.memory offset = message[offset] := by
  show (message.take maxPacketSize).getD offset (pack.memory offset) = _
  rw [List.take_of_length_le fits, List.getD_eq_getElem?_getD, List.getElem?_eq_getElem below,
    Option.getD_some]

theorem receivePacket_block (front rest : List UInt8)
    (fits : (front ++ rest).length ≤ maxPacketSize) :
    block (receivePacket pack (some (front ++ rest)) now).val.memory front.length rest.length =
      rest := by
  apply List.ext_getElem
  · exact block_length ..
  · intro index below belowRest
    rw [block_getElem, receivePacket_memory pack _ now fits _ (by rw [List.length_append]; omega),
      List.getElem_append_right (Nat.le_add_right _ _)]
    simp only [Nat.add_sub_cancel_left]

end

end NIC

end TrafficInspector
