import TrafficInspector.NIC
import TrafficInspector.Packets.RADIUSDecoder

/-!
Owns the frames that carry RADIUS packets on the wire, written byte by byte as
their senders write them, and that the decoder reads back the attributes that
were sent.
-/

namespace TrafficInspector

open Foundation
open Foundation.ByteOrder
open Foundation.TypeLengthValue

structure IPAddress where
  first : UInt8
  second : UInt8
  third : UInt8
  fourth : UInt8
deriving DecidableEq, Repr

structure Endpoint where
  address : IPAddress
  port : UInt16
deriving DecidableEq, Repr

/-- A RADIUS packet between two endpoints, with the bytes of its attribute area. -/
structure RADIUSMessage where
  source : Endpoint
  destination : Endpoint
  code : UInt8
  identifier : UInt8
  area : List UInt8
deriving DecidableEq, Repr

def highByte (value : UInt16) : UInt8 := (value / 256).toUInt8

def lowByte (value : UInt16) : UInt8 := (value % 256).toUInt8

namespace RADIUSMessage

def lengthField (message : RADIUSMessage) : UInt16 :=
  UInt16.ofNat (20 + message.area.length)

/-- The 62 bytes of the Ethernet, IPv4, UDP and RADIUS headers. -/
def headers (message : RADIUSMessage) : List UInt8 :=
  let source := message.source.address
  let destination := message.destination.address
  [0, 0, 0, 0, 0, 0, 0, 0, 0, 0, 0, 0, 8, 0,
    69, 0, 0, 0, 0, 0, 0, 0, 64, 17, 0, 0,
    source.first, source.second, source.third, source.fourth,
    destination.first, destination.second, destination.third, destination.fourth,
    highByte message.source.port, lowByte message.source.port,
    highByte message.destination.port, lowByte message.destination.port, 0, 0, 0, 0,
    message.code, message.identifier, highByte message.lengthField, lowByte message.lengthField,
    0, 0, 0, 0, 0, 0, 0, 0, 0, 0, 0, 0, 0, 0, 0, 0]

def bytes (message : RADIUSMessage) : List UInt8 :=
  message.headers ++ message.area

def reply (message : RADIUSMessage) (code : UInt8) (area : List UInt8) : RADIUSMessage where
  source := message.destination
  destination := message.source
  code := code
  identifier := message.identifier
  area := area

end RADIUSMessage

/-- The frame holds the encoded attributes behind its headers, and its Length
field counts them and the RADIUS header. -/
structure ETHPacket.Carries (frame : ETHPacket) (attributes : List Attribute) : Prop where
  size : frame.size.toNat = 14 + 20 + 8 + 20 + (encode attributes).length
  length : frame.radiusLength.toNat = 20 + (encode attributes).length
  area : block frame.memory 62 (encode attributes).length = encode attributes

private theorem network_order (value : UInt16) :
    256 * (highByte value).toNat + (lowByte value).toNat = value.toNat := by
  have small := value.toNat_lt
  simp only [highByte, lowByte, UInt16.toNat_toUInt8, UInt16.toNat_div, UInt16.toNat_mod,
    UInt16.reduceToNat]
  omega

theorem receivePacket_carries (pack : ETHPacket) (message : RADIUSMessage)
    (attributes : List Attribute) (now : SizeT) (written : message.area = encode attributes)
    (fits : 62 + (encode attributes).length ≤ maxPacketSize) :
    (NIC.receivePacket pack (some message.bytes) now).val.Carries attributes := by
  have poolSize : maxPacketSize = 4096 := rfl
  have total : message.bytes.length = 62 + (encode attributes).length := by
    rw [← written]
    exact List.length_append
  have received := NIC.receivePacket_memory pack message.bytes now (by omega)
  constructor
  · rw [NIC.receivePacket_size]
    omega
  · have high := received 44 (by omega)
    have low := received 45 (by omega)
    show (ntohs (loadU16 _ 44)).toNat = _
    rw [ntohs_loadU16_toNat, high, low]
    show 256 * (highByte message.lengthField).toNat + (lowByte message.lengthField).toNat = _
    rw [network_order, RADIUSMessage.lengthField, written, UInt16.toNat_ofNat_of_lt' (by
      simp only [UInt16.size]
      omega)]
  · rw [← written]
    exact NIC.receivePacket_block pack now message.headers _
      (Nat.le_trans (Nat.le_of_eq total) fits)

/-! ### Reading back the attributes -/

/-- The values a length byte can announce. -/
def EncodableValues (attributes : List Attribute) : Prop :=
  ∀ avp ∈ attributes, 1 ≤ avp.2.length ∧ avp.2.length ≤ 253

instance (attributes : List Attribute) : Decidable (EncodableValues attributes) :=
  inferInstanceAs (Decidable (∀ avp ∈ attributes, _))

theorem readsAnnounced : ReadsAnnounced UInt8.toNat valueLength := by
  intro size small
  have written := announced_toNat small
  refine ⟨written, ?_⟩
  rw [valueLength_eq, written, if_neg (by omega)]
  omega

theorem EncodableValues.announceable {attributes : List Attribute}
    (encodable : EncodableValues attributes) : Announceable attributes :=
  fun avp member => (encodable avp member).2

theorem EncodableValues.not_endsEmpty {attributes : List Attribute}
    (encodable : EncodableValues attributes) : ¬ EndsEmpty attributes := by
  rintro ⟨avp, last, empty⟩
  have nonempty := (encodable avp (List.mem_of_getLast? last)).1
  rw [empty] at nonempty
  exact absurd nonempty (by decide)

theorem ETHPacket.Carries.attributeArea {frame : ETHPacket} {attributes : List Attribute}
    (carries : frame.Carries attributes) : frame.attributeArea = encode attributes := by
  rw [ETHPacket.attributeArea, carries.size, Nat.add_sub_cancel_left, carries.area]

theorem ETHPacket.Carries.passes {frame : ETHPacket} {attributes : List Attribute}
    (carries : frame.Carries attributes) : frame.PassesLengthAssert := by
  have size := carries.size
  have length := carries.length
  constructor <;> omega

/-- A frame that carries attributes decodes to them, unless the last one has no value. -/
theorem ETHPacket.Carries.ofPoolItem {frame : ReceivedPacket} {attributes : List Attribute}
    (carries : frame.val.Carries attributes) (small : Announceable attributes)
    (ends : ¬ EndsEmpty attributes) :
    RADIUSPacket.ofPoolItem (some frame.val) =
      .ok ({ frame.val.decoderPacket with avps := bindFirst attributes ∅ }, none) := by
  have reading : cutArea frame.val.attributeArea = ⟨attributes, .exhausted⟩ := by
    rw [carries.attributeArea, cutArea, cut_encode_announceable readsAnnounced small, if_neg ends]
  rw [ofPoolItem_of_passes frame.property carries.passes, reading]
  rfl

/-- Attribute round trip: a frame that carries attributes of one to 253 value
bytes decodes, and each type is bound to the value of its first attribute. -/
theorem attributes_round_trip (attributes : List Attribute)
    (encodable : EncodableValues attributes) (frame : ReceivedPacket)
    (carries : frame.val.Carries attributes) :
    ∃ packet, RADIUSPacket.ofPoolItem (some frame.val) = .ok (packet, none) ∧
      ∀ type : RadiusAvpType, packet.avps[type]? = attributes.lookup type := by
  refine ⟨_, carries.ofPoolItem encodable.announceable encodable.not_endsEmpty, ?_⟩
  intro type
  exact avps_getElem? attributes type

def receivedFresh (bytes : List UInt8) : ReceivedPacket :=
  NIC.receivePacket (ETHPacket.create 0 fun _ => 0) (some bytes) 0

def accessRequest (area : List UInt8) : RADIUSMessage where
  source := ⟨⟨10, 0, 0, 1⟩, 40000⟩
  destination := ⟨⟨10, 0, 0, 2⟩, 1812⟩
  code := 1
  identifier := 7
  area := area

def framed (attributes : List Attribute) : ReceivedPacket :=
  receivedFresh (accessRequest (encode attributes)).bytes

theorem framed_carries (attributes : List Attribute)
    (fits : 62 + (encode attributes).length ≤ maxPacketSize) :
    (framed attributes).val.Carries attributes :=
  receivePacket_carries _ (accessRequest _) attributes 0 rfl fits

theorem attributes_round_trip_repeated_type :
    ∃ packet, RADIUSPacket.ofPoolItem (some
        (receivedFresh (accessRequest (encode [(1, [98, 111]), (44, [5]), (1, [7])])).bytes).val) =
        .ok (packet, none) ∧
      ∀ type : RadiusAvpType,
        packet.avps[type]? = List.lookup type [(1, [98, 111]), (44, [5]), (1, [7])] :=
  attributes_round_trip [(1, [98, 111]), (44, [5]), (1, [7])] (by decide)
    (receivedFresh (accessRequest _).bytes)
    (receivePacket_carries _ (accessRequest _) _ 0 rfl (by decide))

end TrafficInspector
