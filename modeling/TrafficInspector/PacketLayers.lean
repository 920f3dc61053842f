import TrafficInspector.PacketProcessor
import TrafficInspector.Packets.UDPDecoder
import TrafficInspector.Packets.WireFormat

/-!
Owns where the layers of a packet start and how large they are. The accessors
add and subtract the header sizes below a layer on their own; the type tests add
them up once more, and none of them looks at the received size.
-/

namespace TrafficInspector

open Foundation.ByteOrder

/-! ### Sizes -/

/-- `getPacketSizeImpl` of each layer, from the frame upwards. -/
def TransportPacket.layerSizes {headerSize : SizeT} (packet : TransportPacket headerSize) :
    Except Fault (List SizeT) := do
  let frame ← deref packet.prevLayerPacket.prevLayerPacket
  let ipSize ← packet.prevLayerPacket.getPacketSizeImpl
  let size ← packet.getPacketSizeImpl
  return [frame.getPacketSizeImpl, ipSize, size]

def RADIUSPacket.layerSizes (packet : RADIUSPacket) : Except Fault (List SizeT) := do
  let prevSizes ← packet.prevLayerPacket.layerSizes
  let size ← packet.getPacketSizeImpl
  return prevSizes ++ [size]

namespace SpecificPacket

def layerSizes : (specific : SpecificPacket) → specific.Packet → Except Fault (List SizeT)
  | radius, packet => RADIUSPacket.layerSizes packet
  | udp, packet => (TransportPacket.layerSizes : UDPPacket → _) packet
  | tcp, packet => (TransportPacket.layerSizes : TCPPacket → _) packet

/-- The header bytes below each layer. -/
def headersBelow : SpecificPacket → List Nat
  | radius => [0, 14, 14 + 20, 14 + 20 + 8]
  | udp | tcp => [0, 14, 14 + 20]

/-- The header bytes that the answer of the test and the accessors rely on. -/
def headersReliedOn : SpecificPacket → Nat
  | radius | udp => 14 + 20 + 8
  | tcp => 14 + 20 + 20

/-- The headers were received, and every layer of a packet built from the frame has the
size that is left of the frame behind the headers below it. -/
structure SizesHold (specific : SpecificPacket) (frame : ETHPacket) : Prop where
  received : specific.headersReliedOn ≤ frame.size.toNat
  left : ∀ packet item, specific.createPacketPtr (some frame) = .ok (packet, item) →
    ∃ sizes, specific.layerSizes packet = .ok sizes ∧
      sizes.map UInt64.toNat = specific.headersBelow.map (frame.size.toNat - ·)

theorem headersBelow_le_headersReliedOn (specific : SpecificPacket) :
    ∀ below ∈ specific.headersBelow, below ≤ specific.headersReliedOn := by
  cases specific <;> decide

end SpecificPacket

/-- No class takes a frame that is too short for its headers. -/
def ETHPacket.SizesHold (frame : ETHPacket) : Prop :=
  ∀ specific : SpecificPacket, (specific.isDispatchableTypeImpl frame).isSome →
    specific.SizesHold frame

/-- A frame whose bytes say IPv4 and UDP has the bytes of their headers, and one whose
bytes say IPv4 and TCP has the bytes of theirs. -/
def ETHPacket.LongEnough (frame : ETHPacket) : Prop :=
  EtherTypeIP frame.memory →
    (frame.memory 23 = 17 → 42 ≤ frame.size.toNat) ∧
      (frame.memory 23 = 6 → 54 ≤ frame.size.toNat)

/-- A layer's size from the one below it: both go round when the headers were not received. -/
private theorem size_above (header : SizeT) {size : SizeT} {received below : Nat}
    (fits : below ≤ 2 ^ 64) (counted : size.toNat = (2 ^ 64 + received - below) % 2 ^ 64)
    (headerFits : below + header.toNat ≤ 2 ^ 64) :
    (size - header).toNat = (2 ^ 64 + received - (below + header.toNat)) % 2 ^ 64 := by
  have small := header.toNat_lt
  rw [UInt64.toNat_sub, counted]
  omega

/-- The sizes of the layers go round below zero for a frame that ends inside the headers. -/
theorem layerSizes_of_built {specific : SpecificPacket} {frame : ETHPacket}
    {packet : specific.Packet} {item : RawPacketsPoolItem}
    (built : specific.createPacketPtr (some frame) = .ok (packet, item)) :
    ∃ sizes, specific.layerSizes packet = .ok sizes ∧
      sizes.map UInt64.toNat =
        specific.headersBelow.map fun below => (2 ^ 64 + frame.size.toNat - below) % 2 ^ 64 := by
  have small := frame.size.toNat_lt
  have whole : frame.size.toNat = (2 ^ 64 + frame.size.toNat - 0) % 2 ^ 64 := by omega
  have behindETH := size_above 14 (by decide) whole (by decide)
  have behindIP := size_above 20 (by decide) behindETH (by decide)
  have behindUDP := size_above 8 (by decide) behindIP (by decide)
  have transport : [frame.size, frame.size - 14, frame.size - 14 - 20].map UInt64.toNat =
      [0, 14, 14 + 20].map fun below => (2 ^ 64 + frame.size.toNat - below) % 2 ^ 64 := by
    simp only [List.map_cons, List.map_nil, behindETH, behindIP, ← whole]
    rfl
  cases specific with
  | radius =>
      obtain ⟨_, avps, rfl⟩ := ofPoolItem_ok built
      refine ⟨[frame.size, frame.size - 14, frame.size - 14 - 20] ++ [frame.size - 14 - 20 - 8],
        rfl, ?_⟩
      rw [List.map_append, transport]
      simp only [List.map_cons, List.map_nil, behindUDP]
      rfl
  | udp =>
      cases built
      exact ⟨[frame.size, frame.size - 14, frame.size - 14 - 20], rfl, transport⟩
  | tcp =>
      cases built
      exact ⟨[frame.size, frame.size - 14, frame.size - 14 - 20], rfl, transport⟩

theorem SpecificPacket.sizesHold_of_received {specific : SpecificPacket} {frame : ETHPacket}
    (received : specific.headersReliedOn ≤ frame.size.toNat) : specific.SizesHold frame := by
  refine ⟨received, fun packet item built => ?_⟩
  obtain ⟨sizes, computed, counted⟩ := layerSizes_of_built built
  refine ⟨sizes, computed, counted.trans (List.map_congr_left fun below member => ?_)⟩
  have small := frame.size.toNat_lt
  have covered := specific.headersBelow_le_headersReliedOn below member
  omega

/-- The sizes of all layers hold exactly if the frame is long enough for what its bytes say. -/
theorem sizesHold_iff_longEnough (frame : ETHPacket) :
    frame.SizesHold ↔ frame.LongEnough := by
  constructor
  · intro hold isIP
    constructor
    · intro isUDP
      exact (hold .udp ((udp_accepts_iff frame).mpr ⟨isIP, isUDP⟩)).received
    · intro isTCP
      exact (hold .tcp ((tcp_accepts_iff frame).mpr ⟨isIP, isTCP⟩)).received
  · intro longEnough specific accepted
    apply SpecificPacket.sizesHold_of_received
    cases specific with
    | radius =>
        have isUDP := ((radius_accepts_iff frame).mp accepted).1
        exact (longEnough isUDP.1).1 isUDP.2
    | udp =>
        have isUDP := (udp_accepts_iff frame).mp accepted
        exact (longEnough isUDP.1).1 isUDP.2
    | tcp =>
        have isTCP := (tcp_accepts_iff frame).mp accepted
        exact (longEnough isTCP.1).2 isTCP.2

/-- A failed receive into the buffer of an earlier request: the UDP test accepts the empty
frame, and the UDP layer of the packet built from it has `2 ^ 64 - 34` bytes. -/
theorem empty_frame_has_huge_layers :
    let frame := (NIC.receivePacket (receivedFresh (accessRequest []).bytes).val none 0).val
    ¬ frame.SizesHold ∧
      ∃ packet : UDPPacket, TransportPacket.ofPoolItem (some frame) = .ok (packet, none) ∧
        packet.getPacketSizeImpl.map UInt64.toNat = .ok (2 ^ 64 - 34) := by
  refine ⟨fun hold => ?_, _, rfl, rfl⟩
  exact absurd (hold .udp (by decide)).received (by decide)

/-! ### Positions -/

/-- A test that accepts answers where the packet that is made of the same frame has its header. -/
def AnswersHeader {Packet : Type} (answer : Option Pointer) (located : Except Fault Packet)
    (header : Packet → Option Pointer) (getDataImpl : Packet → Except Fault Pointer) : Prop :=
  ∀ nextLevelHeader, answer = some nextLevelHeader → ∃ packet, located = .ok packet ∧
    header packet = some nextLevelHeader ∧ getDataImpl packet = .ok nextLevelHeader

/-- The test locates the header of its class in the frame. A `RADIUSPacket` has found its header,
from either kind of item, before it `assert`s anything; the other classes `assert` nothing. -/
def OwnTest.LocatesHeader (frame : ETHPacket) : OwnTest → Prop
  | ip => AnswersHeader (OwnTest.ip.answer frame)
      ((IPPacket.ofPoolItem (some frame)).map Prod.fst) IPPacket.ipHeader IPPacket.getDataImpl
  | udp => AnswersHeader (OwnTest.udp.answer frame)
      ((TransportPacket.ofPoolItem (some frame)).map Prod.fst) TransportPacket.header
      (TransportPacket.getDataImpl : UDPPacket → _)
  | tcp => AnswersHeader (OwnTest.tcp.answer frame)
      ((TransportPacket.ofPoolItem (some frame)).map Prod.fst) TransportPacket.header
      (TransportPacket.getDataImpl : TCPPacket → _)
  | radius =>
      AnswersHeader (OwnTest.radius.answer frame)
        ((RADIUSPacket.locatePoolItem (some frame)).map fun located => located.1.1)
        RADIUSPacket.radiusHeader RADIUSPacket.getDataImpl ∧
      AnswersHeader (OwnTest.radius.answer frame)
        ((TransportPacket.ofPoolItem (some frame) >>= fun built =>
          RADIUSPacket.locateUDPPacket built.1).map fun located => located.1.1)
        RADIUSPacket.radiusHeader RADIUSPacket.getDataImpl

/-- A test that answers one place is right if the packet has its header there. -/
private theorem answersHeader_of_test {Packet : Type} {accepts : Prop} [Decidable accepts]
    {answer : Option Pointer} {place : Pointer} {packet : Packet}
    {header : Packet → Option Pointer} {getDataImpl : Packet → Except Fault Pointer}
    (tested : answer = if accepts then some place else none)
    (atHeader : header packet = some place) (data : getDataImpl packet = .ok place) :
    AnswersHeader answer (.ok packet) header getDataImpl := by
  intro nextLevelHeader answered
  rw [tested, Option.ite_none_right_eq_some, Option.some.injEq] at answered
  obtain ⟨_, rfl⟩ := answered
  exact ⟨packet, rfl, atHeader, data⟩

theorem ip_locatesHeader (frame : ETHPacket) : OwnTest.ip.LocatesHeader frame :=
  answersHeader_of_test (ip_test_eq frame) rfl rfl

theorem udp_locatesHeader (frame : ETHPacket) : OwnTest.udp.LocatesHeader frame :=
  answersHeader_of_test (udp_test_eq frame) rfl rfl

theorem tcp_locatesHeader (frame : ETHPacket) : OwnTest.tcp.LocatesHeader frame :=
  answersHeader_of_test (tcp_test_eq frame) rfl rfl

/-- The RADIUS test is off by the twelve bytes by which an IP header is longer than a UDP
header, whenever it accepts. -/
theorem radius_not_locatesHeader {frame : ETHPacket}
    (accepted : (RADIUSPacket.isDispatchableTypeImpl frame).isSome) :
    ¬ OwnTest.radius.LocatesHeader frame := by
  intro locates
  have answered := radius_test_eq frame
  rw [if_pos ((radius_accepts_iff frame).mp accepted)] at answered
  obtain ⟨packet, located, header, _⟩ := locates.1 _ answered
  cases located
  have offset : (42 : Nat) = 54 := congrArg Pointer.offset (Option.some.inj header)
  exact absurd offset (by decide)

/-- The IP, UDP and TCP tests locate their headers in every frame; the RADIUS test locates
its header in no frame that it accepts. -/
theorem locatesHeader_iff (frame : ETHPacket) (test : OwnTest) :
    test.LocatesHeader frame ↔
      test ≠ .radius ∨ RADIUSPacket.isDispatchableTypeImpl frame = none := by
  cases test with
  | ip => exact iff_of_true (ip_locatesHeader frame) (.inl OwnTest.noConfusion)
  | udp => exact iff_of_true (udp_locatesHeader frame) (.inl OwnTest.noConfusion)
  | tcp => exact iff_of_true (tcp_locatesHeader frame) (.inl OwnTest.noConfusion)
  | radius =>
      constructor
      · intro locates
        refine .inr (Option.not_isSome_iff_eq_none.mp fun accepted => ?_)
        exact radius_not_locatesHeader accepted locates
      · rintro (other | rejected)
        · exact absurd rfl other
        · have never (nextLevelHeader : Pointer)
              (answered : OwnTest.radius.answer frame = some nextLevelHeader) : False := by
            have rejects : OwnTest.radius.answer frame = none := rejected
            rw [rejects] at answered
            cases answered
          exact ⟨fun next answered => (never next answered).elim,
            fun next answered => (never next answered).elim⟩

/-- An access request without attributes: the test answers byte 54, and the header of the
packet is at byte 42. -/
theorem request_header_is_missed :
    ¬ OwnTest.radius.LocatesHeader (receivedFresh (accessRequest []).bytes).val :=
  radius_not_locatesHeader (by decide)

end TrafficInspector
