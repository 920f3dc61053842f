import TrafficInspector.Packets.TypeTests
import TrafficInspector.Packets.UDPDecoder
import TrafficInspector.Packets.WireFormat

/-!
Owns what the program makes of IPv4 headers with options. The type tests look for
the ports where they are behind a header of 20 bytes, and the decoder looks for
the RADIUS packet 42 bytes into the frame, whatever the header's length field
says.
-/

namespace TrafficInspector

open Foundation.ByteOrder

namespace ETHPacket

/-- An Ethernet II frame with an IPv4 header of `headerLength` words that names UDP, not a
later fragment, and with the datagram's header received. -/
structure CarriesUDP (frame : ETHPacket) (headerLength : Nat) : Prop where
  etherType : EtherTypeIP frame.memory
  versionAndLength : (frame.memory 14).toNat = 64 + headerLength
  lengths : 5 ≤ headerLength ∧ headerLength ≤ 15
  totalLength : 4 * headerLength + 8 ≤
    256 * (frame.memory 16).toNat + (frame.memory 17).toNat
  received : 14 + 256 * (frame.memory 16).toNat + (frame.memory 17).toNat ≤ frame.size.toNat
  fragmentOffset : (frame.memory 20).toNat % 32 = 0 ∧ frame.memory 21 = 0
  protocol : frame.memory 23 = 17

/-- The two ports at `offset`: one of them is a RADIUS port. -/
def RadiusPortsAt (frame : ETHPacket) (offset : Nat) : Prop :=
  RadiusPortAt frame.memory offset ∨ RadiusPortAt frame.memory (offset + 2)

/-- The frame is accepted for the ports behind its own IPv4 header, and if it is, the RADIUS
header is read behind the UDP header there. -/
structure FollowsHeaderLength (frame : ETHPacket) (headerLength : Nat) : Prop where
  accepts : (RADIUSPacket.isDispatchableTypeImpl frame).isSome ↔
    frame.RadiusPortsAt (14 + 4 * headerLength)
  reads : (RADIUSPacket.isDispatchableTypeImpl frame).isSome →
    frame.ReadsHeaderAt ⟨frame.data, 14 + 4 * headerLength + 8⟩

end ETHPacket

theorem accepts_iff_portsAt {frame : ETHPacket} {headerLength : Nat}
    (carries : frame.CarriesUDP headerLength) :
    (RADIUSPacket.isDispatchableTypeImpl frame).isSome ↔ frame.RadiusPortsAt 34 := by
  rw [radius_accepts_iff]
  exact and_iff_right ⟨carries.etherType, carries.protocol⟩

theorem readsHeader_behind_iff (frame : ETHPacket) (headerLength : Nat) :
    frame.ReadsHeaderAt ⟨frame.data, 14 + 4 * headerLength + 8⟩ ↔ headerLength = 5 := by
  rw [readsHeaderAt_iff]
  constructor
  · intro same
    have offset : 14 + 4 * headerLength + 8 = 42 := congrArg Pointer.offset same
    omega
  · rintro rfl
    rfl

/-- The header length is followed exactly where it is five words, or neither the bytes where
the program looks nor the ports are RADIUS ports. -/
theorem followsHeaderLength_iff (frame : ETHPacket) (headerLength : Nat)
    (carries : frame.CarriesUDP headerLength) :
    frame.FollowsHeaderLength headerLength ↔
      headerLength = 5 ∨
        (¬ frame.RadiusPortsAt 34 ∧ ¬ frame.RadiusPortsAt (14 + 4 * headerLength)) := by
  have accepted := accepts_iff_portsAt carries
  constructor
  · intro follows
    by_cases ports : frame.RadiusPortsAt 34
    · exact .inl ((readsHeader_behind_iff frame headerLength).mp
        (follows.reads (accepted.mpr ports)))
    · exact .inr ⟨ports, fun own => ports (accepted.mp (follows.accepts.mpr own))⟩
  · rintro (plain | ⟨noPorts, noOwn⟩)
    · subst plain
      exact ⟨accepted, fun _ => (readsHeader_behind_iff frame 5).mpr rfl⟩
    · exact ⟨iff_of_false (fun accepts => noPorts (accepted.mp accepts)) noOwn,
        fun accepts => absurd (accepted.mp accepts) noPorts⟩

/-- An access request from port 40000 to port 1812, with four bytes of IPv4 options. -/
def requestWithOptions : ReceivedPacket :=
  receivedFresh ([0, 0, 0, 0, 0, 0, 0, 0, 0, 0, 0, 0, 8, 0,
    70, 0, 0, 52, 0, 0, 0, 0, 64, 17, 0, 0, 10, 0, 0, 1, 10, 0, 0, 2, 1, 1, 1, 0,
    156, 64, 7, 20, 0, 28, 0, 0,
    1, 7, 0, 20, 0, 0, 0, 0, 0, 0, 0, 0, 0, 0, 0, 0, 0, 0, 0, 0])

theorem requestWithOptions_carries : requestWithOptions.val.CarriesUDP 6 where
  etherType := by decide
  versionAndLength := by decide
  lengths := by decide
  totalLength := by decide
  received := by decide
  fragmentOffset := by decide
  protocol := by decide

theorem requestWithOptions_not_followed :
    requestWithOptions.val.CarriesUDP 6 ∧ ¬ requestWithOptions.val.FollowsHeaderLength 6 := by
  refine ⟨requestWithOptions_carries, fun follows => ?_⟩
  have ports : requestWithOptions.val.RadiusPortsAt 38 := .inr (by decide)
  have accepted := (accepts_iff_portsAt requestWithOptions_carries).mp (follows.accepts.mpr ports)
  rcases accepted with source | destination
  · exact absurd source (by decide)
  · exact absurd destination (by decide)

/-- The options stand where the program looks for the ports. -/
theorem requestWithOptions_followed_iff :
    requestWithOptions.val.FollowsHeaderLength 6 ↔
      6 = 5 ∨
        (¬ requestWithOptions.val.RadiusPortsAt 34 ∧
          ¬ requestWithOptions.val.RadiusPortsAt (14 + 4 * 6)) :=
  followsHeaderLength_iff requestWithOptions.val 6 requestWithOptions_carries

end TrafficInspector
