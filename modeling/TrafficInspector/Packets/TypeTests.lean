import TrafficInspector.Packets.RADIUSPacket

/-!
Owns the type tests as conditions on single bytes of the frame: the EtherType in
bytes 12 and 13, the protocol in byte 23, the ports in bytes 34 to 37. No test
looks at the received size.
-/

namespace TrafficInspector

open Foundation.ByteOrder

/-- Bytes 12 and 13 hold the IPv4 EtherType. -/
def EtherTypeIP (memory : Memory) : Prop := memory 12 = 8 ∧ memory 13 = 0

/-- The two bytes at `offset` hold 1812 or 1813. -/
def RadiusPortAt (memory : Memory) (offset : Nat) : Prop :=
  memory offset = 7 ∧ (memory (offset + 1) = 20 ∨ memory (offset + 1) = 21)

instance (memory : Memory) : Decidable (EtherTypeIP memory) :=
  inferInstanceAs (Decidable (_ ∧ _))

instance (memory : Memory) (offset : Nat) : Decidable (RadiusPortAt memory offset) :=
  inferInstanceAs (Decidable (_ ∧ (_ ∨ _)))

private theorem field_eq_iff (memory : Memory) (offset : Nat) (value : UInt16)
    (high low : UInt8) (same : value.toNat = 256 * high.toNat + low.toNat) :
    ntohs (loadU16 memory offset) = value ↔
      memory offset = high ∧ memory (offset + 1) = low := by
  have first := (memory offset).toNat_lt
  have second := (memory (offset + 1)).toNat_lt
  have highSmall := high.toNat_lt
  have lowSmall := low.toNat_lt
  rw [← UInt16.toNat_inj, ntohs_loadU16_toNat, same, ← UInt8.toNat_inj, ← UInt8.toNat_inj]
  omega

theorem etherType_iff (memory : Memory) :
    ntohs (loadU16 memory 12) = 0x0800 ↔ EtherTypeIP memory :=
  field_eq_iff memory 12 0x0800 8 0 rfl

theorem isRadiusPort_iff (memory : Memory) (offset : Nat) :
    RADIUSPacket.isRadiusPort (ntohs (loadU16 memory offset)) = true ↔
      RadiusPortAt memory offset := by
  rw [RADIUSPacket.isRadiusPort, Bool.or_eq_true, beq_iff_eq, beq_iff_eq,
    field_eq_iff memory offset 1812 7 20 rfl, field_eq_iff memory offset 1813 7 21 rfl,
    ← and_or_left]
  rfl

/-! ### The tests -/

section

variable (frame : ETHPacket)

theorem ip_test_eq :
    IPPacket.isDispatchableTypeImpl frame =
      if EtherTypeIP frame.memory then some ⟨frame.data, 14⟩ else none := by
  by_cases isIP : EtherTypeIP frame.memory
  · rw [if_pos isIP]
    exact if_pos ((etherType_iff frame.memory).mpr isIP)
  · rw [if_neg isIP]
    exact if_neg fun equal => isIP ((etherType_iff frame.memory).mp equal)

private theorem testProtocol_eq (wanted : UInt8) :
    IPPacket.testProtocol wanted frame (IPPacket.isDispatchableTypeImpl frame) =
      if EtherTypeIP frame.memory ∧ frame.memory 23 = wanted then some ⟨frame.data, 34⟩
      else none := by
  rw [ip_test_eq]
  by_cases isIP : EtherTypeIP frame.memory
  · rw [if_pos isIP]
    by_cases same : frame.memory 23 = wanted
    · rw [if_pos ⟨isIP, same⟩]
      exact if_pos same
    · rw [if_neg fun both => same both.2]
      exact if_neg same
  · rw [if_neg isIP, if_neg fun both => isIP both.1]
    rfl

theorem udp_test_eq :
    UDPPacket.isDispatchableTypeImpl frame =
      if EtherTypeIP frame.memory ∧ frame.memory 23 = 17 then some ⟨frame.data, 34⟩ else none :=
  testProtocol_eq frame 17

theorem tcp_test_eq :
    TCPPacket.isDispatchableTypeImpl frame =
      if EtherTypeIP frame.memory ∧ frame.memory 23 = 6 then some ⟨frame.data, 34⟩ else none :=
  testProtocol_eq frame 6

/-- The answer of `RADIUSPacket` points twelve bytes behind the RADIUS header. -/
theorem radius_test_eq :
    RADIUSPacket.isDispatchableTypeImpl frame =
      if (EtherTypeIP frame.memory ∧ frame.memory 23 = 17) ∧
          (RadiusPortAt frame.memory 34 ∨ RadiusPortAt frame.memory 36) then
        some ⟨frame.data, 54⟩
      else none := by
  have ports : (RADIUSPacket.isRadiusPort (ntohs (loadU16 frame.memory 36)) ||
      RADIUSPacket.isRadiusPort (ntohs (loadU16 frame.memory 34))) = true ↔
        RadiusPortAt frame.memory 34 ∨ RadiusPortAt frame.memory 36 := by
    rw [Bool.or_eq_true, isRadiusPort_iff, isRadiusPort_iff, or_comm]
  unfold RADIUSPacket.isDispatchableTypeImpl
  rw [udp_test_eq]
  by_cases isUDP : EtherTypeIP frame.memory ∧ frame.memory 23 = 17
  · rw [if_pos isUDP]
    by_cases isRadius : RadiusPortAt frame.memory 34 ∨ RadiusPortAt frame.memory 36
    · rw [if_pos ⟨isUDP, isRadius⟩]
      exact if_pos (ports.mpr isRadius)
    · rw [if_neg fun both => isRadius both.2]
      exact if_neg fun equal => isRadius (ports.mp equal)
  · rw [if_neg isUDP, if_neg fun both => isUDP both.1]
    rfl

theorem udp_accepts_iff :
    (UDPPacket.isDispatchableTypeImpl frame).isSome ↔
      EtherTypeIP frame.memory ∧ frame.memory 23 = 17 := by
  rw [udp_test_eq]
  split <;> simp [*]

theorem tcp_accepts_iff :
    (TCPPacket.isDispatchableTypeImpl frame).isSome ↔
      EtherTypeIP frame.memory ∧ frame.memory 23 = 6 := by
  rw [tcp_test_eq]
  split <;> simp [*]

theorem radius_accepts_iff :
    (RADIUSPacket.isDispatchableTypeImpl frame).isSome ↔
      (EtherTypeIP frame.memory ∧ frame.memory 23 = 17) ∧
        (RadiusPortAt frame.memory 34 ∨ RadiusPortAt frame.memory 36) := by
  rw [radius_test_eq]
  split <;> simp [*]

theorem udp_accepts_of_radius (accepted : (RADIUSPacket.isDispatchableTypeImpl frame).isSome) :
    (UDPPacket.isDispatchableTypeImpl frame).isSome :=
  (udp_accepts_iff frame).mpr ((radius_accepts_iff frame).mp accepted).1

theorem not_udp_and_tcp (udp : (UDPPacket.isDispatchableTypeImpl frame).isSome)
    (tcp : (TCPPacket.isDispatchableTypeImpl frame).isSome) : False := by
  have wantsUDP := ((udp_accepts_iff frame).mp udp).2
  have wantsTCP := ((tcp_accepts_iff frame).mp tcp).2
  rw [wantsUDP] at wantsTCP
  exact absurd wantsTCP (by decide)

end

end TrafficInspector
