import TrafficInspector.Packets.WireFormat

/-!
Owns what an arbitrary received frame can do to the RADIUS decoder: end the
program at one of its asserts, or make it copy bytes from behind the packet.
Both are decided by the frame, and both conditions are stated on its bytes.
-/

namespace TrafficInspector

open Foundation
open Foundation.ByteOrder
open Foundation.TypeLengthValue

/-! ### Aborting the program -/

/-- Handing an accepted frame to the decoder does not end in a failed assert. -/
def ETHPacket.HandedOverSafely (frame : ETHPacket) : Prop :=
  (RADIUSPacket.isDispatchableTypeImpl frame).isSome →
    ∀ fault, RADIUSPacket.ofPoolItem (some frame) = .error fault → ¬ fault.IsAssert

/-- The Length field counts the received bytes behind the UDP header, and every
attribute of the area is admitted: at least three bytes are left for it, and its
length byte is not above what is left. -/
def ETHPacket.WellFormed (frame : ETHPacket) : Prop :=
  frame.PassesLengthAssert ∧ (cutArea frame.attributeArea).ending ≠ .malformed

private theorem avpsOfReading_ok {reading : Reading} (admitted : reading.ending ≠ .malformed)
    (memory : Memory) (stop : Nat) (bound : AVPStorage) :
    ∃ avps, avpsOfReading reading memory stop bound = .ok avps := by
  obtain ⟨complete, ending⟩ := reading
  cases ending with
  | exhausted => exact ⟨_, rfl⟩
  | overrun type length received => exact ⟨_, rfl⟩
  | malformed => exact absurd rfl admitted

private theorem aborts_of_malformed {frame : ETHPacket}
    (inPool : frame.size.toNat ≤ maxPacketSize) (passes : frame.PassesLengthAssert)
    (malformed : (cutArea frame.attributeArea).ending = .malformed) :
    RADIUSPacket.ofPoolItem (some frame) = .error .attributeAssert := by
  rw [ofPoolItem_of_passes inPool passes, avpsOfReading, malformed]
  rfl

/-- A well-formed frame decodes; nothing else does. -/
theorem decodes_iff_wellFormed {frame : ETHPacket} (inPool : frame.size.toNat ≤ maxPacketSize) :
    (∃ packet, RADIUSPacket.ofPoolItem (some frame) = .ok (packet, none)) ↔
      frame.WellFormed := by
  constructor
  · rintro ⟨packet, decoded⟩
    by_cases passes : frame.PassesLengthAssert
    · refine ⟨passes, fun malformed => ?_⟩
      rw [aborts_of_malformed inPool passes malformed] at decoded
      cases decoded
    · rw [ofPoolItem_of_not_passes passes] at decoded
      cases decoded
  · rintro ⟨passes, admitted⟩
    obtain ⟨avps, read⟩ := avpsOfReading_ok admitted frame.memory frame.size.toNat ∅
    refine ⟨{ frame.decoderPacket with avps }, ?_⟩
    rw [ofPoolItem_of_passes inPool passes, read]
    rfl

theorem aborts_of_not_wellFormed {frame : ETHPacket}
    (inPool : frame.size.toNat ≤ maxPacketSize) (flawed : ¬ frame.WellFormed) :
    ∃ fault, RADIUSPacket.ofPoolItem (some frame) = .error fault ∧ fault.IsAssert := by
  by_cases passes : frame.PassesLengthAssert
  · have malformed : (cutArea frame.attributeArea).ending = .malformed := by
      by_contra admitted
      exact flawed ⟨passes, admitted⟩
    exact ⟨_, aborts_of_malformed inPool passes malformed, .inr rfl⟩
  · exact ⟨_, ofPoolItem_of_not_passes passes, .inl rfl⟩

/-- An accepted frame leaves both asserts alone exactly when it is well-formed. -/
theorem handedOverSafely_iff (frame : ReceivedPacket) :
    frame.val.HandedOverSafely ↔
      ((RADIUSPacket.isDispatchableTypeImpl frame.val).isSome → frame.val.WellFormed) := by
  constructor
  · intro safe accepted
    by_contra flawed
    obtain ⟨fault, fails, isAssert⟩ := aborts_of_not_wellFormed frame.property flawed
    exact safe accepted fault fails isAssert
  · intro wellFormed accepted fault fails
    obtain ⟨packet, decoded⟩ := (decodes_iff_wellFormed frame.property).mpr (wellFormed accepted)
    rw [decoded] at fails
    cases fails

/-- A request cut short on the way fails the first assert, and one whose only
attribute claims nine bytes of a three-byte area fails the second. -/
theorem hostile_frames_abort :
    ¬ (receivedFresh ((accessRequest [1, 3, 65]).bytes.take 64)).val.HandedOverSafely ∧
      ¬ (receivedFresh (accessRequest [1, 9, 65]).bytes).val.HandedOverSafely := by
  constructor
  · intro safe
    exact safe (by decide) _ (ofPoolItem_of_not_passes (by decide)) (.inl rfl)
  · intro safe
    have area : (receivedFresh (accessRequest [1, 9, 65]).bytes).val.attributeArea =
        [1, 9, 65] := by decide
    refine safe (by decide) _ (aborts_of_malformed (receivedFresh _).property (by decide) ?_)
      (.inr rfl)
    rw [area, cutArea, cut_refused _ _ _ _ _ _ (by decide)]

/-! ### Reading behind the packet -/

/-- Every byte the attribute loop reads lies inside the packet, and every stored
value is a run of received attribute bytes. -/
structure ETHPacket.ReadsOnlyReceived (frame : ETHPacket) : Prop where
  inside : ∀ opened orig header, RADIUSPacket.openPoolItem (some frame) = .ok (opened, orig) →
    opened.packet.radiusHeader = some header →
      ∀ reads ∈ opened.attributes.1, reads.Inside header opened.size.toNat
  stored : ∀ packet orig, RADIUSPacket.ofPoolItem (some frame) = .ok (packet, orig) →
    ∀ (type : RadiusAvpType) value, packet.avps[type]? = some value →
      value <:+: frame.attributeArea

private theorem stored_of_contained {reading : Reading} {memory : Memory} {stop : Nat}
    {avps : AVPStorage} (contained : reading.Contained)
    (stored : avpsOfReading reading memory stop ∅ = .ok avps) (type : RadiusAvpType)
    (value : RadiusAvpValue) (bound : avps[type]? = some value) :
    (type, value) ∈ reading.complete := by
  obtain ⟨complete, ending⟩ := reading
  cases ending with
  | exhausted =>
      cases stored
      rw [avps_getElem?] at bound
      obtain ⟨before, after, rfl, _⟩ := List.lookup_eq_some_iff.mp bound
      exact List.mem_append_right before List.mem_cons_self
  | overrun type length received => exact absurd rfl (contained type length received)
  | malformed => cases stored

theorem overrun_length {area : List UInt8} {type length : UInt8} {received : List UInt8}
    (overrun : (cutArea area).ending = .overrun type length received) :
    length.toNat < 2 ∧ received.length < 254 + length.toNat := by
  obtain ⟨claimed, copied⟩ := cut_ending_overrun _ _ area overrun
  rw [valueLength_eq] at copied
  split at copied <;> omega

/-- The decoder reads received bytes only, exactly when the frame fails the
length assert or no attribute of its area overruns it. -/
theorem readsOnlyReceived_iff (frame : ReceivedPacket) :
    frame.val.ReadsOnlyReceived ↔
      (frame.val.PassesLengthAssert → (cutArea frame.val.attributeArea).Contained) := by
  obtain ⟨frame, inPool⟩ := frame
  constructor
  · intro safe passes
    have reads := safe.inside _ _ frame.radiusHeader (openPoolItem_of_passes passes) rfl
    exact (attributes_inside_iff inPool passes).mp reads
  · intro contained
    by_cases passes : frame.PassesLengthAssert
    · have inside := (attributes_inside_iff inPool passes).mpr (contained passes)
      constructor
      · intro opened orig header start atHeader
        rw [openPoolItem_of_passes passes] at start
        cases start
        cases atHeader
        exact inside
      · intro packet orig decoded type value bound
        rw [ofPoolItem_of_passes inPool passes] at decoded
        cases read : avpsOfReading (cutArea frame.attributeArea) frame.memory
            frame.size.toNat ∅ with
        | error fault =>
            rw [read] at decoded
            cases decoded
        | ok avps =>
            rw [read] at decoded
            cases decoded
            exact cut_infix _ _ _ _ (stored_of_contained (contained passes) read type value bound)
    · constructor
      · intro opened orig header start
        rw [openPoolItem_of_not_passes passes] at start
        cases start
      · intro packet orig decoded
        rw [ofPoolItem_of_not_passes passes] at decoded
        cases decoded

/-- A length byte of `0` in front of the last byte: 254 bytes are copied. -/
theorem zero_length_reads_behind :
    ¬ (receivedFresh (accessRequest [1, 0, 65]).bytes).val.ReadsOnlyReceived := by
  intro safe
  have passes : (receivedFresh (accessRequest [1, 0, 65]).bytes).val.PassesLengthAssert := by
    decide
  have area : (receivedFresh (accessRequest [1, 0, 65]).bytes).val.attributeArea = [1, 0, 65] := by
    decide
  have overrun : cutArea [1, 0, 65] = ⟨[], .overrun 1 0 [65]⟩ :=
    cut_overrun _ _ _ _ _ _ (by decide) (by decide)
  have reads := safe.inside _ _ _ (openPoolItem_of_passes passes) rfl
  have contained := (attributes_inside_iff (receivedFresh _).property passes).mp reads
  rw [area, overrun] at contained
  exact contained _ _ _ rfl

end TrafficInspector
