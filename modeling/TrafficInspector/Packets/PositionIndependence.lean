import TrafficInspector.Safety.HostileFrames

/-!
Owns the comparison of one packet with two that carry its attributes in two parts.
The strict checks behind the type and the length byte leave an attribute without a
value readable everywhere but at the end of a packet.
-/

namespace TrafficInspector

open Foundation
open Foundation.TypeLengthValue

namespace ETHPacket

/-- The decoder completes on the frame, with these attributes in `m_avps`. -/
def DecodesTo (frame : ETHPacket) (avps : AVPStorage) : Prop :=
  ∃ packet left, RADIUSPacket.ofPoolItem (some frame) = .ok (packet, left) ∧ packet.avps = avps

/-- The joint frame decodes exactly when both parts do, and then to the union of what the
parts decode to, in which the first part wins. -/
structure DecodesByParts (joint first second : ETHPacket) : Prop where
  completes : (∃ avps, joint.DecodesTo avps) ↔
    (∃ avps, first.DecodesTo avps) ∧ ∃ avps, second.DecodesTo avps
  union : ∀ whole front back, joint.DecodesTo whole → first.DecodesTo front →
    second.DecodesTo back →
      ∀ type : RadiusAvpType, whole[type]? = front[type]?.or back[type]?

end ETHPacket

theorem ETHPacket.Carries.decodesTo_iff {frame : ReceivedPacket} {attributes : List Attribute}
    (carries : frame.val.Carries attributes) (small : Announceable attributes)
    (avps : AVPStorage) :
    frame.val.DecodesTo avps ↔ ¬ EndsEmpty attributes ∧ avps = bindFirst attributes ∅ := by
  constructor
  · rintro ⟨packet, left, decoded, rfl⟩
    by_cases ends : EndsEmpty attributes
    · have reading : (cutArea frame.val.attributeArea).ending = .malformed := by
        rw [carries.attributeArea, cutArea, cut_encode_announceable readsAnnounced small,
          if_pos ends]
      rw [ofPoolItem_of_passes frame.property carries.passes, avpsOfReading, reading] at decoded
      cases decoded
    · rw [carries.ofPoolItem small ends] at decoded
      cases decoded
      exact ⟨ends, rfl⟩
  · rintro ⟨ends, rfl⟩
    exact ⟨_, none, carries.ofPoolItem small ends, rfl⟩

theorem ETHPacket.Carries.decodes_iff {frame : ReceivedPacket} {attributes : List Attribute}
    (carries : frame.val.Carries attributes) (small : Announceable attributes) :
    (∃ avps, frame.val.DecodesTo avps) ↔ ¬ EndsEmpty attributes := by
  simp only [carries.decodesTo_iff small, exists_and_left, exists_eq, and_true]

private theorem bindFirst_append_getElem? (front back : List Attribute) (type : RadiusAvpType) :
    (bindFirst (front ++ back) (∅ : AVPStorage))[type]? =
      (bindFirst front (∅ : AVPStorage))[type]?.or (bindFirst back (∅ : AVPStorage))[type]? := by
  rw [avps_getElem?, avps_getElem?, avps_getElem?, List.lookup_append]

/-- Cutting a packet in two changes its reading exactly when an attribute without a value
ends the first part, and the second part has attributes and ends in one with a value. -/
theorem decodesByParts_iff (xs ys : List Attribute) (joint first second : ReceivedPacket)
    (xsSmall : Announceable xs) (ysSmall : Announceable ys)
    (carriesBoth : joint.val.Carries (xs ++ ys)) (carriesXs : first.val.Carries xs)
    (carriesYs : second.val.Carries ys) :
    ETHPacket.DecodesByParts joint.val first.val second.val ↔
      ¬ (EndsEmpty xs ∧ ys ≠ [] ∧ ¬ EndsEmpty ys) := by
  have bothSmall := announceable_append xsSmall ysSmall
  have jointly := carriesBoth.decodes_iff bothSmall
  have front := carriesXs.decodes_iff xsSmall
  have back := carriesYs.decodes_iff ysSmall
  constructor
  · rintro byParts ⟨xsEnds, nonempty, ysEnds⟩
    have whole := jointly.mpr (mt (endsEmpty_append xs nonempty).mp ysEnds)
    exact front.mp (byParts.completes.mp whole).1 xsEnds
  · intro exception
    constructor
    · rw [jointly, front, back]
      by_cases nonempty : ys = []
      · rw [nonempty, List.append_nil]
        simp
      · rw [endsEmpty_append xs nonempty]
        refine ⟨fun ysEnds => ⟨fun xsEnds => exception ⟨xsEnds, nonempty, ysEnds⟩, ysEnds⟩, ?_⟩
        exact fun ends => ends.2
    · intro whole frontAvps backAvps decodesWhole decodesFront decodesBack type
      rw [((carriesBoth.decodesTo_iff bothSmall whole).mp decodesWhole).2,
        ((carriesXs.decodesTo_iff xsSmall frontAvps).mp decodesFront).2,
        ((carriesYs.decodesTo_iff ysSmall backAvps).mp decodesBack).2]
      exact bindFirst_append_getElem? xs ys type

/-- An attribute without a value in front of another: alone it ends the program. -/
theorem valueless_front_not_by_parts :
    Announceable [(1, [])] ∧ Announceable [(2, [5])] ∧
      (framed ([(1, [])] ++ [(2, [5])])).val.Carries ([(1, [])] ++ [(2, [5])]) ∧
      (framed [(1, [])]).val.Carries [(1, [])] ∧ (framed [(2, [5])]).val.Carries [(2, [5])] ∧
      ¬ ETHPacket.DecodesByParts (framed ([(1, [])] ++ [(2, [5])])).val (framed [(1, [])]).val
        (framed [(2, [5])]).val := by
  have carriesBoth := framed_carries ([(1, [])] ++ [(2, [5])]) (by decide)
  have carriesXs := framed_carries [(1, [])] (by decide)
  refine ⟨by decide, by decide, carriesBoth, carriesXs, framed_carries _ (by decide), ?_⟩
  intro byParts
  have whole := (carriesBoth.decodes_iff (by decide)).mpr (by decide)
  exact (carriesXs.decodes_iff (by decide)).mp (byParts.completes.mp whole).1 (by decide)

theorem decodesByParts_iff_of_two :
    ETHPacket.DecodesByParts (framed ([(1, [])] ++ [(2, [5])])).val (framed [(1, [])]).val
        (framed [(2, [5])]).val ↔
      ¬ (EndsEmpty [(1, [])] ∧ [((2 : UInt8), ([5] : List UInt8))] ≠ [] ∧
        ¬ EndsEmpty [(2, [5])]) :=
  decodesByParts_iff [(1, [])] [(2, [5])] (framed _) (framed _) (framed _) (by decide) (by decide)
    (framed_carries _ (by decide)) (framed_carries _ (by decide)) (framed_carries _ (by decide))

end TrafficInspector
