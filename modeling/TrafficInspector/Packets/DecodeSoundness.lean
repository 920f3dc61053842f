import TrafficInspector.Packets.WireFormat

/-!
Owns what a decoded packet says about the frame it was decoded from. When no length
byte the loop reads is below 2, the attribute area is the encoding of exactly one
list of attributes, and the loop has gone through that list.
-/

namespace TrafficInspector

open Foundation
open Foundation.ByteOrder
open Foundation.TypeLengthValue

/-- No length byte the attribute loop reads is below 2. -/
def ETHPacket.ReadsLengthsFromTwo (frame : ETHPacket) : Prop :=
  ∀ opened left, RADIUSPacket.openPoolItem (some frame) = .ok (opened, left) →
    ∀ reads ∈ opened.attributes.1, ∀ address ∈ reads.lengthAt,
      2 ≤ (opened.memory address.offset).toNat

theorem readsLengthsFromTwo_iff {frame : ETHPacket} (passes : frame.PassesLengthAssert) :
    frame.ReadsLengthsFromTwo ↔
      ∀ reads ∈ frame.decoderStart.attributes.1, ∀ address ∈ reads.lengthAt,
        2 ≤ (frame.memory address.offset).toNat := by
  unfold ETHPacket.ReadsLengthsFromTwo
  constructor
  · intro lengths
    exact lengths _ _ (openPoolItem_of_passes passes)
  · intro lengths opened left opens
    rw [openPoolItem_of_passes passes] at opens
    cases opens
    exact lengths

/-- What the loop reads when it goes through these attributes from `start` on. -/
def visits : Pointer → List Attribute → List AttributeReads
  | _, [] => []
  | start, avp :: attributes =>
      ⟨some start, some (start + 1), some (start + 1 + 1, avp.2.length)⟩ ::
        visits (start + 1 + 1 + avp.2.length) attributes

/-- From `cursor` on the bytes of the packet are these attributes, and the loop that
ends in `final` has read and stored them. -/
structure Tiling (memory : Memory) (size : UInt16) (cursor final : AttributeCursor)
    (reads : List AttributeReads) (attributes : List Attribute) : Prop where
  announceable : Announceable attributes
  tiles : encode attributes = remainingArea memory size cursor
  visits : reads = visits cursor.payload attributes
  stops : final.dataOffset = size
  avps : final.avps = bindFirst attributes cursor.avps

section

variable {memory : Memory} {size : UInt16} {cursor : AttributeCursor}

private theorem tiling_nil (stopped : cursor.dataOffset.toNat = size.toNat) :
    Tiling memory size cursor cursor [] [] where
  announceable := fun avp member => absurd member List.not_mem_nil
  tiles := by
    rw [remainingArea, stopped, Nat.sub_self]
    rfl
  visits := rfl
  stops := UInt16.toNat_inj.mp stopped
  avps := rfl

/-- The attribute an iteration stores, under its type byte. -/
def AttributeCursor.attribute (memory : Memory) (cursor : AttributeCursor) : Attribute :=
  (memory cursor.payload.offset,
    block memory (cursor.payload.offset + 1 + 1)
      (valueLength (memory (cursor.payload.offset + 1))))

private theorem attribute_length (sound : 2 ≤ (memory (cursor.payload.offset + 1)).toNat) :
    (cursor.attribute memory).2.length + 2 = (memory (cursor.payload.offset + 1)).toNat := by
  show (block memory _ _).length + 2 = _
  rw [block_length, valueLength_eq, if_neg (by omega)]
  omega

private theorem tiling_cons {final : AttributeCursor} {reads : List AttributeReads}
    {attributes : List Attribute} (below : cursor.dataOffset.toNat < maxPacketSize)
    (within : cursor.dataOffset.toNat + (memory (cursor.payload.offset + 1)).toNat ≤ size.toNat)
    (sound : 2 ≤ (memory (cursor.payload.offset + 1)).toNat)
    (rest : Tiling memory size (cursor.stored memory) final reads attributes) :
    Tiling memory size cursor final
      (⟨some cursor.payload, some (cursor.payload + 1),
        some (cursor.payload + 1 + 1,
          valueLength (memory (cursor.payload.offset + 1)))⟩ :: reads)
      (cursor.attribute memory :: attributes) := by
  have announced := attribute_length sound
  have small := (memory (cursor.payload.offset + 1)).toNat_lt
  have copied : (cursor.attribute memory).2.length =
      valueLength (memory (cursor.payload.offset + 1)) := block_length ..
  constructor
  · exact announceable_cons.mpr ⟨by omega, rest.announceable⟩
  · have moved := cursor.stored_dataOffset memory below
    have lengthByte : UInt8.ofNat ((cursor.attribute memory).2.length + 2) =
        memory (cursor.payload.offset + 1) := by
      rw [announced, UInt8.ofNat_toNat]
    have left : size.toNat - cursor.dataOffset.toNat =
        (valueLength (memory (cursor.payload.offset + 1)) +
          (size.toNat - (cursor.stored memory).dataOffset.toNat)) + 1 + 1 := by
      omega
    rw [encode_cons, lengthByte, rest.tiles, remainingArea, remainingArea, left, block_succ,
      block_succ, block_append]
    rfl
  · rw [visits, rest.visits, copied]
    rfl
  · exact rest.stops
  · exact rest.avps

/-- A loop that completes has tiled what was left of the packet. -/
theorem loop_tiles (inPool : size.toNat ≤ maxPacketSize) (fuel : Nat)
    (cursor final : AttributeCursor) (reads : List AttributeReads)
    (started : cursor.dataOffset.toNat ≤ size.toNat)
    (run : fueledLoop (attributeGuard size) (attributeIteration memory size) .endlessLoop fuel
      cursor = (reads, .ok final))
    (lengths : ∀ read ∈ reads, ∀ address ∈ read.lengthAt, 2 ≤ (memory address.offset).toNat) :
    ∃ attributes, Tiling memory size cursor final reads attributes := by
  induction fuel generalizing cursor reads with
  | zero =>
      cases leaves : attributeGuard size cursor with
      | true =>
          rw [fueledLoop, leaves] at run
          cases run
      | false =>
          have stopped := (attributeGuard_eq_false_iff size cursor).mp leaves
          rw [fueledLoop_exit 0 leaves] at run
          cases run
          exact ⟨[], tiling_nil (Nat.le_antisymm started stopped)⟩
  | succ fuel inductionHypothesis =>
      by_cases enters : cursor.dataOffset.toNat < size.toNat
      · have guard := (attributeGuard_iff size cursor).mpr enters
        by_cases enough : cursor.dataOffset.toNat + 2 < size.toNat
        · by_cases within : cursor.dataOffset.toNat +
              (memory (cursor.payload.offset + 1)).toNat ≤ size.toNat
          · rw [fueledLoop_next _ guard
              (attributeIteration_stored memory size cursor enough within)] at run
            obtain ⟨readsAre, finalIs⟩ := Prod.mk.inj run
            subst readsAre
            have sound := lengths _ List.mem_cons_self (cursor.payload + 1) rfl
            have moved := cursor.stored_dataOffset memory (by omega)
            have announced := valueLength_eq (memory (cursor.payload.offset + 1))
            rw [Pointer.add_offset] at sound
            rw [if_neg (by omega)] at announced
            obtain ⟨attributes, rest⟩ := inductionHypothesis (cursor.stored memory) _
              (by omega) (Prod.ext rfl finalIs)
              (fun read member => lengths read (.tail _ member))
            exact ⟨_, tiling_cons (by omega) within sound rest⟩
          · rw [fueledLoop_fail _ guard
              (attributeIteration_long memory size cursor enough (by omega))] at run
            cases run
        · rw [fueledLoop_fail _ guard
            (attributeIteration_short memory size cursor (by omega))] at run
          cases run
      · have leaves := (attributeGuard_eq_false_iff size cursor).mpr (by omega)
        rw [fueledLoop_exit _ leaves] at run
        cases run
        exact ⟨[], tiling_nil (by omega)⟩

end

/-- The loop of a decoder that completes has tiled the attribute area. -/
theorem decoder_tiles {frame : ReceivedPacket} (headers : 62 ≤ frame.val.size.toNat)
    {packet : RADIUSPacket} {left : RawPacketsPoolItem}
    (completes : RADIUSPacket.ofPoolItem (some frame.val) = .ok (packet, left))
    (lengths : frame.val.ReadsLengthsFromTwo) :
    ∃ final attributes, frame.val.PassesLengthAssert ∧ left = none ∧
      packet = { frame.val.decoderPacket with avps := final.avps } ∧
      frame.val.decoderStart.attributes.2 = .ok final ∧
      Tiling frame.val.memory frame.val.decoderStart.size frame.val.decoderStart.cursor final
        frame.val.decoderStart.attributes.1 attributes := by
  obtain ⟨frame, inPool⟩ := frame
  by_cases passes : frame.PassesLengthAssert
  · have start := openPoolItem_of_passes passes
    obtain ⟨opened, opens, rest⟩ := bind_eq_ok completes
    rw [start] at opens
    cases opens
    obtain ⟨final, loops, packetIs⟩ := bind_eq_ok rest
    cases packetIs
    have size := start_size passes
    have twenty : frame.decoderStart.cursor.dataOffset.toNat = 20 := rfl
    obtain ⟨attributes, tiling⟩ := loop_tiles (start_inPool inPool passes)
      frame.decoderStart.size.toNat frame.decoderStart.cursor final
      frame.decoderStart.attributes.1 (by dsimp only at headers; omega) (Prod.ext rfl loops)
      ((readsLengthsFromTwo_iff passes).mp lengths)
    exact ⟨final, attributes, passes, rfl, rfl, loops, tiling⟩
  · rw [ofPoolItem_of_not_passes passes] at completes
    cases completes

/-- Decoding is sound: the attribute area is the encoding of exactly one list of
attributes, the loop goes through it to the packet's end, and every type is bound to the
value of its first attribute. -/
theorem decode_sound (frame : ReceivedPacket) (headers : 62 ≤ frame.val.size.toNat)
    (packet : RADIUSPacket) (left : RawPacketsPoolItem)
    (completes : RADIUSPacket.ofPoolItem (some frame.val) = .ok (packet, left))
    (lengths : frame.val.ReadsLengthsFromTwo) :
    ∃ attributes : List Attribute,
      (∀ others, Announceable others ∧ encode others = frame.val.attributeArea ↔
        others = attributes) ∧
      (∃ opened final, RADIUSPacket.openPoolItem (some frame.val) = .ok (opened, left) ∧
        opened.size.toNat = frame.val.size.toNat - 42 ∧
        opened.attributes = (visits ⟨frame.val.data, 62⟩ attributes, .ok final) ∧
        final.dataOffset = opened.size) ∧
      ∀ type : RadiusAvpType, packet.avps[type]? = attributes.lookup type := by
  obtain ⟨final, attributes, passes, rfl, rfl, loops, tiling⟩ :=
    decoder_tiles headers completes lengths
  have written : encode attributes = frame.val.attributeArea :=
    tiling.tiles.trans (start_remainingArea passes)
  refine ⟨attributes, fun others => ⟨fun same => ?_, ?_⟩,
    ⟨frame.val.decoderStart, final, openPoolItem_of_passes passes, start_size passes,
      Prod.ext tiling.visits loops, tiling.stops⟩, ?_⟩
  · exact encode_injective same.1 tiling.announceable (same.2.trans written.symm)
  · rintro rfl
    exact ⟨tiling.announceable, written⟩
  · intro type
    show final.avps[type]? = _
    rw [tiling.avps]
    exact avps_getElem? attributes type

/-- Three attributes, the second without a value and the third under the type of the first. -/
def threeAttributes : List Attribute := [(1, [98, 111]), (44, []), (1, [7])]

theorem decode_sound_of_three :
    ∃ attributes : List Attribute,
      (∀ others, Announceable others ∧ encode others = (framed threeAttributes).val.attributeArea ↔
        others = attributes) ∧
      (∃ opened final,
        RADIUSPacket.openPoolItem (some (framed threeAttributes).val) = .ok (opened, none) ∧
        opened.size.toNat = (framed threeAttributes).val.size.toNat - 42 ∧
        opened.attributes =
          (visits ⟨(framed threeAttributes).val.data, 62⟩ attributes, .ok final) ∧
        final.dataOffset = opened.size) ∧
      ∀ type : RadiusAvpType,
        (bindFirst threeAttributes (∅ : AVPStorage))[type]? = attributes.lookup type := by
  have carries := framed_carries threeAttributes (by decide)
  have completes := carries.ofPoolItem (by decide) (by decide)
  have lengths := (readsLengthsFromTwo_iff carries.passes).mpr (by decide)
  exact decode_sound (framed threeAttributes) (by decide) _ none completes lengths

end TrafficInspector
