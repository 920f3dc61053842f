import TrafficInspector.Packets.DecodeSoundness
import TrafficInspector.Packets.UDPDecoder
import TrafficInspector.Safety.HostileFrames

/-!
Owns the comparison of the two RADIUS decoders. The strict one stores every attribute
that something follows, takes the value of the last attribute for more attributes, and
leaves its loop only through a length byte below 2.
-/

namespace TrafficInspector

open Foundation
open Foundation.ByteOrder
open Foundation.TypeLengthValue

/-- The types the strict loop stores from the last bytes of a packet until it leaves, if it
leaves. -/
def strayTypes : List UInt8 → Option (List RadiusAvpType)
  | type :: length :: first :: rest =>
      if length.toNat < 2 then
        some [type]
      else if length.toNat - 2 < rest.length + 1 then
        (strayTypes ((first :: rest).drop (length.toNat - 2))).map fun types => type :: types
      else
        strayTypes (first :: rest)
  | [] => some []
  | _ => none
termination_by bytes => bytes.length
decreasing_by
  · simp only [List.length_drop, List.length_cons]
    omega
  · simp only [List.length_cons]
    omega

theorem strayTypes_nil : strayTypes [] = some [] := by
  unfold strayTypes
  rfl

theorem strayTypes_short (bytes : List UInt8) (nonempty : 0 < bytes.length)
    (short : bytes.length ≤ 2) : strayTypes bytes = none := by
  match bytes, nonempty, short with
  | [_], _, _ => unfold strayTypes; rfl
  | [_, _], _, _ => unfold strayTypes; rfl

section

variable (memory : Memory) {size : UInt16}

/-- The strict loop started at `cursor` leaves, with these attributes in `m_avps`. -/
def EndsWith (size : UInt16) (cursor : AttributeCursor) (avps : AVPStorage) : Prop :=
  ∃ final, EndsIn (attributeGuard size) (strictIteration memory size) .endlessLoop cursor final ∧
    final.avps = avps

variable {memory} {cursor next : AttributeCursor}

theorem endsWith_next (enters : attributeGuard size cursor = true)
    (step : (strictIteration memory size cursor).2 = .ok next) (avps : AVPStorage) :
    EndsWith memory size cursor avps ↔ EndsWith memory size next avps := by
  unfold EndsWith
  simp only [endsIn_next enters step]

theorem endsWith_exit (leaves : attributeGuard size cursor = false) (avps : AVPStorage) :
    EndsWith memory size cursor avps ↔ avps = cursor.avps := by
  unfold EndsWith
  simp only [endsIn_exit leaves, exists_eq_left]
  exact eq_comm

/-! ### One iteration on the remaining bytes -/

/-- Three or more bytes are left, and these are the first two. -/
structure StartsWith (memory : Memory) (size : UInt16) (cursor : AttributeCursor)
    (type length : UInt8) (more : List UInt8) : Prop where
  enters : attributeGuard size cursor = true
  left : cursor.dataOffset.toNat + 2 + more.length = size.toNat
  typeByte : memory cursor.payload.offset = type
  lengthByte : memory (cursor.payload.offset + 1) = length
  rest : block memory (cursor.payload.offset + 1 + 1) more.length = more

theorem startsWith_of_area {type length : UInt8} {more : List UInt8}
    (area : remainingArea memory size cursor = type :: length :: more) :
    StartsWith memory size cursor type length more := by
  have count : size.toNat - cursor.dataOffset.toNat = more.length + 1 + 1 := by
    have sizes := congrArg List.length area
    rwa [remainingArea, block_length] at sizes
  rw [remainingArea, count, block_succ, block_succ, List.cons.injEq, List.cons.injEq] at area
  exact ⟨(attributeGuard_iff size cursor).mpr (by omega), by omega, area.1, area.2.1, area.2.2⟩

variable {type length : UInt8} {more : List UInt8}

/-- A value that something follows is stored. -/
theorem StartsWith.stored (starts : StartsWith memory size cursor type length more)
    (inPool : size.toNat ≤ maxPacketSize) (two : 2 ≤ length.toNat)
    (fits : length.toNat - 2 < more.length) :
    (∀ avps, EndsWith memory size cursor avps ↔
        EndsWith memory size (cursor.stored memory) avps) ∧
      remainingArea memory size (cursor.stored memory) = more.drop (length.toNat - 2) ∧
      (cursor.stored memory).avps =
        cursor.avps.insertIfNew type (more.take (length.toNat - 2)) := by
  obtain ⟨enters, left, rfl, rfl, rest⟩ := starts
  have copied := valueLength_eq (memory (cursor.payload.offset + 1))
  rw [if_neg (by omega)] at copied
  have moved := cursor.stored_dataOffset memory (by omega)
  refine ⟨endsWith_next enters
    (strictIteration_stored memory size cursor (by omega) (by omega)), ?_, ?_⟩
  · have behind : size.toNat - (cursor.stored memory).dataOffset.toNat =
        more.length - ((memory (cursor.payload.offset + 1)).toNat - 2) := by omega
    rw [← rest, block_drop, ← behind, ← copied]
    rfl
  · rw [← rest, block_take _ _ _ _ (by omega), ← copied]
    rfl

/-- A length byte below 2 stores a value that is longer than what is left, and leaves. -/
theorem StartsWith.overshoots (starts : StartsWith memory size cursor type length more)
    (inPool : size.toNat ≤ maxPacketSize) (below : length.toNat < 2)
    (nonempty : 0 < more.length) (short : more.length ≤ 253) :
    ∃ value : RadiusAvpValue, 253 < value.length ∧
      ∀ avps, EndsWith memory size cursor avps ↔ avps = cursor.avps.insertIfNew type value := by
  obtain ⟨enters, left, rfl, rfl, _⟩ := starts
  have copied := valueLength_eq (memory (cursor.payload.offset + 1))
  rw [if_pos below] at copied
  have moved := cursor.stored_dataOffset memory (by omega)
  have leaves : attributeGuard size (cursor.stored memory) = false :=
    (attributeGuard_eq_false_iff _ _).mpr (by omega)
  refine ⟨block memory (cursor.payload.offset + 1 + 1)
    (valueLength (memory (cursor.payload.offset + 1))), by rw [block_length]; omega, ?_⟩
  intro avps
  rw [endsWith_next enters (strictIteration_stored memory size cursor (by omega) (by omega)),
    endsWith_exit leaves]
  rfl

/-- A value that nothing follows is taken apart by the next iterations. -/
theorem StartsWith.skipped (starts : StartsWith memory size cursor type length more)
    (nonempty : 0 < more.length) (tooLong : more.length ≤ length.toNat - 2) :
    (∀ avps, EndsWith memory size cursor avps ↔ EndsWith memory size cursor.skipped avps) ∧
      remainingArea memory size cursor.skipped = more := by
  obtain ⟨enters, left, rfl, rfl, rest⟩ := starts
  refine ⟨endsWith_next enters
    (strictIteration_skipped memory size cursor (by omega) (by omega)), ?_⟩
  have sizeSmall := size.toNat_lt
  have first := offset_succ cursor.dataOffset (by omega)
  have second := offset_succ (cursor.dataOffset + 1) (by omega)
  have behind : size.toNat - (cursor.dataOffset + 1 + 1).toNat = more.length := by omega
  show block memory _ (size.toNat - (cursor.dataOffset + 1 + 1).toNat) = more
  rw [behind]
  exact rest

/-- One byte is never parsed, and of two the second is not. -/
theorem not_endsWith_short (nonempty : 0 < (remainingArea memory size cursor).length)
    (short : (remainingArea memory size cursor).length ≤ 2) (avps : AVPStorage) :
    ¬ EndsWith memory size cursor avps := by
  rw [remainingArea, block_length] at nonempty short
  have enters := (attributeGuard_iff size cursor).mpr (by omega)
  by_cases one : size.toNat = cursor.dataOffset.toNat + 1
  · rintro ⟨final, ends, _⟩
    exact not_endsIn_of_fixed enters (strictIteration_last memory size cursor one) final ends
  · have sizeSmall := size.toNat_lt
    have moved := offset_succ cursor.dataOffset (by omega)
    rw [endsWith_next enters (strictIteration_two memory size cursor (by omega))]
    rintro ⟨final, ends, _⟩
    exact not_endsIn_of_fixed ((attributeGuard_iff size _).mpr (by dsimp only; omega))
      (strictIteration_last memory size _ (by dsimp only; omega)) final ends

/-! ### The whole loop -/

/-- What the strict loop makes of the last bytes of a packet, beside `strayTypes`. -/
inductive StrayOutcome (memory : Memory) (size : UInt16) (cursor : AttributeCursor)
    (bytes : List UInt8) : Option (List RadiusAvpType) → Prop
  | endless (never : ∀ avps, ¬ EndsWith memory size cursor avps) :
      StrayOutcome memory size cursor bytes none
  | leaves (pairs : List Attribute)
      (lengths : ∀ pair ∈ pairs, pair.2.length < bytes.length ∨ 253 < pair.2.length)
      (ends : ∀ avps, EndsWith memory size cursor avps ↔ avps = bindFirst pairs cursor.avps) :
      StrayOutcome memory size cursor bytes (some (pairs.map Prod.fst))

theorem StrayOutcome.ofStored {bytes shorter : List UInt8} {value : RadiusAvpValue}
    {outcome : Option (List RadiusAvpType)}
    (tail : StrayOutcome memory size next shorter outcome)
    (same : ∀ avps, EndsWith memory size cursor avps ↔ EndsWith memory size next avps)
    (stored : next.avps = cursor.avps.insertIfNew type value)
    (valueShorter : value.length < bytes.length) (isShorter : shorter.length ≤ bytes.length) :
    StrayOutcome memory size cursor bytes (outcome.map fun types => type :: types) := by
  cases tail with
  | endless never => exact .endless fun avps ends => never avps ((same avps).mp ends)
  | leaves pairs lengths ends =>
      refine .leaves ((type, value) :: pairs) ?_ ?_
      · intro pair member
        rcases List.mem_cons.mp member with rfl | later
        · exact .inl valueShorter
        · exact (lengths pair later).imp_left fun below => Nat.lt_of_lt_of_le below isShorter
      · intro avps
        rw [same, ends, stored, bindFirst_cons]

theorem StrayOutcome.ofSkipped {bytes shorter : List UInt8}
    {outcome : Option (List RadiusAvpType)}
    (tail : StrayOutcome memory size next shorter outcome)
    (same : ∀ avps, EndsWith memory size cursor avps ↔ EndsWith memory size next avps)
    (unchanged : next.avps = cursor.avps) (isShorter : shorter.length ≤ bytes.length) :
    StrayOutcome memory size cursor bytes outcome := by
  cases tail with
  | endless never => exact .endless fun avps ends => never avps ((same avps).mp ends)
  | leaves pairs lengths ends =>
      refine .leaves pairs ?_ ?_
      · intro pair member
        exact (lengths pair member).imp_left fun below => Nat.lt_of_lt_of_le below isShorter
      · intro avps
        rw [same, ends, unchanged]

theorem strayOutcome (inPool : size.toNat ≤ maxPacketSize) (bytes : List UInt8)
    (short : bytes.length ≤ 253) (cursor : AttributeCursor)
    (area : remainingArea memory size cursor = bytes) :
    StrayOutcome memory size cursor bytes (strayTypes bytes) := by
  induction bytes using strayTypes.induct generalizing cursor with
  | case1 type length first rest below =>
      rw [strayTypes, if_pos below]
      simp only [List.length_cons] at short
      obtain ⟨value, long, ends⟩ := (startsWith_of_area area).overshoots inPool below
        (Nat.zero_lt_succ _) (by simp only [List.length_cons]; omega)
      exact .leaves [(type, value)] (by simp [long]) ends
  | case2 type length first rest atLeast fits inductionHypothesis =>
      rw [strayTypes, if_neg atLeast, if_pos fits]
      simp only [List.length_cons] at short
      obtain ⟨same, restArea, avpsAre⟩ := (startsWith_of_area area).stored inPool (by omega) fits
      have tail := inductionHypothesis
        (by simp only [List.length_drop, List.length_cons]; omega) _ restArea
      refine tail.ofStored same avpsAre ?_ ?_
      · simp only [List.length_take, List.length_cons]
        omega
      · simp only [List.length_drop, List.length_cons]
        omega
  | case3 type length first rest atLeast tooLong inductionHypothesis =>
      rw [strayTypes, if_neg atLeast, if_neg tooLong]
      simp only [List.length_cons] at short
      obtain ⟨same, restArea⟩ := (startsWith_of_area area).skipped (Nat.zero_lt_succ _)
        (by rw [List.length_cons]; omega)
      have tail := inductionHypothesis (by simp only [List.length_cons]; omega) _ restArea
      exact tail.ofSkipped same rfl (Nat.le_add_right _ 2)
  | case4 =>
      rw [strayTypes_nil]
      have leaves : attributeGuard size cursor = false := by
        rw [attributeGuard_eq_false_iff]
        have none := congrArg List.length area
        rw [remainingArea, block_length, List.length_nil] at none
        omega
      exact .leaves [] (fun pair member => absurd member List.not_mem_nil) (endsWith_exit leaves)
  | case5 bytes notLong notNil =>
      have nonempty := List.length_pos_iff.mpr notNil
      rw [strayTypes_short bytes nonempty (length_le_two notLong)]
      exact .endless (not_endsWith_short (area ▸ nonempty) (area ▸ length_le_two notLong))

/-- The attributes that bytes follow are stored as the other decoder stores them. -/
theorem endsWith_front (inPool : size.toNat ≤ maxPacketSize) (front : List Attribute)
    (small : Announceable front) (bytes : List UInt8) (nonempty : bytes ≠ [])
    (cursor : AttributeCursor)
    (area : remainingArea memory size cursor = encode front ++ bytes) :
    ∃ next, remainingArea memory size next = bytes ∧
      next.avps = bindFirst front cursor.avps ∧
      ∀ avps, EndsWith memory size cursor avps ↔ EndsWith memory size next avps := by
  induction front generalizing cursor with
  | nil => exact ⟨cursor, area, rfl, fun avps => Iff.rfl⟩
  | cons avp front inductionHypothesis =>
      obtain ⟨avpSmall, small⟩ := announceable_cons.mp small
      rw [encode_cons, List.cons_append, List.cons_append, List.append_assoc] at area
      have announced : (UInt8.ofNat (avp.2.length + 2)).toNat - 2 = avp.2.length := by
        rw [announced_toNat avpSmall, Nat.add_sub_cancel]
      have behind := List.length_pos_iff.mpr nonempty
      obtain ⟨same, restArea, stored⟩ := (startsWith_of_area area).stored inPool
        (by rw [announced_toNat avpSmall]; omega)
        (by simp only [announced, List.length_append]; omega)
      rw [announced, List.drop_left] at restArea
      rw [announced, List.take_left] at stored
      obtain ⟨next, nextArea, nextAvps, nextSame⟩ := inductionHypothesis small _ restArea
      refine ⟨next, nextArea, ?_, fun avps => (same avps).trans (nextSame avps)⟩
      rw [nextAvps, stored, bindFirst_cons]

/-- The loop over attributes of which the last has a value: all are stored but this one,
whose value is read on. -/
theorem endsWith_attributes (inPool : size.toNat ≤ maxPacketSize) (front : List Attribute)
    (last : Attribute) (small : Announceable (front ++ [last])) (hasValue : last.2 ≠ [])
    (cursor : AttributeCursor)
    (area : remainingArea memory size cursor = encode (front ++ [last])) :
    ∃ next, next.avps = bindFirst front cursor.avps ∧
      StrayOutcome memory size next last.2 (strayTypes last.2) ∧
      ∀ avps, EndsWith memory size cursor avps ↔ EndsWith memory size next avps := by
  have frontSmall : Announceable front := fun avp member => small avp (by simp [member])
  have lastSmall : last.2.length ≤ 253 := small last (by simp)
  rw [encode_append] at area
  obtain ⟨middle, middleArea, middleAvps, sameMiddle⟩ := endsWith_front inPool front frontSmall
    (encode [last]) (by simp [encode_cons]) cursor area
  have written : encode [last] = last.1 :: UInt8.ofNat (last.2.length + 2) :: last.2 := by
    rw [encode_cons]
    exact congrArg _ (congrArg _ (List.append_nil _))
  rw [written] at middleArea
  obtain ⟨same, lastArea⟩ := (startsWith_of_area middleArea).skipped
    (List.length_pos_iff.mpr hasValue) (by rw [announced_toNat lastSmall]; omega)
  exact ⟨middle.skipped, middleAvps, strayOutcome inPool _ lastSmall _ lastArea,
    fun avps => (sameMiddle avps).trans (same avps)⟩

end

/-- Adding one more pair or some others at the end, none with the value of the first, makes
the same map only where no new key is added. -/
private theorem bindFirst_same_iff (front pairs : List Attribute) (last : Attribute)
    (apart : ∀ pair ∈ pairs, pair.2 ≠ last.2) :
    bindFirst (front ++ [last]) (∅ : AVPStorage) = bindFirst (front ++ pairs) ∅ ↔
      last.1 ∈ front.map Prod.fst ∧ ∀ type ∈ pairs.map Prod.fst, type ∈ front.map Prod.fst := by
  constructor
  · intro same
    have lookups : ∀ type : RadiusAvpType,
        (front.lookup type).or ([last].lookup type) =
          (front.lookup type).or (pairs.lookup type) := by
      intro type
      have entry := congrArg (fun map : AVPStorage => map[type]?) same
      simpa only [avps_getElem?, List.lookup_append] using entry
    have lastBound : last.1 ∈ front.map Prod.fst := by
      by_contra free
      have entry := lookups last.1
      rw [← lookup_isSome_iff_mem, Option.not_isSome_iff_eq_none] at free
      rw [free, Option.none_or, Option.none_or, List.lookup_cons_self] at entry
      obtain ⟨before, after, split, _⟩ := List.lookup_eq_some_iff.mp entry.symm
      exact apart (last.1, last.2) (by simp [split]) rfl
    refine ⟨lastBound, fun type member => ?_⟩
    by_contra free
    have entry := lookups type
    have other : (type == last.1) = false := by
      rw [beq_eq_false_iff_ne]
      rintro rfl
      exact free lastBound
    rw [← lookup_isSome_iff_mem, Option.not_isSome_iff_eq_none] at free
    have stored := (lookup_isSome_iff_mem pairs type).mpr member
    rw [free, Option.none_or, Option.none_or, List.lookup_cons, other, List.lookup_nil] at entry
    rw [← entry] at stored
    cases stored
  · rintro ⟨lastBound, strayBound⟩
    have bound : ∀ pair : Attribute, pair.1 ∈ front.map Prod.fst →
        (bindFirst front (∅ : AVPStorage))[pair.1]?.isSome := by
      intro pair member
      rw [avps_getElem?]
      exact (lookup_isSome_iff_mem front pair.1).mpr member
    rw [bindFirst_append, bindFirst_append,
      bindFirst_of_bound (List.forall_mem_singleton.mpr (bound last lastBound)),
      bindFirst_of_bound fun pair member => bound pair (strayBound _ (List.mem_map_of_mem member))]

/-! ### Both decoders on one frame -/

/-- The packets agree in what is read of them later on. -/
structure RADIUSPacket.Agrees (packet other : RADIUSPacket) : Prop where
  avps : other.avps = packet.avps
  sessionPair : other.getPacketSessionPair = packet.getPacketSessionPair
  timeStamp : other.timeStamp = packet.timeStamp
  hash : other.getPacketSpecificHashImpl = packet.getPacketSpecificHashImpl

/-- The strict decoder, given the `UDPPacket` built from the frame, terminates and agrees. -/
def ETHPacket.StrictlyDecodesTo (frame : ETHPacket) (packet : RADIUSPacket) : Prop :=
  ∃ (udp : UDPPacket) (item : RawPacketsPoolItem) (fuel : Nat) (other : RADIUSPacket)
    (udpLeft : UDPPacket),
    TransportPacket.ofPoolItem (some frame) = .ok (udp, item) ∧
      RADIUSPacket.ofUDPPacket fuel udp = .ok (other, udpLeft) ∧ packet.Agrees other

private theorem strictlyDecodesTo_iff {frame : ETHPacket} (passes : frame.PassesLengthAssert)
    (avps : AVPStorage) :
    frame.StrictlyDecodesTo { frame.decoderPacket with avps } ↔
      EndsWith frame.memory frame.decoderStart.size frame.decoderStart.cursor avps := by
  constructor
  · rintro ⟨udp, item, fuel, other, udpLeft, udpBuilt, decoded, agrees⟩
    obtain ⟨opened, opens, rest⟩ := bind_eq_ok decoded
    rw [RADIUSPacket.openUDPPacket_of_openPoolItem udpBuilt (openPoolItem_of_passes passes)]
      at opens
    cases opens
    obtain ⟨final, loops, packetIs⟩ := bind_eq_ok rest
    cases packetIs
    exact ⟨final, ⟨fuel, loops⟩, agrees.avps⟩
  · rintro ⟨final, ⟨fuel, loops⟩, rfl⟩
    have udpBuilt : TransportPacket.ofPoolItem (some frame) =
        .ok (frame.decoderPacket.prevLayerPacket, none) := rfl
    have opens :=
      RADIUSPacket.openUDPPacket_of_openPoolItem udpBuilt (openPoolItem_of_passes passes)
    refine ⟨_, none, fuel, { frame.decoderPacket with avps := final.avps },
      RADIUSPacket.movedFrom frame.decoderPacket.prevLayerPacket, udpBuilt, ?_,
      ⟨rfl, rfl, rfl, rfl⟩⟩
    unfold RADIUSPacket.ofUDPPacket
    rw [opens]
    show ((strictLoop frame.memory frame.decoderStart.size fuel frame.decoderStart.cursor).2 >>=
      fun cursor => _) = _
    rw [strictLoop, loops]
    rfl

/-- The packet of a decoder that completes holds the attributes of its area, and the last of
them has a value. -/
theorem decoded_attributes {frame : ReceivedPacket} {packet : RADIUSPacket}
    {left : RawPacketsPoolItem}
    (completes : RADIUSPacket.ofPoolItem (some frame.val) = .ok (packet, left))
    (lengths : frame.val.ReadsLengthsFromTwo) :
    ∃ attributes, frame.val.PassesLengthAssert ∧ Announceable attributes ∧
      encode attributes = frame.val.attributeArea ∧ ¬ EndsEmpty attributes ∧
      packet = { frame.val.decoderPacket with avps := bindFirst attributes ∅ } := by
  obtain ⟨rfl, _⟩ := ofPoolItem_ok completes
  obtain ⟨passes, admitted⟩ := (decodes_iff_wellFormed frame.property).mp ⟨packet, completes⟩
  by_cases headers : 62 ≤ frame.val.size.toNat
  · obtain ⟨final, attributes, _, _, packetIs, _, tiling⟩ :=
      decoder_tiles headers completes lengths
    have written := tiling.tiles.trans (start_remainingArea passes)
    refine ⟨attributes, passes, tiling.announceable, written, fun ends => ?_, ?_⟩
    · rw [← written, cutArea, cut_encode_announceable readsAnnounced tiling.announceable,
        if_pos ends] at admitted
      exact admitted rfl
    · rw [packetIs, tiling.avps]
      rfl
  · have empty : frame.val.attributeArea = [] := by
      rw [ETHPacket.attributeArea, Nat.sub_eq_zero_of_le (by omega), block_zero]
    rw [ofPoolItem_of_passes frame.property passes, empty, cutArea, cut_nil] at completes
    cases completes
    exact ⟨[], passes, by decide, empty.symm, endsEmpty_nil, rfl⟩

/-- The last attribute has a type that stands before it, and so has everything the strict loop
takes its value for, up to a length byte below 2. -/
def BringsNoType (front : List Attribute) (last : Attribute) : Prop :=
  last.1 ∈ front.map Prod.fst ∧
    ∃ types, strayTypes last.2 = some types ∧ ∀ type ∈ types, type ∈ front.map Prod.fst

private theorem endsWith_same_iff {memory : Memory} {size : UInt16} {next : AttributeCursor}
    (front : List Attribute) (last : Attribute)
    (started : next.avps = bindFirst front ∅)
    (outcome : StrayOutcome memory size next last.2 (strayTypes last.2))
    (small : last.2.length ≤ 253) :
    EndsWith memory size next (bindFirst (front ++ [last]) ∅) ↔ BringsNoType front last := by
  unfold BringsNoType
  cases read : strayTypes last.2 with
  | none =>
      rw [read] at outcome
      cases outcome with
      | endless never => exact iff_of_false (never _) (by simp)
  | some types =>
      rw [read] at outcome
      cases outcome with
      | leaves pairs lengths ends =>
          have apart : ∀ pair ∈ pairs, pair.2 ≠ last.2 := by
            intro pair member equal
            have sizes := lengths pair member
            rw [equal] at sizes
            omega
          rw [ends, started, ← bindFirst_append]
          refine (bindFirst_same_iff front pairs last apart).trans ?_
          simp

/-- The strict decoder agrees exactly where the attribute area is empty, or the last
attribute brings no new type and its value none either. -/
theorem strictlyDecodesTo_iff_of_decoded (frame : ReceivedPacket) (packet : RADIUSPacket)
    (left : RawPacketsPoolItem)
    (completes : RADIUSPacket.ofPoolItem (some frame.val) = .ok (packet, left))
    (lengths : frame.val.ReadsLengthsFromTwo) :
    frame.val.StrictlyDecodesTo packet ↔
      frame.val.attributeArea = [] ∨
        ∃ front last, Announceable (front ++ [last]) ∧
          encode (front ++ [last]) = frame.val.attributeArea ∧ BringsNoType front last := by
  obtain ⟨attributes, passes, small, written, hasValue, rfl⟩ :=
    decoded_attributes completes lengths
  have inPool := start_inPool frame.property passes
  have area : remainingArea frame.val.memory frame.val.decoderStart.size
      frame.val.decoderStart.cursor = encode attributes :=
    (start_remainingArea passes).trans written.symm
  rw [strictlyDecodesTo_iff passes]
  rcases List.eq_nil_or_concat attributes with rfl | ⟨front, last, rfl⟩
  · have leaves : attributeGuard frame.val.decoderStart.size frame.val.decoderStart.cursor =
        false := by
      have none := congrArg List.length area
      rw [remainingArea, block_length] at none
      exact (attributeGuard_eq_false_iff _ _).mpr (Nat.le_of_sub_eq_zero none)
    exact iff_of_true ((endsWith_exit leaves _).mpr rfl) (.inl written.symm)
  · rw [List.concat_eq_append] at *
    obtain ⟨next, started, outcome, same⟩ := endsWith_attributes inPool front last small
      (mt (endsEmpty_concat front last).mpr hasValue) _ area
    rw [same, endsWith_same_iff front last started outcome (small last (by simp))]
    constructor
    · intro holds
      exact .inr ⟨front, last, small, written, holds⟩
    · rintro (empty | ⟨otherFront, otherLast, otherSmall, otherWritten, holds⟩)
      · rw [empty, encode_append] at written
        exact absurd (List.append_eq_nil_iff.mp written).2 (by simp [encode_cons])
      · have alike := encode_injective otherSmall small (otherWritten.trans written.symm)
        obtain ⟨rfl, lastIs⟩ := List.append_inj' alike rfl
        cases lastIs
        exact holds

/-- The value of the only attribute is one byte, which the strict loop never gets past. -/
theorem single_attribute_not_strictly_decoded :
    RADIUSPacket.ofPoolItem (some (framed [(1, [65])]).val) =
        .ok ({ (framed [(1, [65])]).val.decoderPacket with avps := bindFirst [(1, [65])] ∅ },
          none) ∧
      (framed [(1, [65])]).val.ReadsLengthsFromTwo ∧
      ¬ (framed [(1, [65])]).val.StrictlyDecodesTo
        { (framed [(1, [65])]).val.decoderPacket with avps := bindFirst [(1, [65])] ∅ } := by
  have carries := framed_carries [(1, [65])] (by decide)
  refine ⟨carries.ofPoolItem (by decide) (by decide),
    (readsLengthsFromTwo_iff carries.passes).mpr (by decide), ?_⟩
  have area := (start_remainingArea carries.passes).trans carries.attributeArea
  obtain ⟨next, _, outcome, same⟩ := endsWith_attributes
    (start_inPool (framed _).property carries.passes) [] (1, [65]) (by decide) (by decide) _ area
  rw [strictlyDecodesTo_iff carries.passes]
  rw [strayTypes_short _ (by decide) (by decide)] at outcome
  cases outcome with
  | endless never => exact fun ends => never _ ((same _).mp ends)

/-- The value of the second attribute leads the strict loop to a length byte of 0. -/
theorem repeated_attribute_strictly_decoded :
    (framed [(1, [5]), (1, [1, 0, 9])]).val.StrictlyDecodesTo
      { (framed [(1, [5]), (1, [1, 0, 9])]).val.decoderPacket with
        avps := bindFirst [(1, [5]), (1, [1, 0, 9])] ∅ } := by
  have carries := framed_carries [(1, [5]), (1, [1, 0, 9])] (by decide)
  have stray : strayTypes [1, 0, 9] = some [1] := by
    rw [strayTypes]
    rfl
  exact (strictlyDecodesTo_iff_of_decoded (framed _) _ none
    (carries.ofPoolItem (by decide) (by decide))
    ((readsLengthsFromTwo_iff carries.passes).mpr (by decide))).mpr
      (.inr ⟨[(1, [5])], (1, [1, 0, 9]), by decide, carries.attributeArea.symm, by decide, [1],
        stray, List.forall_mem_singleton.mpr (by decide)⟩)

end TrafficInspector
