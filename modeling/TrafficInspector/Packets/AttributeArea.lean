import TrafficInspector.Foundation.TypeLengthValue
import TrafficInspector.Packets.AttributeLoop

/-!
Owns the meaning of the attribute loop: it cuts the attribute area, as a list of
received bytes, into attributes. The bound check works with the length byte as
received and the copy with the decremented one, so a length byte of `0` or `1`
passes the check and asks for 254 or 255 bytes. Everything the loop does, and
every place it reads, follows from the reading of the area.
-/

namespace TrafficInspector

open Foundation
open Foundation.ByteOrder
open Foundation.TypeLengthValue

/-- The attribute area as the loop takes it apart. -/
def cutArea (area : List UInt8) : Reading := cut UInt8.toNat valueLength area

/-- The bytes of the packet the loop has not consumed. -/
def remainingArea (memory : Memory) (size : UInt16) (cursor : AttributeCursor) : List UInt8 :=
  block memory cursor.payload.offset (size.toNat - cursor.dataOffset.toNat)

def AttributeReads.bytes (reads : AttributeReads) : List Pointer :=
  reads.typeAt.toList ++ reads.lengthAt.toList ++
    reads.valueAt.toList.flatMap fun source =>
      (List.range source.2).map fun index => source.1 + index

/-- The address lies inside the packet of `size` bytes that starts at `header`. -/
def Pointer.InPacket (header : Pointer) (size : Nat) (address : Pointer) : Prop :=
  address.buffer = header.buffer ∧ header.offset ≤ address.offset ∧
    address.offset < header.offset + size

def AttributeReads.Inside (header : Pointer) (size : Nat) (reads : AttributeReads) : Prop :=
  ∀ address ∈ reads.bytes, header.InPacket size address

def AttributeCursor.Aligned (header : Pointer) (cursor : AttributeCursor) : Prop :=
  cursor.payload = header + cursor.dataOffset.toNat

/-- What one turn of the loop can do, beside the reading of the area it works on. -/
inductive LoopTurn (memory : Memory) (size : UInt16) (header : Pointer)
    (cursor : AttributeCursor) : Prop where
  | exhausted (leaves : attributeGuard size cursor = false)
      (reading : cutArea (remainingArea memory size cursor) = ⟨[], .exhausted⟩)
  | malformed (reads : AttributeReads) (enters : attributeGuard size cursor = true)
      (iteration : attributeIteration memory size cursor = (reads, .error .attributeAssert))
      (inside : reads.Inside header size.toNat)
      (reading : cutArea (remainingArea memory size cursor) = ⟨[], .malformed⟩)
  | overrun (reads : AttributeReads) (next : AttributeCursor) (type length : UInt8)
      (received : List UInt8) (enters : attributeGuard size cursor = true)
      (iteration : attributeIteration memory size cursor = (reads, .ok next))
      (outside : ¬ reads.Inside header size.toNat)
      (leaves : attributeGuard size next = false)
      (avps : next.avps = cursor.avps.insertIfNew type
        (received ++ block memory (header.offset + size.toNat)
          (valueLength length - received.length)))
      (reading : cutArea (remainingArea memory size cursor) =
        ⟨[], .overrun type length received⟩)
  | complete (reads : AttributeReads) (next : AttributeCursor) (type : UInt8)
      (value : List UInt8) (enters : attributeGuard size cursor = true)
      (iteration : attributeIteration memory size cursor = (reads, .ok next))
      (inside : reads.Inside header size.toNat)
      (aligned : next.Aligned header)
      (progress : cursor.dataOffset.toNat < next.dataOffset.toNat)
      (avps : next.avps = cursor.avps.insertIfNew type value)
      (reading : cutArea (remainingArea memory size cursor) =
        ⟨(type, value) :: (cutArea (remainingArea memory size next)).complete,
          (cutArea (remainingArea memory size next)).ending⟩)

/-! ### The places one iteration reads -/

private theorem inside_of_offsets {header : Pointer} {size : Nat} {reads : AttributeReads}
    (typeInside : ∀ address ∈ reads.typeAt, header.InPacket size address)
    (lengthInside : ∀ address ∈ reads.lengthAt, header.InPacket size address)
    (valueInside : ∀ source ∈ reads.valueAt, ∀ index < source.2,
      header.InPacket size (source.1 + index)) :
    reads.Inside header size := by
  intro address member
  simp only [AttributeReads.bytes, List.mem_append, Option.mem_toList, List.mem_flatMap,
    List.mem_map, List.mem_range] at member
  rcases member with (atType | atLength) | ⟨source, atValue, index, below, rfl⟩
  · exact typeInside address atType
  · exact lengthInside address atLength
  · exact valueInside source atValue index below

private theorem outside_of_value {header : Pointer} {size : Nat} {reads : AttributeReads}
    {source : Pointer} {count : Nat} (reads_value : reads.valueAt = some (source, count))
    (past : header.offset + size < source.offset + count)
    (start : source.offset ≤ header.offset + size) :
    ¬ reads.Inside header size := by
  intro inside
  have member : source + (header.offset + size - source.offset) ∈ reads.bytes := by
    simp only [AttributeReads.bytes, reads_value, Option.toList_some, List.flatMap_cons,
      List.flatMap_nil, List.append_nil, List.mem_append, List.mem_map, List.mem_range]
    exact Or.inr ⟨_, by omega, rfl⟩
  have below := (inside _ member).2.2
  simp only [Pointer.add_offset] at below
  omega

private theorem inPacket_add {header address : Pointer} {size distance : Nat}
    (start : address = header + distance) (below : distance < size) :
    header.InPacket size address := by
  subst start
  refine ⟨rfl, ?_, ?_⟩ <;> simp only [Pointer.add_offset] <;> omega

/-! ### One turn of the loop -/

theorem attributeGuard_iff (size : UInt16) (cursor : AttributeCursor) :
    attributeGuard size cursor = true ↔ cursor.dataOffset.toNat < size.toNat := by
  simp only [attributeGuard, decide_eq_true_eq, gt_iff_lt, UInt16.lt_iff_toNat_lt]

theorem attributeGuard_eq_false_iff (size : UInt16) (cursor : AttributeCursor) :
    attributeGuard size cursor = false ↔ size.toNat ≤ cursor.dataOffset.toNat := by
  rw [← Bool.not_eq_true, attributeGuard_iff, Nat.not_lt]

private theorem remainingArea_cons {memory : Memory} {size : UInt16} {cursor : AttributeCursor}
    (enough : cursor.dataOffset.toNat + 2 < size.toNat) :
    remainingArea memory size cursor =
      memory cursor.payload.offset :: memory (cursor.payload.offset + 1) ::
        memory (cursor.payload.offset + 2) ::
          block memory (cursor.payload.offset + 3)
            (size.toNat - cursor.dataOffset.toNat - 3) := by
  have count : size.toNat - cursor.dataOffset.toNat =
      size.toNat - cursor.dataOffset.toNat - 3 + 1 + 1 + 1 := by omega
  rw [remainingArea, count, block_succ, block_succ, block_succ]
  simp only [Nat.add_sub_cancel, Nat.add_assoc, Nat.reduceAdd]

private theorem remainingArea_value {memory : Memory} {size : UInt16} {cursor : AttributeCursor}
    (enough : cursor.dataOffset.toNat + 2 < size.toNat) :
    memory (cursor.payload.offset + 2) ::
        block memory (cursor.payload.offset + 3) (size.toNat - cursor.dataOffset.toNat - 3) =
      block memory (cursor.payload.offset + 1 + 1)
        (size.toNat - cursor.dataOffset.toNat - 2) := by
  have count : size.toNat - cursor.dataOffset.toNat - 2 =
      size.toNat - cursor.dataOffset.toNat - 3 + 1 := by omega
  rw [count, block_succ]

private theorem turn_short {memory : Memory} {size : UInt16} {header : Pointer}
    {cursor : AttributeCursor} (aligned : cursor.Aligned header)
    (enters : cursor.dataOffset.toNat < size.toNat)
    (short : size.toNat ≤ cursor.dataOffset.toNat + 2) :
    LoopTurn memory size header cursor := by
  have length : (remainingArea memory size cursor).length =
      size.toNat - cursor.dataOffset.toNat := block_length ..
  refine .malformed _ ((attributeGuard_iff size cursor).mpr enters)
    (attributeIteration_short memory size cursor short) ?_
    (cut_short _ _ _ (by omega) (by omega))
  refine inside_of_offsets ?_ (by simp) (by simp)
  intro address atType
  rw [Option.mem_def, Option.ite_none_right_eq_some, Option.some.injEq] at atType
  obtain ⟨below, rfl⟩ := atType
  exact inPacket_add aligned enters

/-- The type and the length byte are inside the packet; what is left to say is the value. -/
private theorem inside_of_value {size : UInt16} {header : Pointer} {cursor : AttributeCursor}
    (aligned : cursor.Aligned header) (enough : cursor.dataOffset.toNat + 2 < size.toNat)
    {value : Option (Pointer × Nat)}
    (valueInside : ∀ source ∈ value, ∀ index < source.2,
      header.InPacket size.toNat (source.1 + index)) :
    AttributeReads.Inside header size.toNat
      ⟨some cursor.payload, some (cursor.payload + 1), value⟩ := by
  apply inside_of_offsets
  · rintro address ⟨⟩
    exact inPacket_add aligned (by omega)
  · rintro address ⟨⟩
    rw [aligned, Pointer.add_assoc]
    exact inPacket_add rfl (by omega)
  · exact valueInside

private theorem turn_long {memory : Memory} {size : UInt16} {header : Pointer}
    {cursor : AttributeCursor} (aligned : cursor.Aligned header)
    (enough : cursor.dataOffset.toNat + 2 < size.toNat)
    (beyond : size.toNat < cursor.dataOffset.toNat +
      (memory (cursor.payload.offset + 1)).toNat) :
    LoopTurn memory size header cursor := by
  refine .malformed _ ((attributeGuard_iff size cursor).mpr (by omega))
    (attributeIteration_long memory size cursor enough beyond) ?_ ?_
  · exact inside_of_value aligned enough (by simp)
  · rw [remainingArea_cons enough, cutArea, cut_refused]
    rw [block_length]
    omega

private theorem stored_start {header : Pointer} {cursor : AttributeCursor}
    (aligned : cursor.Aligned header) :
    cursor.payload + 1 + 1 = header + (cursor.dataOffset.toNat + 2) := by
  rw [aligned, Pointer.add_assoc, Pointer.add_assoc]

private theorem turn_complete {memory : Memory} {size : UInt16} {header : Pointer}
    {cursor : AttributeCursor} (inPool : size.toNat ≤ maxPacketSize)
    (aligned : cursor.Aligned header)
    (enough : cursor.dataOffset.toNat + 2 < size.toNat)
    (within : cursor.dataOffset.toNat + (memory (cursor.payload.offset + 1)).toNat ≤
      size.toNat)
    (whole : cursor.dataOffset.toNat + 2 + valueLength (memory (cursor.payload.offset + 1)) ≤
      size.toNat) :
    LoopTurn memory size header cursor := by
  have moved := cursor.stored_dataOffset memory (by omega)
  have start := stored_start aligned
  have rest : remainingArea memory size (cursor.stored memory) =
      block memory (cursor.payload.offset + 1 + 1 +
          valueLength (memory (cursor.payload.offset + 1)))
        (size.toNat - cursor.dataOffset.toNat - 2 -
          valueLength (memory (cursor.payload.offset + 1))) := by
    rw [remainingArea, moved, Nat.sub_sub, Nat.sub_sub, ← Nat.add_assoc]
    rfl
  refine .complete _ _ _ _ ((attributeGuard_iff size cursor).mpr (by omega))
    (attributeIteration_stored memory size cursor enough within) ?_ ?_ (by omega) rfl ?_
  · apply inside_of_value aligned enough
    rintro source ⟨⟩ index below
    rw [start, Pointer.add_assoc]
    simp only at below
    exact inPacket_add rfl (by omega)
  · show cursor.payload + 1 + 1 + _ = _
    rw [start, moved, Pointer.add_assoc]
  · rw [remainingArea_cons enough, cutArea,
      cut_complete _ _ _ _ _ _ (by rw [block_length]; omega) (by rw [block_length]; omega),
      remainingArea_value enough, block_take _ _ _ _ (by omega), block_drop, ← rest]
    rfl

private theorem turn_overrun {memory : Memory} {size : UInt16} {header : Pointer}
    {cursor : AttributeCursor} (inPool : size.toNat ≤ maxPacketSize)
    (aligned : cursor.Aligned header)
    (enough : cursor.dataOffset.toNat + 2 < size.toNat)
    (within : cursor.dataOffset.toNat + (memory (cursor.payload.offset + 1)).toNat ≤
      size.toNat)
    (past : size.toNat <
      cursor.dataOffset.toNat + 2 + valueLength (memory (cursor.payload.offset + 1))) :
    LoopTurn memory size header cursor := by
  have moved := cursor.stored_dataOffset memory (by omega)
  have start : cursor.payload.offset + 1 + 1 = header.offset + (cursor.dataOffset.toNat + 2) :=
    congrArg Pointer.offset (stored_start aligned)
  refine .overrun _ _ (memory cursor.payload.offset) (memory (cursor.payload.offset + 1))
    (block memory (cursor.payload.offset + 1 + 1) (size.toNat - cursor.dataOffset.toNat - 2))
    ((attributeGuard_iff size cursor).mpr (by omega))
    (attributeIteration_stored memory size cursor enough within) ?_
    ((attributeGuard_eq_false_iff _ _).mpr (by omega)) ?_ ?_
  · refine outside_of_value rfl ?_ ?_ <;> simp only [Pointer.add_offset] <;> omega
  · have stop : header.offset + size.toNat =
        cursor.payload.offset + 1 + 1 + (size.toNat - cursor.dataOffset.toNat - 2) := by omega
    have split : valueLength (memory (cursor.payload.offset + 1)) =
        size.toNat - cursor.dataOffset.toNat - 2 +
          (valueLength (memory (cursor.payload.offset + 1)) -
            (size.toNat - cursor.dataOffset.toNat - 2)) := by omega
    rw [block_length, stop, ← block_append, ← split]
    rfl
  · rw [remainingArea_cons enough, cutArea,
      cut_overrun _ _ _ _ _ _ (by rw [block_length]; omega) (by rw [block_length]; omega),
      remainingArea_value enough]

theorem loopTurn (memory : Memory) {size : UInt16} {header : Pointer} {cursor : AttributeCursor}
    (inPool : size.toNat ≤ maxPacketSize) (aligned : cursor.Aligned header) :
    LoopTurn memory size header cursor := by
  by_cases enters : cursor.dataOffset.toNat < size.toNat
  · by_cases enough : cursor.dataOffset.toNat + 2 < size.toNat
    · by_cases within : cursor.dataOffset.toNat +
          (memory (cursor.payload.offset + 1)).toNat ≤ size.toNat
      · by_cases whole : cursor.dataOffset.toNat + 2 +
            valueLength (memory (cursor.payload.offset + 1)) ≤ size.toNat
        · exact turn_complete inPool aligned enough within whole
        · exact turn_overrun inPool aligned enough within (by omega)
      · exact turn_long aligned enough (by omega)
    · exact turn_short aligned enters (by omega)
  · refine .exhausted ((attributeGuard_eq_false_iff size cursor).mpr (by omega)) ?_
    have empty : remainingArea memory size cursor = [] := by
      rw [remainingArea, Nat.sub_eq_zero_of_le (by omega), block_zero]
    rw [empty, cutArea, cut_nil]

/-! ### The whole loop -/

theorem avps_getElem? (complete : List Attribute) (type : RadiusAvpType) :
    (bindFirst complete (∅ : AVPStorage))[type]? = complete.lookup type :=
  bindFirst_empty_getElem? complete type

/-- What a reading of the area leaves in `m_avps`. An overrun value goes on with
the memory from `stop`, the end of the packet. -/
def avpsOfReading (reading : Reading) (memory : Memory) (stop : Nat) (bound : AVPStorage) :
    Except Fault AVPStorage :=
  match reading.ending with
  | .exhausted => .ok (bindFirst reading.complete bound)
  | .overrun type length received =>
      .ok ((bindFirst reading.complete bound).insertIfNew type
        (received ++ block memory stop (valueLength length - received.length)))
  | .malformed => .error .attributeAssert

section

variable (memory : Memory) {size : UInt16} (header : Pointer)

/-- The rule for the whole loop: it holds of a run when it holds of the three turns
that end one, and a complete turn keeps it. -/
theorem attributeLoop_rule (inPool : size.toNat ≤ maxPacketSize)
    (Holds : AttributeCursor → List AttributeReads × Except Fault AttributeCursor → Prop)
    (exhausted : ∀ cursor,
      cutArea (remainingArea memory size cursor) = ⟨[], .exhausted⟩ → Holds cursor ([], .ok cursor))
    (malformed : ∀ cursor reads, reads.Inside header size.toNat →
      cutArea (remainingArea memory size cursor) = ⟨[], .malformed⟩ →
        Holds cursor ([reads], .error .attributeAssert))
    (overrun : ∀ cursor reads next type length received, ¬ reads.Inside header size.toNat →
      next.avps = cursor.avps.insertIfNew type (received ++
        block memory (header.offset + size.toNat) (valueLength length - received.length)) →
      cutArea (remainingArea memory size cursor) = ⟨[], .overrun type length received⟩ →
        Holds cursor ([reads], .ok next))
    (complete : ∀ cursor reads next type value rest, reads.Inside header size.toNat →
      next.avps = cursor.avps.insertIfNew type value →
      cutArea (remainingArea memory size cursor) =
        ⟨(type, value) :: (cutArea (remainingArea memory size next)).complete,
          (cutArea (remainingArea memory size next)).ending⟩ →
      Holds next rest → Holds cursor (reads :: rest.1, rest.2))
    (cursor : AttributeCursor) (aligned : cursor.Aligned header) :
    Holds cursor (attributeLoop memory size cursor) := by
  suffices run : ∀ fuel cursor, cursor.Aligned header →
      size.toNat ≤ cursor.dataOffset.toNat + fuel →
        Holds cursor (fueledLoop (attributeGuard size) (attributeIteration memory size)
          .endlessLoop fuel cursor) from
    run size.toNat cursor aligned (Nat.le_add_left _ _)
  clear cursor aligned
  intro fuel
  induction fuel with
  | zero =>
      intro cursor aligned enough
      have leaves := (attributeGuard_eq_false_iff size cursor).mpr enough
      rcases loopTurn memory inPool aligned with
        ⟨_, reading⟩ | ⟨_, enters, _, _, _⟩ | ⟨_, _, _, _, _, enters, _, _, _, _, _⟩ |
        ⟨_, _, _, _, enters, _, _, _, _, _, _⟩
      · rw [fueledLoop_exit 0 leaves]
        exact exhausted cursor reading
      all_goals
        rw [leaves] at enters
        cases enters
  | succ fuel inductionHypothesis =>
      intro cursor aligned enough
      rcases loopTurn memory inPool aligned with
        ⟨leaves, reading⟩ | ⟨reads, enters, iteration, inside, reading⟩ |
        ⟨reads, next, type, length, received, enters, iteration, outside, leaves, avps, reading⟩ |
        ⟨reads, next, type, value, enters, iteration, inside, nextAligned, progress, avps, reading⟩
      · rw [fueledLoop_exit _ leaves]
        exact exhausted cursor reading
      · rw [fueledLoop_fail _ enters iteration]
        exact malformed cursor reads inside reading
      · rw [fueledLoop_next _ enters iteration, fueledLoop_exit _ leaves]
        exact overrun cursor reads next type length received outside avps reading
      · rw [fueledLoop_next _ enters iteration]
        exact complete cursor reads next type value _ inside avps reading
          (inductionHypothesis next nextAligned (by omega))

/-- The loop started over the whole attribute area leaves in `m_avps` what the
reading of the area says. -/
theorem attributeLoop_avps (inPool : size.toNat ≤ maxPacketSize) (cursor : AttributeCursor)
    (aligned : cursor.Aligned header) :
    (attributeLoop memory size cursor).2.map AttributeCursor.avps =
      avpsOfReading (cutArea (remainingArea memory size cursor)) memory
        (header.offset + size.toNat) cursor.avps := by
  apply attributeLoop_rule memory header inPool fun cursor result =>
    result.2.map AttributeCursor.avps =
      avpsOfReading (cutArea (remainingArea memory size cursor)) memory
        (header.offset + size.toNat) cursor.avps
  · intro cursor reading
    rw [reading]
    rfl
  · intro cursor reads _ reading
    rw [reading]
    rfl
  · intro cursor reads next type length received _ avps reading
    rw [reading]
    exact congrArg Except.ok avps
  · intro cursor reads next type value rest _ avps reading held
    rw [reading]
    show rest.2.map AttributeCursor.avps = _
    rw [held, avps]
    rfl
  · exact aligned

/-- Every byte the loop reads lies inside the packet exactly when the reading of
the area is contained in it. -/
theorem attributeLoop_inside_iff (inPool : size.toNat ≤ maxPacketSize) (cursor : AttributeCursor)
    (aligned : cursor.Aligned header) :
    (∀ reads ∈ (attributeLoop memory size cursor).1, reads.Inside header size.toNat) ↔
      (cutArea (remainingArea memory size cursor)).Contained := by
  apply attributeLoop_rule memory header inPool fun cursor result =>
    (∀ reads ∈ result.1, reads.Inside header size.toNat) ↔
      (cutArea (remainingArea memory size cursor)).Contained
  · intro cursor reading
    rw [reading]
    simp [Reading.Contained]
  · intro cursor reads inside reading
    rw [reading]
    simpa [Reading.Contained] using inside
  · intro cursor reads next type length received outside _ reading
    rw [reading]
    simp [Reading.Contained, outside]
  · intro cursor reads next type value rest inside _ reading held
    rw [reading, List.forall_mem_cons, held]
    exact and_iff_right inside
  · exact aligned

end

end TrafficInspector
