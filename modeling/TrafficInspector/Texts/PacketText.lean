import TrafficInspector.Foundation.Legible
import TrafficInspector.PacketMoves

/-!
Owns the line that a worker logs for every packet it takes: `to_string` of the three classes, with
the texts of the layers below. The line of a packet tells its class and its control message id, and
of the frame the bytes that the program prints, each of them exactly.
-/

namespace TrafficInspector

open Foundation
open Foundation.ByteOrder

inductive PacketType where
  | eth
  | ip
  | udp
  | tcp
  | radiusUdp
  | controlEvent
  | maxPacketType
deriving DecidableEq, Repr

def packetType2String : PacketType → String
  | .eth => "ETH"
  | .ip => "IP"
  | .udp => "UDP"
  | .tcp => "TCP"
  | .radiusUdp => "RADIUS_UDP"
  | .controlEvent => "CONTROL_EVENT"
  | .maxPacketType => "UNKNOWN"

def controlMessageId2String : ControlMessageId → String
  | .processing => "PROCESSING"
  | .syncTimeout => "SYNC_TIMEOUT"
  | .shutdown => "SHUTDOWN"
  | .maxControlMessageId => "UNKNOWN"

def PacketClass.getPacketType : PacketClass → PacketType
  | eth => .eth
  | ip => .ip
  | udp => .udp
  | tcp => .tcp
  | radius => .radiusUdp

/-- The four bytes in the other order. -/
def ntohl (value : UInt32) : UInt32 :=
  value % 256 * 16777216 + value / 256 % 256 * 65536 + value / 65536 % 256 * 256 +
    value / 16777216

def inetIpToString (ip : UInt32) : String :=
  let iph := ntohl ip
  let i1 := (iph &&& 0xFF000000) >>> 24
  let i2 := (iph &&& 0x00FF0000) >>> 16
  let i3 := (iph &&& 0x0000FF00) >>> 8
  let i4 := iph &&& 0x000000FF
  i1.toNat.repr ++ "." ++ i2.toNat.repr ++ "." ++ i3.toNat.repr ++ "." ++ i4.toNat.repr

/-- `ether_type` as the host loads it, in network order. -/
def ETHPacket.toStringImpl (packet : ETHPacket) : String :=
  "" ++ "ether_type: " ++ (loadU16 packet.memory (packet.getHeadetPtr.offset + 12)).toNat.repr

def IPPacket.totLen (memory : Memory) (header : Pointer) : UInt16 :=
  loadU16 memory (header.offset + 2)

def IPPacket.toStringImpl (packet : IPPacket) : Except Fault String :=
  match packet.prevLayerPacket with
  | none => .ok "EMPTY"
  | some prev => do
      let header ← deref packet.ipHeader
      return prev.toStringImpl
        ++ ", ip total size: " ++ (ntohs (totLen prev.memory header)).toNat.repr
        ++ ", src ip: " ++ inetIpToString (saddr prev.memory header)
        ++ ", dst ip: " ++ inetIpToString (daddr prev.memory header)

def TransportPacket.toStringImpl {headerSize : SizeT} (packet : TransportPacket headerSize) :
    Except Fault String := do
  let ret ← packet.prevLayerPacket.toStringImpl
  match packet.header with
  | none => return ret
  | some header =>
      let prev ← deref packet.prevLayerPacket.prevLayerPacket
      return ret
        ++ ", src_port: " ++ (ntohs (sport prev.memory header)).toNat.repr
        ++ ", dst_port:" ++ (ntohs (dport prev.memory header)).toNat.repr

def RADIUSPacket.code (memory : Memory) (header : Pointer) : UInt8 := memory header.offset

def RADIUSPacket.toStringImpl (packet : RADIUSPacket) : Except Fault String := do
  let ret ← packet.prevLayerPacket.toStringImpl
  match packet.radiusHeader with
  | none => return ret
  | some header =>
      let prev ← packet.rawPacket
      return ret
        ++ ", code: " ++ (code prev.memory header).toNat.repr
        ++ ", packetIdentifier: " ++ (packetIdentifier prev.memory header).toNat.repr
        ++ ", length: " ++ (ntohs (length prev.memory header)).toNat.repr

namespace SpecificPacket

def toStringImpl : (specific : SpecificPacket) → specific.Packet → Except Fault String
  | radius, packet => RADIUSPacket.toStringImpl packet
  | udp, packet => (TransportPacket.toStringImpl : UDPPacket → _) packet
  | tcp, packet => (TransportPacket.toStringImpl : TCPPacket → _) packet

/-- `BasePacket::to_string`. -/
def toString (specific : SpecificPacket) (packet : specific.Packet) : Except Fault String := do
  let impl ← specific.toStringImpl packet
  return packetType2String specific.packetClass.getPacketType ++ ",  ControlMessageId: "
    ++ controlMessageId2String (specific.getCtrlMessageId packet) ++ ", " ++ impl

/-- Where the bytes are that the text shows: the EtherType, the total length, both addresses and
ports, and of RADIUS the code, the identifier and the length. -/
def shownOffsets : SpecificPacket → List Nat
  | udp | tcp => [12, 13, 16, 17, 26, 27, 28, 29, 30, 31, 32, 33, 34, 35, 36, 37]
  | radius => [12, 13, 16, 17, 26, 27, 28, 29, 30, 31, 32, 33, 34, 35, 36, 37, 42, 43, 44, 45]

def shown (specific : SpecificPacket) (frame : ETHPacket) : List UInt8 :=
  specific.shownOffsets.map frame.memory

end SpecificPacket

/-- What the text of a packet of this origin shows. -/
def PacketOrigin.shown (specific : SpecificPacket) :
    PacketOrigin → ControlMessageId × Option (List UInt8)
  | frame raw => (.processing, some (specific.shown raw))
  | control id => (id, none)

/-! ### Numbers and bytes -/

theorem ntohl_loadU32_toNat (memory : Memory) (offset : Nat) :
    (ntohl (loadU32 memory offset)).toNat =
      16777216 * (memory offset).toNat + 65536 * (memory (offset + 1)).toNat +
        256 * (memory (offset + 2)).toNat + (memory (offset + 3)).toNat := by
  have first := (memory offset).toNat_lt
  have second := (memory (offset + 1)).toNat_lt
  have third := (memory (offset + 2)).toNat_lt
  have fourth := (memory (offset + 3)).toNat_lt
  have loaded := loadU32_toNat memory offset
  have byte1 : (loadU32 memory offset).toNat % 256 = (memory offset).toNat := by omega
  have byte2 : (loadU32 memory offset).toNat / 256 % 256 = (memory (offset + 1)).toNat := by omega
  have byte3 : (loadU32 memory offset).toNat / 65536 % 256 = (memory (offset + 2)).toNat := by
    omega
  have byte4 : (loadU32 memory offset).toNat / 16777216 = (memory (offset + 3)).toNat := by omega
  simp only [ntohl, UInt32.toNat_add, UInt32.toNat_mul, UInt32.toNat_mod, UInt32.toNat_div,
    UInt32.reduceToNat, byte1, byte2, byte3, byte4]
  omega

/-- One octet of a number of four bytes. -/
private theorem octet (value shift : Nat) :
    (value &&& 255 <<< shift) >>> shift = value / 2 ^ shift % 256 := by
  rw [Nat.shiftRight_and_distrib, Nat.shiftLeft_shiftRight, Nat.shiftRight_eq_div_pow]
  exact Nat.and_two_pow_sub_one_eq_mod _ 8

theorem inetIpToString_eq (memory : Memory) (offset : Nat) :
    inetIpToString (loadU32 memory offset) =
      (memory offset).toNat.repr ++ "." ++ (memory (offset + 1)).toNat.repr ++ "." ++
        (memory (offset + 2)).toNat.repr ++ "." ++ (memory (offset + 3)).toNat.repr := by
  have first := (memory offset).toNat_lt
  have second := (memory (offset + 1)).toNat_lt
  have third := (memory (offset + 2)).toNat_lt
  have fourth := (memory (offset + 3)).toNat_lt
  have all := ntohl_loadU32_toNat memory offset
  have i1 : ((ntohl (loadU32 memory offset) &&& 0xFF000000) >>> 24).toNat =
      (memory offset).toNat := by
    have byte := octet (ntohl (loadU32 memory offset)).toNat 24
    rw [UInt32.toNat_shiftRight, UInt32.toNat_and]
    refine byte.trans ?_
    omega
  have i2 : ((ntohl (loadU32 memory offset) &&& 0x00FF0000) >>> 16).toNat =
      (memory (offset + 1)).toNat := by
    have byte := octet (ntohl (loadU32 memory offset)).toNat 16
    rw [UInt32.toNat_shiftRight, UInt32.toNat_and]
    refine byte.trans ?_
    omega
  have i3 : ((ntohl (loadU32 memory offset) &&& 0x0000FF00) >>> 8).toNat =
      (memory (offset + 2)).toNat := by
    have byte := octet (ntohl (loadU32 memory offset)).toNat 8
    rw [UInt32.toNat_shiftRight, UInt32.toNat_and]
    refine byte.trans ?_
    omega
  have i4 : (ntohl (loadU32 memory offset) &&& 0x000000FF).toNat =
      (memory (offset + 3)).toNat := by
    have byte := octet (ntohl (loadU32 memory offset)).toNat 0
    rw [UInt32.toNat_and]
    refine byte.trans ?_
    omega
  unfold inetIpToString
  simp only [i1, i2, i3, i4]

/-! ### The text as a form -/

def transportLabels : List (List Char) :=
  ["ether_type: ".toList, ", ip total size: ".toList, ", src ip: ".toList, ".".toList,
    ".".toList, ".".toList, ", dst ip: ".toList, ".".toList, ".".toList, ".".toList,
    ", src_port: ".toList, ", dst_port:".toList]

def radiusLabels : List (List Char) :=
  [", code: ".toList, ", packetIdentifier: ".toList, ", length: ".toList]

def transportNumbers (memory : Memory) : List Nat :=
  [(loadU16 memory 12).toNat, (ntohs (loadU16 memory 16)).toNat, (memory 26).toNat,
    (memory 27).toNat, (memory 28).toNat, (memory 29).toNat, (memory 30).toNat,
    (memory 31).toNat, (memory 32).toNat, (memory 33).toNat, (ntohs (loadU16 memory 34)).toNat,
    (ntohs (loadU16 memory 36)).toNat]

def radiusNumbers (memory : Memory) : List Nat :=
  [(memory 42).toNat, (memory 43).toNat, (ntohs (loadU16 memory 44)).toNat]

namespace SpecificPacket

def labels : SpecificPacket → List (List Char)
  | udp | tcp => transportLabels
  | radius => transportLabels ++ radiusLabels

def numbers (memory : Memory) : SpecificPacket → List Nat
  | udp | tcp => transportNumbers memory
  | radius => transportNumbers memory ++ radiusNumbers memory

theorem length_numbers (specific : SpecificPacket) (memory : Memory) :
    (specific.numbers memory).length = specific.labels.length := by
  cases specific <;> rfl

theorem labels_endNumber (specific : SpecificPacket) :
    ∀ label ∈ specific.labels, EndsNumber label := by
  have transport : ∀ label ∈ transportLabels, EndsNumber label := by
    intro label member
    simp only [transportLabels, List.mem_cons, List.not_mem_nil, or_false] at member
    rcases member with rfl | rfl | rfl | rfl | rfl | rfl | rfl | rfl | rfl | rfl | rfl | rfl <;>
      exact ⟨_, rfl, rfl⟩
  have radius : ∀ label ∈ radiusLabels, EndsNumber label := by
    intro label member
    simp only [radiusLabels, List.mem_cons, List.not_mem_nil, or_false] at member
    rcases member with rfl | rfl | rfl <;> exact ⟨_, rfl, rfl⟩
  cases specific with
  | udp => exact transport
  | tcp => exact transport
  | radius =>
      intro label member
      exact (List.mem_append.mp member).elim (transport label) (radius label)

end SpecificPacket

private theorem filledIn_append {labels : List (List Char)} {numbers : List Nat}
    (length : numbers.length = labels.length) (moreLabels : List (List Char))
    (moreNumbers : List Nat) :
    filledIn (labels ++ moreLabels) (numbers ++ moreNumbers) =
      filledIn labels numbers ++ filledIn moreLabels moreNumbers := by
  induction labels generalizing numbers with
  | nil =>
      rw [List.eq_nil_of_length_eq_zero length]
      rfl
  | cons label labels inductionHypothesis =>
      obtain ⟨number, numbers, rfl⟩ := List.exists_cons_of_length_eq_add_one length
      rw [List.cons_append, List.cons_append, filledIn, filledIn,
        inductionHypothesis (Nat.succ.inj length), List.append_assoc, List.append_assoc]

section

variable {headerSize : SizeT} {frame : ETHPacket}

private theorem ip_text {packet : IPPacket}
    (ipHeader : packet.ipHeader = some frame.getPayloadDataImpl)
    (item : packet.prevLayerPacket = some frame) :
    packet.toStringImpl = .ok (frame.toStringImpl
      ++ ", ip total size: " ++ (ntohs (loadU16 frame.memory 16)).toNat.repr
      ++ ", src ip: " ++ inetIpToString (loadU32 frame.memory 26)
      ++ ", dst ip: " ++ inetIpToString (loadU32 frame.memory 30)) := by
  unfold IPPacket.toStringImpl
  rw [item, ipHeader]
  rfl

private theorem transport_text {packet : TransportPacket headerSize}
    (holds : packet.Holds frame) :
    ∃ text, packet.toStringImpl = .ok text ∧
      text.toList = filledIn transportLabels (transportNumbers frame.memory) := by
  have returned : packet.toStringImpl = .ok (frame.toStringImpl
      ++ ", ip total size: " ++ (ntohs (loadU16 frame.memory 16)).toNat.repr
      ++ ", src ip: " ++ inetIpToString (loadU32 frame.memory 26)
      ++ ", dst ip: " ++ inetIpToString (loadU32 frame.memory 30)
      ++ ", src_port: " ++ (ntohs (loadU16 frame.memory 34)).toNat.repr
      ++ ", dst_port:" ++ (ntohs (loadU16 frame.memory 36)).toNat.repr) := by
    unfold TransportPacket.toStringImpl
    rw [ip_text holds.ipHeader holds.item, holds.header, holds.item]
    rfl
  refine ⟨_, returned, ?_⟩
  unfold transportLabels transportNumbers ETHPacket.toStringImpl
  simp only [filledIn, inetIpToString_eq, String.toList_append, List.append_assoc,
    List.append_nil]
  rfl

private theorem radius_text {packet : RADIUSPacket} (holds : packet.Holds frame) :
    ∃ text, packet.toStringImpl = .ok text ∧ text.toList =
      filledIn (transportLabels ++ radiusLabels)
        (transportNumbers frame.memory ++ radiusNumbers frame.memory) := by
  obtain ⟨ret, returned, transport⟩ := transport_text holds.prev
  have all : packet.toStringImpl = .ok (ret
      ++ ", code: " ++ (frame.memory 42).toNat.repr
      ++ ", packetIdentifier: " ++ (frame.memory 43).toNat.repr
      ++ ", length: " ++ (ntohs (loadU16 frame.memory 44)).toNat.repr) := by
    unfold RADIUSPacket.toStringImpl
    rw [returned, holds.header, holds.rawPacket]
    rfl
  refine ⟨_, all, ?_⟩
  rw [filledIn_append rfl, ← transport]
  unfold radiusLabels radiusNumbers
  simp only [filledIn, String.toList_append, List.append_assoc, List.append_nil]

end

/-! ### What the numbers tell -/

private theorem loadU16_toNat_inj (left right : Memory) (offset : Nat) :
    (loadU16 left offset).toNat = (loadU16 right offset).toNat ↔
      left offset = right offset ∧ left (offset + 1) = right (offset + 1) := by
  have leftFirst := (left offset).toNat_lt
  have rightFirst := (right offset).toNat_lt
  rw [loadU16_toNat, loadU16_toNat, ← UInt8.toNat_inj, ← UInt8.toNat_inj]
  omega

private theorem ntohs_loadU16_toNat_inj (left right : Memory) (offset : Nat) :
    (ntohs (loadU16 left offset)).toNat = (ntohs (loadU16 right offset)).toNat ↔
      left offset = right offset ∧ left (offset + 1) = right (offset + 1) := by
  have leftSecond := (left (offset + 1)).toNat_lt
  have rightSecond := (right (offset + 1)).toNat_lt
  rw [ntohs_loadU16_toNat, ntohs_loadU16_toNat, ← UInt8.toNat_inj, ← UInt8.toNat_inj]
  omega

theorem SpecificPacket.numbers_eq_iff (specific : SpecificPacket) (left right : Memory) :
    specific.numbers left = specific.numbers right ↔
      specific.shownOffsets.map left = specific.shownOffsets.map right := by
  cases specific <;>
    simp only [numbers, transportNumbers, radiusNumbers, shownOffsets, List.cons_append,
      List.nil_append, List.map_cons, List.map_nil, List.cons.injEq, loadU16_toNat_inj,
      ntohs_loadU16_toNat_inj, UInt8.toNat_inj, Nat.reduceAdd, and_assoc]

/-! ### The line -/

def nameSymbol (symbol : Char) : Bool := symbol.isUpper || symbol = '_'

/-- What stands in front of the text of the layers. -/
def heading (both : SpecificPacket × ControlMessageId) : List Char :=
  (packetType2String both.1.packetClass.getPacketType).toList ++
    (",  ControlMessageId: ".toList ++ (controlMessageId2String both.2).toList) ++ ", ".toList

private theorem beginsOutside_nameSymbol {mark : List Char} {first : Char}
    (begins : mark.head? = some first) (noName : nameSymbol first = false) (rest : List Char) :
    BeginsOutside nameSymbol (mark ++ rest) := by
  intro symbol member
  rw [List.head?_append, begins] at member
  cases member
  exact noName

theorem legible_heading : Legible heading Anything := by
  have name : Legible (fun specific : SpecificPacket =>
      (packetType2String specific.packetClass.getPacketType).toList)
      (BeginsOutside nameSymbol) := by
    apply legible_of_spelled
    · intro left right same
      cases left <;> cases right <;> first | rfl | exact absurd same (by decide)
    · intro specific
      apply List.all_eq_true.mp
      cases specific <;> decide
  have control : Legible (fun id : ControlMessageId => (controlMessageId2String id).toList)
      (BeginsOutside nameSymbol) := by
    apply legible_of_spelled
    · intro left right same
      cases left <;> cases right <;> first | rfl | exact absurd same (by decide)
    · intro id
      apply List.all_eq_true.mp
      cases id <;> decide
  have both := name.followed (control.labelled ",  ControlMessageId: ".toList)
    fun id rest _ => by
      rw [List.append_assoc]
      exact beginsOutside_nameSymbol rfl rfl _
  exact both.marked fun rest _ => beginsOutside_nameSymbol rfl rfl rest

/-- The text of the layers below. -/
def bodyText (specific : SpecificPacket) : PacketOrigin → List Char
  | .frame raw => filledIn specific.labels (specific.numbers raw.memory)
  | .control _ => "EMPTY".toList

private theorem frame_ne_control (specific : SpecificPacket) (memory : Memory) :
    filledIn specific.labels (specific.numbers memory) ≠ "EMPTY".toList := by
  intro same
  have first : (filledIn specific.labels (specific.numbers memory)).head? = some 'e' := by
    cases specific <;> rfl
  rw [same] at first
  exact absurd first (by decide)

private theorem bodyText_eq_iff (specific : SpecificPacket) (left right : PacketOrigin)
    (sameControl : (left.shown specific).1 = (right.shown specific).1) :
    bodyText specific left = bodyText specific right ↔
      left.shown specific = right.shown specific := by
  cases left with
  | frame left =>
      cases right with
      | frame right =>
          have outside : BeginsOutside Char.isDigit [] := fun _ member => nomatch member
          have told : filledIn specific.labels (specific.numbers left.memory) =
              filledIn specific.labels (specific.numbers right.memory) ↔
                specific.numbers left.memory = specific.numbers right.memory := by
            refine ⟨fun same => ?_, congrArg _⟩
            refine (filledIn_reads_back specific.labels_endNumber (specific.length_numbers _)
              (specific.length_numbers _) outside outside ?_).1
            rw [same]
          show filledIn _ _ = filledIn _ _ ↔ _
          rw [told, specific.numbers_eq_iff, PacketOrigin.shown, PacketOrigin.shown,
            Prod.mk.injEq, Option.some.injEq]
          exact (and_iff_right rfl).symm
      | control id =>
          refine iff_of_false (frame_ne_control specific left.memory) fun same => ?_
          cases congrArg Prod.snd same
  | control id =>
      cases right with
      | frame right =>
          refine iff_of_false (frame_ne_control specific right.memory).symm fun same => ?_
          cases congrArg Prod.snd same
      | control other => exact iff_of_true rfl (Prod.ext sameControl rfl)

private theorem toString_eq {specific : SpecificPacket} {packet : specific.Packet}
    {id : ControlMessageId} {impl : String} (control : specific.getCtrlMessageId packet = id)
    (returned : specific.toStringImpl packet = .ok impl) :
    ∃ text, specific.toString packet = .ok text ∧
      text.toList = heading (specific, id) ++ impl.toList := by
  unfold SpecificPacket.toString heading
  rw [returned, control]
  refine ⟨_, rfl, ?_⟩
  simp only [String.toList_append, List.append_assoc]

/-- A packet that was built has a text: the heading, and that of its layers. -/
private theorem built_text {specific : SpecificPacket} {origin : PacketOrigin}
    {packet : specific.Packet} (built : origin.build specific = .ok packet) :
    ∃ text, specific.toString packet = .ok text ∧
      text.toList = heading (specific, (origin.shown specific).1) ++ bodyText specific origin := by
  cases origin with
  | frame raw =>
      rw [PacketOrigin.build] at built
      cases created : specific.createPacketPtr (some raw) with
      | error fault =>
          rw [created] at built
          cases built
      | ok answer =>
          rw [created] at built
          cases built
          have holds := SpecificPacket.holds_of_built created
          obtain ⟨impl, returned, form⟩ : ∃ impl, specific.toStringImpl answer.1 = .ok impl ∧
              impl.toList = filledIn specific.labels (specific.numbers raw.memory) := by
            cases specific with
            | radius => exact radius_text holds
            | udp => exact transport_text holds
            | tcp => exact transport_text holds
          have control : specific.getCtrlMessageId answer.1 = .processing := by
            cases specific with
            | radius =>
                obtain ⟨_, avps, isPacket⟩ := ofPoolItem_ok created
                rw [isPacket]
                rfl
            | udp =>
                cases created
                rfl
            | tcp =>
                cases created
                rfl
          rw [bodyText, ← form]
          exact toString_eq control returned
  | control id =>
      cases built
      obtain ⟨text, printed, form⟩ := toString_eq
        (specific.getCtrlMessageId_ofControlMessageId id)
        (show specific.toStringImpl (specific.ofControlMessageId id) = .ok "EMPTY" by
          cases specific <;> rfl)
      exact ⟨text, printed, form⟩

/-- Every packet that was built, from a frame or as a control message, has a text. Two packets,
of whatever classes, have the same text exactly when they have the same class and control message
id and their frames agree in each byte that is shown. -/
theorem packet_text_iff (left right : SpecificPacket) (leftOrigin rightOrigin : PacketOrigin)
    (packet : left.Packet) (other : right.Packet) (built : leftOrigin.build left = .ok packet)
    (otherBuilt : rightOrigin.build right = .ok other) :
    ∃ text otherText, left.toString packet = .ok text ∧ right.toString other = .ok otherText ∧
      (text = otherText ↔ left = right ∧ leftOrigin.shown left = rightOrigin.shown right) := by
  obtain ⟨text, printed, form⟩ := built_text built
  obtain ⟨otherText, otherPrinted, otherForm⟩ := built_text otherBuilt
  refine ⟨text, otherText, printed, otherPrinted, ?_⟩
  rw [← String.toList_inj, form, otherForm]
  constructor
  · intro same
    obtain ⟨sameHeading, sameBody⟩ := legible_heading trivial trivial same
    obtain ⟨rfl, sameControl⟩ := Prod.mk.inj sameHeading
    exact ⟨rfl, (bodyText_eq_iff left leftOrigin rightOrigin sameControl).mp sameBody⟩
  · rintro ⟨rfl, sameShown⟩
    have sameControl := congrArg Prod.fst sameShown
    rw [(bodyText_eq_iff left leftOrigin rightOrigin sameControl).mpr sameShown, sameControl]

/-- A frame with this time to live, and zeros otherwise. -/
def hoppedFrame (timeToLive : UInt8) : ETHPacket where
  data := 0
  memory offset := if offset = 22 then timeToLive else 0
  size := 42

theorem packet_text_iff_hopped :
    ∃ (packet other : SpecificPacket.udp.Packet) (text : String),
      (PacketOrigin.frame (hoppedFrame 64)).build .udp = .ok packet ∧
      (PacketOrigin.frame (hoppedFrame 63)).build .udp = .ok other ∧
      SpecificPacket.udp.toString packet = .ok text ∧
      SpecificPacket.udp.toString other = .ok text := by
  obtain ⟨text, otherText, printed, otherPrinted, told⟩ := packet_text_iff .udp .udp
    (.frame (hoppedFrame 64)) (.frame (hoppedFrame 63)) _ _ rfl rfl
  have same : text = otherText := told.mpr ⟨rfl, by decide⟩
  exact ⟨_, _, text, rfl, rfl, printed, same ▸ otherPrinted⟩

end TrafficInspector
