import TrafficInspector.Foundation.KnownBytes
import TrafficInspector.Packets.TypeTests
import TrafficInspector.Packets.WireFormat

/-!
Owns which answers about a received frame depend on the bytes that earlier
frames left in its buffer. The pool never clears a buffer and no type test looks
at the received size, so an answer is the frame's own only when a received byte
decides it. The condition is exact: where no received byte decides, two fillings
of the rest are given that are treated differently. What stands behind the 4096
bytes of the buffer is no earlier frame's, and the same in both.
-/

namespace TrafficInspector

open Foundation
open Foundation.ByteOrder
open Foundation.TypeLengthValue

/-- The offsets at which no earlier frame's byte can stand: the received ones,
and those behind the buffer, whatever memory that is. -/
def ETHPacket.Fixed (frame : ETHPacket) (offset : Nat) : Prop :=
  offset < frame.size.toNat ∨ maxPacketSize ≤ offset

instance (frame : ETHPacket) : DecidablePred frame.Fixed :=
  fun _ => inferInstanceAs (Decidable (_ ∨ _))

/-- The other buffer holds the same received frame. -/
structure SameReceived (frame other : ETHPacket) : Prop where
  size : other.size = frame.size
  agree : AgreeOn frame.Fixed frame.memory other.memory

/-- What the decoder makes of a frame: its fault, or the session key and the attributes. -/
def ETHPacket.outcome (frame : ETHPacket) :
    Except Fault (Except Fault RadSessionPair × AVPStorage) :=
  (RADIUSPacket.ofPoolItem (some frame)).map fun built =>
    (built.1.getPacketSessionPair, built.1.avps)

/-- The three type tests answer alike, and an accepted frame has the same outcome. -/
structure SameTreatment (frame other : ETHPacket) : Prop where
  radius : (RADIUSPacket.isDispatchableTypeImpl other).isSome =
    (RADIUSPacket.isDispatchableTypeImpl frame).isSome
  udp : (UDPPacket.isDispatchableTypeImpl other).isSome =
    (UDPPacket.isDispatchableTypeImpl frame).isSome
  tcp : (TCPPacket.isDispatchableTypeImpl other).isSome =
    (TCPPacket.isDispatchableTypeImpl frame).isSome
  outcome : (RADIUSPacket.isDispatchableTypeImpl frame).isSome → other.outcome = frame.outcome

/-- Earlier frames have no say in what happens to this one. -/
def ETHPacket.ForgetsEarlierFrames (frame : ETHPacket) : Prop :=
  ∀ other, SameReceived frame other → SameTreatment frame other

/-! ### What the received bytes decide -/

namespace ETHPacket

variable (frame : ETHPacket)

/-- A received byte at `offset` is none of those wanted there. -/
def Excludes (offset : Nat) (wanted : List UInt8) : Prop :=
  offset < frame.size.toNat ∧ frame.memory offset ∉ wanted

def EtherTypeExcluded : Prop :=
  frame.Excludes 12 [8] ∨ frame.Excludes 13 [0]

/-- A received byte shows that the port at `offset` is no RADIUS port. -/
def PortExcluded (offset : Nat) : Prop :=
  frame.Excludes offset [7] ∨ frame.Excludes (offset + 1) [20, 21]

def PortReceived (offset : Nat) : Prop :=
  offset + 1 < frame.size.toNat ∧ RadiusPortAt frame.memory offset

def LengthExcluded : Prop :=
  frame.Excludes 44 [UInt8.ofNat ((frame.size.toNat - 42) / 256)] ∨
    frame.Excludes 45 [UInt8.ofNat ((frame.size.toNat - 42) % 256)]

/-- No bytes from behind the packet get into `m_avps`: there is no overrun, or
its type is already bound. A packet that fills the buffer leaves no room for
earlier bytes. -/
def OverrunHidden : Prop :=
  ∀ type length received, (cutArea frame.attributeArea).ending = .overrun type length received →
    frame.size.toNat = maxPacketSize ∨
      ((cutArea frame.attributeArea).complete.lookup type).isSome

/-- The outcome of the decoder is decided by received bytes. -/
def OutcomeSettled : Prop :=
  frame.size.toNat < 42 ∨ frame.LengthExcluded ∨ (46 ≤ frame.size.toNat ∧ frame.OverrunHidden)

def PortsSettled : Prop :=
  (frame.PortExcluded 34 ∧ frame.PortExcluded 36) ∨
    ((frame.PortReceived 34 ∨ frame.PortReceived 36) ∧ frame.OutcomeSettled)

def Settled : Prop :=
  frame.EtherTypeExcluded ∨
    (24 ≤ frame.size.toNat ∧ (frame.memory 23 ≠ 17 ∨ frame.PortsSettled))

/-- The same frame in a buffer that held `stale` before. -/
def refilled (stale : Memory) : ETHPacket :=
  { frame with memory := refill frame.Fixed frame.memory stale }

end ETHPacket

section

variable {frame other : ETHPacket}

theorem SameReceived.received (same : SameReceived frame other) {offset : Nat}
    (below : offset < frame.size.toNat) : other.memory offset = frame.memory offset :=
  same.agree offset (.inl below)

theorem SameReceived.excludes (same : SameReceived frame other) {offset : Nat}
    {wanted : List UInt8} (excluded : frame.Excludes offset wanted) :
    other.memory offset ∉ wanted := by
  rw [same.received excluded.1]
  exact excluded.2

theorem refilled_same (frame : ETHPacket) (stale : Memory) :
    SameReceived frame (frame.refilled stale) :=
  ⟨rfl, agreeOn_refill frame.memory stale⟩

theorem refilled_stale (frame : ETHPacket) (stale : Memory) {offset : Nat}
    (behind : frame.size.toNat ≤ offset) (inPool : offset < maxPacketSize) :
    (frame.refilled stale).memory offset = stale offset :=
  refill_unknown _ _ fun isFixed => by
    rcases isFixed with below | past
    · exact absurd below (Nat.not_lt.mpr behind)
    · exact absurd inPool (Nat.not_lt.mpr past)

theorem refilled_mem {stale : Memory} {offset : Nat} {wanted : List UInt8}
    (inPool : offset < maxPacketSize) (notExcluded : ¬ frame.Excludes offset wanted)
    (filled : stale offset ∈ wanted) : (frame.refilled stale).memory offset ∈ wanted := by
  refine refill_mem (fun isFixed => ?_) filled
  rcases isFixed with below | past
  · by_contra unwanted
    exact notExcluded ⟨below, unwanted⟩
  · exact absurd inPool (Nat.not_lt.mpr past)

end

/-! ### The decoder's outcome -/

private theorem field_bytes (high low : UInt8) {value : Nat} (small : value < 65536) :
    256 * high.toNat + low.toNat = value ↔
      high = UInt8.ofNat (value / 256) ∧ low = UInt8.ofNat (value % 256) := by
  have highSmall := high.toNat_lt
  have lowSmall := low.toNat_lt
  rw [← UInt8.toNat_inj, ← UInt8.toNat_inj, UInt8.toNat_ofNat', UInt8.toNat_ofNat']
  omega

private theorem passes_iff (frame : ETHPacket) (inPool : frame.size.toNat ≤ maxPacketSize) :
    frame.PassesLengthAssert ↔
      42 ≤ frame.size.toNat ∧
        frame.memory 44 = UInt8.ofNat ((frame.size.toNat - 42) / 256) ∧
          frame.memory 45 = UInt8.ofNat ((frame.size.toNat - 42) % 256) := by
  have poolSize : maxPacketSize = 4096 := rfl
  rw [← field_bytes _ _ (show frame.size.toNat - 42 < 65536 by omega), ← ntohs_loadU16_toNat]
  rfl

theorem outcome_of_not_passes {frame : ETHPacket} (fails : ¬ frame.PassesLengthAssert) :
    frame.outcome = .error .lengthAssert := by
  rw [ETHPacket.outcome, ofPoolItem_of_not_passes fails]
  rfl

theorem outcome_of_passes (frame : ETHPacket) (inPool : frame.size.toNat ≤ maxPacketSize)
    (passes : frame.PassesLengthAssert) :
    frame.outcome =
      (avpsOfReading (cutArea frame.attributeArea) frame.memory frame.size.toNat ∅).map
        fun avps => (.ok ⟨frame.memory 43⟩, avps) := by
  rw [ETHPacket.outcome, ofPoolItem_of_passes inPool passes]
  cases avpsOfReading (cutArea frame.attributeArea) frame.memory frame.size.toNat ∅ <;> rfl

section

variable {frame other : ETHPacket} (inPool : frame.size.toNat ≤ maxPacketSize)
  (same : SameReceived frame other)

include same

theorem SameReceived.attributeArea : other.attributeArea = frame.attributeArea := by
  rw [ETHPacket.attributeArea, ETHPacket.attributeArea, same.size]
  exact block_congr fun offset _ below => same.received (by omega)

private theorem same_avps (hidden : frame.OverrunHidden) :
    avpsOfReading (cutArea frame.attributeArea) other.memory frame.size.toNat ∅ =
      avpsOfReading (cutArea frame.attributeArea) frame.memory frame.size.toNat ∅ := by
  unfold avpsOfReading
  cases ending : (cutArea frame.attributeArea).ending with
  | exhausted => rfl
  | malformed => rfl
  | overrun type length received =>
      rcases hidden type length received ending with full | bound
      · have behind : ∀ count, block other.memory frame.size.toNat count =
            block frame.memory frame.size.toNat count := fun count =>
          block_congr fun offset past _ => same.agree offset (.inr (full ▸ past))
        simp only [behind]
      · rw [← avps_getElem?] at bound
        simp only [insertIfNew_of_bound bound]

include inPool

private theorem same_passes_of_received (received : 46 ≤ frame.size.toNat) :
    other.PassesLengthAssert ↔ frame.PassesLengthAssert := by
  rw [passes_iff frame inPool, passes_iff other (same.size ▸ inPool), same.size,
    same.received (show 44 < _ by omega), same.received (show 45 < _ by omega)]

private theorem not_passes_of_excluded (excluded : frame.LengthExcluded) :
    ¬ other.PassesLengthAssert := by
  intro passes
  rw [passes_iff other (same.size ▸ inPool), same.size] at passes
  rcases excluded with high | low
  · exact same.excludes high (List.mem_singleton.mpr passes.2.1)
  · exact same.excludes low (List.mem_singleton.mpr passes.2.2)

private theorem same_outcome (settled : frame.OutcomeSettled) : other.outcome = frame.outcome := by
  rcases settled with short | excluded | ⟨received, hidden⟩
  · have fails : ¬ frame.PassesLengthAssert := fun passes => by
      have least := passes.1
      omega
    have otherFails : ¬ other.PassesLengthAssert := fun passes => by
      have least := passes.1
      rw [same.size] at least
      omega
    rw [outcome_of_not_passes fails, outcome_of_not_passes otherFails]
  · rw [outcome_of_not_passes (not_passes_of_excluded inPool same excluded),
      outcome_of_not_passes (not_passes_of_excluded inPool ⟨rfl, fun _ _ => rfl⟩ excluded)]
  · by_cases passes : frame.PassesLengthAssert
    · have otherPasses := (same_passes_of_received inPool same received).mpr passes
      rw [outcome_of_passes frame inPool passes,
        outcome_of_passes other (same.size ▸ inPool) otherPasses,
        same.attributeArea, same.size, same_avps same hidden,
        same.received (show 43 < _ by omega)]
    · have otherFails := mt (same_passes_of_received inPool same received).mp passes
      rw [outcome_of_not_passes passes, outcome_of_not_passes otherFails]

end

/-! ### Settled frames are treated alike -/

section

variable {frame other : ETHPacket}

private theorem treatment_of_not_ip (frameNot : ¬ EtherTypeIP frame.memory)
    (otherNot : ¬ EtherTypeIP other.memory) : SameTreatment frame other := by
  refine ⟨?_, ?_, ?_, ?_⟩
  · rw [Bool.eq_iff_iff, radius_accepts_iff, radius_accepts_iff]
    exact iff_of_false (fun accepts => otherNot accepts.1.1) fun accepts => frameNot accepts.1.1
  · rw [Bool.eq_iff_iff, udp_accepts_iff, udp_accepts_iff]
    exact iff_of_false (fun accepts => otherNot accepts.1) fun accepts => frameNot accepts.1
  · rw [Bool.eq_iff_iff, tcp_accepts_iff, tcp_accepts_iff]
    exact iff_of_false (fun accepts => otherNot accepts.1) fun accepts => frameNot accepts.1
  · intro accepted
    exact absurd ((radius_accepts_iff frame).mp accepted).1.1 frameNot

private theorem treatment_of_headers (same : SameReceived frame other)
    (headers : 24 ≤ frame.size.toNat)
    (ports : frame.memory 23 = 17 →
      ((RadiusPortAt other.memory 34 ∨ RadiusPortAt other.memory 36) ↔
        (RadiusPortAt frame.memory 34 ∨ RadiusPortAt frame.memory 36)))
    (outcome : (RADIUSPacket.isDispatchableTypeImpl frame).isSome →
      other.outcome = frame.outcome) :
    SameTreatment frame other := by
  have isIP : EtherTypeIP other.memory ↔ EtherTypeIP frame.memory := by
    rw [EtherTypeIP, EtherTypeIP, same.received (show 12 < _ by omega),
      same.received (show 13 < _ by omega)]
  have protocol := same.received (show 23 < frame.size.toNat by omega)
  refine ⟨?_, ?_, ?_, outcome⟩
  · rw [Bool.eq_iff_iff, radius_accepts_iff, radius_accepts_iff, isIP, protocol]
    exact and_congr_right fun isUDP => ports isUDP.2
  · rw [Bool.eq_iff_iff, udp_accepts_iff, udp_accepts_iff, isIP, protocol]
  · rw [Bool.eq_iff_iff, tcp_accepts_iff, tcp_accepts_iff, isIP, protocol]

private theorem not_ip_of_excluded (same : SameReceived frame other)
    (excluded : frame.EtherTypeExcluded) : ¬ EtherTypeIP other.memory := by
  rintro ⟨first, second⟩
  rcases excluded with atFirst | atSecond
  · exact same.excludes atFirst (List.mem_singleton.mpr first)
  · exact same.excludes atSecond (List.mem_singleton.mpr second)

private theorem not_port_of_excluded (same : SameReceived frame other) {offset : Nat}
    (excluded : frame.PortExcluded offset) : ¬ RadiusPortAt other.memory offset := by
  rintro ⟨first, second⟩
  rcases excluded with atFirst | atSecond
  · exact same.excludes atFirst (List.mem_singleton.mpr first)
  · refine same.excludes atSecond ?_
    rcases second with isAuth | isAcct
    · exact isAuth ▸ List.mem_cons_self
    · exact isAcct ▸ List.mem_cons_of_mem _ List.mem_cons_self

private theorem port_of_received (same : SameReceived frame other) {offset : Nat}
    (received : frame.PortReceived offset) : RadiusPortAt other.memory offset := by
  obtain ⟨below, isPort⟩ := received
  rw [RadiusPortAt, same.received below, same.received (Nat.lt_of_succ_lt below)]
  exact isPort

private theorem sameReceived_refl (frame : ETHPacket) : SameReceived frame frame :=
  ⟨rfl, fun _ _ => rfl⟩

private theorem ports_same (same : SameReceived frame other) (settled : frame.PortsSettled) :
    (RadiusPortAt other.memory 34 ∨ RadiusPortAt other.memory 36) ↔
      (RadiusPortAt frame.memory 34 ∨ RadiusPortAt frame.memory 36) := by
  rcases settled with ⟨first, second⟩ | ⟨received, _⟩
  · have otherNot := not_or.mpr ⟨not_port_of_excluded same first, not_port_of_excluded same second⟩
    have frameNot := not_or.mpr ⟨not_port_of_excluded (sameReceived_refl frame) first,
      not_port_of_excluded (sameReceived_refl frame) second⟩
    exact iff_of_false otherNot frameNot
  · exact iff_of_true (received.imp (port_of_received same) (port_of_received same))
      (received.imp And.right And.right)

theorem forgets_of_settled (inPool : frame.size.toNat ≤ maxPacketSize)
    (settled : frame.Settled) : frame.ForgetsEarlierFrames := by
  intro other same
  rcases settled with excluded | ⟨headers, notUDP | ports⟩
  · exact treatment_of_not_ip (not_ip_of_excluded (sameReceived_refl frame) excluded)
      (not_ip_of_excluded same excluded)
  · refine treatment_of_headers same headers (fun isUDP => absurd isUDP notUDP) fun accepted => ?_
    exact absurd ((radius_accepts_iff frame).mp accepted).1.2 notUDP
  · refine treatment_of_headers same headers (fun _ => ports_same same ports) fun accepted => ?_
    rcases ports with ⟨first, second⟩ | ⟨_, outcome⟩
    · have none := not_or.mpr ⟨not_port_of_excluded (sameReceived_refl frame) first,
        not_port_of_excluded (sameReceived_refl frame) second⟩
      exact absurd ((radius_accepts_iff frame).mp accepted).2 none
    · exact same_outcome inPool same outcome

end

/-! ### Unsettled frames are not -/

private theorem eq_of_not_excluded {frame : ETHPacket} {offset : Nat} {wanted : UInt8}
    (below : offset < frame.size.toNat) (open_ : ¬ frame.Excludes offset [wanted]) :
    frame.memory offset = wanted := by
  by_contra other
  exact open_ ⟨below, fun member => other (List.mem_singleton.mp member)⟩

private theorem ip_of_received {frame : ETHPacket} (headers : 24 ≤ frame.size.toNat)
    (open_ : ¬ frame.EtherTypeExcluded) : EtherTypeIP frame.memory := by
  obtain ⟨notFirst, notSecond⟩ := not_or.mp open_
  exact ⟨eq_of_not_excluded (by omega) notFirst, eq_of_not_excluded (by omega) notSecond⟩

section

variable {frame : ETHPacket} (forgets : frame.ForgetsEarlierFrames)

include forgets

private theorem refilled_treatment (first second : Memory) :
    (RADIUSPacket.isDispatchableTypeImpl (frame.refilled first)).isSome =
        (RADIUSPacket.isDispatchableTypeImpl (frame.refilled second)).isSome ∧
      (UDPPacket.isDispatchableTypeImpl (frame.refilled first)).isSome =
        (UDPPacket.isDispatchableTypeImpl (frame.refilled second)).isSome := by
  have toFirst := forgets _ (refilled_same frame first)
  have toSecond := forgets _ (refilled_same frame second)
  exact ⟨toFirst.radius.trans toSecond.radius.symm, toFirst.udp.trans toSecond.udp.symm⟩

private theorem headers_of_forgets (open_ : ¬ frame.EtherTypeExcluded) :
    24 ≤ frame.size.toNat := by
  by_contra short
  obtain ⟨notFirst, notSecond⟩ := not_or.mp open_
  -- Two earlier frames that differ in the protocol byte, which was not received.
  have isIP : ∀ protocol : UInt8, EtherTypeIP
      (frame.refilled fun offset => [8, 0].getD (offset - 12) protocol).memory := by
    intro protocol
    exact ⟨List.mem_singleton.mp (refilled_mem (by decide) notFirst (List.mem_singleton.mpr rfl)),
      List.mem_singleton.mp (refilled_mem (by decide) notSecond (List.mem_singleton.mpr rfl))⟩
  have protocolByte : ∀ protocol : UInt8,
      (frame.refilled fun offset => [8, 0].getD (offset - 12) protocol).memory 23 = protocol :=
    fun protocol => refilled_stale frame _ (by omega) (by decide)
  have same := (refilled_treatment forgets (fun offset => [8, 0].getD (offset - 12) 17)
    (fun offset => [8, 0].getD (offset - 12) 6)).2
  rw [Bool.eq_iff_iff, udp_accepts_iff, udp_accepts_iff] at same
  have isUDP := (same.mp ⟨isIP 17, protocolByte 17⟩).2
  rw [protocolByte 6] at isUDP
  exact absurd isUDP (by decide)

omit forgets in
private theorem refilled_port {stale : Memory} {offset : Nat} (inPool : offset + 1 < maxPacketSize)
    (open_ : ¬ frame.PortExcluded offset) (first : stale offset = 7)
    (second : stale (offset + 1) = 20) : RadiusPortAt (frame.refilled stale).memory offset := by
  obtain ⟨notFirst, notSecond⟩ := not_or.mp open_
  have high := refilled_mem (Nat.lt_of_succ_lt inPool) notFirst (List.mem_singleton.mpr first)
  have low := refilled_mem inPool notSecond (List.mem_cons.mpr (.inl second))
  refine ⟨List.mem_singleton.mp high, ?_⟩
  rcases List.mem_cons.mp low with isAuth | isAcct
  · exact .inl isAuth
  · exact .inr (List.mem_singleton.mp isAcct)

omit forgets in
private theorem refilled_not_port {offset : Nat} (inPool : offset + 1 < maxPacketSize)
    (missing : ¬ frame.PortReceived offset) :
    ¬ RadiusPortAt (frame.refilled fun _ => 0).memory offset := by
  intro isPort
  by_cases below : offset + 1 < frame.size.toNat
  · have same := refilled_same frame fun _ => 0
    rw [RadiusPortAt, same.received below, same.received (Nat.lt_of_succ_lt below)] at isPort
    exact missing ⟨below, isPort⟩
  · have zero : (frame.refilled fun _ => 0).memory (offset + 1) = 0 :=
      refilled_stale frame _ (Nat.not_lt.mp below) inPool
    obtain ⟨_, second⟩ := isPort
    rw [zero] at second
    rcases second with isAuth | isAcct
    · exact absurd isAuth (by decide)
    · exact absurd isAcct (by decide)

private theorem ports_of_forgets (open_ : ¬ frame.EtherTypeExcluded)
    (headers : 24 ≤ frame.size.toNat) (isUDP : frame.memory 23 = 17) :
    (frame.PortExcluded 34 ∧ frame.PortExcluded 36) ∨
      (frame.PortReceived 34 ∨ frame.PortReceived 36) := by
  by_contra neither
  obtain ⟨notBothExcluded, noneReceived⟩ := not_or.mp neither
  obtain ⟨firstMissing, secondMissing⟩ := not_or.mp noneReceived
  have udpOf : ∀ stale : Memory, EtherTypeIP (frame.refilled stale).memory ∧
      (frame.refilled stale).memory 23 = 17 := by
    intro stale
    have same := refilled_same frame stale
    rw [EtherTypeIP, same.received (show 12 < _ by omega), same.received (show 13 < _ by omega),
      same.received (show 23 < _ by omega)]
    exact ⟨ip_of_received headers open_, isUDP⟩
  -- One earlier frame had RADIUS ports throughout, the other had zeros.
  have same := (refilled_treatment forgets (fun offset => if offset % 2 = 0 then 7 else 20)
    (fun _ => 0)).1
  rw [Bool.eq_iff_iff, radius_accepts_iff, radius_accepts_iff] at same
  have ports := fun isPort => (same.mp ⟨udpOf _, isPort⟩).2
  have noPort := not_or.mpr ⟨refilled_not_port (by decide) firstMissing,
    refilled_not_port (by decide) secondMissing⟩
  rcases not_and_or.mp notBothExcluded with firstOpen | secondOpen
  · exact noPort (ports (.inl (refilled_port (by decide) firstOpen rfl rfl)))
  · exact noPort (ports (.inr (refilled_port (by decide) secondOpen rfl rfl)))

private theorem refilled_outcome (accepted : (RADIUSPacket.isDispatchableTypeImpl frame).isSome)
    (first second : Memory) :
    (frame.refilled first).outcome = (frame.refilled second).outcome :=
  ((forgets _ (refilled_same frame first)).outcome accepted).trans
    ((forgets _ (refilled_same frame second)).outcome accepted).symm

private theorem length_received_of_forgets (inPool : frame.size.toNat ≤ maxPacketSize)
    (accepted : (RADIUSPacket.isDispatchableTypeImpl frame).isSome)
    (least : 42 ≤ frame.size.toNat) (open_ : ¬ frame.LengthExcluded) :
    46 ≤ frame.size.toNat := by
  by_contra short
  obtain ⟨notHigh, notLow⟩ := not_or.mp open_
  let high := UInt8.ofNat ((frame.size.toNat - 42) / 256)
  let low := UInt8.ofNat ((frame.size.toNat - 42) % 256)
  -- One earlier frame left the Length this one would need, the other a Length one above it.
  have passes :
      (frame.refilled fun offset => if offset = 44 then high else low).PassesLengthAssert :=
    (passes_iff (frame.refilled _) inPool).mpr ⟨least,
      List.mem_singleton.mp (refilled_mem (by decide) notHigh (List.mem_singleton.mpr rfl)),
      List.mem_singleton.mp (refilled_mem (by decide) notLow (List.mem_singleton.mpr rfl))⟩
  have fails : ¬ (frame.refilled fun _ => low + 1).PassesLengthAssert := by
    intro passes
    have lowByte : (frame.refilled fun _ => low + 1).memory 45 = low :=
      ((passes_iff (frame.refilled _) inPool).mp passes).2.2
    rw [refilled_stale frame _ (by omega) (by decide)] at lowByte
    have shifted := congrArg UInt8.toNat lowByte
    rw [UInt8.toNat_add] at shifted
    have small := low.toNat_lt
    simp only [UInt8.reduceToNat] at shifted
    omega
  have empty : (frame.refilled fun offset => if offset = 44 then high else low).attributeArea =
      [] := by
    show block _ 62 (frame.size.toNat - 62) = []
    rw [Nat.sub_eq_zero_of_le (by omega), block_zero]
  have same := refilled_outcome forgets accepted (fun offset => if offset = 44 then high else low)
    (fun _ => low + 1)
  rw [outcome_of_passes (frame.refilled _) inPool passes, outcome_of_not_passes fails,
    empty, cutArea, cut_nil] at same
  cases same

private theorem hidden_of_forgets (inPool : frame.size.toNat ≤ maxPacketSize)
    (accepted : (RADIUSPacket.isDispatchableTypeImpl frame).isSome)
    (received : 46 ≤ frame.size.toNat) (open_ : ¬ frame.LengthExcluded) :
    frame.OverrunHidden := by
  intro type length value ending
  by_contra shown
  obtain ⟨notFull, unbound⟩ := not_or.mp shown
  obtain ⟨_, missing⟩ := cut_ending_overrun _ _ _ ending
  have free : (cutArea frame.attributeArea).complete.lookup type = none := by
    rwa [← Option.not_isSome_iff_eq_none]
  have passes : frame.PassesLengthAssert := by
    obtain ⟨notHigh, notLow⟩ := not_or.mp open_
    exact (passes_iff frame inPool).mpr ⟨by omega, eq_of_not_excluded (by omega) notHigh,
      eq_of_not_excluded (by omega) notLow⟩
  -- The first byte behind the packet is the earlier frame's, and it gets into `m_avps`.
  have leaks : ∀ stale : UInt8, (frame.refilled fun _ => stale).outcome =
      .ok (.ok ⟨frame.memory 43⟩,
        (bindFirst (cutArea frame.attributeArea).complete ∅).insertIfNew type
          (value ++ block (frame.refilled fun _ => stale).memory frame.size.toNat
            (valueLength length - value.length))) := by
    intro stale
    have same := refilled_same frame fun _ => stale
    have stillPasses := (same_passes_of_received inPool same received).mpr passes
    rw [outcome_of_passes (frame.refilled _) inPool stillPasses, same.attributeArea,
      avpsOfReading, ending, same.received (show 43 < _ by omega)]
    rfl
  have same := refilled_outcome forgets accepted (fun _ => 0) (fun _ => 1)
  rw [leaks 0, leaks 1, Except.ok.injEq, Prod.mk.injEq] at same
  have stored := congrArg (fun avps : AVPStorage => avps[type]?) same.2
  have unboundYet := (avps_getElem? _ _).trans free
  simp only [insertIfNew_getElem?_of_free unboundYet, Option.some.injEq,
    List.append_cancel_left_eq] at stored
  obtain ⟨more, count⟩ : ∃ more, valueLength length - value.length = more + 1 :=
    ⟨valueLength length - value.length - 1, by omega⟩
  rw [count, block_succ, block_succ, List.cons.injEq] at stored
  have bytes := stored.1
  rw [refilled_stale frame _ (Nat.le_refl _) (by omega),
    refilled_stale frame _ (Nat.le_refl _) (by omega)] at bytes
  exact absurd bytes (by decide)

theorem settled_of_forgets (inPool : frame.size.toNat ≤ maxPacketSize) : frame.Settled := by
  by_cases excluded : frame.EtherTypeExcluded
  · exact .inl excluded
  · have headers := headers_of_forgets forgets excluded
    refine .inr ⟨headers, ?_⟩
    by_cases isUDP : frame.memory 23 = 17
    · refine .inr ?_
      rcases ports_of_forgets forgets excluded headers isUDP with noPorts | aPort
      · exact .inl noPorts
      · refine .inr ⟨aPort, ?_⟩
        have accepted := (radius_accepts_iff frame).mpr
          ⟨⟨ip_of_received headers excluded, isUDP⟩, aPort.imp And.right And.right⟩
        by_cases short : frame.size.toNat < 42
        · exact .inl short
        · by_cases lengthExcluded : frame.LengthExcluded
          · exact .inr (.inl lengthExcluded)
          · have received := length_received_of_forgets forgets inPool accepted (by omega)
              lengthExcluded
            exact .inr (.inr ⟨received,
              hidden_of_forgets forgets inPool accepted received lengthExcluded⟩)
    · exact .inl isUDP

end

/-- Earlier frames have no say in a received frame exactly when received bytes
decide every answer about it, with the memory behind the buffer as it is. -/
theorem forgetsEarlierFrames_iff (frame : ReceivedPacket) :
    frame.val.ForgetsEarlierFrames ↔ frame.val.Settled :=
  ⟨fun forgets => settled_of_forgets forgets frame.property, forgets_of_settled frame.property⟩

/-- A failed receive into the buffer of an earlier request: the request's bytes
are still there, and the RADIUS test accepts them. -/
theorem failed_receive_is_accepted :
    ¬ (NIC.receivePacket (receivedFresh (accessRequest [1, 3, 65]).bytes).val none
        0).val.ForgetsEarlierFrames := by
  intro forgets
  have same := (forgets (NIC.receivePacket (ETHPacket.create 0 fun _ => 0) none 0).val
    ⟨rfl, fun offset isFixed => ?_⟩).radius
  · revert same
    decide
  · rcases isFixed with below | past
    · exact absurd below (Nat.not_lt_zero offset)
    · exact (NIC.receivePacket_stale _ _ 0 offset (Nat.le_trans (by decide) past)).symm

end TrafficInspector
