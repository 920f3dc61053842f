import TrafficInspector.WorkerPlacement

/-!
Owns what a packet keeps when it is moved. The move operations of the four classes
name the members they carry over: none names the control message id, RADIUS does not
name its attributes, and IP reads the timestamp through the item it has just taken,
which a control packet does not have.
-/

namespace TrafficInspector

/-! ### The parts of the three classes -/

namespace SpecificPacket

def getHeadetPtr : (specific : SpecificPacket) → specific.Packet → Option Pointer
  | radius, packet => (packet : RADIUSPacket).radiusHeader
  | udp, packet => (packet : UDPPacket).header
  | tcp, packet => (packet : TCPPacket).header

def getTimestamp : (specific : SpecificPacket) → specific.Packet → SizeT
  | radius, packet => (packet : RADIUSPacket).timeStamp
  | udp, packet => (packet : UDPPacket).timeStamp
  | tcp, packet => (packet : TCPPacket).timeStamp

/-- Only `RADIUSPacket` has a session pair, which can be asked for in vain. -/
def getPacketSessionPair : (specific : SpecificPacket) → specific.Packet →
    Option (Except Fault RadSessionPair)
  | radius, packet => some (RADIUSPacket.getPacketSessionPair packet)
  | udp, _ | tcp, _ => none

/-- Only `RADIUSPacket` has attributes. -/
def getAVPs : (specific : SpecificPacket) → specific.Packet → AVPStorage
  | radius, packet => (packet : RADIUSPacket).avps
  | udp, _ | tcp, _ => ∅

/-- The move constructor, with the packet it leaves. -/
def moveConstruct : (specific : SpecificPacket) → specific.Packet →
    Except Fault (specific.Packet × specific.Packet)
  | radius, orig => RADIUSPacket.ofRADIUSPacket orig
  | udp, orig => (TransportPacket.ofTransportPacket orig : Except Fault (UDPPacket × UDPPacket))
  | tcp, orig => (TransportPacket.ofTransportPacket orig : Except Fault (TCPPacket × TCPPacket))

/-- The move assignment, with the packet it leaves and the item it lets go. -/
def moveAssign : (specific : SpecificPacket) → (packet orig : specific.Packet) →
    Except Fault (specific.Packet × specific.Packet × RawPacketsPoolItem)
  | radius, packet, orig => RADIUSPacket.assign packet orig
  | udp, packet, orig => (TransportPacket.assign : UDPPacket → UDPPacket → _) packet orig
  | tcp, packet, orig => (TransportPacket.assign : TCPPacket → TCPPacket → _) packet orig

end SpecificPacket

/-- What a packet is built from. -/
inductive PacketOrigin where
  | frame (frame : ETHPacket)
  | control (id : ControlMessageId)

def PacketOrigin.isFrame : PacketOrigin → Bool
  | frame _ => true
  | control _ => false

def PacketOrigin.build (specific : SpecificPacket) :
    PacketOrigin → Except Fault specific.Packet
  | frame raw => (specific.createPacketPtr (some raw)).map Prod.fst
  | control id => .ok (specific.ofControlMessageId id)

/-! ### Chains of moves -/

/-- A packet is moved into a new object, or into another one that is there. An assignment to the
packet itself, which clears its header pointers, is none of these. -/
inductive MoveStep (specific : SpecificPacket) where
  | construct
  | assign (target : specific.Packet)

namespace MoveStep

variable {specific : SpecificPacket}

def carry (packet : specific.Packet) : MoveStep specific → Except Fault specific.Packet
  | construct => (specific.moveConstruct packet).map Prod.fst
  | assign target => (specific.moveAssign target packet).map Prod.fst

/-- The control message id and the attributes that the move's target has whatever is moved. -/
def leaves : MoveStep specific → ControlMessageId × AVPStorage
  | construct => (.processing, ∅)
  | assign target => (specific.getCtrlMessageId target, specific.getAVPs target)

end MoveStep

namespace SpecificPacket

variable (specific : SpecificPacket)

/-- The packet is moved along the chain. -/
def carry (packet : specific.Packet) (chain : List (MoveStep specific)) :
    Except Fault specific.Packet :=
  chain.foldlM MoveStep.carry packet

structure Preserved (origin : PacketOrigin) (packet target : specific.Packet) : Prop where
  control : specific.getCtrlMessageId target = specific.getCtrlMessageId packet
  header : specific.getHeadetPtr target = specific.getHeadetPtr packet
  hash : specific.getPacketSpecificHash target = specific.getPacketSpecificHash packet
  timeStamp : origin.isFrame = true → specific.getTimestamp target = specific.getTimestamp packet
  session : specific.getPacketSessionPair target = specific.getPacketSessionPair packet
  avps : specific.getAVPs target = specific.getAVPs packet

/-- The chain gets through, and its last target is what the packet was. -/
def MovesPreserve (origin : PacketOrigin) (packet : specific.Packet)
    (chain : List (MoveStep specific)) : Prop :=
  ∃ target, specific.carry packet chain = .ok target ∧ specific.Preserved origin packet target

/-- If there is a move at all, the packet comes from a frame, and what the last target has
anyway is what the packet has. -/
def LastTargetFits (origin : PacketOrigin) (packet : specific.Packet)
    (chain : List (MoveStep specific)) : Prop :=
  ∀ step, chain.getLast? = some step → origin.isFrame = true ∧
    step.leaves = (specific.getCtrlMessageId packet, specific.getAVPs packet)

end SpecificPacket

/-! ### A packet that holds a frame -/

/-- The pointers, the timestamp and the item are those of the frame; the control message
ids of the layers are left open. -/
structure TransportPacket.Holds {headerSize : SizeT} (frame : ETHPacket)
    (packet : TransportPacket headerSize) : Prop where
  timeStamp : packet.timeStamp = frame.timeStamp
  ipHeader : packet.prevLayerPacket.ipHeader = some frame.getPayloadDataImpl
  item : packet.prevLayerPacket.prevLayerPacket = some frame
  header : packet.header = some (frame.getPayloadDataImpl + 20)

structure RADIUSPacket.Holds (frame : ETHPacket) (packet : RADIUSPacket) : Prop where
  timeStamp : packet.timeStamp = frame.timeStamp
  prev : packet.prevLayerPacket.Holds frame
  header : packet.radiusHeader = some frame.radiusHeader

def SpecificPacket.Holds : (specific : SpecificPacket) → ETHPacket → specific.Packet → Prop
  | radius, frame, packet => RADIUSPacket.Holds frame packet
  | udp, frame, packet => (TransportPacket.Holds frame : UDPPacket → Prop) packet
  | tcp, frame, packet => (TransportPacket.Holds frame : TCPPacket → Prop) packet

section

variable {headerSize : SizeT} {frame : ETHPacket}

theorem TransportPacket.Holds.ofTransportPacket {packet : TransportPacket headerSize}
    (holds : packet.Holds frame) :
    ∃ moved left, TransportPacket.ofTransportPacket packet = .ok (moved, left) ∧
      moved.Holds frame ∧ moved.ctrlMessageId = .processing := by
  obtain ⟨base, ⟨ipBase, ipHeader, item⟩, header⟩ := packet
  obtain ⟨_, ipHeaderIs, itemIs, headerIs⟩ := holds
  cases itemIs
  exact ⟨_, _, rfl, ⟨rfl, ipHeaderIs, rfl, headerIs⟩, rfl⟩

theorem TransportPacket.Holds.assign {packet : TransportPacket headerSize}
    (holds : packet.Holds frame) (target : TransportPacket headerSize) :
    ∃ moved left, target.assign packet = .ok (moved, left) ∧
      moved.Holds frame ∧ moved.ctrlMessageId = target.ctrlMessageId := by
  obtain ⟨base, ⟨ipBase, ipHeader, item⟩, header⟩ := packet
  obtain ⟨_, ipHeaderIs, itemIs, headerIs⟩ := holds
  cases itemIs
  exact ⟨_, _, rfl, ⟨rfl, ipHeaderIs, rfl, headerIs⟩, rfl⟩

theorem TransportPacket.Holds.hash {packet : TransportPacket headerSize}
    (holds : packet.Holds frame) :
    packet.getPacketSpecificHashImpl = .ok (transportHash frame) := by
  obtain ⟨base, ⟨ipBase, ipHeader, item⟩, header⟩ := packet
  obtain ⟨_, ipHeaderIs, itemIs, headerIs⟩ := holds
  cases ipHeaderIs
  cases itemIs
  cases headerIs
  rfl

variable {packet : RADIUSPacket}

theorem RADIUSPacket.Holds.ofRADIUSPacket (holds : packet.Holds frame) :
    ∃ moved left, RADIUSPacket.ofRADIUSPacket packet = .ok (moved, left) ∧
      moved.Holds frame ∧ moved.ctrlMessageId = .processing ∧ moved.avps = ∅ := by
  obtain ⟨prev, prevLeft, prevMoved, prevHolds, _⟩ := holds.prev.ofTransportPacket
  unfold RADIUSPacket.ofRADIUSPacket
  rw [prevMoved]
  exact ⟨_, _, rfl, ⟨prevHolds.timeStamp, prevHolds, holds.header⟩, rfl, rfl⟩

theorem RADIUSPacket.Holds.assign (holds : packet.Holds frame) (target : RADIUSPacket) :
    ∃ moved left, target.assign packet = .ok (moved, left) ∧ moved.Holds frame ∧
      moved.ctrlMessageId = target.ctrlMessageId ∧ moved.avps = target.avps := by
  obtain ⟨prev, prevLeft, prevMoved, prevHolds, _⟩ := holds.prev.assign target.prevLayerPacket
  unfold RADIUSPacket.assign
  rw [prevMoved]
  exact ⟨_, _, rfl, ⟨prevHolds.timeStamp, prevHolds, holds.header⟩, rfl, rfl⟩

theorem RADIUSPacket.Holds.rawPacket (holds : packet.Holds frame) :
    packet.rawPacket = .ok frame := by
  rw [RADIUSPacket.rawPacket, holds.prev.item]
  rfl

theorem RADIUSPacket.Holds.sessionPair (holds : packet.Holds frame) :
    packet.getPacketSessionPair = .ok ⟨packetIdentifier frame.memory frame.radiusHeader⟩ := by
  rw [getPacketSessionPair, holds.header]
  show (packet.rawPacket >>= _) = _
  rw [holds.rawPacket]
  rfl

theorem RADIUSPacket.Holds.hash (holds : packet.Holds frame) :
    packet.getPacketSpecificHashImpl = .ok (SpecificPacket.radius.frameHash frame) := by
  unfold getPacketSpecificHashImpl
  rw [holds.prev.hash, holds.header, holds.rawPacket]
  rfl

end

namespace SpecificPacket

variable {specific : SpecificPacket} {frame : ETHPacket} {packet : specific.Packet}

theorem holds_of_built {left : RawPacketsPoolItem}
    (built : specific.createPacketPtr (some frame) = .ok (packet, left)) :
    specific.Holds frame packet := by
  cases specific with
  | radius =>
      obtain ⟨_, avps, rfl⟩ := ofPoolItem_ok built
      exact ⟨rfl, ⟨rfl, rfl, rfl, rfl⟩, rfl⟩
  | udp =>
      cases built
      exact ⟨rfl, rfl, rfl, rfl⟩
  | tcp =>
      cases built
      exact ⟨rfl, rfl, rfl, rfl⟩

private theorem Holds.moveConstruct (holds : specific.Holds frame packet) :
    ∃ moved left, specific.moveConstruct packet = .ok (moved, left) ∧
      specific.Holds frame moved ∧ specific.getCtrlMessageId moved = .processing ∧
      specific.getAVPs moved = ∅ := by
  cases specific with
  | radius => exact RADIUSPacket.Holds.ofRADIUSPacket holds
  | udp =>
      obtain ⟨moved, left, carried, movedHolds, control⟩ :=
        TransportPacket.Holds.ofTransportPacket holds
      exact ⟨moved, left, carried, movedHolds, control, rfl⟩
  | tcp =>
      obtain ⟨moved, left, carried, movedHolds, control⟩ :=
        TransportPacket.Holds.ofTransportPacket holds
      exact ⟨moved, left, carried, movedHolds, control, rfl⟩

private theorem Holds.moveAssign (holds : specific.Holds frame packet)
    (target : specific.Packet) :
    ∃ moved left, specific.moveAssign target packet = .ok (moved, left) ∧
      specific.Holds frame moved ∧
      specific.getCtrlMessageId moved = specific.getCtrlMessageId target ∧
      specific.getAVPs moved = specific.getAVPs target := by
  cases specific with
  | radius => exact RADIUSPacket.Holds.assign holds target
  | udp =>
      obtain ⟨moved, left, carried, movedHolds, control⟩ :=
        TransportPacket.Holds.assign holds target
      exact ⟨moved, left, carried, movedHolds, control, rfl⟩
  | tcp =>
      obtain ⟨moved, left, carried, movedHolds, control⟩ :=
        TransportPacket.Holds.assign holds target
      exact ⟨moved, left, carried, movedHolds, control, rfl⟩

/-- A move of a packet that holds a frame gets through, and its target holds the frame. -/
theorem Holds.step (holds : specific.Holds frame packet) (step : MoveStep specific) :
    ∃ moved, step.carry packet = .ok moved ∧ specific.Holds frame moved ∧
      step.leaves = (specific.getCtrlMessageId moved, specific.getAVPs moved) := by
  cases step with
  | construct =>
      obtain ⟨moved, left, carried, movedHolds, control, avps⟩ := holds.moveConstruct
      exact ⟨moved, congrArg (Except.map Prod.fst) carried, movedHolds,
        (Prod.ext control avps).symm⟩
  | assign target =>
      obtain ⟨moved, left, carried, movedHolds, control, avps⟩ := holds.moveAssign target
      exact ⟨moved, congrArg (Except.map Prod.fst) carried, movedHolds,
        (Prod.ext control avps).symm⟩

/-- So does every chain; its last target has what it would have anyway. -/
theorem Holds.chain (holds : specific.Holds frame packet) (chain : List (MoveStep specific)) :
    ∃ target, specific.carry packet chain = .ok target ∧ specific.Holds frame target ∧
      (chain.getLast?.map MoveStep.leaves).getD
          (specific.getCtrlMessageId packet, specific.getAVPs packet) =
        (specific.getCtrlMessageId target, specific.getAVPs target) := by
  induction chain generalizing packet with
  | nil => exact ⟨packet, rfl, holds, rfl⟩
  | cons step rest inductionHypothesis =>
      obtain ⟨moved, carried, movedHolds, left⟩ := holds.step step
      obtain ⟨target, rests, targetHolds, last⟩ := inductionHypothesis movedHolds
      refine ⟨target, ?_, targetHolds, ?_⟩
      · show ((step :: rest).foldlM MoveStep.carry packet : Except Fault _) = _
        rw [List.foldlM_cons, carried]
        exact rests
      · rw [List.getLast?_cons, Option.map_some, Option.getD_some, ← last, ← left]
        cases rest.getLast? <;> rfl

theorem Holds.hash (holds : specific.Holds frame packet) :
    specific.getPacketSpecificHash packet = .ok (specific.frameHash frame) := by
  cases specific with
  | radius => exact RADIUSPacket.Holds.hash holds
  | udp => exact TransportPacket.Holds.hash holds
  | tcp => exact TransportPacket.Holds.hash holds

theorem Holds.getTimestamp (holds : specific.Holds frame packet) :
    specific.getTimestamp packet = frame.timeStamp := by
  cases specific <;> exact holds.timeStamp

theorem Holds.getHeadetPtr {target : specific.Packet} (holds : specific.Holds frame packet)
    (targetHolds : specific.Holds frame target) :
    specific.getHeadetPtr target = specific.getHeadetPtr packet := by
  cases specific <;> exact targetHolds.header.trans holds.header.symm

theorem Holds.getPacketSessionPair {target : specific.Packet}
    (holds : specific.Holds frame packet) (targetHolds : specific.Holds frame target) :
    specific.getPacketSessionPair target = specific.getPacketSessionPair packet := by
  cases specific with
  | radius =>
      have pair := (RADIUSPacket.Holds.sessionPair targetHolds).trans
        (RADIUSPacket.Holds.sessionPair holds).symm
      exact congrArg some pair
  | udp => rfl
  | tcp => rfl

/-- Whatever reads a packet that holds a frame reads the frame, but for the control message id
and the attributes. -/
theorem Holds.preserved {target : specific.Packet} (holds : specific.Holds frame packet)
    (targetHolds : specific.Holds frame target) (origin : PacketOrigin) :
    specific.Preserved origin packet target ↔
      (specific.getCtrlMessageId target, specific.getAVPs target) =
        (specific.getCtrlMessageId packet, specific.getAVPs packet) := by
  constructor
  · intro preserved
    exact Prod.ext preserved.control preserved.avps
  · intro same
    exact ⟨congrArg Prod.fst same, holds.getHeadetPtr targetHolds,
      targetHolds.hash.trans holds.hash.symm,
      fun _ => targetHolds.getTimestamp.trans holds.getTimestamp.symm,
      holds.getPacketSessionPair targetHolds, congrArg Prod.snd same⟩

/-- The first move of a control packet reads the timestamp of an item that is not there. -/
theorem carry_control (id : ControlMessageId) (step : MoveStep specific)
    (rest : List (MoveStep specific)) :
    specific.carry (specific.ofControlMessageId id) (step :: rest) =
      .error .emptyPoolItem := by
  have faults : step.carry (specific.ofControlMessageId id) = .error .emptyPoolItem := by
    cases step <;> cases specific <;> rfl
  show ((step :: rest).foldlM MoveStep.carry _ : Except Fault _) = _
  rw [List.foldlM_cons, faults]
  rfl

theorem Preserved.refl (origin : PacketOrigin) (packet : specific.Packet) :
    specific.Preserved origin packet packet :=
  ⟨rfl, rfl, rfl, fun _ => rfl, rfl, rfl⟩

theorem movesPreserve_of_holds (holds : specific.Holds frame packet) (origin : PacketOrigin)
    (chain : List (MoveStep specific)) :
    specific.MovesPreserve origin packet chain ↔
      (chain.getLast?.map MoveStep.leaves).getD
          (specific.getCtrlMessageId packet, specific.getAVPs packet) =
        (specific.getCtrlMessageId packet, specific.getAVPs packet) := by
  obtain ⟨target, carried, targetHolds, last⟩ := holds.chain chain
  rw [last, ← holds.preserved targetHolds origin]
  constructor
  · rintro ⟨other, otherCarried, preserved⟩
    cases carried.symm.trans otherCarried
    exact preserved
  · intro preserved
    exact ⟨target, carried, preserved⟩

theorem lastTargetFits_frame (frame : ETHPacket) (packet : specific.Packet)
    (chain : List (MoveStep specific)) :
    specific.LastTargetFits (.frame frame) packet chain ↔
      (chain.getLast?.map MoveStep.leaves).getD
          (specific.getCtrlMessageId packet, specific.getAVPs packet) =
        (specific.getCtrlMessageId packet, specific.getAVPs packet) := by
  unfold LastTargetFits
  cases chain.getLast? with
  | none => simp
  | some step => simp [PacketOrigin.isFrame]

theorem lastTargetFits_control (id : ControlMessageId) (packet : specific.Packet)
    (chain : List (MoveStep specific)) :
    specific.LastTargetFits (.control id) packet chain ↔ chain = [] := by
  unfold LastTargetFits
  cases chain with
  | nil => simp
  | cons step rest => simp [PacketOrigin.isFrame, List.getLast?_cons]

theorem movesPreserve_control (id : ControlMessageId) (chain : List (MoveStep specific)) :
    specific.MovesPreserve (.control id) (specific.ofControlMessageId id) chain ↔ chain = [] := by
  cases chain with
  | nil => exact iff_of_true ⟨_, rfl, .refl _ _⟩ rfl
  | cons step rest =>
      apply iff_of_false
      · rintro ⟨target, carried, _⟩
        rw [carry_control] at carried
        cases carried
      · exact List.cons_ne_nil step rest

end SpecificPacket

/-- A chain of moves preserves a packet if and only if it is empty, or the packet comes from a
frame and the last move leaves what the packet has: a construction no attributes, and an
assignment the control message id and the attributes of the object it assigns to. -/
theorem movesPreserve_iff (specific : SpecificPacket) (origin : PacketOrigin)
    (packet : specific.Packet) (built : origin.build specific = .ok packet)
    (chain : List (MoveStep specific)) :
    specific.MovesPreserve origin packet chain ↔
      specific.LastTargetFits origin packet chain := by
  cases origin with
  | frame frame =>
      rw [PacketOrigin.build] at built
      cases created : specific.createPacketPtr (some frame) with
      | error fault =>
          rw [created] at built
          cases built
      | ok answer =>
          rw [created] at built
          cases built
          have holds := SpecificPacket.holds_of_built created
          rw [SpecificPacket.movesPreserve_of_holds holds, SpecificPacket.lastTargetFits_frame]
  | control id =>
      cases built
      rw [SpecificPacket.movesPreserve_control, SpecificPacket.lastTargetFits_control]

/-- A request with a user name, constructed once more. -/
theorem movesPreserve_iff_request :
    ∃ packet, PacketOrigin.build .radius (.frame (framed [(1, [98, 111])]).val) = .ok packet ∧
      (SpecificPacket.radius.MovesPreserve (.frame (framed [(1, [98, 111])]).val) packet
          [.construct] ↔
        SpecificPacket.radius.LastTargetFits (.frame (framed [(1, [98, 111])]).val) packet
          [.construct]) := by
  have carries := framed_carries [(1, [98, 111])] (by decide)
  have built : PacketOrigin.build .radius (.frame (framed [(1, [98, 111])]).val) = .ok _ :=
    congrArg (Except.map Prod.fst) (carries.ofPoolItem (by decide) (by decide))
  exact ⟨_, built, movesPreserve_iff .radius (.frame (framed [(1, [98, 111])]).val) _ built _⟩

/-- The user name of a request is lost in a move construction, and a `SHUTDOWN` cannot be
moved at all. -/
theorem moves_lose :
    (∃ packet, PacketOrigin.build .radius (.frame (framed [(1, [98, 111])]).val) = .ok packet ∧
      ¬ SpecificPacket.radius.MovesPreserve (.frame (framed [(1, [98, 111])]).val) packet
        [.construct]) ∧
      ¬ SpecificPacket.udp.MovesPreserve (.control .shutdown)
        (SpecificPacket.udp.ofControlMessageId .shutdown) [.construct] := by
  constructor
  · have carries := framed_carries [(1, [98, 111])] (by decide)
    have created : SpecificPacket.radius.createPacketPtr (some (framed [(1, [98, 111])]).val) =
        .ok _ := carries.ofPoolItem (by decide) (by decide)
    refine ⟨_, congrArg (Except.map Prod.fst) created, fun preserve => ?_⟩
    have holds := SpecificPacket.holds_of_built created
    have lost := (SpecificPacket.movesPreserve_of_holds holds _ _).mp preserve
    have empty : (∅ : AVPStorage) = Foundation.bindFirst [(1, [98, 111])] ∅ :=
      congrArg Prod.snd lost
    have bound := avps_getElem? [(1, [98, 111])] 1
    rw [← empty] at bound
    exact absurd bound (by decide)
  · intro preserve
    exact List.cons_ne_nil _ _ ((SpecificPacket.movesPreserve_control .shutdown _).mp preserve)

end TrafficInspector
