import TrafficInspector.Threads.Inspector

/-!
Owns how the workers of all processors come to rest. While nobody shuts them down, each step of a
worker leaves less to do, whatever the order; and a worker stands still only in front of an empty
queue. Then every buffer is in the pool, with the main thread, or with a request that waits for
its reply.
-/

namespace TrafficInspector

open Foundation

/-- Nothing is broadcast but `SYNC_TIMEOUT`. -/
def InspectorAction.IsRegular : InspectorAction → Prop := Sends (· = .syncTimeout)

/-- Nothing is broadcast. -/
def InspectorAction.IsSilent : InspectorAction → Prop := Sends fun _ => False

/-- The workers' own steps. -/
def InspectorAction.IsWork : InspectorAction → Prop
  | take _ _ | act _ _ _ => True
  | receive _ _ | drop | handOver _ _ | broadcast _ _ _ => False

theorem InspectorAction.IsWork.sends {action : InspectorAction} (isWork : action.IsWork)
    (Allowed : ControlMessageId → Prop) : action.Sends Allowed := by
  cases action with
  | broadcast specific workerId inst => exact isWork.elim
  | _ => trivial

namespace SpecificPacket

/-- The messages of a program that nobody shuts down. -/
def Known : (specific : SpecificPacket) → specific.Packet → Prop
  | radius => RADIUSPacket.IsRegular
  | udp => fun packet => udp.getCtrlMessageId packet ≠ .shutdown
  | tcp => fun packet => tcp.getCtrlMessageId packet ≠ .shutdown

def Calm : (specific : SpecificPacket) → specific.Place → Prop
  | radius => RadiusPlace.Calm
  | udp | tcp => TransportPlace.Calm

/-- How many steps a worker can take by itself. -/
def work : (specific : SpecificPacket) → specific.Place → Nat
  | radius => RadiusPlace.work
  | udp | tcp => TransportPlace.work

/-- How many a message makes. -/
def messageWork : (specific : SpecificPacket) → specific.Packet → Nat
  | radius => RadiusPlace.messageWork
  | udp | tcp => TransportPlace.messageWork

variable {specific : SpecificPacket}

theorem settles (responseTimeoutMsec : SizeT) (specific : SpecificPacket) :
    (specific.loop responseTimeoutMsec).Settles specific.Known specific.Calm specific.messageWork
      specific.work := by
  cases specific with
  | radius => exact RadiusPlace.settles responseTimeoutMsec
  | udp => exact TransportPlace.settles .udp
  | tcp => exact TransportPlace.settles .tcp

theorem calm_entry (resultNotifier : ResultNotifier) (specific : SpecificPacket) :
    specific.Calm (specific.entry resultNotifier) := by
  cases specific <;> trivial

/-- What is built of a frame can be processed. -/
theorem known_of_built {frame : ETHPacket} {packet : specific.Packet} {left : RawPacketsPoolItem}
    (built : specific.createPacketPtr (some frame) = .ok (packet, left)) :
    specific.Known packet := by
  obtain ⟨rfl, _, control⟩ := createPacketPtr_ok built
  cases specific with
  | radius => exact .inl ⟨⟨frame, packet, built⟩, rfl⟩
  | udp => exact fun shutdown => ControlMessageId.noConfusion (control.symm.trans shutdown)
  | tcp => exact fun shutdown => ControlMessageId.noConfusion (control.symm.trans shutdown)

theorem known_sync (specific : SpecificPacket) :
    specific.Known (specific.ofControlMessageId .syncTimeout) := by
  cases specific with
  | radius => exact .inr rfl
  | udp => exact nofun
  | tcp => exact nofun

theorem act_stocked {responseTimeoutMsec clockMsec : SizeT} {stop stopAfter : Bool}
    {shared sharedAfter : SharedObjects} {place after : specific.Place}
    (acted : (specific.loop responseTimeoutMsec).act clockMsec stop shared place =
      some (stopAfter, sharedAfter, after)) (stocked : shared.pool.Stocked) :
    sharedAfter.pool.Stocked := by
  cases specific with
  | radius => exact RadiusPlace.turn_stocked (RadiusPlace.turn_of_act acted) stocked
  | udp => exact TransportPlace.turn_stocked (TransportPlace.turn_of_act clockMsec acted) stocked
  | tcp => exact TransportPlace.turn_stocked (TransportPlace.turn_of_act clockMsec acted) stocked

theorem inHands_of_waits {responseTimeoutMsec : SizeT} {place : specific.Place}
    (waits : (specific.loop responseTimeoutMsec).Waits place) : specific.inHands place = 0 := by
  cases specific with
  | radius => exact RadiusPlace.inHands_of_waits waits
  | udp => exact TransportPlace.inHands_of_waits waits
  | tcp => exact TransportPlace.inHands_of_waits waits

end SpecificPacket

namespace Inspector

variable {inspector next : Inspector}

/-! ### Nobody is told to leave -/

/-- What every regular run keeps. -/
structure Regular (inspector : Inspector) : Prop where
  crews : ∀ specific, (inspector.crews specific).Regular specific.Known specific.Calm
  stocked : inspector.shared.pool.Stocked

theorem start_regular {size : Nat} (allocate : Fin size → Nat)
    (behind : Nat → ByteOrder.Memory) (workers : SpecificPacket → Nat)
    (responseTimeoutMsec : SizeT) (resultNotifier : ResultNotifier) :
    (start (.create allocate behind) workers responseTimeoutMsec resultNotifier).Regular :=
  ⟨fun specific => QueueCrew.start_regular (specific.calm_entry resultNotifier) (workers specific),
    ObjectPool.stocked_create allocate behind⟩

private theorem crews_of_crew
    (regular : ∀ specific, (inspector.crews specific).Regular specific.Known specific.Calm)
    {specific : SpecificPacket} {crew : QueueCrew specific.Packet specific.Place}
    (crewRegular : crew.Regular specific.Known specific.Calm) :
    ∀ other, ((inspector.withCrew specific crew).crews other).Regular other.Known other.Calm :=
  @forall_withCrew inspector (fun specific crew => crew.Regular specific.Known specific.Calm)
    regular specific crew crewRegular

theorem turn_regular {action : InspectorAction} (isRegular : action.IsRegular)
    (turn : Turn inspector action next) (regular : inspector.Regular) : next.Regular := by
  obtain ⟨crews, stocked⟩ := regular
  cases turn with
  | @receive message now pack pool waiting front =>
      exact ⟨crews, fun item member => stocked item (front ▸ List.mem_cons_of_mem _ member)⟩
  | @drop frame held => exact ⟨crews, stocked.destroyItem (some frame)⟩
  | @handOver specific workerId frame packet crew held built put =>
      have known := SpecificPacket.known_of_built built
      exact ⟨crews_of_crew crews (QueueCrew.put_regular (crews specific) known put), stocked⟩
  | @broadcast specific workerId inst crew put =>
      obtain rfl : inst = .syncTimeout := isRegular
      have known := specific.known_sync
      exact ⟨crews_of_crew crews (QueueCrew.put_regular (crews specific) known put), stocked⟩
  | @take specific workerId crew took =>
      have kept := (QueueCrew.take_regular (specific.settles _) (crews specific) took).1
      exact ⟨crews_of_crew crews kept, stocked⟩
  | @act specific workerId clockMsec crew shared acted =>
      have kept := (QueueCrew.act_regular (specific.settles _) (crews specific) acted).1
      obtain ⟨place, stop, after, _, actedAlone, _⟩ := QueueCrew.act_cases acted
      exact ⟨crews_of_crew crews kept, SpecificPacket.act_stocked actedAlone stocked⟩

theorem run_regular {actions : List InspectorAction}
    (regularActions : ∀ action ∈ actions, InspectorAction.IsRegular action)
    (ran : inspector.run actions = some next) (regular : inspector.Regular) : next.Regular :=
  partialRun_invariant InspectorAction.IsRegular Regular
    (fun _ _ _ isRegular stepped regular =>
      turn_regular isRegular (turn_of_step stepped) regular)
    regularActions ran regular

/-! ### What is left to do -/

/-- How many steps the workers can take by themselves. -/
def workLeft (inspector : Inspector) : Nat :=
  SpecificPacket.total fun specific =>
    (inspector.crews specific).amount specific.work specific.messageWork

/-- Every queue is empty and every worker waits in `getObject`. -/
def Idle (inspector : Inspector) : Prop :=
  ∀ specific, (inspector.crews specific).Idle (specific.loop inspector.responseTimeoutMsec)

/-- What one crew has less to do, the program has less to do. -/
private theorem workLeft_withCrew {specific : SpecificPacket}
    {crew : QueueCrew specific.Packet specific.Place}
    (lowers : crew.amount specific.work specific.messageWork + 1 ≤
      (inspector.crews specific).amount specific.work specific.messageWork) :
    (inspector.withCrew specific crew).workLeft + 1 ≤ inspector.workLeft := by
  have same : (inspector.withCrew specific crew).workLeft +
      (inspector.crews specific).amount specific.work specific.messageWork =
        inspector.workLeft + crew.amount specific.work specific.messageWork :=
    SpecificPacket.total_update (fun specific (crew : QueueCrew specific.Packet specific.Place) =>
      crew.amount specific.work specific.messageWork) inspector.crews specific crew
  omega

/-- What a worker does leaves less to do, and the main thread's frame where it is. -/
theorem work_lowers (regular : inspector.Regular) {action : InspectorAction}
    (isWork : action.IsWork) (stepped : inspector.step action = some next) :
    next.packetPtr = inspector.packetPtr ∧ next.workLeft + 1 ≤ inspector.workLeft := by
  cases turn_of_step stepped with
  | receive waiting front => exact isWork.elim
  | drop held => exact isWork.elim
  | handOver held built put => exact isWork.elim
  | broadcast put => exact isWork.elim
  | @take specific workerId crew took =>
      exact ⟨rfl, workLeft_withCrew
        (QueueCrew.take_regular (specific.settles _) (regular.crews specific) took).2⟩
  | @act specific workerId clockMsec crew shared acted =>
      exact ⟨rfl, workLeft_withCrew
        (QueueCrew.act_regular (specific.settles _) (regular.crews specific) acted).2⟩

/-- Some worker goes on unless all wait in front of empty queues. -/
theorem Regular.worksOn (regular : inspector.Regular) (busy : ¬ inspector.Idle) :
    ∃ action : InspectorAction, action.IsWork ∧ (inspector.step action).isSome := by
  unfold Idle at busy
  push Not at busy
  obtain ⟨specific, busy⟩ := busy
  rcases (regular.crews specific).goesOn
      (specific.settles inspector.responseTimeoutMsec) inspector.shared with
    idle | ⟨workerId, taken⟩ | ⟨workerId, clockMsec, acted⟩
  · exact absurd idle busy
  · exact ⟨.take specific workerId, trivial, Option.isSome_map.trans taken⟩
  · exact ⟨.act specific workerId clockMsec, trivial, Option.isSome_map.trans acted⟩

/-- The workers come to rest, with the frame that the main thread holds where it is. -/
theorem Regular.comesToRest (regular : inspector.Regular) :
    ComesToWithin inspector.workLeft step InspectorAction.IsWork
      (fun final => final.Idle ∧ final.Regular ∧ final.packetPtr = inspector.packetPtr)
      inspector := by
  refine comesTo_of_measure
    (fun later => later.Regular ∧ later.packetPtr = inspector.packetPtr) workLeft ?_ ?_
    ⟨regular, rfl⟩
  · rintro state action next isWork stepped ⟨regular, same⟩
    obtain ⟨kept, lowers⟩ := work_lowers regular isWork stepped
    exact ⟨⟨turn_regular (isWork.sends _) (turn_of_step stepped) regular, kept.trans same⟩,
      lowers⟩
  · rintro state ⟨regular, same⟩ stuck
    refine ⟨?_, regular, same⟩
    by_contra busy
    obtain ⟨action, isWork, possible⟩ := regular.worksOn busy
    rw [stuck action isWork] at possible
    cases possible

theorem objects_of_idle (idle : inspector.Idle) :
    inspector.objects =
      inspector.shared.pool.objects + inspector.inReceiveLoop + inspector.inSessions := by
  have queues (specific : SpecificPacket) :
      listHolds (listHolds specific.objects) (inspector.crews specific).queues = 0 :=
    listHolds_of_zero fun queue member => by rw [(idle specific).empty queue member, listHolds_nil]
  have hands (specific : SpecificPacket) :
      listHolds specific.inHands (inspector.crews specific).places = 0 :=
    listHolds_of_zero fun place member =>
      SpecificPacket.inHands_of_waits ((idle specific).waits place member)
  have nothing : SpecificPacket.total (fun _ => (0 : Multiset Nat)) = 0 := rfl
  rw [objects, inQueues, inHands, funext queues, funext hands, nothing, add_zero, add_zero]

end Inspector

/-- Whatever has happened without a shutdown: left to themselves, the workers of all processors
come to rest after so many steps, whatever their order; every queue is empty then, and every
buffer is in the pool, with the main thread, or with a request that waits for its reply. -/
theorem buffers_come_back {size : Nat} (allocate : Fin size → Nat)
    (behind : Nat → ByteOrder.Memory) (workers : SpecificPacket → Nat)
    (responseTimeoutMsec : SizeT) (resultNotifier : ResultNotifier)
    (actions : List InspectorAction) (inspector : Inspector)
    (regular : ∀ action ∈ actions, InspectorAction.IsRegular action)
    (reached : (Inspector.start (.create allocate behind) workers responseTimeoutMsec
      resultNotifier).run actions = some inspector) :
    ComesToWithin inspector.workLeft Inspector.step InspectorAction.IsWork
      (fun final => final.Idle ∧
        final.shared.pool.objects + final.inReceiveLoop + final.inSessions =
          Multiset.map allocate Finset.univ.val) inspector := by
  have isRegular := Inspector.run_regular regular reached
    (Inspector.start_regular allocate behind workers responseTimeoutMsec resultNotifier)
  obtain ⟨sound, all, _⟩ := Inspector.run_keeps reached
    (Inspector.start_sound _ workers responseTimeoutMsec resultNotifier)
  rw [Inspector.start_objects] at all
  intro inputs final work ran
  obtain ⟨short, ends⟩ := isRegular.comesToRest inputs final work ran
  refine ⟨short, fun stuck => ?_⟩
  have idle := (ends stuck).1
  exact ⟨idle, (Inspector.objects_of_idle idle).symm.trans
    ((Inspector.run_keeps ran sound).2.1.trans all)⟩

theorem buffers_come_back_datagram :
    ∃ inspector, (Inspector.start (.create (Fin.val : Fin 2 → Nat) fun _ _ => 0) (fun _ => 1)
        1000 ⟨[], "probe"⟩).run datagramActions = some inspector ∧ inspector.workLeft = 5 ∧
      ComesToWithin inspector.workLeft Inspector.step InspectorAction.IsWork
        (fun final => final.Idle ∧ final.shared.pool.objects + final.inReceiveLoop +
          final.inSessions = Multiset.map (Fin.val : Fin 2 → Nat) Finset.univ.val)
        inspector := by
  have regular : ∀ action ∈ datagramActions, InspectorAction.IsRegular action := by
    intro action member
    simp only [datagramActions, List.mem_cons, List.not_mem_nil, or_false] at member
    rcases member with rfl | rfl | rfl | rfl <;> exact trivial
  exact ⟨_, rfl, rfl, buffers_come_back Fin.val (fun _ _ => 0) (fun _ => 1) 1000 ⟨[], "probe"⟩
    datagramActions _ regular rfl⟩

end TrafficInspector
