import TrafficInspector.Threads.Inspector

/-!
Owns that the program carries out what the system does: where the system takes a message, processes
it and destroys packets in one step, or broadcasts in one step, the program takes one step after
the other. So every run of the system is one of the program, among workers of the other processors
that stand still; and packets go to the same workers in it.
-/

namespace TrafficInspector

open Foundation

def Action.Sends (Allowed : ControlMessageId → Prop) : Action → Prop
  | broadcast inst | broadcastTo _ inst => Allowed inst
  | receive _ _ | drop | handOver _ | testStop _ | processNext _ _ => True

theorem Action.IsRegular.sends {action : Action} (isRegular : action.IsRegular) :
    action.Sends (· = .syncTimeout) := by
  cases action with
  | broadcast inst => exact isRegular
  | broadcastTo workerId inst => exact isRegular
  | _ => trivial

/-! ### Rules for the hand-over -/

/-- Whether a frame may go to a worker of a processor, or, with `none`, be dropped. -/
abbrev Routing := ETHPacket → Option (SpecificPacket × Nat) → Bool

/-- The rule that leaves everything open. -/
def Routing.free : Routing := fun _ _ => true

def Inspector.routes (routing : Routing) (inspector : Inspector) : InspectorAction → Bool
  | .handOver specific workerId => inspector.packetPtr.any (routing · (some (specific, workerId)))
  | .drop => inspector.packetPtr.any (routing · none)
  | .receive _ _ | .broadcast _ _ _ | .take _ _ | .act _ _ _ => true

/-- A run whose packets go where the rule lets them go. -/
def Inspector.routedRun (routing : Routing) (inspector : Inspector)
    (actions : List InspectorAction) : Option Inspector :=
  partialRun (guarded (routes routing) step) inspector actions

def System.routes (routing : Routing) (system : System) : Action → Bool
  | .handOver workerId => system.packetPtr.any (routing · (some (.radius, workerId)))
  | .drop => system.packetPtr.any (routing · none)
  | .receive _ _ | .broadcast _ | .broadcastTo _ _ | .testStop _ | .processNext _ _ => true

def System.routedRun (routing : Routing) (system : System) (actions : List Action) :
    Option System :=
  partialRun (guarded (routes routing) step) system actions

/-! ### One worker, one crew -/

namespace Inspector

variable {specific : SpecificPacket} {workerId : Nat}

/-- The program with the worker of the crew at this place, and the flag and what is shared as it
finds them. -/
def during (inspector : Inspector) (crew : QueueCrew specific.Packet specific.Place)
    (workerId : Nat) : Bool × SharedObjects × specific.Place → Inspector :=
  fun (stop, shared, place) =>
    { inspector.withCrew specific
        { crew with stop, places := crew.places.set workerId place } with shared }

theorem withCrew_withCrew (inspector : Inspector)
    (crew other : QueueCrew specific.Packet specific.Place) :
    (inspector.withCrew specific crew).withCrew specific other =
      inspector.withCrew specific other :=
  congrArg (fun crews => ({ inspector with crews } : Inspector)) (Function.update_idem ..)

theorem crews_withCrew (inspector : Inspector)
    (crew : QueueCrew specific.Packet specific.Place) :
    (inspector.withCrew specific crew).crews specific = crew :=
  Function.update_self ..

private theorem act_during (inspector : Inspector) {crew : QueueCrew specific.Packet specific.Place}
    (inside : workerId < crew.places.length) (state : Bool × SharedObjects × specific.Place)
    (clockMsec : SizeT) :
    (inspector.during crew workerId state).step (.act specific workerId clockMsec) =
      ((specific.loop inspector.responseTimeoutMsec).alone state clockMsec).map
        (inspector.during crew workerId) := by
  obtain ⟨stop, shared, place⟩ := state
  have same : (inspector.during crew workerId (stop, shared, place)).crews specific =
      { crew with stop, places := crew.places.set workerId place } := crews_withCrew ..
  show (((inspector.during crew workerId (stop, shared, place)).crews specific).act
    (specific.loop inspector.responseTimeoutMsec) shared workerId clockMsec).map _ = _
  rw [same, QueueCrew.act_step (List.getElem?_set_self inside), Option.map_map]
  refine congrArg (Option.map · _) (funext fun ⟨stopAfter, sharedAfter, after⟩ => ?_)
  show ({ (inspector.withCrew specific _).withCrew specific _ with shared := sharedAfter } :
    Inspector) = _
  rw [withCrew_withCrew, List.set_set]
  rfl

/-- A worker that nobody disturbs runs in the program as it runs alone. -/
theorem run_during (inspector : Inspector) {crew : QueueCrew specific.Packet specific.Place}
    (inside : workerId < crew.places.length) {state final : Bool × SharedObjects × specific.Place}
    {clocks : List SizeT}
    (ran : partialRun (specific.loop inspector.responseTimeoutMsec).alone state clocks =
      some final) :
    (inspector.during crew workerId state).run
        (clocks.map (InspectorAction.act specific workerId)) =
      some (inspector.during crew workerId final) :=
  (partialRun_inside (inspector.during crew workerId) _ (act_during inspector inside) state
    clocks).trans (congrArg _ ran)

private theorem broadcast_inside (inspector : Inspector)
    (crew : QueueCrew specific.Packet specific.Place) (inst : ControlMessageId)
    (queues : List (List specific.Packet)) (workerId : Nat) :
    (inspector.withCrew specific { crew with queues }).step (.broadcast specific workerId inst) =
      (queues[workerId]?.map fun queue =>
        queues.set workerId (queue ++ [specific.ofControlMessageId inst])).map
          fun queues => inspector.withCrew specific { crew with queues } := by
  show (((inspector.withCrew specific { crew with queues }).crews specific).put workerId _).map _ =
    _
  rw [crews_withCrew, QueueCrew.put, Option.map_map, Option.map_map]
  exact congrArg (Option.map · _) (funext fun queue => withCrew_withCrew ..)

/-- The message of a broadcast is put on one queue after the other. -/
theorem run_broadcast (inspector : Inspector) (crew : QueueCrew specific.Packet specific.Place)
    (inst : ControlMessageId) :
    (inspector.withCrew specific crew).run
        ((List.range crew.queues.length).map (InspectorAction.broadcast specific · inst)) =
      some (inspector.withCrew specific { crew with
        queues := crew.queues.map (· ++ [specific.ofControlMessageId inst]) }) := by
  have inside := partialRun_inside
    (fun queues => inspector.withCrew specific { crew with queues })
    (InspectorAction.broadcast specific · inst)
    (fun queues workerId => broadcast_inside inspector crew inst queues workerId) crew.queues
    (List.range crew.queues.length)
  rw [partialRun_set_range] at inside
  exact inside

end Inspector

/-! ### The steps of the system -/

/-- Where a worker of the system is in its loop. -/
def WorkerThread.place : WorkerThread → RadiusPlace
  | testing locals => .testing locals
  | receiving locals => .receiving locals
  | finished => .finished

namespace System

/-- The RADIUS processor, its queues and its workers. -/
def radiusCrew (system : System) :
    QueueCrew SpecificPacket.radius.Packet SpecificPacket.radius.Place where
  queues := system.queues
  stop := system.processor.stop
  places := system.threads.map WorkerThread.place

/-- The program with this system, among the workers of the other processors. -/
def inspector (system : System) (others : Inspector) : Inspector :=
  { others.withCrew .radius system.radiusCrew with
    shared := ⟨system.pool, system.resultNotifier⟩
    packetPtr := system.packetPtr
    responseTimeoutMsec := system.processor.responseTimeoutMsec }

variable {system next : System} {others : Inspector} {workerId : Nat}

private theorem withCrew_crew (system next : System) (others : Inspector)
    (timeout : next.processor.responseTimeoutMsec = system.processor.responseTimeoutMsec) :
    ({ (system.inspector others).withCrew .radius next.radiusCrew with
      shared := ⟨next.pool, next.resultNotifier⟩, packetPtr := next.packetPtr } : Inspector) =
      next.inspector others := by
  unfold inspector Inspector.withCrew
  rw [Inspector.mk.injEq]
  exact ⟨rfl, rfl, timeout.symm, Function.update_idem ..⟩

/-- Where only a worker of the system has gone on, the program is where it is during its steps. -/
private theorem during_eq {queues : List (List RADIUSPacket)} {place : RadiusPlace}
    {stop flag : Bool} {shared : SharedObjects} (sameQueues : next.queues = queues)
    (flagIs : next.processor.stop = flag)
    (sharedIs : (⟨next.pool, next.resultNotifier⟩ : SharedObjects) = shared)
    (places : next.threads.map WorkerThread.place =
      (system.threads.map WorkerThread.place).set workerId place)
    (packetPtr : next.packetPtr = system.packetPtr)
    (timeout : next.processor.responseTimeoutMsec = system.processor.responseTimeoutMsec) :
    @Inspector.during .radius (system.inspector others)
        ⟨queues, stop, system.threads.map WorkerThread.place⟩ workerId (flag, shared, place) =
      next.inspector others := by
  subst sameQueues flagIs sharedIs
  have crewIs : next.radiusCrew = ⟨next.queues, next.processor.stop,
      (system.threads.map WorkerThread.place).set workerId place⟩ := by
    rw [← places]
    rfl
  rw [← withCrew_crew system next others timeout, crewIs, packetPtr]
  rfl

/-- Before its steps it is there, too. -/
private theorem during_at {thread : WorkerThread} (here : system.threads[workerId]? = some thread) :
    @Inspector.during .radius (system.inspector others) system.radiusCrew workerId
        (system.processor.stop, ⟨system.pool, system.resultNotifier⟩, thread.place) =
      system.inspector others := by
  have same := (List.getElem?_eq_some_iff.mp here).2
  refine during_eq rfl rfl rfl ?_ rfl rfl
  rw [← List.map_set, ← same, List.set_getElem_self]

private theorem inside_places {thread : WorkerThread}
    (here : system.threads[workerId]? = some thread) :
    workerId < (system.threads.map WorkerThread.place).length := by
  rw [List.length_map]
  exact (List.getElem?_eq_some_iff.mp here).1

private theorem testStop_expands (stepped : system.testStop workerId = some next) :
    ∃ clocks : List SizeT, (system.inspector others).run
      (clocks.map (InspectorAction.act .radius workerId)) = some (next.inspector others) := by
  obtain ⟨locals, atTest, outcome⟩ := testStop_cases stepped
  obtain ⟨clocks, ran⟩ := @RadiusPlace.tests_alone system.processor.responseTimeoutMsec
    system.processor.stop locals system.pool system.resultNotifier
  have ranAmong := @Inspector.run_during .radius workerId (system.inspector others)
    system.radiusCrew (inside_places atTest) _ _ clocks ran
  have starts := @during_at system others workerId _ atTest
  refine ⟨clocks, ?_⟩
  rw [← starts]
  refine ranAmong.trans (congrArg some ?_)
  rcases outcome with ⟨raised, rfl⟩ | ⟨lowered, rfl⟩
  · simp only [raised, if_true]
    exact during_eq (by rfl) (by exact raised) (by rfl) (by exact List.map_set) (by rfl) (by rfl)
  · simp only [lowered]
    exact during_eq (by rfl) (by exact lowered) (by rfl) (by exact List.map_set) (by rfl) (by rfl)

private theorem processNext_expands {clockMsec : SizeT}
    (stepped : system.processNext workerId clockMsec = some next) :
    ∃ clocks : List SizeT, (system.inspector others).run
      (.take .radius workerId :: clocks.map (InspectorAction.act .radius workerId)) =
        some (next.inspector others) := by
  obtain ⟨packet, recvQueue, locals, after, pool, receiving, queued, processed, released, rfl⟩ :=
    processNext_cases stepped
  obtain ⟨clocks, ran⟩ := @RadiusPlace.processes_alone system.processor.responseTimeoutMsec
    clockMsec system.processor.stop locals after packet system.resultNotifier system.pool pool
    processed released
  have here : (system.threads.map WorkerThread.place)[workerId]? =
      some (RadiusPlace.receiving locals) := by
    rw [List.getElem?_map, receiving]
    rfl
  let crew : QueueCrew SpecificPacket.radius.Packet SpecificPacket.radius.Place :=
    ⟨system.queues.set workerId recvQueue, system.processor.stop,
      system.threads.map WorkerThread.place⟩
  have takes : (system.inspector others).step (.take .radius workerId) =
      some ((system.inspector others).during crew workerId
        (system.processor.stop, ⟨system.pool, system.resultNotifier⟩,
          RadiusPlace.holding locals packet)) := by
    have taken : system.radiusCrew.take (SpecificPacket.radius.loop
        system.processor.responseTimeoutMsec) workerId = some { crew with
          places := crew.places.set workerId (RadiusPlace.holding locals packet) } :=
      QueueCrew.take_step here queued rfl
    show (((system.inspector others).crews .radius).take _ workerId).map _ = _
    rw [show (system.inspector others).crews .radius = system.radiusCrew from
      Inspector.crews_withCrew others system.radiusCrew]
    exact congrArg (Option.map _) taken
  have ranAmong := @Inspector.run_during .radius workerId (system.inspector others) crew
    (inside_places receiving) _ _ _ ran
  refine ⟨_, partialRun_cons.mpr ⟨_, takes, ranAmong.trans (congrArg some ?_)⟩⟩
  refine during_eq (by rfl) (by rfl) (by rfl) ?_ (by rfl) (by rfl)
  show (system.threads.set workerId _).map WorkerThread.place = _
  rw [List.map_set]
  split <;> rfl

private theorem broadcast_expands (system : System) (others : Inspector)
    (inst : ControlMessageId) :
    (system.inspector others).run
        ((List.range system.queues.length).map (InspectorAction.broadcast .radius · inst)) =
      some (({ system with processor := (system.processor.onDispatchBroadcastImpl inst).2 } :
        System).inspector others) := by
  have ran := @Inspector.run_broadcast .radius (system.inspector others) system.radiusCrew inst
  have starts : (system.inspector others).withCrew .radius system.radiusCrew =
      system.inspector others :=
    congrArg (fun program : Inspector => ({ program with
      shared := ⟨system.pool, system.resultNotifier⟩
      packetPtr := system.packetPtr
      responseTimeoutMsec := system.processor.responseTimeoutMsec } : Inspector))
      (Inspector.withCrew_withCrew others system.radiusCrew system.radiusCrew)
  rw [starts] at ran
  refine ran.trans (congrArg some ?_)
  exact congrArg (fun program : Inspector => ({ program with
    shared := ⟨system.pool, system.resultNotifier⟩
    packetPtr := system.packetPtr
    responseTimeoutMsec := system.processor.responseTimeoutMsec } : Inspector))
    (Inspector.withCrew_withCrew others system.radiusCrew _)

private theorem receive_expands {message : Option (List UInt8)} {now : SizeT}
    (stepped : system.receive message now = some next) :
    (system.inspector others).step (.receive message now) = some (next.inspector others) := by
  obtain ⟨pack, pool, waiting, front, rfl⟩ := receive_cases stepped
  show (system.inspector others).receive message now = _
  unfold Inspector.receive
  rw [show (system.inspector others).packetPtr = none from waiting,
    show (system.inspector others).shared.pool = some pack :: pool from front]
  rfl

private theorem drop_expands (stepped : system.drop = some next) :
    (system.inspector others).step .drop = some (next.inspector others) := by
  obtain ⟨frame, held, rfl⟩ := drop_cases stepped
  show (system.inspector others).drop = _
  unfold Inspector.drop
  rw [show (system.inspector others).packetPtr = some frame from held]
  rfl

/-- A message that is put on a queue of the system is put on one of the program. -/
private theorem put_expands {recvQueue : List RADIUSPacket}
    (queued : system.queues[workerId]? = some recvQueue) (packet : RADIUSPacket) :
    ((system.inspector others).crews .radius).put workerId packet =
      some { system.radiusCrew with
        queues := system.queues.set workerId (ObjectQueue.putObject recvQueue packet) } := by
  rw [show (system.inspector others).crews .radius = system.radiusCrew from
    Inspector.crews_withCrew others system.radiusCrew]
  exact congrArg (Option.map _) queued

private theorem handOver_expands (stepped : system.handOver workerId = some next) :
    (system.inspector others).step (.handOver .radius workerId) = some (next.inspector others) := by
  obtain ⟨frame, recvQueue, packet, left, held, queued, built, same⟩ := handOver_cases stepped
  have builds : SpecificPacket.radius.createPacketPtr (some frame) = .ok (packet, left) := built
  show (system.inspector others).handOver .radius workerId = _
  unfold Inspector.handOver
  rw [show (system.inspector others).packetPtr = some frame from held]
  dsimp only
  rw [builds]
  dsimp only
  rw [put_expands queued, ← withCrew_crew system next others (by rw [same]), same]
  rfl

private theorem broadcastTo_expands {inst : ControlMessageId}
    (stepped : system.broadcastTo workerId inst = some next) :
    (system.inspector others).step (.broadcast .radius workerId inst) =
      some (next.inspector others) := by
  obtain ⟨recvQueue, queued, same⟩ := broadcastTo_cases stepped
  refine (congrArg (Option.map _) (put_expands queued
    (RADIUSPacket.ofControlMessageId inst))).trans ?_
  rw [← withCrew_crew system next others (by rw [same]), same]
  rfl

/-- The steps of one worker, and the puts of a broadcast. -/
private def Follows (Allowed : ControlMessageId → Prop) (action : InspectorAction) : Prop :=
  action.Sends Allowed ∧ ∀ routing (inspector : Inspector), inspector.routes routing action = true

private theorem follows_acts (Allowed : ControlMessageId → Prop) (workerId : Nat)
    (clocks : List SizeT) :
    ∀ action ∈ clocks.map (InspectorAction.act .radius workerId), Follows Allowed action := by
  intro action member
  obtain ⟨clockMsec, _, rfl⟩ := List.mem_map.mp member
  exact ⟨trivial, fun _ _ => rfl⟩

/-- What the system does in one step, the program does in so many. -/
theorem step_expands {routing : Routing} {Allowed : ControlMessageId → Prop} {action : Action}
    (sends : action.Sends Allowed) (routes : system.routes routing action = true)
    (stepped : system.step action = some next) :
    ∃ actions, (∀ action ∈ actions, InspectorAction.Sends Allowed action) ∧
      (system.inspector others).routedRun routing actions = some (next.inspector others) := by
  have one (action : InspectorAction) (sends : action.Sends Allowed)
      (routes : (system.inspector others).routes routing action = true)
      (stepped : (system.inspector others).step action = some (next.inspector others)) :
      ∃ actions, (∀ action ∈ actions, InspectorAction.Sends Allowed action) ∧
        (system.inspector others).routedRun routing actions = some (next.inspector others) :=
    ⟨[action], List.forall_mem_singleton.mpr sends,
      partialRun_cons.mpr ⟨_, guarded_eq_some.mpr ⟨routes, stepped⟩, rfl⟩⟩
  have many {actions : List InspectorAction} (follows : ∀ action ∈ actions, Follows Allowed action)
      (ran : (system.inspector others).run actions = some (next.inspector others)) :
      ∃ actions, (∀ action ∈ actions, InspectorAction.Sends Allowed action) ∧
        (system.inspector others).routedRun routing actions = some (next.inspector others) :=
    ⟨actions, fun action member => (follows action member).1,
      partialRun_guarded (fun action member => (follows action member).2 routing) ran⟩
  cases action with
  | receive message now =>
      exact one (.receive message now) trivial rfl (receive_expands stepped)
  | drop => exact one .drop trivial routes (drop_expands stepped)
  | handOver workerId =>
      exact one (.handOver .radius workerId) trivial routes (handOver_expands stepped)
  | broadcast inst =>
      cases stepped
      refine many (fun action member => ?_) (broadcast_expands system others inst)
      obtain ⟨workerId, _, rfl⟩ := List.mem_map.mp member
      exact ⟨sends, fun _ _ => rfl⟩
  | broadcastTo workerId inst =>
      exact one (.broadcast .radius workerId inst) sends rfl (broadcastTo_expands stepped)
  | testStop workerId =>
      obtain ⟨clocks, ran⟩ := @testStop_expands system next others workerId stepped
      exact many (follows_acts Allowed workerId clocks) ran
  | processNext workerId clockMsec =>
      obtain ⟨clocks, ran⟩ := @processNext_expands system next others workerId clockMsec stepped
      have takes : Follows Allowed (InspectorAction.take .radius workerId) :=
        ⟨trivial, fun _ _ => rfl⟩
      exact many (List.forall_mem_cons.mpr ⟨takes, follows_acts Allowed workerId clocks⟩) ran

/-- Every run of the system is one of the program, with no other broadcasts, and with packets at
the same workers. -/
theorem run_expands {routing : Routing} {Allowed : ControlMessageId → Prop}
    {actions : List Action} (sends : ∀ action ∈ actions, Action.Sends Allowed action)
    (ran : system.routedRun routing actions = some next) (others : Inspector) :
    ∃ actions, (∀ action ∈ actions, InspectorAction.Sends Allowed action) ∧
      (system.inspector others).routedRun routing actions = some (next.inspector others) :=
  partialRun_expands (fun system : System => system.inspector others) (Action.Sends Allowed)
    (InspectorAction.Sends Allowed)
    (fun _ _ _ sends stepped =>
      have ⟨routes, stepped⟩ := guarded_eq_some.mp stepped
      step_expands sends routes stepped)
    sends ran

/-- The program starts with the system at its start. -/
theorem start_inspector (pool : ObjectPool) (workers : SpecificPacket → Nat)
    (responseTimeoutMsec : SizeT) (resultNotifier : ResultNotifier) :
    (start pool (workers .radius) responseTimeoutMsec resultNotifier).inspector
        (.start pool workers responseTimeoutMsec resultNotifier) =
      .start pool workers responseTimeoutMsec resultNotifier := by
  have crew : (start pool (workers .radius) responseTimeoutMsec resultNotifier).radiusCrew =
      (Inspector.start pool workers responseTimeoutMsec resultNotifier).crews .radius :=
    congrArg (QueueCrew.mk (List.replicate (workers .radius) []) false) List.map_replicate
  unfold inspector
  rw [crew]
  exact congrArg (fun crews => ({ Inspector.start pool workers responseTimeoutMsec
    resultNotifier with crews } : Inspector)) (Function.update_eq_self _ _)

end System

end TrafficInspector
