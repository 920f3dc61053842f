import TrafficInspector.Threads.RegularRuns

/-!
Owns what a worker of the system does by itself. Whatever the other threads do in between, its
variables and its notifications are those of a worker that runs alone over the messages it has
taken. These are the first ones that were put on its queue, and the notifier's queue is made up
of what the workers notify.
-/

namespace TrafficInspector

open Foundation

/-- What happens to a worker, as the others can tell. -/
inductive WorkerEvent where
  | put (packet : RADIUSPacket)
  | took (item : QueueItem)
  | notified (data : NotificationData)

namespace WorkerEvent

def packet : WorkerEvent → Option RADIUSPacket
  | put packet => some packet
  | took _ | notified _ => none

def item : WorkerEvent → Option QueueItem
  | took item => some item
  | put _ | notified _ => none

def data : WorkerEvent → Option NotificationData
  | notified data => some data
  | put _ | took _ => none

end WorkerEvent

/-! ### A message by itself -/

namespace RadiusWorker

variable {responseTimeoutMsec : SizeT} {worker after : RadiusWorker} {item : QueueItem}

/-- The worker with a flag and a notifier of its own. -/
def alone (worker : RadiusWorker) (stop : Bool) (resultNotifier : ResultNotifier) :
    RadiusWorker :=
  { worker with stop, resultNotifier }

private theorem processSync_alone (responseTimeoutMsec timeStamp : SizeT) (worker : RadiusWorker)
    (stop : Bool) (resultNotifier : ResultNotifier) :
    (worker.alone stop resultNotifier).processSync responseTimeoutMsec timeStamp =
      (worker.processSync responseTimeoutMsec timeStamp).alone stop resultNotifier := by
  have swept (entries : List (RadSessionPair × RADIUSPacket)) (worker : RadiusWorker) :
      entries.foldl (syncEntry responseTimeoutMsec timeStamp)
          (worker.alone stop resultNotifier) =
        (entries.foldl (syncEntry responseTimeoutMsec timeStamp) worker).alone stop
          resultNotifier := by
    induction entries generalizing worker with
    | nil => rfl
    | cons entry rest inductionHypothesis =>
        rw [List.foldl_cons, List.foldl_cons, ← inductionHypothesis]
        congr 1
        unfold syncEntry
        split <;> rfl
  unfold processSync
  rw [show (worker.alone stop resultNotifier).packetSessionsMap = worker.packetSessionsMap from rfl,
    swept]
  rfl

private theorem processPacket_alone {timeMsec : SizeT} {packet : RADIUSPacket}
    (processed : worker.processPacket timeMsec packet = .ok after) :
    ∃ notified, after.resultNotifier =
        { worker.resultNotifier with queue := worker.resultNotifier.queue ++ notified } ∧
      ∀ stop queue,
        (worker.alone stop ⟨queue, worker.resultNotifier.sourceId⟩).processPacket timeMsec packet =
          .ok (after.alone stop ⟨queue ++ notified, worker.resultNotifier.sourceId⟩) := by
  obtain ⟨sp, own, ⟨req, held, rfl⟩ | ⟨free, rfl⟩⟩ := processPacket_cases processed
  · refine ⟨_, rfl, fun stop queue => ?_⟩
    have heldAlone : (worker.alone stop ⟨queue, worker.resultNotifier.sourceId⟩
      ).packetSessionsMap[sp]? = some req := held
    exact processPacket_joins own heldAlone timeMsec
  · refine ⟨[], by rw [List.append_nil], fun stop queue => ?_⟩
    have freeAlone : (worker.alone stop ⟨queue, worker.resultNotifier.sourceId⟩
      ).packetSessionsMap[sp]? = none := free
    rw [List.append_nil]
    exact processPacket_keeps own freeAlone timeMsec

/-- What a worker does with a message depends on the flag and on the notifier's queue no more
than that it notifies behind what is there. -/
theorem processMessage_alone
    (processed : worker.processMessage responseTimeoutMsec item = .ok after) :
    ∃ notified, after.resultNotifier =
        { worker.resultNotifier with queue := worker.resultNotifier.queue ++ notified } ∧
      ∀ stop queue, (worker.alone stop ⟨queue, worker.resultNotifier.sourceId⟩
          ).processMessage responseTimeoutMsec item =
        .ok (after.alone (stop || decide (item.packet.ctrlMessageId = .shutdown))
          ⟨queue ++ notified, worker.resultNotifier.sourceId⟩) := by
  unfold processMessage at processed ⊢
  cases kind : item.packet.ctrlMessageId with
  | shutdown =>
      rw [kind] at processed
      cases processed
      refine ⟨[], by rw [List.append_nil], fun stop queue => ?_⟩
      rw [decide_eq_true rfl, Bool.or_true, List.append_nil]
      rfl
  | syncTimeout =>
      rw [kind] at processed
      cases processed
      refine ⟨[], ?_, fun stop queue => ?_⟩
      · rw [processSync_resultNotifier, List.append_nil]
      · rw [decide_eq_false ControlMessageId.noConfusion, Bool.or_false, List.append_nil]
        exact congrArg Except.ok (processSync_alone ..)
  | processing =>
      rw [kind] at processed
      obtain ⟨notified, appended, same⟩ := processPacket_alone processed
      refine ⟨notified, appended, fun stop queue => ?_⟩
      rw [decide_eq_false ControlMessageId.noConfusion, Bool.or_false]
      exact same stop queue
  | maxControlMessageId =>
      rw [kind] at processed
      obtain ⟨notified, appended, same⟩ := processPacket_alone processed
      refine ⟨notified, appended, fun stop queue => ?_⟩
      rw [decide_eq_false ControlMessageId.noConfusion, Bool.or_false]
      exact same stop queue

end RadiusWorker

/-! ### What the workers show -/

namespace System

/-- What a step shows of the workers. -/
def events (system : System) : Action → List (Nat × WorkerEvent)
  | .handOver workerId =>
      match RADIUSPacket.ofPoolItem system.packetPtr with
      | .ok (packet, _) => [WorkerEvent.put packet].map (Prod.mk workerId)
      | .error _ => []
  | .broadcast inst =>
      (List.range system.queues.length).map fun workerId =>
        (workerId, .put (RADIUSPacket.ofControlMessageId inst))
  | .broadcastTo workerId inst =>
      [WorkerEvent.put (RADIUSPacket.ofControlMessageId inst)].map (Prod.mk workerId)
  | .processNext workerId clockMsec =>
      match system.queues[workerId]?.bind ObjectQueue.getObject,
          system.processNext workerId clockMsec with
      | some (packet, _), some next =>
          (.took ⟨packet, clockMsec⟩ ::
            (next.resultNotifier.queue.drop system.resultNotifier.queue.length).map
              WorkerEvent.notified).map (Prod.mk workerId)
      | _, _ => []
  | .receive _ _ | .drop | .testStop _ => []

/-- What a run shows of the workers. -/
def history (system : System) (actions : List Action) : List (Nat × WorkerEvent) :=
  partialTrace events step system actions

end System

/-- What was put on the worker's queue. -/
def packetsPut (own : List WorkerEvent) : List RADIUSPacket := own.filterMap WorkerEvent.packet

def itemsTaken (own : List WorkerEvent) : List QueueItem := own.filterMap WorkerEvent.item

def notifications (own : List WorkerEvent) : List NotificationData :=
  own.filterMap WorkerEvent.data

/-- The variables of a thread that has not ended are those of the worker. -/
def WorkerThread.Matches (worker : RadiusWorker) : WorkerThread → Prop
  | testing locals | receiving locals => worker = locals.alone false worker.resultNotifier
  | finished => True

/-- A worker that runs alone over the messages taken has notified the same, and is where the
thread is. -/
def WorkerThread.AsAlone (responseTimeoutMsec : SizeT) (sourceId : String)
    (own : List WorkerEvent) (thread : WorkerThread) : Prop :=
  ∃ worker, (RadiusWorker.start ⟨[], sourceId⟩).processPacketsThreadImpl responseTimeoutMsec
      (itemsTaken own) = .ok worker ∧
    worker.resultNotifier = ⟨notifications own, sourceId⟩ ∧ thread.Matches worker

/-- Each worker is as it would be alone, takes from its queue in order, and shares with the
others no more than the notifier, whose queue is made up of their notifications. -/
structure System.RunsAlone (responseTimeoutMsec : SizeT) (sourceId : String)
    (shown : List (Nat × WorkerEvent)) (system : System) : Prop where
  timeout : system.processor.responseTimeoutMsec = responseTimeoutMsec
  notifier : system.resultNotifier = ⟨notifications (shown.map Prod.snd), sourceId⟩
  inOrder : ∀ (workerId : Nat) recvQueue, system.queues[workerId]? = some recvQueue →
    packetsPut (shownBy workerId shown) =
      (itemsTaken (shownBy workerId shown)).map QueueItem.packet ++ recvQueue
  workers : ∀ (workerId : Nat) thread, system.threads[workerId]? = some thread →
    thread.AsAlone responseTimeoutMsec sourceId (shownBy workerId shown)

namespace System

variable {responseTimeoutMsec : SizeT} {sourceId : String} {shown : List (Nat × WorkerEvent)}
  {system next : System} {workerId : Nat}

/-! ### What a step adds -/

@[simp] theorem packetsPut_append (front back : List WorkerEvent) :
    packetsPut (front ++ back) = packetsPut front ++ packetsPut back :=
  List.filterMap_append

@[simp] theorem itemsTaken_append (front back : List WorkerEvent) :
    itemsTaken (front ++ back) = itemsTaken front ++ itemsTaken back :=
  List.filterMap_append

@[simp] theorem notifications_append (front back : List WorkerEvent) :
    notifications (front ++ back) = notifications front ++ notifications back :=
  List.filterMap_append

theorem of_took (item : QueueItem) (data : List NotificationData) :
    packetsPut (.took item :: data.map WorkerEvent.notified) = [] ∧
      itemsTaken (.took item :: data.map WorkerEvent.notified) = [item] ∧
      notifications (.took item :: data.map WorkerEvent.notified) = data := by
  refine ⟨?_, ?_, ?_⟩
  · simp [packetsPut, WorkerEvent.packet]
  · simp [itemsTaken, WorkerEvent.item]
  · rw [notifications, List.filterMap_cons_none rfl, List.filterMap_map]
    exact List.filterMap_some

theorem events_handOver {frame : ETHPacket} {packet : RADIUSPacket}
    {left : RawPacketsPoolItem} (held : system.packetPtr = some frame)
    (built : RADIUSPacket.ofPoolItem (some frame) = .ok (packet, left)) :
    system.events (.handOver workerId) = [WorkerEvent.put packet].map (Prod.mk workerId) := by
  rw [events, held, built]

private theorem events_processNext {packet : RADIUSPacket} {recvQueue : List RADIUSPacket}
    {clockMsec : SizeT} {notified : List NotificationData}
    (queued : system.queues[workerId]? = some (packet :: recvQueue))
    (stepped : system.processNext workerId clockMsec = some next)
    (appended : next.resultNotifier.queue = system.resultNotifier.queue ++ notified) :
    system.events (.processNext workerId clockMsec) =
      (.took ⟨packet, clockMsec⟩ :: notified.map WorkerEvent.notified).map
        (Prod.mk workerId) := by
  rw [events, queued, stepped]
  show (WorkerEvent.took _ :: (next.resultNotifier.queue.drop _).map _).map _ = _
  rw [appended, List.drop_left]

private theorem impl_concat {worker after : RadiusWorker} {items : List QueueItem}
    {item : QueueItem}
    (ran : (RadiusWorker.start ⟨[], sourceId⟩).processPacketsThreadImpl responseTimeoutMsec items =
      .ok worker)
    (running : worker.stop = false)
    (processed : worker.processMessage responseTimeoutMsec item = .ok after) :
    (RadiusWorker.start ⟨[], sourceId⟩).processPacketsThreadImpl responseTimeoutMsec
      (items ++ [item]) = .ok after := by
  unfold RadiusWorker.processPacketsThreadImpl at ran ⊢
  rw [List.foldlM_append, ran]
  show (RadiusWorker.iteration responseTimeoutMsec worker item >>= pure) = _
  unfold RadiusWorker.iteration
  rw [running, if_neg Bool.false_ne_true, processed]
  rfl

/-- A step that leaves the worker's thread where it is and shows nothing of what it does. -/
private theorem AsAlone.of_put {thread : WorkerThread} {own : List WorkerEvent}
    (asAlone : thread.AsAlone responseTimeoutMsec sourceId own) {puts : List WorkerEvent}
    (silent : itemsTaken puts = [] ∧ notifications puts = []) :
    thread.AsAlone responseTimeoutMsec sourceId (own ++ puts) := by
  unfold WorkerThread.AsAlone
  rw [itemsTaken_append, notifications_append, silent.1, silent.2, List.append_nil,
    List.append_nil]
  exact asAlone

/-- The worker alone takes the message that the thread has taken. -/
private theorem AsAlone.goesOn {locals after : RadiusWorker} {own : List WorkerEvent}
    (asAlone : (WorkerThread.receiving locals).AsAlone responseTimeoutMsec sourceId own)
    {item : QueueItem} {notified : List NotificationData}
    (processed : (locals.alone false ⟨notifications own, sourceId⟩).processMessage
      responseTimeoutMsec item = .ok after)
    (appended : after.resultNotifier = ⟨notifications own ++ notified, sourceId⟩)
    {thread : WorkerThread} (isMatch : thread.Matches after) :
    thread.AsAlone responseTimeoutMsec sourceId
      (own ++ .took item :: notified.map WorkerEvent.notified) := by
  obtain ⟨worker, ran, notifier, isAlone⟩ := asAlone
  obtain ⟨_, oneTaken, allNotified⟩ := of_took item notified
  have same : worker = locals.alone false ⟨notifications own, sourceId⟩ := by
    rw [← notifier]
    exact isAlone
  have running : worker.stop = false := by
    rw [same]
    rfl
  rw [← same] at processed
  have ranOn := impl_concat ran running processed
  rw [← oneTaken, ← itemsTaken_append] at ranOn
  refine ⟨after, ranOn, ?_, isMatch⟩
  rw [notifications_append, allNotified]
  exact appended

/-- A message is put on one queue. -/
private theorem put_runsAlone {recvQueue : List RADIUSPacket}
    (queued : system.queues[workerId]? = some recvQueue) (packet : RADIUSPacket)
    (runsAlone : system.RunsAlone responseTimeoutMsec sourceId shown) :
    System.RunsAlone responseTimeoutMsec sourceId
      (shown ++ [WorkerEvent.put packet].map (Prod.mk workerId))
      { system with processor := { system.processor with
        receivedPacketQueue := system.processor.receivedPacketQueue.set workerId
          (ObjectQueue.putObject recvQueue packet) } } := by
  refine ⟨runsAlone.timeout, ?_, fun other otherQueue here => ?_, fun other thread here => ?_⟩
  · rw [List.map_append, notifications_append]
    exact runsAlone.notifier.trans (by simp [notifications, WorkerEvent.data])
  · rw [shownBy_append]
    have hereSet : (system.queues.set workerId (recvQueue ++ [packet]))[other]? =
        some otherQueue := here
    by_cases own : workerId = other
    · subst own
      rw [List.getElem?_set_self (List.getElem?_eq_some_iff.mp queued).1] at hereSet
      cases hereSet
      rw [shownBy_self, packetsPut_append, itemsTaken_append, runsAlone.inOrder workerId _ queued]
      simp [packetsPut, itemsTaken, WorkerEvent.packet, WorkerEvent.item]
    · rw [List.getElem?_set_ne own] at hereSet
      rw [shownBy_of_ne own, List.append_nil]
      exact runsAlone.inOrder other _ hereSet
  · rw [shownBy_append]
    have asAlone := runsAlone.workers other thread here
    by_cases own : workerId = other
    · subst own
      rw [shownBy_self]
      exact AsAlone.of_put asAlone ⟨rfl, rfl⟩
    · rw [shownBy_of_ne own, List.append_nil]
      exact asAlone

private theorem handOver_runsAlone (stepped : system.handOver workerId = some next)
    (runsAlone : system.RunsAlone responseTimeoutMsec sourceId shown) :
    next.RunsAlone responseTimeoutMsec sourceId (shown ++ system.events (.handOver workerId)) := by
  obtain ⟨frame, recvQueue, packet, left, held, queued, built, rfl⟩ := handOver_cases stepped
  rw [events_handOver held built]
  have put := put_runsAlone queued packet runsAlone
  exact ⟨put.timeout, put.notifier, put.inOrder, put.workers⟩

private theorem broadcast_runsAlone (inst : ControlMessageId)
    (runsAlone : system.RunsAlone responseTimeoutMsec sourceId shown) :
    System.RunsAlone responseTimeoutMsec sourceId (shown ++ system.events (.broadcast inst))
      { system with processor := (system.processor.onDispatchBroadcastImpl inst).2 } := by
  rw [events]
  refine ⟨runsAlone.timeout, ?_, fun other otherQueue here => ?_, fun other thread here => ?_⟩
  · rw [List.map_append, notifications_append, List.map_map]
    have silent : notifications ((List.range system.queues.length).map
        (Prod.snd ∘ fun workerId =>
          (workerId, WorkerEvent.put (RADIUSPacket.ofControlMessageId inst)))) = [] := by
      simp [notifications, WorkerEvent.data]
    rw [silent, List.append_nil]
    exact runsAlone.notifier
  · have hereMap : (system.queues.map
        (· ++ [RADIUSPacket.ofControlMessageId inst]))[other]? = some otherQueue := here
    rw [List.getElem?_map] at hereMap
    obtain ⟨recvQueue, queued, rfl⟩ := Option.map_eq_some_iff.mp hereMap
    rw [shownBy_append, shownBy_range, if_pos (List.getElem?_eq_some_iff.mp queued).1,
      packetsPut_append, itemsTaken_append, runsAlone.inOrder other _ queued]
    simp [packetsPut, itemsTaken, WorkerEvent.packet, WorkerEvent.item]
  · rw [shownBy_append, shownBy_range]
    refine AsAlone.of_put (runsAlone.workers other thread here) ?_
    split <;> exact ⟨rfl, rfl⟩

private theorem testStop_runsAlone (stepped : system.testStop workerId = some next)
    (runsAlone : system.RunsAlone responseTimeoutMsec sourceId shown) :
    next.RunsAlone responseTimeoutMsec sourceId shown := by
  obtain ⟨locals, atTest, outcome⟩ := testStop_cases stepped
  have inThreads := (List.getElem?_eq_some_iff.mp atTest).1
  obtain ⟨worker, ran, notifier, same⟩ := runsAlone.workers workerId _ atTest
  have moved (thread : WorkerThread) (isMatch : thread.Matches worker) (other : Nat)
      (there : WorkerThread) (here : (system.threads.set workerId thread)[other]? = some there) :
      there.AsAlone responseTimeoutMsec sourceId (shownBy other shown) := by
    by_cases own : workerId = other
    · subst own
      rw [List.getElem?_set_self inThreads] at here
      cases here
      exact ⟨worker, ran, notifier, isMatch⟩
    · rw [List.getElem?_set_ne own] at here
      exact runsAlone.workers other there here
  rcases outcome with ⟨_, rfl⟩ | ⟨_, rfl⟩
  · exact ⟨runsAlone.timeout, runsAlone.notifier, runsAlone.inOrder, moved .finished trivial⟩
  · exact ⟨runsAlone.timeout, runsAlone.notifier, runsAlone.inOrder, moved (.receiving locals) same⟩

private theorem processNext_runsAlone {clockMsec : SizeT}
    (stepped : system.processNext workerId clockMsec = some next)
    (runsAlone : system.RunsAlone responseTimeoutMsec sourceId shown) :
    next.RunsAlone responseTimeoutMsec sourceId
      (shown ++ system.events (.processNext workerId clockMsec)) := by
  obtain ⟨packet, recvQueue, locals, after, pool, processes⟩ := processNext_cases stepped
  obtain ⟨notified, appended, byItself⟩ := RadiusWorker.processMessage_alone processes.processed
  obtain ⟨receiving, queued, processed, released, rfl⟩ := processes
  obtain ⟨noPut, oneTaken, allNotified⟩ := of_took ⟨packet, clockMsec⟩ notified
  have shared : (system.shared locals).resultNotifier = system.resultNotifier := rfl
  rw [shared] at appended byItself
  rw [events_processNext queued stepped (congrArg ResultNotifier.queue appended)]
  refine ⟨runsAlone.timeout, ?_, fun other otherQueue here => ?_, fun other thread here => ?_⟩
  · rw [List.map_append, notifications_append, List.map_map]
    have own : notifications ((WorkerEvent.took ⟨packet, clockMsec⟩ ::
        notified.map WorkerEvent.notified).map (Prod.snd ∘ Prod.mk workerId)) = notified :=
      (congrArg notifications (List.map_id _)).trans allNotified
    rw [own]
    refine appended.trans ?_
    rw [runsAlone.notifier]
  · rw [shownBy_append]
    have hereSet : (system.queues.set workerId recvQueue)[other]? = some otherQueue := here
    by_cases own : workerId = other
    · subst own
      rw [List.getElem?_set_self (List.getElem?_eq_some_iff.mp queued).1] at hereSet
      cases hereSet
      rw [shownBy_self, packetsPut_append, itemsTaken_append, noPut, oneTaken,
        runsAlone.inOrder workerId _ queued]
      simp
    · rw [List.getElem?_set_ne own] at hereSet
      rw [shownBy_of_ne own, List.append_nil]
      exact runsAlone.inOrder other _ hereSet
  · rw [shownBy_append]
    by_cases own : workerId = other
    · subst own
      rw [List.getElem?_set_self (List.getElem?_eq_some_iff.mp receiving).1] at here
      have processedAlone := byItself false (notifications (shownBy workerId shown))
      have source : system.resultNotifier.sourceId = sourceId := by rw [runsAlone.notifier]
      rw [runsAlone.timeout, source] at processedAlone
      rw [shownBy_self]
      refine AsAlone.goesOn (runsAlone.workers workerId _ receiving) processedAlone rfl ?_
      cases here
      by_cases leaves : packet.ctrlMessageId = .shutdown
      · rw [if_pos leaves]
        trivial
      · rw [if_neg leaves]
        simp only [leaves, decide_false, Bool.or_false]
        rfl
    · rw [List.getElem?_set_ne own] at here
      rw [shownBy_of_ne own, List.append_nil]
      exact runsAlone.workers other thread here

theorem step_runsAlone {action : Action} (stepped : system.step action = some next)
    (runsAlone : system.RunsAlone responseTimeoutMsec sourceId shown) :
    next.RunsAlone responseTimeoutMsec sourceId (shown ++ system.events action) := by
  cases action with
  | receive message now =>
      obtain ⟨_, _, _, _, rfl⟩ := receive_cases stepped
      rw [events, List.append_nil]
      exact ⟨runsAlone.timeout, runsAlone.notifier, runsAlone.inOrder, runsAlone.workers⟩
  | drop =>
      obtain ⟨_, _, rfl⟩ := drop_cases stepped
      rw [events, List.append_nil]
      exact ⟨runsAlone.timeout, runsAlone.notifier, runsAlone.inOrder, runsAlone.workers⟩
  | handOver workerId => exact handOver_runsAlone stepped runsAlone
  | broadcast inst =>
      cases stepped
      exact broadcast_runsAlone inst runsAlone
  | broadcastTo workerId inst =>
      obtain ⟨recvQueue, queued, rfl⟩ := broadcastTo_cases stepped
      exact put_runsAlone queued _ runsAlone
  | testStop workerId =>
      rw [events, List.append_nil]
      exact testStop_runsAlone stepped runsAlone
  | processNext workerId clockMsec => exact processNext_runsAlone stepped runsAlone

theorem start_runsAlone (pool : ObjectPool) (workers : Nat)
    (responseTimeoutMsec : SizeT) (sourceId : String) :
    (start pool workers responseTimeoutMsec ⟨[], sourceId⟩).RunsAlone responseTimeoutMsec sourceId
      [] := by
  refine ⟨rfl, rfl, fun workerId recvQueue here => ?_, fun workerId thread here => ?_⟩
  · obtain rfl := List.eq_of_mem_replicate (List.mem_of_getElem? here)
    rfl
  · obtain rfl := List.eq_of_mem_replicate (List.mem_of_getElem? here)
    exact ⟨RadiusWorker.start ⟨[], sourceId⟩, rfl, rfl, rfl⟩

end System

/-- Whatever the order in which the threads of the system take their steps, each worker runs as
it would alone. -/
theorem workers_run_alone (pool : ObjectPool) (workers : Nat) (responseTimeoutMsec : SizeT)
    (sourceId : String) (actions : List Action) (system : System)
    (reached : (System.start pool workers responseTimeoutMsec ⟨[], sourceId⟩).run actions =
      some system) :
    system.RunsAlone responseTimeoutMsec sourceId
      ((System.start pool workers responseTimeoutMsec ⟨[], sourceId⟩).history actions) :=
  partialTrace_invariant (System.RunsAlone responseTimeoutMsec sourceId)
    (fun _ _ _ _ stepped runsAlone => System.step_runsAlone stepped runsAlone) reached
    (System.start_runsAlone pool workers responseTimeoutMsec sourceId)

/-- The second worker takes a request while the first has not moved. -/
theorem workers_run_alone_request :
    ∃ system, (System.start (.create (Fin.val : Fin 1 → Nat) fun _ _ => 0) 2 1000
        ⟨[], "probe"⟩).run (requestActions 1 7) = some system ∧
      system.RunsAlone 1000 "probe" ((System.start (.create (Fin.val : Fin 1 → Nat) fun _ _ => 0) 2
        1000 ⟨[], "probe"⟩).history (requestActions 1 7)) := by
  obtain ⟨system, ran⟩ := System.second_worker_keeps
  exact ⟨system, ran, workers_run_alone _ 2 1000 "probe" _ system ran⟩

end TrafficInspector
