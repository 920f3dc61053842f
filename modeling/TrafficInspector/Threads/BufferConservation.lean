import TrafficInspector.RadiusPairing
import TrafficInspector.Threads.System
import Mathlib.Data.FinEnum

/-!
Owns where the pool's objects are. Every step moves objects between the free list, the
main thread, the worker queues and the session maps, and at the end of a run each of
them is in exactly one of these places.
-/

namespace TrafficInspector

open Foundation

def WorkerThread.objects : WorkerThread → Multiset Nat
  | testing locals => locals.objects
  | receiving locals => locals.objects
  | finished => 0

namespace System

def inReceiveLoop (system : System) : Multiset Nat := system.packetPtr.objects

def inQueues (system : System) : Multiset Nat :=
  listHolds (listHolds RADIUSPacket.objects) system.queues

def inSessions (system : System) : Multiset Nat :=
  listHolds WorkerThread.objects system.threads

def objects (system : System) : Multiset Nat :=
  system.pool.objects + system.inReceiveLoop + system.inQueues + system.inSessions

private theorem listHolds_putObject (recvQueue : List RADIUSPacket) (packet : RADIUSPacket) :
    listHolds RADIUSPacket.objects (ObjectQueue.putObject recvQueue packet) =
      listHolds RADIUSPacket.objects recvQueue + packet.objects := by
  show listHolds _ (recvQueue ++ [packet]) = _
  rw [listHolds_append, listHolds_cons, listHolds_nil, add_zero]

/-! ### One step -/

section

variable {system next : System}

private theorem receive_objects {message : Option (List UInt8)} {now : SizeT}
    (stepped : system.receive message now = some next) : next.objects = system.objects := by
  obtain ⟨pack, pool, empty, front, rfl⟩ := receive_cases stepped
  have received : RawPacketsPoolItem.objects
      (some (NIC.receivePacket pack message now).val) = {pack.data} := by
    cases message <;> rfl
  have free : system.pool.objects = ObjectPool.objects pool + {pack.data} := by
    rw [front]
    exact (listHolds_cons _ _ _).trans (add_comm _ _)
  have none : system.inReceiveLoop = 0 := congrArg RawPacketsPoolItem.objects empty
  show ObjectPool.objects pool + RawPacketsPoolItem.objects (some _) + system.inQueues +
    system.inSessions = _
  rw [received, objects, none, free, add_zero]

private theorem drop_objects (stepped : system.drop = some next) :
    next.objects = system.objects := by
  obtain ⟨frame, held, rfl⟩ := drop_cases stepped
  have had : system.inReceiveLoop = RawPacketsPoolItem.objects (some frame) :=
    congrArg RawPacketsPoolItem.objects held
  show (system.pool.destroyItem (some frame)).objects + 0 + system.inQueues +
    system.inSessions = _
  rw [ObjectPool.objects_destroyItem, add_zero, objects, had]

private theorem handOver_objects {workerId : Nat}
    (stepped : system.handOver workerId = some next) : next.objects = system.objects := by
  obtain ⟨frame, recvQueue, packet, left, held, queued, built, rfl⟩ := handOver_cases stepped
  obtain ⟨rfl, avps, packetIs⟩ := ofPoolItem_ok built
  have had : system.inReceiveLoop = {frame.data} := congrArg RawPacketsPoolItem.objects held
  have owns : packet.objects = {frame.data} := by
    rw [packetIs]
    rfl
  have put : listHolds (listHolds RADIUSPacket.objects) (system.queues.set workerId
      (ObjectQueue.putObject recvQueue packet)) = system.inQueues + packet.objects :=
    listHolds_set_gains queued (listHolds_putObject recvQueue packet)
  show system.pool.objects + 0 + listHolds (listHolds RADIUSPacket.objects)
    (system.queues.set workerId (ObjectQueue.putObject recvQueue packet)) +
      system.inSessions = _
  rw [put, objects, had, owns, add_zero]
  abel

private theorem broadcastTo_objects {workerId : Nat} {inst : ControlMessageId}
    (stepped : system.broadcastTo workerId inst = some next) :
    next.objects = system.objects := by
  obtain ⟨recvQueue, queued, rfl⟩ := broadcastTo_cases stepped
  have put : listHolds (listHolds RADIUSPacket.objects) (system.queues.set workerId
      (ObjectQueue.putObject recvQueue (RADIUSPacket.ofControlMessageId inst))) =
        system.inQueues + 0 :=
    listHolds_set_gains queued (listHolds_putObject recvQueue _)
  rw [add_zero] at put
  exact congrArg (system.pool.objects + system.inReceiveLoop + · + system.inSessions) put

/-- A whole broadcast does what its turns do. -/
private theorem broadcast_objects {inst : ControlMessageId}
    (stepped : system.step (.broadcast inst) = some next) : next.objects = system.objects := by
  refine partialRun_invariant (fun action => ∃ workerId, action = .broadcastTo workerId inst)
    (fun later => later.objects = system.objects) ?_ (fun action member => ?_)
    ((broadcast_eq_run system inst).trans stepped) rfl
  · rintro state _ later ⟨workerId, rfl⟩ stepped same
    exact (broadcastTo_objects stepped).trans same
  · obtain ⟨workerId, _, rfl⟩ := List.mem_map.mp member
    exact ⟨workerId, rfl⟩

private theorem testStop_objects {workerId : Nat}
    (stepped : system.testStop workerId = some next) : next.objects = system.objects := by
  obtain ⟨locals, atTest, ⟨_, rfl⟩ | ⟨_, rfl⟩⟩ := testStop_cases stepped
  · have left : system.inSessions = listHolds WorkerThread.objects
        (system.threads.set workerId .finished) + locals.objects :=
      listHolds_set_loses atTest (zero_add _).symm
    show (locals.exitPool system.pool).objects + system.inReceiveLoop + system.inQueues +
      listHolds WorkerThread.objects (system.threads.set workerId .finished) = _
    rw [RadiusWorker.exitPool_objects, objects, left]
    abel
  · have kept : listHolds WorkerThread.objects (system.threads.set workerId
        (.receiving locals)) = system.inSessions + 0 :=
      listHolds_set_gains atTest (add_zero _).symm
    show system.pool.objects + system.inReceiveLoop + system.inQueues +
      listHolds WorkerThread.objects (system.threads.set workerId (.receiving locals)) = _
    rw [kept, add_zero]
    rfl

private theorem processNext_objects {workerId : Nat} {clockMsec : SizeT}
    (stepped : system.processNext workerId clockMsec = some next) :
    next.objects = system.objects := by
  obtain ⟨packet, recvQueue, locals, after, pool, processes⟩ := processNext_cases stepped
  obtain ⟨receiving, queued, processed, released, rfl⟩ := processes
  have balance := RadiusWorker.processMessage_objects processed released
  have before : (system.shared locals).objects = locals.objects := rfl
  have taken : system.inQueues = listHolds (listHolds RADIUSPacket.objects)
      (system.queues.set workerId recvQueue) + packet.objects :=
    listHolds_set_loses queued ((listHolds_cons _ _ _).trans (add_comm _ _))
  rw [before] at balance
  by_cases leaves : packet.ctrlMessageId = .shutdown
  · have left : system.inSessions = listHolds WorkerThread.objects
        (system.threads.set workerId .finished) + locals.objects :=
      listHolds_set_loses receiving (zero_add _).symm
    simp only [leaves, if_true]
    show (after.exitPool pool).objects + system.inReceiveLoop +
      listHolds (listHolds RADIUSPacket.objects) (system.queues.set workerId recvQueue) +
        listHolds WorkerThread.objects (system.threads.set workerId .finished) = _
    rw [RadiusWorker.exitPool_objects, balance, objects, taken, left]
    abel
  · have exchanged := listHolds_set WorkerThread.objects receiving (.testing after)
    simp only [leaves, if_false]
    show pool.objects + system.inReceiveLoop +
      listHolds (listHolds RADIUSPacket.objects) (system.queues.set workerId recvQueue) +
        listHolds WorkerThread.objects (system.threads.set workerId (.testing after)) = _
    apply add_right_cancel (b := after.objects + locals.objects)
    calc _ = (pool.objects + after.objects) + system.inReceiveLoop +
          listHolds (listHolds RADIUSPacket.objects) (system.queues.set workerId recvQueue) +
          (listHolds WorkerThread.objects (system.threads.set workerId (.testing after)) +
            locals.objects) := by abel
      _ = (system.pool.objects + locals.objects + packet.objects) + system.inReceiveLoop +
          listHolds (listHolds RADIUSPacket.objects) (system.queues.set workerId recvQueue) +
          (system.inSessions + after.objects) := by
        rw [balance]
        exact congrArg _ exchanged
      _ = _ := by
        rw [objects, taken]
        abel

/-- No step loses an object or makes one. -/
theorem step_objects {action : Action} (stepped : system.step action = some next) :
    next.objects = system.objects := by
  cases action with
  | receive message now => exact receive_objects stepped
  | drop => exact drop_objects stepped
  | handOver workerId => exact handOver_objects stepped
  | broadcast inst => exact broadcast_objects stepped
  | broadcastTo workerId inst => exact broadcastTo_objects stepped
  | testStop workerId => exact testStop_objects stepped
  | processNext workerId clockMsec => exact processNext_objects stepped

theorem step_threads_length {action : Action} (stepped : system.step action = some next) :
    next.threads.length = system.threads.length := by
  cases action with
  | receive message now =>
      obtain ⟨_, _, _, _, rfl⟩ := receive_cases stepped
      rfl
  | drop =>
      obtain ⟨_, _, rfl⟩ := drop_cases stepped
      rfl
  | handOver workerId =>
      obtain ⟨_, _, _, _, _, _, _, rfl⟩ := handOver_cases stepped
      rfl
  | broadcast inst =>
      cases stepped
      rfl
  | broadcastTo workerId inst =>
      obtain ⟨_, _, rfl⟩ := broadcastTo_cases stepped
      rfl
  | testStop workerId =>
      obtain ⟨locals, _, ⟨_, rfl⟩ | ⟨_, rfl⟩⟩ := testStop_cases stepped
      · exact List.length_set
      · exact List.length_set
  | processNext workerId clockMsec =>
      obtain ⟨packet, recvQueue, locals, after, pool, processes⟩ := processNext_cases stepped
      rw [processes.next]
      exact List.length_set

end

/-! ### Every run -/

theorem run_objects {system next : System} {actions : List Action}
    (ran : system.run actions = some next) : next.objects = system.objects :=
  partialRun_invariant (fun _ => True) (fun later => later.objects = system.objects)
    (fun _ _ _ _ stepped same => (step_objects stepped).trans same)
    (fun _ _ => trivial) ran rfl

theorem run_threads_length {system next : System} {actions : List Action}
    (ran : system.run actions = some next) : next.threads.length = system.threads.length :=
  partialRun_invariant (fun _ => True)
    (fun later => later.threads.length = system.threads.length)
    (fun _ _ _ _ stepped same => (step_threads_length stepped).trans same)
    (fun _ _ => trivial) ran rfl

theorem start_objects {size : Nat} (allocate : Fin size → Nat)
    (behind : Nat → Foundation.ByteOrder.Memory) (workers : Nat) (responseTimeoutMsec : SizeT)
    (resultNotifier : ResultNotifier) :
    (start (.create allocate behind) workers responseTimeoutMsec resultNotifier).objects =
      Multiset.map allocate Finset.univ.val := by
  have queues : listHolds (listHolds RADIUSPacket.objects) (List.replicate workers []) = 0 :=
    listHolds_replicate (listHolds RADIUSPacket.objects) rfl workers
  have empty : (WorkerThread.testing { resultNotifier }).objects = 0 :=
    mapHolds_empty RADIUSPacket.objects
  have threads := listHolds_replicate WorkerThread.objects empty workers
  show (ObjectPool.create allocate behind).objects + 0 +
    listHolds (listHolds RADIUSPacket.objects) (List.replicate workers []) +
      listHolds WorkerThread.objects (List.replicate workers (.testing { resultNotifier })) = _
  rw [queues, threads, ObjectPool.objects_create, add_zero, add_zero, add_zero]

end System

/-! ### The session maps -/

instance : Fintype RadSessionPair :=
  Fintype.ofEquiv UInt8
    ⟨RadSessionPair.mk, RadSessionPair.identifier, fun _ => rfl, fun _ => rfl⟩

theorem card_radSessionPair : Fintype.card RadSessionPair = 256 := by
  rw [Fintype.ofEquiv_card, ← FinEnum.card_eq_fintypeCard]
  exact FinEnum.card_UInt8

/-- A map has one entry for each identifier at most. -/
theorem RadiusWorker.card_objects_le (worker : RadiusWorker) : worker.objects.card ≤ 256 := by
  have entries := card_listHolds_le (fun entry : RadSessionPair × RADIUSPacket => entry.2.objects)
    (fun entry => entry.2.card_objects_le) worker.packetSessionsMap.toList
  have keys := size_le_card worker.packetSessionsMap
  rw [card_radSessionPair, ← Std.HashMap.length_toList] at keys
  exact Nat.le_trans entries keys

theorem System.card_inSessions_le (system : System) :
    system.inSessions.card ≤ 256 * system.threads.length := by
  unfold System.inSessions
  induction system.threads with
  | nil => exact Nat.zero_le _
  | cons thread threads inductionHypothesis =>
      have own : thread.objects.card ≤ 256 := by
        cases thread with
        | testing locals => exact locals.card_objects_le
        | receiving locals => exact locals.card_objects_le
        | finished => exact Nat.zero_le _
      rw [listHolds_cons, Multiset.card_add, List.length_cons]
      omega

/-- Each of the pool's objects is in exactly one place, nothing else is anywhere, and the
session maps hold at most one packet for each worker and identifier. -/
structure System.Conserves {size : Nat} (allocate : Fin size ↪ Nat) (workers : Nat)
    (system : System) : Prop where
  partitioned : system.pool.objects + system.inReceiveLoop + system.inQueues +
    system.inSessions = Multiset.map allocate Finset.univ.val
  inOnePlace : ∀ index, system.pool.objects.count (allocate index) +
    system.inReceiveLoop.count (allocate index) + system.inQueues.count (allocate index) +
    system.inSessions.count (allocate index) = 1
  bounded : system.inSessions.card ≤ 256 * workers

/-- Buffers are conserved in every state that the threads reach, in whatever order they
take their steps. -/
theorem buffers_conserved {size : Nat} (allocate : Fin size ↪ Nat)
    (behind : Nat → Foundation.ByteOrder.Memory) (workers : Nat) (responseTimeoutMsec : SizeT)
    (resultNotifier : ResultNotifier) (actions : List Action) (system : System)
    (reached : (System.start (.create allocate behind) workers responseTimeoutMsec
      resultNotifier).run actions = some system) :
    system.Conserves allocate workers := by
  have partitioned := (System.run_objects reached).trans
    (System.start_objects allocate behind workers responseTimeoutMsec resultNotifier)
  have length := System.run_threads_length reached
  refine ⟨partitioned, fun index => ?_, ?_⟩
  · have once : (Multiset.map allocate Finset.univ.val).count (allocate index) = 1 := by
      rw [Multiset.count_map_eq_count' _ _ allocate.injective]
      exact Multiset.count_eq_one_of_mem Finset.univ.nodup (Finset.mem_univ index)
    rw [← partitioned, System.objects] at once
    simpa only [Multiset.count_add] using once
  · have bound := system.card_inSessions_le
    rw [length] at bound
    exact Nat.le_trans bound (Nat.le_of_eq (congrArg _ List.length_replicate))

/-- A request was taken from the queue and waits for its reply. -/
theorem buffers_conserved_pending_request :
    ∃ system, (System.start (.create (Fin.valEmbedding : Fin 2 ↪ Nat) fun _ _ => 0) 1 1000
        ⟨[], "probe"⟩).run
          [.receive (some (accessRequest []).bytes) 0, .handOver 0, .testStop 0,
            .processNext 0 0] = some system ∧
      system.Conserves (Fin.valEmbedding : Fin 2 ↪ Nat) 1 := by
  let worker : RadiusWorker := { resultNotifier := ⟨[], "probe"⟩ }
  let received : System :=
    { System.start [some (ETHPacket.create 1 fun _ => 0)] 1 1000 ⟨[], "probe"⟩ with
      packetPtr := some bareRequest.frame }
  let queued : System := { received with
    packetPtr := none
    processor := { received.processor with receivedPacketQueue := [[bareRequest.packet]] } }
  let entered : System := { queued with threads := [.receiving worker] }
  have held : received.packetPtr = some bareRequest.frame := rfl
  have empty : received.queues[0]? = some [] := rfl
  have handed : received.step (.handOver 0) = some queued :=
    System.handOver_step held empty bareRequest.built
  obtain ⟨after, pool, processed, released⟩ := RadiusWorker.processPacket_returns
    (entered.shared worker) bareRequest.getPacketSessionPair_eq 0 entered.pool
  obtain ⟨system, taken⟩ : ∃ system, entered.step (.processNext 0 0) = some system :=
    ⟨_, System.Processes.step ⟨rfl, rfl, processed, released, rfl⟩⟩
  have last : partialRun System.step entered [.processNext 0 0] = some system :=
    partialRun_cons.mpr ⟨system, taken, rfl⟩
  have reached : (System.start (.create (Fin.valEmbedding : Fin 2 ↪ Nat) fun _ _ => 0) 1 1000
      ⟨[], "probe"⟩).run [.receive (some (accessRequest []).bytes) 0, .handOver 0, .testStop 0,
        .processNext 0 0] = some system :=
    partialRun_cons.mpr ⟨received, rfl, partialRun_cons.mpr
      ⟨queued, handed, partialRun_cons.mpr ⟨entered, rfl, last⟩⟩⟩
  exact ⟨system, reached,
    buffers_conserved Fin.valEmbedding (fun _ _ => 0) 1 1000 ⟨[], "probe"⟩ _ system reached⟩

end TrafficInspector
