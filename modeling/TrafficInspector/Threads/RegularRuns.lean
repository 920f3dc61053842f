import TrafficInspector.Packets.WireFormat
import TrafficInspector.RadiusSessions
import TrafficInspector.Threads.System

/-!
Owns the runs of the program as it is, which never broadcasts anything but `SYNC_TIMEOUT`. In
these no thread ends, every message is a packet or a SYNC, and a worker that takes one joins the
packet, keeps it, or gives up on others.
-/

namespace TrafficInspector

open Foundation

/-- Nothing is broadcast but `SYNC_TIMEOUT`. -/
def Action.IsRegular : Action → Prop
  | broadcast inst | broadcastTo _ inst => inst = .syncTimeout
  | receive _ _ | drop | handOver _ | testStop _ | processNext _ _ => True

/-- A decoded packet or a SYNC. -/
def RADIUSPacket.IsRegular (packet : RADIUSPacket) : Prop :=
  (∃ data : DataPacket, packet = data.packet) ∨
    packet = RADIUSPacket.ofControlMessageId .syncTimeout

/-! ### The pool holds objects -/

def ObjectPool.Stocked (pool : ObjectPool) : Prop := ∀ item ∈ pool, item ≠ none

section

variable {pool : ObjectPool}

theorem ObjectPool.Stocked.destroyItem (stocked : pool.Stocked)
    (item : RawPacketsPoolItem) : (pool.destroyItem item).Stocked := by
  cases item with
  | none => exact stocked
  | some ptr =>
      intro other member
      rcases List.mem_append.mp member with before | last
      · exact stocked other before
      · rw [List.mem_singleton.mp last]
        exact Option.some_ne_none ptr

theorem ObjectPool.Stocked.front (stocked : pool.Stocked) (supplied : pool ≠ []) :
    ∃ pack rest, pool = some pack :: rest := by
  obtain ⟨item, rest, front⟩ := List.exists_cons_of_ne_nil supplied
  have inPool : item ∈ pool := front ▸ List.mem_cons_self
  obtain ⟨pack, rfl⟩ := Option.ne_none_iff_exists'.mp (stocked item inPool)
  exact ⟨pack, rest, front⟩

private theorem ObjectPool.Stocked.destroy (stocked : pool.Stocked) (packet : RADIUSPacket) :
    ObjectPool.Stocked (packet.destroy pool) :=
  stocked.destroyItem _

private theorem ObjectPool.Stocked.processSync (stocked : pool.Stocked)
    (responseTimeoutMsec timeStamp : SizeT) (worker : RadiusWorker) :
    ObjectPool.Stocked (worker.processSyncPool responseTimeoutMsec timeStamp pool) := by
  unfold RadiusWorker.processSyncPool
  refine List.foldlRecOn _ _ stocked fun swept stockedSwept entry _ => ?_
  unfold RadiusWorker.syncEntryPool
  split
  · exact ObjectPool.Stocked.destroy stockedSwept entry.2
  · exact stockedSwept

theorem ObjectPool.stocked_create {size : Nat} (allocate : Fin size → Nat)
    (behind : Nat → ByteOrder.Memory) : (ObjectPool.create allocate behind).Stocked := by
  intro item member
  obtain ⟨index, _, rfl⟩ := List.mem_map.mp member
  exact Option.some_ne_none _

end

namespace System

/-- What every regular run keeps. -/
structure Regular (system : System) : Prop where
  lowered : system.processor.stop = false
  working : ∀ thread ∈ system.threads, thread ≠ .finished
  served : system.threads.length = system.queues.length
  known : ∀ recvQueue ∈ system.queues, ∀ packet ∈ recvQueue, packet.IsRegular
  stocked : system.pool.Stocked

/-- What a worker does with the message it takes. -/
inductive Takes (system : System) (workerId : Nat) (clockMsec : SizeT) (next : System) : Prop
  | joins {locals : RadiusWorker} {data : DataPacket} {req : RADIUSPacket}
      {recvQueue : List RADIUSPacket}
      (receiving : system.threads[workerId]? = some (.receiving locals))
      (queued : system.queues[workerId]? = some (data.packet :: recvQueue))
      (held : locals.packetSessionsMap[(⟨data.identifier⟩ : RadSessionPair)]? = some req)
      (joined : next = { system with
        pool := data.packet.destroy (req.destroy system.pool)
        processor := { system.processor with
          receivedPacketQueue := system.processor.receivedPacketQueue.set workerId recvQueue }
        resultNotifier := { system.resultNotifier with
          queue := system.resultNotifier.queue ++
            [⟨clockMsec, system.resultNotifier.sourceId, data.packet.avps, req.avps⟩] }
        threads := system.threads.set workerId (.testing { system.shared locals with
          resultNotifier := { system.resultNotifier with
            queue := system.resultNotifier.queue ++
              [⟨clockMsec, system.resultNotifier.sourceId, data.packet.avps, req.avps⟩] }
          packetSessionsMap := locals.packetSessionsMap.erase ⟨data.identifier⟩ }) })
  | keeps {locals : RadiusWorker} {data : DataPacket} {recvQueue : List RADIUSPacket}
      (receiving : system.threads[workerId]? = some (.receiving locals))
      (queued : system.queues[workerId]? = some (data.packet :: recvQueue))
      (free : locals.packetSessionsMap[(⟨data.identifier⟩ : RadSessionPair)]? = none)
      (kept : next = { system with
        processor := { system.processor with
          receivedPacketQueue := system.processor.receivedPacketQueue.set workerId recvQueue }
        threads := system.threads.set workerId (.testing { system.shared locals with
          packetSessionsMap :=
            locals.packetSessionsMap.insertIfNew ⟨data.identifier⟩ data.packet }) })
  | syncs {locals : RadiusWorker} {recvQueue : List RADIUSPacket}
      (receiving : system.threads[workerId]? = some (.receiving locals))
      (queued : system.queues[workerId]? =
        some (RADIUSPacket.ofControlMessageId .syncTimeout :: recvQueue))
      (synced : next = { system with
        pool := (system.shared locals).processSyncPool system.processor.responseTimeoutMsec
          clockMsec system.pool
        processor := { system.processor with
          receivedPacketQueue := system.processor.receivedPacketQueue.set workerId recvQueue }
        threads := system.threads.set workerId (.testing ((system.shared locals).processSync
          system.processor.responseTimeoutMsec clockMsec)) })

variable {system next : System} {workerId : Nat} {clockMsec : SizeT}

/-! ### What a worker takes -/

private theorem processes_data {data : DataPacket} {recvQueue : List RADIUSPacket}
    {locals after : RadiusWorker} {pool : ObjectPool}
    (processes : Processes system next workerId data.packet recvQueue locals after pool
      clockMsec) : system.Takes workerId clockMsec next := by
  obtain ⟨receiving, queued, processed, released, rfl⟩ := processes
  have own := data.getPacketSessionPair_eq
  unfold RadiusWorker.processMessage at processed
  unfold RadiusWorker.processMessagePool RadiusWorker.processPacketPool at released
  simp only [data.ctrlMessageId_eq, own, RadiusWorker.findSession_eq, bind, Except.bind]
    at processed released
  cases held : locals.packetSessionsMap[(⟨data.identifier⟩ : RadSessionPair)]? with
  | some req =>
      have heldShared : (system.shared locals).packetSessionsMap[
          (⟨data.identifier⟩ : RadSessionPair)]? = some req := held
      rw [RadiusWorker.processPacket_joins own heldShared] at processed
      rw [heldShared] at released
      cases processed
      cases released
      simp only [data.ctrlMessageId_eq, reduceCtorEq, if_false]
      exact .joins receiving queued held rfl
  | none =>
      have freeShared : (system.shared locals).packetSessionsMap[
          (⟨data.identifier⟩ : RadSessionPair)]? = none := held
      rw [RadiusWorker.processPacket_keeps own freeShared] at processed
      rw [freeShared] at released
      cases processed
      cases released
      simp only [data.ctrlMessageId_eq, reduceCtorEq, if_false]
      exact .keeps receiving queued held rfl

private theorem processes_sync {recvQueue : List RADIUSPacket} {locals after : RadiusWorker}
    {pool : ObjectPool}
    (processes : Processes system next workerId (RADIUSPacket.ofControlMessageId .syncTimeout)
      recvQueue locals after pool clockMsec) : system.Takes workerId clockMsec next := by
  obtain ⟨receiving, queued, processed, released, rfl⟩ := processes
  cases processed
  cases released
  refine .syncs receiving queued ?_
  have lowered := RadiusWorker.processSync_stop system.processor.responseTimeoutMsec clockMsec
    (system.shared locals)
  have same := RadiusWorker.processSync_resultNotifier system.processor.responseTimeoutMsec
    clockMsec (system.shared locals)
  rw [lowered, same]
  rfl

theorem takes_of_processNext (regular : system.Regular)
    (stepped : system.processNext workerId clockMsec = some next) :
    system.Takes workerId clockMsec next := by
  obtain ⟨packet, recvQueue, locals, after, pool, processes⟩ := processNext_cases stepped
  rcases regular.known _ (List.mem_of_getElem? processes.queued) packet List.mem_cons_self with
    ⟨data, rfl⟩ | rfl
  · exact processes_data processes
  · exact processes_sync processes

/-! ### Every regular run -/

/-- A worker takes a message, and is back at its test. -/
private theorem Regular.of_taken (regular : system.Regular) {pool : ObjectPool}
    {resultNotifier : ResultNotifier} {recvQueue : List RADIUSPacket} {packet : RADIUSPacket}
    (queued : system.queues[workerId]? = some (packet :: recvQueue)) (locals : RadiusWorker)
    (stocked : pool.Stocked) : Regular { system with
      pool, resultNotifier
      processor := { system.processor with
        receivedPacketQueue := system.processor.receivedPacketQueue.set workerId recvQueue }
      threads := system.threads.set workerId (.testing locals) } := by
  refine ⟨regular.lowered, fun thread member => ?_, ?_, fun left member => ?_, stocked⟩
  · rcases List.mem_or_eq_of_mem_set member with before | rfl
    · exact regular.working thread before
    · exact WorkerThread.noConfusion
  · show (system.threads.set workerId _).length = (system.queues.set workerId recvQueue).length
    rw [List.length_set, List.length_set]
    exact regular.served
  · rcases List.mem_or_eq_of_mem_set member with before | rfl
    · exact regular.known left before
    · exact fun other inRest =>
        regular.known _ (List.mem_of_getElem? queued) other (.tail packet inRest)

private theorem Regular.of_takes (regular : system.Regular)
    (takes : system.Takes workerId clockMsec next) : next.Regular := by
  cases takes with
  | joins receiving queued held joined =>
      rw [joined]
      exact regular.of_taken queued _ ((regular.stocked.destroy _).destroy _)
  | keeps receiving queued free kept =>
      rw [kept]
      exact regular.of_taken queued _ regular.stocked
  | syncs receiving queued synced =>
      rw [synced]
      exact regular.of_taken queued _ (regular.stocked.processSync _ _ _)

/-- A packet or a SYNC is put on a queue. -/
private theorem Regular.of_put (regular : system.Regular) {recvQueue : List RADIUSPacket}
    (queued : system.queues[workerId]? = some recvQueue) {packet : RADIUSPacket}
    (isRegular : packet.IsRegular) : Regular { system with
      processor := { system.processor with
        receivedPacketQueue := system.processor.receivedPacketQueue.set workerId
          (ObjectQueue.putObject recvQueue packet) } } := by
  refine ⟨regular.lowered, regular.working, ?_, fun after member => ?_, regular.stocked⟩
  · exact regular.served.trans List.length_set.symm
  · rcases List.mem_or_eq_of_mem_set member with before | rfl
    · exact regular.known after before
    · intro other inQueue
      rcases List.mem_append.mp inQueue with before | last
      · exact regular.known _ (List.mem_of_getElem? queued) other before
      · rw [List.mem_singleton.mp last]
        exact isRegular

theorem step_regular {action : Action} (isRegular : action.IsRegular)
    (stepped : system.step action = some next) (regular : system.Regular) : next.Regular := by
  cases action with
  | receive message now =>
      obtain ⟨pack, pool, _, front, rfl⟩ := receive_cases stepped
      refine ⟨regular.lowered, regular.working, regular.served, regular.known, ?_⟩
      exact fun item member => regular.stocked item (front ▸ List.mem_cons_of_mem _ member)
  | drop =>
      obtain ⟨frame, _, rfl⟩ := drop_cases stepped
      exact ⟨regular.lowered, regular.working, regular.served, regular.known,
        regular.stocked.destroyItem (some frame)⟩
  | handOver workerId =>
      obtain ⟨frame, recvQueue, packet, left, held, queued, built, rfl⟩ := handOver_cases stepped
      obtain ⟨rfl, _⟩ := ofPoolItem_ok built
      have put := regular.of_put queued (.inl ⟨⟨frame, packet, built⟩, rfl⟩)
      exact ⟨put.lowered, put.working, put.served, put.known, put.stocked⟩
  | broadcast inst =>
      obtain rfl : inst = .syncTimeout := isRegular
      cases stepped
      refine ⟨regular.lowered, regular.working, ?_, fun after member => ?_, regular.stocked⟩
      · exact regular.served.trans (List.length_map _).symm
      · obtain ⟨recvQueue, before, rfl⟩ := List.mem_map.mp member
        intro other inQueue
        rcases List.mem_append.mp inQueue with earlier | last
        · exact regular.known recvQueue before other earlier
        · exact .inr (List.mem_singleton.mp last)
  | broadcastTo workerId inst =>
      obtain rfl : inst = .syncTimeout := isRegular
      obtain ⟨recvQueue, queued, rfl⟩ := broadcastTo_cases stepped
      exact regular.of_put queued (.inr rfl)
  | testStop workerId =>
      obtain ⟨locals, atTest, ⟨raised, _⟩ | ⟨_, rfl⟩⟩ := testStop_cases stepped
      · rw [regular.lowered] at raised
        cases raised
      · refine ⟨regular.lowered, fun thread member => ?_, ?_, regular.known, regular.stocked⟩
        · rcases List.mem_or_eq_of_mem_set member with before | rfl
          · exact regular.working thread before
          · exact WorkerThread.noConfusion
        · exact List.length_set.trans regular.served
  | processNext workerId clockMsec => exact regular.of_takes (takes_of_processNext regular stepped)

theorem run_regular {actions : List Action} {final : System}
    (regularActions : ∀ action ∈ actions, Action.IsRegular action)
    (ran : system.run actions = some final) (regular : system.Regular) : final.Regular :=
  partialRun_invariant Action.IsRegular Regular
    (fun _ _ _ isRegular stepped regular => step_regular isRegular stepped regular)
    regularActions ran regular

theorem start_regular {size : Nat} (allocate : Fin size → Nat)
    (behind : Nat → ByteOrder.Memory) (workers : Nat) (responseTimeoutMsec : SizeT)
    (resultNotifier : ResultNotifier) :
    (start (.create allocate behind) workers responseTimeoutMsec resultNotifier).Regular := by
  refine ⟨rfl, fun thread member => ?_, ?_, fun recvQueue member => ?_,
    ObjectPool.stocked_create allocate behind⟩
  · rw [List.eq_of_mem_replicate member]
    exact WorkerThread.noConfusion
  · exact List.length_replicate.trans List.length_replicate.symm
  · rw [List.eq_of_mem_replicate member]
    exact fun packet inQueue => absurd inQueue List.not_mem_nil

end System

/-! ### A request is kept -/

/-- A request without attributes. -/
def requestMessage (identifier : UInt8) (source : IPAddress) : RADIUSMessage :=
  { accessRequest [] with source := ⟨source, 40000⟩, identifier }

/-- The request as it is received into the buffer. -/
def requestWith (pack : ETHPacket) (identifier : UInt8) (source : IPAddress) : DataPacket where
  frame := (NIC.receivePacket pack (some (requestMessage identifier source).bytes) 0).val
  packet :=
    (NIC.receivePacket pack (some (requestMessage identifier source).bytes) 0).val.decoderPacket
  built := by
    have carries := receivePacket_carries pack (requestMessage identifier source) [] 0 rfl
      (by decide)
    rw [carries.ofPoolItem (by decide) TypeLengthValue.endsEmpty_nil]
    rfl

theorem identifier_requestWith (pack : ETHPacket) (identifier : UInt8) (source : IPAddress) :
    (requestWith pack identifier source).identifier = identifier :=
  NIC.receivePacket_memory pack (requestMessage identifier source).bytes 0
    (show 62 ≤ 4096 by decide) 43 (show 43 < 62 by decide)

/-- The request is received and handed over to the worker, which takes it. -/
def requestActions (workerId : Nat) (identifier : UInt8) (source : IPAddress := ⟨10, 0, 0, 1⟩) :
    List Action :=
  [.receive (some (requestMessage identifier source).bytes) 0,
    .handOver workerId, .testStop workerId, .processNext workerId 0]

theorem requestActions_regular (workerId : Nat) (identifier : UInt8) (source : IPAddress) :
    ∀ action ∈ requestActions workerId identifier source, Action.IsRegular action := by
  simp [requestActions, Action.IsRegular]

namespace System

variable {system : System}

theorem receive_possible {pack : ETHPacket} {pool : ObjectPool}
    (waiting : system.packetPtr = none) (front : system.pool = some pack :: pool)
    (message : Option (List UInt8)) (now : SizeT) :
    system.step (.receive message now) =
      some { system with pool, packetPtr := some (NIC.receivePacket pack message now).val } := by
  show system.receive message now = _
  unfold receive
  rw [waiting, front]
  rfl

/-- A request that nobody waits for with its identifier is kept, with its buffer. -/
theorem keeps_request {pack : ETHPacket} {pool : ObjectPool} {workerId : Nat}
    {locals : RadiusWorker} (regular : system.Regular) (waiting : system.packetPtr = none)
    (front : system.pool = some pack :: pool) (idle : system.queues[workerId]? = some [])
    (testing : system.threads[workerId]? = some (.testing locals)) (identifier : UInt8)
    (source : IPAddress)
    (free : locals.packetSessionsMap[(⟨identifier⟩ : RadSessionPair)]? = none) :
    ∃ next, system.run (requestActions workerId identifier source) = some next ∧
      next.pool = pool ∧ next.packetPtr = none ∧
      next.queues = system.queues.set workerId [] ∧
      next.threads = system.threads.set workerId (.testing { system.shared locals with
        packetSessionsMap := locals.packetSessionsMap.insertIfNew ⟨identifier⟩
          (requestWith pack identifier source).packet }) := by
  let data := requestWith pack identifier source
  let received : System := { system with pool, packetPtr := some data.frame }
  let queued : System := { received with
    packetPtr := none
    processor := { system.processor with
      receivedPacketQueue := system.processor.receivedPacketQueue.set workerId [data.packet] } }
  let entered : System :=
    { queued with threads := system.threads.set workerId (.receiving locals) }
  have inQueues := (List.getElem?_eq_some_iff.mp idle).1
  have inThreads := (List.getElem?_eq_some_iff.mp testing).1
  have receives : system.step (.receive (some (requestMessage identifier source).bytes) 0) =
      some received := receive_possible waiting front _ _
  have held : received.packetPtr = some data.frame := rfl
  have empty : received.queues[workerId]? = some [] := idle
  have hands : received.step (.handOver workerId) = some queued :=
    handOver_step held empty data.built
  have enters : queued.step (.testStop workerId) = some entered := by
    have testingNow : queued.threads[workerId]? = some (.testing locals) := testing
    have lowered : queued.processor.stop = false := regular.lowered
    show queued.testStop workerId = _
    unfold testStop
    rw [testingNow, lowered]
    rfl
  have own : data.packet.getPacketSessionPair = .ok ⟨identifier⟩ :=
    data.getPacketSessionPair_eq.trans
      (congrArg (fun own => Except.ok (RadSessionPair.mk own))
        (identifier_requestWith pack identifier source))
  have isData : data.packet.ctrlMessageId = .processing := data.ctrlMessageId_eq
  have freeShared : (entered.shared locals).packetSessionsMap[
      (⟨identifier⟩ : RadSessionPair)]? = none := free
  have processed : (entered.shared locals).processMessage entered.processor.responseTimeoutMsec
      ⟨data.packet, 0⟩ = .ok { entered.shared locals with
        packetSessionsMap :=
          locals.packetSessionsMap.insertIfNew ⟨identifier⟩ data.packet } := by
    unfold RadiusWorker.processMessage
    simp only [isData]
    exact RadiusWorker.processPacket_keeps own freeShared 0
  have released : (entered.shared locals).processMessagePool
      entered.processor.responseTimeoutMsec ⟨data.packet, 0⟩ entered.pool = .ok pool := by
    unfold RadiusWorker.processMessagePool RadiusWorker.processPacketPool
    simp only [isData, own, RadiusWorker.findSession_eq, freeShared, bind, Except.bind,
      Option.map_none]
    rfl
  have takes := Processes.step ⟨List.getElem?_set_self inThreads,
    List.getElem?_set_self inQueues, processed, released, rfl⟩
  have ran := partialRun_cons.mpr ⟨received, receives, partialRun_cons.mpr
    ⟨queued, hands, partialRun_cons.mpr ⟨entered, enters, partialRun_cons.mpr
      ⟨_, takes, partialRun_nil _⟩⟩⟩⟩
  refine ⟨_, ran, ?_⟩
  simp only [isData, reduceCtorEq, if_false]
  exact ⟨trivial, rfl, List.set_set _, List.set_set _⟩

/-- The second of two workers is given a request, with the only buffer. -/
theorem second_worker_keeps : ∃ next, (start (.create (Fin.val : Fin 1 → Nat) fun _ _ => 0) 2 1000
      ⟨[], "probe"⟩).run (requestActions 1 7) = some next := by
  let worker : RadiusWorker := { resultNotifier := ⟨[], "probe"⟩ }
  obtain ⟨next, ran, _⟩ := @keeps_request _ _ _ 1 worker
    (start_regular (Fin.val : Fin 1 → Nat) (fun _ _ => 0) 2 1000 ⟨[], "probe"⟩) rfl rfl
    (show _ = some [] from rfl) rfl 7 _ Std.HashMap.getElem?_empty
  exact ⟨next, ran⟩

end System

end TrafficInspector
