import TrafficInspector.Foundation.PartialRun
import TrafficInspector.PacketProcessor
import TrafficInspector.Threads.BufferRelease

/-!
Owns the program as threads that share a pool, the queues of the workers of one
`PacketProcessor<RADIUSPacket>`, its stop flag and the notifier: the main thread at the
points of its loop, the workers at the points of theirs, and one step of each. A queue
operation is atomic under the queue's lock.

What a worker does with a message is one step, and a message that it has taken counts as queued
until that is done. `SystemExpansion` shows each run to be one of the program in which the worker
takes, notifies and destroys step by step. Nothing is lost the other way round: of all that the step
does, the other threads see only the raised flag, or the notification, in one order and not in
another. Nobody else takes from the worker's queue, so that it might take the message as late as
that; its map is its own; and a packet that is destroyed adds an object to the pool, as it might
have as early as that, but for the order of the pool, of which no result speaks.
-/

namespace TrafficInspector

open Foundation

/-- A worker between two steps, with the variables of its thread. -/
inductive WorkerThread where
  /-- In front of `while(!stopFlag)`. -/
  | testing (locals : RadiusWorker)
  /-- In `getObject`. -/
  | receiving (locals : RadiusWorker)
  | finished

/-- `packetPtr` is the item the main thread holds inside its loop. The flag and the notifier
in the workers' variables are references; the shared ones count. -/
structure System where
  pool : ObjectPool
  packetPtr : RawPacketsPoolItem := none
  processor : PacketProcessor .radius
  resultNotifier : ResultNotifier
  threads : List WorkerThread

/-- The queues of the workers, each in the order in which its worker takes from it. -/
def System.queues (system : System) : List (List RADIUSPacket) :=
  system.processor.receivedPacketQueue

inductive Action where
  /-- `receivePacket`: the message, if `recvfrom` got one, and the clock's reading. -/
  | receive (message : Option (List UInt8)) (now : SizeT)
  /-- The end of the loop's body for a packet that cannot be routed. -/
  | drop
  /-- The packet is built and put on the queue of a worker; which worker is left open. -/
  | handOver (workerId : Nat)
  /-- A whole broadcast, with no other step in between. -/
  | broadcast (inst : ControlMessageId)
  /-- One turn of a broadcast's loop over the queues. -/
  | broadcastTo (workerId : Nat) (inst : ControlMessageId)
  | testStop (workerId : Nat)
  /-- A worker takes a message and processes it, with the clock reading that takes. -/
  | processNext (workerId : Nat) (clockMsec : SizeT)

namespace System

/-- The pool and the processor are new, and every thread is about to enter its loop. -/
def start (pool : ObjectPool) (workers : Nat) (responseTimeoutMsec : SizeT)
    (resultNotifier : ResultNotifier) : System where
  pool := pool
  processor := { PacketProcessor.create .radius workers 2000 with responseTimeoutMsec }
  resultNotifier := resultNotifier
  threads := List.replicate workers (.testing { resultNotifier })

def receive (system : System) (message : Option (List UInt8)) (now : SizeT) : Option System :=
  match system.packetPtr, ObjectQueue.getObject system.pool with
  | none, some (some pack, pool) =>
      some { system with pool, packetPtr := some (NIC.receivePacket pack message now).val }
  | _, _ => none

def drop (system : System) : Option System :=
  match system.packetPtr with
  | some frame =>
      some { system with pool := system.pool.destroyItem (some frame), packetPtr := none }
  | none => none

/-- The hand-over that `canBeDispatchered` and `onDispatchImpl` are there for: in the source the
one does not come back from the root, and the other computes the worker's number from the item it
has emptied. What is left of the item is destroyed with the loop's body. -/
def handOver (system : System) (workerId : Nat) : Option System :=
  match system.packetPtr, system.processor.receivedPacketQueue[workerId]? with
  | some frame, some recvQueue =>
      match RADIUSPacket.ofPoolItem (some frame) with
      | .ok (packet, left) =>
          some { system with
            pool := system.pool.destroyItem left
            packetPtr := none
            processor := { system.processor with
              receivedPacketQueue := system.processor.receivedPacketQueue.set workerId
                (ObjectQueue.putObject recvQueue packet) } }
      | .error _ => none
  | _, _ => none

def broadcastTo (system : System) (workerId : Nat) (inst : ControlMessageId) : Option System :=
  system.processor.receivedPacketQueue[workerId]?.map fun workerQueue =>
    { system with processor := { system.processor with
      receivedPacketQueue := system.processor.receivedPacketQueue.set workerId
        (ObjectQueue.putObject workerQueue (RADIUSPacket.ofControlMessageId inst)) } }

/-- `while(!stopFlag)`: on into the body, or out of the thread's function. -/
def testStop (system : System) (workerId : Nat) : Option System :=
  match system.threads[workerId]? with
  | some (.testing locals) =>
      if system.processor.stop then
        some { system with
          pool := locals.exitPool system.pool
          threads := system.threads.set workerId .finished }
      else
        some { system with threads := system.threads.set workerId (.receiving locals) }
  | _ => none

/-- What is shared of a worker's variables, as a step finds it. -/
def shared (system : System) (locals : RadiusWorker) : RadiusWorker :=
  { locals with stop := system.processor.stop, resultNotifier := system.resultNotifier }

/-- The body behind the test. A `SHUTDOWN` breaks out of the loop and ends the thread. -/
def processNext (system : System) (workerId : Nat) (clockMsec : SizeT) : Option System :=
  match system.threads[workerId]?,
      system.processor.receivedPacketQueue[workerId]?.bind ObjectQueue.getObject with
  | some (.receiving locals), some (packet, recvQueue) =>
      let worker := system.shared locals
      let item : QueueItem := ⟨packet, clockMsec⟩
      match worker.processMessage system.processor.responseTimeoutMsec item,
          worker.processMessagePool system.processor.responseTimeoutMsec item system.pool with
      | .ok after, .ok pool =>
          let leaves := packet.ctrlMessageId = .shutdown
          some { system with
            pool := if leaves then after.exitPool pool else pool
            processor := { system.processor with
              receivedPacketQueue := system.processor.receivedPacketQueue.set workerId recvQueue
              stop := after.stop }
            resultNotifier := after.resultNotifier
            threads := system.threads.set workerId (if leaves then .finished else .testing after) }
      | _, _ => none
  | _, _ => none

/-- One step of one thread, where it is possible. A call that does not return has no next state. -/
def step (system : System) : Action → Option System
  | .receive message now => system.receive message now
  | .drop => system.drop
  | .handOver workerId => system.handOver workerId
  | .broadcast inst =>
      some { system with processor := (system.processor.onDispatchBroadcastImpl inst).2 }
  | .broadcastTo workerId inst => system.broadcastTo workerId inst
  | .testStop workerId => system.testStop workerId
  | .processNext workerId clockMsec => system.processNext workerId clockMsec

def run (system : System) (actions : List Action) : Option System :=
  partialRun step system actions

/-! ### What each step does -/

section

variable {system next : System} {workerId : Nat}

theorem receive_cases {message : Option (List UInt8)} {now : SizeT}
    (stepped : system.receive message now = some next) :
    ∃ pack pool, system.packetPtr = none ∧ system.pool = some pack :: pool ∧
      next = { system with pool, packetPtr := some (NIC.receivePacket pack message now).val } := by
  unfold receive at stepped
  split at stepped
  · rename_i pack pool empty taken
    exact ⟨pack, pool, empty, ObjectQueue.getObject_eq_some.mp taken,
      (Option.some.inj stepped).symm⟩
  · cases stepped

theorem drop_cases (stepped : system.drop = some next) :
    ∃ frame, system.packetPtr = some frame ∧ next =
      { system with pool := system.pool.destroyItem (some frame), packetPtr := none } := by
  unfold drop at stepped
  split at stepped
  · rename_i frame held
    exact ⟨frame, held, (Option.some.inj stepped).symm⟩
  · cases stepped

theorem handOver_cases (stepped : system.handOver workerId = some next) :
    ∃ frame recvQueue packet left, system.packetPtr = some frame ∧
      system.queues[workerId]? = some recvQueue ∧
      RADIUSPacket.ofPoolItem (some frame) = .ok (packet, left) ∧
      next = { system with
        pool := system.pool.destroyItem left
        packetPtr := none
        processor := { system.processor with
          receivedPacketQueue := system.processor.receivedPacketQueue.set workerId
            (ObjectQueue.putObject recvQueue packet) } } := by
  unfold handOver at stepped
  split at stepped
  · rename_i frame recvQueue held queued
    split at stepped
    · rename_i packet left built
      exact ⟨frame, recvQueue, packet, left, held, queued, built,
        (Option.some.inj stepped).symm⟩
    · cases stepped
  · cases stepped

theorem handOver_step {frame : ETHPacket} {recvQueue : List RADIUSPacket}
    {packet : RADIUSPacket} {left : RawPacketsPoolItem} (held : system.packetPtr = some frame)
    (queued : system.queues[workerId]? = some recvQueue)
    (built : RADIUSPacket.ofPoolItem (some frame) = .ok (packet, left)) :
    system.step (.handOver workerId) = some { system with
      pool := system.pool.destroyItem left
      packetPtr := none
      processor := { system.processor with
        receivedPacketQueue := system.processor.receivedPacketQueue.set workerId
          (ObjectQueue.putObject recvQueue packet) } } := by
  have queuedAt : system.processor.receivedPacketQueue[workerId]? = some recvQueue := queued
  show system.handOver workerId = _
  unfold handOver
  rw [held, queuedAt]
  dsimp only
  rw [built]

theorem broadcastTo_cases {inst : ControlMessageId}
    (stepped : system.broadcastTo workerId inst = some next) :
    ∃ recvQueue, system.queues[workerId]? = some recvQueue ∧
      next = { system with processor := { system.processor with
        receivedPacketQueue := system.processor.receivedPacketQueue.set workerId
          (ObjectQueue.putObject recvQueue (RADIUSPacket.ofControlMessageId inst)) } } := by
  obtain ⟨recvQueue, queued, rfl⟩ := Option.map_eq_some_iff.mp stepped
  exact ⟨recvQueue, queued, rfl⟩

/-- A broadcast puts its message on one queue after the other. -/
theorem broadcast_eq_run (system : System) (inst : ControlMessageId) :
    system.run ((List.range system.queues.length).map (Action.broadcastTo · inst)) =
      system.step (.broadcast inst) := by
  have inside := partialRun_inside (fun queues : List (List RADIUSPacket) =>
    { system with processor := { system.processor with receivedPacketQueue := queues } })
    (Action.broadcastTo · inst)
    (fun queues workerId => show System.step _ (.broadcastTo workerId inst) =
      (queues[workerId]?.map fun recvQueue => queues.set workerId
        (ObjectQueue.putObject recvQueue (RADIUSPacket.ofControlMessageId inst))).map _ from by
      rw [Option.map_map]
      rfl)
    system.queues (List.range system.queues.length)
  refine inside.trans ?_
  rw [partialRun_set_range]
  rfl

theorem testStop_cases (stepped : system.testStop workerId = some next) :
    ∃ locals, system.threads[workerId]? = some (.testing locals) ∧
      ((system.processor.stop = true ∧ next = { system with
          pool := locals.exitPool system.pool
          threads := system.threads.set workerId .finished }) ∨
        (system.processor.stop = false ∧ next =
          { system with threads := system.threads.set workerId (.receiving locals) })) := by
  unfold testStop at stepped
  split at stepped
  · rename_i locals atTest
    refine ⟨locals, atTest, ?_⟩
    cases flag : system.processor.stop with
    | true =>
        rw [flag] at stepped
        exact .inl ⟨rfl, (Option.some.inj stepped).symm⟩
    | false =>
        rw [flag] at stepped
        exact .inr ⟨rfl, (Option.some.inj stepped).symm⟩
  · cases stepped

/-- A message taken and processed, with the variables the worker has after it. -/
structure Processes (system next : System) (workerId : Nat) (packet : RADIUSPacket)
    (recvQueue : List RADIUSPacket) (locals after : RadiusWorker) (pool : ObjectPool)
    (clockMsec : SizeT) : Prop where
  receiving : system.threads[workerId]? = some (.receiving locals)
  queued : system.queues[workerId]? = some (packet :: recvQueue)
  processed : (system.shared locals).processMessage system.processor.responseTimeoutMsec
    ⟨packet, clockMsec⟩ = .ok after
  released : (system.shared locals).processMessagePool system.processor.responseTimeoutMsec
    ⟨packet, clockMsec⟩ system.pool = .ok pool
  next : next = { system with
    pool := if packet.ctrlMessageId = .shutdown then after.exitPool pool else pool
    processor := { system.processor with
      receivedPacketQueue := system.processor.receivedPacketQueue.set workerId recvQueue
      stop := after.stop }
    resultNotifier := after.resultNotifier
    threads := system.threads.set workerId
      (if packet.ctrlMessageId = .shutdown then .finished else .testing after) }

theorem processNext_cases {clockMsec : SizeT}
    (stepped : system.processNext workerId clockMsec = some next) :
    ∃ packet recvQueue locals after pool,
      Processes system next workerId packet recvQueue locals after pool clockMsec := by
  unfold processNext at stepped
  split at stepped
  · rename_i locals packet recvQueue receiving taken
    obtain ⟨queue, queued, front⟩ := Option.bind_eq_some_iff.mp taken
    dsimp only at stepped
    split at stepped
    · rename_i after pool processed released
      exact ⟨packet, recvQueue, locals, after, pool, receiving,
        queued.trans (congrArg some (ObjectQueue.getObject_eq_some.mp front)), processed,
        released, (Option.some.inj stepped).symm⟩
    · cases stepped
  · cases stepped

theorem Processes.step {packet : RADIUSPacket} {recvQueue : List RADIUSPacket}
    {locals after : RadiusWorker} {pool : ObjectPool} {clockMsec : SizeT}
    (processes : Processes system next workerId packet recvQueue locals after pool clockMsec) :
    system.step (.processNext workerId clockMsec) = some next := by
  obtain ⟨receiving, queued, processed, released, rfl⟩ := processes
  have taken : system.processor.receivedPacketQueue[workerId]?.bind ObjectQueue.getObject =
      some (packet, recvQueue) :=
    (congrArg (fun queue => Option.bind queue ObjectQueue.getObject) queued).trans rfl
  show system.processNext workerId clockMsec = _
  unfold processNext
  rw [receiving, taken]
  dsimp only
  rw [processed, released]

end

end System

end TrafficInspector
