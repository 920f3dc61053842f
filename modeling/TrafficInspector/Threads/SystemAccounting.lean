import TrafficInspector.Foundation.Holdings
import TrafficInspector.Threads.RegularRuns

/-!
Owns the accounting of the whole system. Every packet that the main thread has handed over is in
a worker's queue, is one half of a notification, was given up on by a SYNC, or waits in a session
map, in whatever order the threads take their steps.
-/

namespace TrafficInspector

open Foundation

def Action.handsOver : Action → Bool
  | handOver _ => true
  | receive _ _ | drop | broadcast _ | broadcastTo _ _ | testStop _ | processNext _ _ => false

def RADIUSPacket.isData (packet : RADIUSPacket) : Bool :=
  decide (packet.ctrlMessageId = .processing)

namespace WorkerThread

/-- How many packets wait for the other half of their session. -/
def waiting : WorkerThread → Nat
  | testing locals | receiving locals => locals.packetSessionsMap.size
  | finished => 0

def givenUp : WorkerThread → Nat
  | testing locals | receiving locals => locals.totalPacketsTimeoutCounter.toNat
  | finished => 0

/-- Between two messages the interval counter is zero, and the reported intervals add up to the
total. -/
def Tidy : WorkerThread → Prop
  | testing locals | receiving locals =>
      locals.intervalPacketsTimeoutCounter = 0 ∧
        (locals.syncReports.map fun report => report.interval.toNat).sum =
          locals.totalPacketsTimeoutCounter.toNat
  | finished => True

end WorkerThread

namespace System

def queued (system : System) : Nat := listHolds (List.countP RADIUSPacket.isData) system.queues

def notified (system : System) : Nat := system.resultNotifier.queue.length

def waiting (system : System) : Nat := listHolds WorkerThread.waiting system.threads

def givenUp (system : System) : Nat := listHolds WorkerThread.givenUp system.threads

/-- All the packets that the workers have been given. -/
def accountedFor (system : System) : Nat :=
  system.queued + 2 * system.notified + system.givenUp + system.waiting

variable {system next : System} {workerId : Nat}

/-! ### What one step moves -/

/-- A worker that has taken a message: its queue is shorter by the message, and its variables
are those it has then. -/
private theorem accountedFor_of_taken {packet : RADIUSPacket} {recvQueue : List RADIUSPacket}
    {thread : WorkerThread} (front : system.queues[workerId]? = some (packet :: recvQueue))
    (threadAt : system.threads[workerId]? = some thread) (after : WorkerThread)
    (queues : next.queues = system.queues.set workerId recvQueue)
    (threads : next.threads = system.threads.set workerId after)
    (balance : 2 * next.notified + after.givenUp + after.waiting =
      packet.isData.toNat + 2 * system.notified + thread.givenUp + thread.waiting) :
    next.accountedFor = system.accountedFor := by
  have queued := listHolds_set (List.countP RADIUSPacket.isData) front recvQueue
  have givenUp := listHolds_set WorkerThread.givenUp threadAt after
  have waiting := listHolds_set WorkerThread.waiting threadAt after
  have counted : (packet :: recvQueue).countP RADIUSPacket.isData =
      recvQueue.countP RADIUSPacket.isData + packet.isData.toNat := by
    rw [List.countP_cons]
    cases packet.isData <;> rfl
  have taken : next.queued + packet.isData.toNat = system.queued := by
    unfold System.queued
    rw [queues]
    omega
  have threadsGivenUp : next.givenUp + thread.givenUp = system.givenUp + after.givenUp := by
    unfold System.givenUp
    rw [threads]
    exact givenUp
  have threadsWaiting : next.waiting + thread.waiting = system.waiting + after.waiting := by
    unfold System.waiting
    rw [threads]
    exact waiting
  unfold accountedFor
  omega

theorem isData_packet (data : DataPacket) : data.packet.isData = true :=
  decide_eq_true data.ctrlMessageId_eq

private theorem le_accountedFor {thread : WorkerThread}
    (threadAt : system.threads[workerId]? = some thread) :
    thread.givenUp + thread.waiting ≤ system.accountedFor := by
  have givenUp : thread.givenUp ≤ system.givenUp := le_listHolds threadAt
  have waiting : thread.waiting ≤ system.waiting := le_listHolds threadAt
  unfold accountedFor
  omega

/-- The counter does not go round, as there are no more packets to give up on. -/
private theorem total_of_sync {locals : RadiusWorker} (responseTimeoutMsec clockMsec : SizeT)
    (few : locals.totalPacketsTimeoutCounter.toNat + locals.packetSessionsMap.size < 2 ^ 64) :
    (locals.processSync responseTimeoutMsec clockMsec).totalPacketsTimeoutCounter.toNat =
        locals.totalPacketsTimeoutCounter.toNat +
          (locals.timedOut responseTimeoutMsec clockMsec).length ∧
      (UInt64.ofNat (locals.timedOut responseTimeoutMsec clockMsec).length).toNat =
        (locals.timedOut responseTimeoutMsec clockMsec).length := by
  have size := RadiusWorker.processSync_size responseTimeoutMsec clockMsec locals
  have fits : (UInt64.ofNat (locals.timedOut responseTimeoutMsec clockMsec).length).toNat =
      (locals.timedOut responseTimeoutMsec clockMsec).length :=
    UInt64.toNat_ofNat_of_lt' (by simp only [UInt64.size]; omega)
  refine ⟨?_, fits⟩
  rw [RadiusWorker.processSync_total, UInt64.toNat_add, fits]
  omega

private theorem takes_accounts {clockMsec : SizeT}
    (takes : system.Takes workerId clockMsec next) (few : system.accountedFor < 2 ^ 64) :
    next.accountedFor = system.accountedFor := by
  cases takes with
  | @joins locals data req recvQueue receiving queued held joined =>
      have present := mem_of_getElem? held
      have nonempty := size_pos_of_mem present
      have sessions : (locals.packetSessionsMap.erase (⟨data.identifier⟩ : RadSessionPair)).size =
          locals.packetSessionsMap.size - 1 := by
        rw [Std.HashMap.size_erase, if_pos present]
      have queue : next.notified = system.notified + 1 := by
        rw [joined]
        exact List.length_append
      refine accountedFor_of_taken queued receiving _ (by rw [joined]; rfl) (by rw [joined]) ?_
      rw [isData_packet, queue]
      show 2 * (system.notified + 1) + locals.totalPacketsTimeoutCounter.toNat +
        (locals.packetSessionsMap.erase _).size = 1 + 2 * system.notified +
          locals.totalPacketsTimeoutCounter.toNat + locals.packetSessionsMap.size
      rw [sessions]
      omega
  | @keeps locals data recvQueue receiving queued free kept =>
      have absent := not_mem_of_getElem? free
      have sessions : (locals.packetSessionsMap.insertIfNew (⟨data.identifier⟩ : RadSessionPair)
          data.packet).size = locals.packetSessionsMap.size + 1 := by
        rw [Std.HashMap.size_insertIfNew, if_neg absent]
      have queue : next.notified = system.notified := by rw [kept]; rfl
      refine accountedFor_of_taken queued receiving _ (by rw [kept]; rfl) (by rw [kept]) ?_
      rw [isData_packet, queue]
      show 2 * system.notified + locals.totalPacketsTimeoutCounter.toNat +
        (locals.packetSessionsMap.insertIfNew _ _).size = 1 + 2 * system.notified +
          locals.totalPacketsTimeoutCounter.toNat + locals.packetSessionsMap.size
      rw [sessions]
      omega
  | @syncs locals recvQueue receiving queued synced =>
      have bound : locals.totalPacketsTimeoutCounter.toNat + locals.packetSessionsMap.size ≤
          system.accountedFor := le_accountedFor receiving
      have size := RadiusWorker.processSync_size system.processor.responseTimeoutMsec clockMsec
        (system.shared locals)
      obtain ⟨total, _⟩ := @total_of_sync (system.shared locals)
        system.processor.responseTimeoutMsec clockMsec (Nat.lt_of_le_of_lt bound few)
      have queue : next.notified = system.notified := by rw [synced]; rfl
      refine accountedFor_of_taken queued receiving _ (by rw [synced]; rfl) (by rw [synced]) ?_
      have noData : (RADIUSPacket.ofControlMessageId .syncTimeout).isData = false := rfl
      rw [noData, queue]
      show 2 * system.notified + (RadiusWorker.processSync _ _ _).totalPacketsTimeoutCounter.toNat +
        (RadiusWorker.processSync _ _ _).packetSessionsMap.size = 0 + 2 * system.notified +
          (system.shared locals).totalPacketsTimeoutCounter.toNat +
            (system.shared locals).packetSessionsMap.size
      rw [total]
      omega

/-- A step hands a packet over, or moves what has been. -/
private theorem queued_of_put {packet : RADIUSPacket} (isData : packet.isData = true)
    {workerId : Nat} {recvQueue : List RADIUSPacket}
    (queued : system.queues[workerId]? = some recvQueue) :
    listHolds (List.countP RADIUSPacket.isData) (system.queues.set workerId
      (ObjectQueue.putObject recvQueue packet)) = system.queued + 1 := by
  apply listHolds_set_gains queued
  rw [ObjectQueue.putObject, List.countP_append, List.countP_singleton, isData]
  rfl

/-- A SYNC is no packet. -/
private theorem queued_of_sync (queues : List (List RADIUSPacket)) :
    listHolds (List.countP RADIUSPacket.isData) (queues.map fun workerQueue =>
        ObjectQueue.putObject workerQueue (RADIUSPacket.ofControlMessageId .syncTimeout)) =
      listHolds (List.countP RADIUSPacket.isData) queues := by
  induction queues with
  | nil => rfl
  | cons recvQueue queues inductionHypothesis =>
      rw [List.map_cons, listHolds_cons, listHolds_cons, inductionHypothesis,
        ObjectQueue.putObject, List.countP_append]
      rfl

private theorem step_accountedFor {action : Action} (regular : system.Regular)
    (isRegular : action.IsRegular) (stepped : system.step action = some next)
    (few : system.accountedFor < 2 ^ 64) :
    next.accountedFor = system.accountedFor + action.handsOver.toNat := by
  cases action with
  | receive message now =>
      obtain ⟨_, _, _, _, rfl⟩ := receive_cases stepped
      rfl
  | drop =>
      obtain ⟨_, _, rfl⟩ := drop_cases stepped
      rfl
  | handOver workerId =>
      obtain ⟨frame, recvQueue, packet, left, held, queued, built, rfl⟩ := handOver_cases stepped
      obtain ⟨rfl, _⟩ := ofPoolItem_ok built
      have grown : listHolds (List.countP RADIUSPacket.isData) (system.queues.set workerId
          (ObjectQueue.putObject recvQueue packet)) = system.queued + 1 :=
        queued_of_put (isData_packet ⟨frame, packet, built⟩) queued
      show listHolds _ (system.queues.set workerId (ObjectQueue.putObject recvQueue packet)) +
        2 * system.notified + system.givenUp + system.waiting = system.accountedFor + 1
      unfold accountedFor
      omega
  | broadcast inst =>
      obtain rfl : inst = .syncTimeout := isRegular
      cases stepped
      exact congrArg (· + 2 * system.notified + system.givenUp + system.waiting)
        (queued_of_sync system.queues)
  | broadcastTo workerId inst =>
      obtain rfl : inst = .syncTimeout := isRegular
      obtain ⟨recvQueue, queued, rfl⟩ := broadcastTo_cases stepped
      have same : listHolds (List.countP RADIUSPacket.isData) (system.queues.set workerId
          (ObjectQueue.putObject recvQueue (RADIUSPacket.ofControlMessageId .syncTimeout))) =
            system.queued + 0 :=
        listHolds_set_gains queued (List.countP_append ..)
      exact congrArg (· + 2 * system.notified + system.givenUp + system.waiting) same
  | testStop workerId =>
      obtain ⟨locals, atTest, ⟨raised, _⟩ | ⟨_, rfl⟩⟩ := testStop_cases stepped
      · rw [regular.lowered] at raised
        cases raised
      · have givenUp : listHolds WorkerThread.givenUp
            (system.threads.set workerId (.receiving locals)) = system.givenUp + 0 :=
          listHolds_set_gains atTest (Nat.add_zero _)
        have waiting : listHolds WorkerThread.waiting
            (system.threads.set workerId (.receiving locals)) = system.waiting + 0 :=
          listHolds_set_gains atTest (Nat.add_zero _)
        show system.queued + 2 * system.notified + listHolds WorkerThread.givenUp
          (system.threads.set workerId (.receiving locals)) + listHolds WorkerThread.waiting
            (system.threads.set workerId (.receiving locals)) = system.accountedFor + 0
        rw [givenUp, waiting]
        rfl
  | processNext workerId clockMsec =>
      exact takes_accounts (takes_of_processNext regular stepped) few

/-! ### What the SYNCs report -/

private theorem tidy_of_set (tidy : ∀ thread ∈ system.threads, thread.Tidy) (workerId : Nat)
    (after : WorkerThread) (isTidy : after.Tidy) :
    ∀ thread ∈ system.threads.set workerId after, thread.Tidy := by
  intro thread member
  rcases List.mem_or_eq_of_mem_set member with before | rfl
  · exact tidy thread before
  · exact isTidy

private theorem step_tidy {action : Action} (regular : system.Regular)
    (stepped : system.step action = some next) (few : system.accountedFor < 2 ^ 64)
    (tidy : ∀ thread ∈ system.threads, thread.Tidy) : ∀ thread ∈ next.threads, thread.Tidy := by
  cases action with
  | receive message now =>
      obtain ⟨_, _, _, _, rfl⟩ := receive_cases stepped
      exact tidy
  | drop =>
      obtain ⟨_, _, rfl⟩ := drop_cases stepped
      exact tidy
  | handOver workerId =>
      obtain ⟨_, _, _, _, _, _, _, rfl⟩ := handOver_cases stepped
      exact tidy
  | broadcast inst =>
      cases stepped
      exact tidy
  | broadcastTo workerId inst =>
      obtain ⟨_, _, rfl⟩ := broadcastTo_cases stepped
      exact tidy
  | testStop workerId =>
      obtain ⟨locals, atTest, ⟨_, rfl⟩ | ⟨_, rfl⟩⟩ := testStop_cases stepped
      · exact tidy_of_set tidy workerId .finished trivial
      · have own : (WorkerThread.testing locals).Tidy := tidy _ (List.mem_of_getElem? atTest)
        exact tidy_of_set tidy workerId (.receiving locals) own
  | processNext workerId clockMsec =>
      cases takes_of_processNext regular stepped with
      | @joins locals data req recvQueue receiving queued held joined =>
          have own : (WorkerThread.receiving locals).Tidy := tidy _ (List.mem_of_getElem? receiving)
          rw [joined]
          exact tidy_of_set tidy workerId _ own
      | @keeps locals data recvQueue receiving queued free kept =>
          have own : (WorkerThread.receiving locals).Tidy := tidy _ (List.mem_of_getElem? receiving)
          rw [kept]
          exact tidy_of_set tidy workerId _ own
      | @syncs locals recvQueue receiving queued synced =>
          have own : (WorkerThread.receiving locals).Tidy := tidy _ (List.mem_of_getElem? receiving)
          have bound : locals.totalPacketsTimeoutCounter.toNat + locals.packetSessionsMap.size ≤
              system.accountedFor := le_accountedFor receiving
          obtain ⟨total, fits⟩ := @total_of_sync (system.shared locals)
            system.processor.responseTimeoutMsec clockMsec (Nat.lt_of_le_of_lt bound few)
          obtain ⟨_, interval, reports⟩ := RadiusWorker.processSync_counters
            system.processor.responseTimeoutMsec clockMsec (system.shared locals) own.1
          rw [synced]
          refine tidy_of_set tidy workerId _ (And.intro interval ?_)
          rw [reports, List.map_append, List.sum_append, List.map_singleton, List.sum_singleton,
            fits, total]
          exact congrArg (· + _) own.2

/-! ### Every regular run -/

private theorem run_accounts {actions : List Action} {final : System} (regular : system.Regular)
    (regularActions : ∀ action ∈ actions, Action.IsRegular action)
    (ran : system.run actions = some final)
    (few : system.accountedFor + actions.countP Action.handsOver < 2 ^ 64)
    (tidy : ∀ thread ∈ system.threads, thread.Tidy) :
    final.accountedFor = system.accountedFor + actions.countP Action.handsOver ∧
      ∀ thread ∈ final.threads, thread.Tidy := by
  induction actions generalizing system with
  | nil =>
      cases ran
      exact ⟨rfl, tidy⟩
  | cons action rest inductionHypothesis =>
      obtain ⟨next, stepped, ran⟩ := partialRun_cons.mp ran
      obtain ⟨isRegular, others⟩ := List.forall_mem_cons.mp regularActions
      have counted : (action :: rest).countP Action.handsOver =
          rest.countP Action.handsOver + action.handsOver.toNat := by
        rw [List.countP_cons]
        cases action.handsOver <;> rfl
      have fewNow : system.accountedFor < 2 ^ 64 := Nat.lt_of_le_of_lt (Nat.le_add_right _ _) few
      have first := step_accountedFor regular isRegular stepped fewNow
      obtain ⟨total, tidyFinal⟩ := inductionHypothesis (step_regular isRegular stepped regular)
        others ran (by omega) (step_tidy regular stepped fewNow tidy)
      exact ⟨by omega, tidyFinal⟩

end System

/-- The packets handed over are those in the queues, two for each notification, those given up
on and those that wait; and every worker's total is the sum of the intervals it has reported. -/
theorem packets_accounted_across_threads {size : Nat} (allocate : Fin size → Nat)
    (behind : Nat → ByteOrder.Memory) (workers : Nat) (responseTimeoutMsec : SizeT)
    (sourceId : String) (actions : List Action) (system : System)
    (regular : ∀ action ∈ actions, Action.IsRegular action)
    (few : actions.countP Action.handsOver < 2 ^ 64)
    (reached : (System.start (.create allocate behind) workers responseTimeoutMsec
      ⟨[], sourceId⟩).run actions = some system) :
    actions.countP Action.handsOver =
        system.queued + 2 * system.notified + system.givenUp + system.waiting ∧
      ∀ thread ∈ system.threads, thread.Tidy := by
  have nothing : (System.start (.create allocate behind) workers responseTimeoutMsec
      ⟨[], sourceId⟩).accountedFor = 0 := by
    have queued := listHolds_replicate (List.countP RADIUSPacket.isData)
      (show List.countP RADIUSPacket.isData [] = 0 from rfl) workers
    have threads (count : WorkerThread → Nat)
        (empty : count (.testing { resultNotifier := ⟨[], sourceId⟩ }) = 0) :=
      listHolds_replicate count empty workers
    show listHolds _ (List.replicate workers []) + 2 * 0 +
      listHolds _ (List.replicate workers (WorkerThread.testing _)) +
        listHolds _ (List.replicate workers (WorkerThread.testing _)) = 0
    rw [queued, threads WorkerThread.givenUp rfl, threads WorkerThread.waiting rfl]
    rfl
  have tidy : ∀ thread ∈ (System.start (.create allocate behind) workers responseTimeoutMsec
      ⟨[], sourceId⟩).threads, thread.Tidy := by
    intro thread member
    rw [List.eq_of_mem_replicate member]
    exact ⟨rfl, rfl⟩
  obtain ⟨total, tidyFinal⟩ := System.run_accounts
    (System.start_regular allocate behind workers responseTimeoutMsec _) regular reached
    (by omega) tidy
  exact ⟨by rw [nothing, Nat.zero_add] at total; exact total.symm, tidyFinal⟩

/-- The second worker keeps the request it has been handed. -/
theorem packets_accounted_across_threads_request :
    ∃ system, (System.start (.create (Fin.val : Fin 1 → Nat) fun _ _ => 0) 2 1000
        ⟨[], "probe"⟩).run (requestActions 1 7) = some system ∧
      (requestActions 1 7).countP Action.handsOver =
        system.queued + 2 * system.notified + system.givenUp + system.waiting ∧
      ∀ thread ∈ system.threads, thread.Tidy := by
  obtain ⟨system, ran⟩ := System.second_worker_keeps
  exact ⟨system, ran, packets_accounted_across_threads Fin.val (fun _ _ => 0) 2 1000 "probe" _
    system (requestActions_regular 1 7 _) (show 1 < 2 ^ 64 by decide) ran⟩

end TrafficInspector
