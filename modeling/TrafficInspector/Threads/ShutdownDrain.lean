import TrafficInspector.Foundation.SharedStop
import TrafficInspector.RadiusPairing
import TrafficInspector.Threads.System

/-!
Owns what a `SHUTDOWN` leaves behind. The workers of a processor are a crew that shares the
processor's flag, and the queue of each ends in its own `SHUTDOWN`; but the first worker that
takes one raises the flag for all, and the others leave what they have not taken yet.
-/

namespace TrafficInspector

open Foundation

/-- What a worker can find in its queue. -/
inductive WorkerMessage where
  | data (packet : DataPacket)
  | syncTimeout
  | shutdown

namespace WorkerMessage

def packet : WorkerMessage → RADIUSPacket
  | data packet => packet.packet
  | syncTimeout => RADIUSPacket.ofControlMessageId .syncTimeout
  | shutdown => RADIUSPacket.ofControlMessageId .shutdown

theorem isShutdown_iff (message : WorkerMessage) :
    message.packet.ctrlMessageId = .shutdown ↔ message = .shutdown := by
  cases message with
  | data packet =>
      simp only [WorkerMessage.packet, packet.ctrlMessageId_eq]
      exact ⟨ControlMessageId.noConfusion, WorkerMessage.noConfusion⟩
  | syncTimeout => exact ⟨ControlMessageId.noConfusion, WorkerMessage.noConfusion⟩
  | shutdown => exact ⟨fun _ => rfl, fun _ => rfl⟩

/-- A worker processes every message. -/
theorem returns (message : WorkerMessage) (responseTimeoutMsec clockMsec : SizeT)
    (worker : RadiusWorker) (pool : ObjectPool) :
    ∃ after released,
      worker.processMessage responseTimeoutMsec ⟨message.packet, clockMsec⟩ = .ok after ∧
        worker.processMessagePool responseTimeoutMsec ⟨message.packet, clockMsec⟩ pool =
          .ok released := by
  cases message with
  | data packet =>
      unfold RadiusWorker.processMessage RadiusWorker.processMessagePool
      simp only [WorkerMessage.packet, packet.ctrlMessageId_eq]
      exact worker.processPacket_returns packet.getPacketSessionPair_eq clockMsec pool
  | syncTimeout => exact ⟨_, _, rfl, rfl⟩
  | shutdown => exact ⟨_, _, rfl, rfl⟩

end WorkerMessage

/-- The steps of the workers. -/
def Action.ByWorker : Action → Prop
  | testStop _ | processNext _ _ => True
  | receive _ _ | drop | handOver _ | broadcast _ | broadcastTo _ _ => False

theorem Action.ByWorker.cases {action : Action} (byWorker : action.ByWorker) :
    (∃ workerId, action = .testStop workerId) ∨
      ∃ workerId clockMsec, action = .processNext workerId clockMsec := by
  cases action with
  | testStop workerId => exact .inl ⟨workerId, rfl⟩
  | processNext workerId clockMsec => exact .inr ⟨workerId, clockMsec, rfl⟩
  | receive message now => exact byWorker.elim
  | drop => exact byWorker.elim
  | handOver workerId => exact byWorker.elim
  | broadcast inst => exact byWorker.elim
  | broadcastTo workerId inst => exact byWorker.elim

namespace System

/-- Nothing that stood before the `SHUTDOWN` in its own queue is left to a worker that has
left its loop, in whatever order the workers take their steps. -/
def DrainsOnShutdown (system : System) : Prop :=
  ∀ actions final, (∀ action ∈ actions, Action.ByWorker action) →
    system.run (.broadcast .shutdown :: actions) = some final →
      ∀ (workerId : Nat) recvQueue, final.threads[workerId]? = some WorkerThread.finished →
        final.queues[workerId]? = some recvQueue →
          recvQueue <:+ [RADIUSPacket.ofControlMessageId .shutdown]

/-- What the queues contain; each has its thread. -/
structure Contains (system : System) (contents : List (List WorkerMessage)) : Prop where
  queued : system.queues = contents.map (List.map WorkerMessage.packet)
  served : system.threads.length = contents.length

/-- The flag is lowered, and no thread but this one is in its loop. -/
structure AloneInLoop (system : System) (workerId : Nat) : Prop where
  lowered : system.processor.stop = false
  others : ∀ other thread, system.threads[other]? = some thread →
    (thread = .finished ↔ other ≠ workerId)

end System

/-- How many messages a worker takes from here in any case. -/
def WorkerThread.takesAnyway : WorkerThread → Nat
  | testing _ => 0
  | receiving _ => 1
  | finished => 0

/-! ### The workers are a crew -/

def WorkerThread.position : WorkerThread → CrewPosition
  | testing _ => .testing
  | receiving _ => .taking
  | finished => .done

theorem WorkerThread.reach_position (thread : WorkerThread) :
    thread.position.reach = thread.takesAnyway + 1 := by
  cases thread <;> rfl

theorem WorkerThread.position_eq_done (thread : WorkerThread) :
    thread.position = .done ↔ thread = .finished := by
  cases thread with
  | testing locals => exact ⟨CrewPosition.noConfusion, WorkerThread.noConfusion⟩
  | receiving locals => exact ⟨CrewPosition.noConfusion, WorkerThread.noConfusion⟩
  | finished => exact ⟨fun _ => rfl, fun _ => rfl⟩

namespace System

def crew (system : System) : Crew Nat RADIUSPacket where
  stop := system.processor.stop
  member workerId :=
    ⟨(system.threads[workerId]?.map WorkerThread.position).getD .done,
      system.queues[workerId]?.getD []⟩

def isShutdown (packet : RADIUSPacket) : Bool :=
  decide (packet.ctrlMessageId = .shutdown)

section

variable {system next : System} {workerId : Nat}

theorem crew_member {thread : WorkerThread}
    (threadAt : system.threads[workerId]? = some thread) :
    system.crew.member workerId = ⟨thread.position, system.queues[workerId]?.getD []⟩ := by
  show CrewMember.mk _ _ = _
  rw [threadAt]
  rfl

theorem thread_of_member {position : CrewPosition} {queue : List RADIUSPacket}
    (here : system.crew.member workerId = ⟨position, queue⟩) (works : position ≠ .done) :
    ∃ thread, system.threads[workerId]? = some thread ∧ thread.position = position := by
  cases threadAt : system.threads[workerId]? with
  | none =>
      have isDone := congrArg CrewMember.position here
      simp only [crew, threadAt] at isDone
      exact absurd isDone.symm works
  | some thread =>
      rw [crew_member threadAt] at here
      exact ⟨thread, rfl, congrArg CrewMember.position here⟩

private theorem crew_put (thread : WorkerThread)
    (threadAt : next.threads[workerId]? = some thread)
    (others : ∀ other, workerId ≠ other →
      next.threads[other]? = system.threads[other]? ∧
        next.queues[other]? = system.queues[other]?) :
    next.crew = ({ system.crew with stop := next.processor.stop } : Crew Nat RADIUSPacket).put
      workerId ⟨thread.position, next.queues[workerId]?.getD []⟩ := by
  refine congrArg (Crew.mk next.processor.stop) (funext fun other => ?_)
  by_cases same : workerId = other
  · subst same
    rw [Function.update_self]
    exact crew_member threadAt
  · obtain ⟨threads, queues⟩ := others other same
    rw [Function.update_of_ne (Ne.symm same)]
    show CrewMember.mk _ _ = CrewMember.mk _ _
    rw [threads, queues]

private theorem testStop_seen (stepped : system.testStop workerId = some next) :
    system.crew.test workerId = some next.crew := by
  obtain ⟨locals, atTest, outcome⟩ := testStop_cases stepped
  have inThreads := (List.getElem?_eq_some_iff.mp atTest).1
  rw [Crew.test_eq (crew_member atTest)]
  refine congrArg some (Eq.symm ?_)
  rcases outcome with ⟨raised, rfl⟩ | ⟨lowered, rfl⟩
  · have flag : system.crew.stop = true := raised
    simp only [flag, if_true]
    exact crew_put .finished (List.getElem?_set_self inThreads)
      fun other apart => ⟨List.getElem?_set_ne apart, rfl⟩
  · have flag : system.crew.stop = false := lowered
    simp only [flag, Bool.false_eq_true, if_false]
    exact crew_put (.receiving locals) (List.getElem?_set_self inThreads)
      fun other apart => ⟨List.getElem?_set_ne apart, rfl⟩

private theorem processNext_seen {clockMsec : SizeT}
    (stepped : system.processNext workerId clockMsec = some next) :
    system.crew.take isShutdown workerId = some next.crew := by
  obtain ⟨packet, recvQueue, locals, after, pool, processes⟩ := processNext_cases stepped
  have flag : next.processor.stop = (system.crew.stop || isShutdown packet) := by
    rw [processes.next]
    exact RadiusWorker.processMessage_stop processes.processed
  have threads : next.threads = system.threads.set workerId
      (if packet.ctrlMessageId = .shutdown then .finished else .testing after) := by
    rw [processes.next]
  have queues : next.queues = system.queues.set workerId recvQueue := by
    rw [processes.next]
    rfl
  have inThreads := (List.getElem?_eq_some_iff.mp processes.receiving).1
  have inQueues := (List.getElem?_eq_some_iff.mp processes.queued).1
  have put : next.crew = _ := crew_put _ (threads ▸ List.getElem?_set_self inThreads)
    fun other apart => ⟨threads ▸ List.getElem?_set_ne apart, queues ▸ List.getElem?_set_ne apart⟩
  have here : system.crew.member workerId = ⟨.taking, packet :: recvQueue⟩ := by
    rw [crew_member processes.receiving, processes.queued]
    rfl
  rw [Crew.take_eq isShutdown here, put, flag, queues, List.getElem?_set_self inQueues]
  by_cases leaves : packet.ctrlMessageId = .shutdown
  · have stops : isShutdown packet = true := decide_eq_true leaves
    simp only [stops, leaves, if_true]
    rfl
  · have goesOn : isShutdown packet = false := decide_eq_false leaves
    simp only [goesOn, leaves, if_false, Bool.false_eq_true]
    rfl

theorem seen {action : Action} (byWorker : action.ByWorker)
    (stepped : system.step action = some next) :
    ∃ crewAction, system.crew.step isShutdown crewAction = some next.crew := by
  obtain ⟨workerId, rfl⟩ | ⟨workerId, clockMsec, rfl⟩ := byWorker.cases
  · exact ⟨.test workerId, testStop_seen stepped⟩
  · exact ⟨.take workerId, processNext_seen stepped⟩

/-! ### Steps of the crew are steps of the workers -/

/-- Every worker has a queue, and processes all that is in it. -/
structure Processable (system : System) : Prop where
  served : system.threads.length = system.queues.length
  known : ∀ recvQueue ∈ system.queues, ∀ packet ∈ recvQueue,
    ∃ message : WorkerMessage, message.packet = packet

theorem step_queue {action : Action} (byWorker : action.ByWorker)
    (stepped : system.step action = some next) :
    next.threads.length = system.threads.length ∧
      next.queues.length = system.queues.length ∧
      ∀ (workerId : Nat) left, next.queues[workerId]? = some left →
        ∃ recvQueue, system.queues[workerId]? = some recvQueue ∧ left <:+ recvQueue := by
  obtain ⟨mover, rfl⟩ | ⟨mover, clockMsec, rfl⟩ := byWorker.cases
  · obtain ⟨locals, _, ⟨_, rfl⟩ | ⟨_, rfl⟩⟩ := testStop_cases stepped
    · exact ⟨List.length_set, rfl, fun _ left here => ⟨left, here, List.suffix_refl left⟩⟩
    · exact ⟨List.length_set, rfl, fun _ left here => ⟨left, here, List.suffix_refl left⟩⟩
  · obtain ⟨packet, recvQueue, locals, after, pool, processes⟩ := processNext_cases stepped
    have queues : next.queues = system.queues.set mover recvQueue := by
      rw [processes.next]
      rfl
    refine ⟨?_, ?_, fun workerId left here => ?_⟩
    · rw [processes.next]
      exact List.length_set
    · rw [queues]
      exact List.length_set
    · rw [queues] at here
      by_cases own : mover = workerId
      · subst own
        rw [List.getElem?_set_self (List.getElem?_eq_some_iff.mp processes.queued).1] at here
        cases here
        exact ⟨packet :: recvQueue, processes.queued, List.suffix_cons packet recvQueue⟩
      · rw [List.getElem?_set_ne own] at here
        exact ⟨left, here, List.suffix_refl left⟩

theorem Processable.step {action : Action} (byWorker : action.ByWorker)
    (stepped : system.step action = some next) (processable : system.Processable) :
    next.Processable := by
  obtain ⟨threads, queues, shrinks⟩ := step_queue byWorker stepped
  refine ⟨threads.trans (processable.served.trans queues.symm), ?_⟩
  intro left member packet isQueued
  obtain ⟨workerId, here⟩ := List.mem_iff_getElem?.mp member
  obtain ⟨recvQueue, before, isSuffix⟩ := shrinks workerId left here
  exact processable.known recvQueue (List.mem_of_getElem? before) packet
    (isSuffix.subset isQueued)

theorem carriedOut (processable : system.Processable) {crewAction : CrewAction Nat}
    {crewNext : Crew Nat RADIUSPacket}
    (stepped : system.crew.step isShutdown crewAction = some crewNext) :
    ∃ action next, action.ByWorker ∧ system.step action = some next ∧ next.crew = crewNext ∧
      next.Processable := by
  have matching (action : Action) {next : System} (byWorker : action.ByWorker)
      (stepsTo : system.step action = some next)
      (seen : system.crew.step isShutdown crewAction = some next.crew) :
      ∃ action next, action.ByWorker ∧ system.step action = some next ∧ next.crew = crewNext ∧
        next.Processable :=
    ⟨action, next, byWorker, stepsTo, Option.some.inj (seen.symm.trans stepped),
      processable.step byWorker stepsTo⟩
  cases crewAction with
  | test workerId =>
      obtain ⟨queue, here, _⟩ := Crew.test_cases stepped
      obtain ⟨thread, threadAt, position⟩ := thread_of_member here (by decide)
      cases thread with
      | testing locals =>
          obtain ⟨next, stepsTo⟩ : ∃ next, system.testStop workerId = some next := by
            unfold testStop
            rw [threadAt]
            cases system.processor.stop with
            | true => exact ⟨_, rfl⟩
            | false => exact ⟨_, rfl⟩
          exact matching (.testStop workerId) trivial stepsTo (testStop_seen stepsTo)
      | receiving locals => cases position
      | finished => cases position
  | take workerId =>
      obtain ⟨packet, queue, here, _⟩ := Crew.take_cases stepped
      obtain ⟨thread, threadAt, position⟩ := thread_of_member here (by decide)
      cases thread with
      | testing locals => cases position
      | receiving locals =>
          have queueIs : system.queues[workerId]?.getD [] = packet :: queue :=
            congrArg CrewMember.queue here
          cases queued : system.queues[workerId]? with
          | none =>
              rw [queued] at queueIs
              cases queueIs
          | some recvQueue =>
              rw [queued, Option.getD_some] at queueIs
              subst queueIs
              obtain ⟨message, rfl⟩ := processable.known _ (List.mem_of_getElem? queued) packet
                List.mem_cons_self
              obtain ⟨after, pool, processed, released⟩ := message.returns
                system.processor.responseTimeoutMsec 0 (system.shared locals) system.pool
              have stepsTo := Processes.step ⟨threadAt, queued, processed, released, rfl⟩
              exact matching (.processNext workerId 0) trivial stepsTo (processNext_seen stepsTo)
      | finished => cases position

/-! ### Draining -/

/-- The system as the workers find it behind the broadcast. -/
private def toldToStop (system : System) : System :=
  { system with processor := (system.processor.onDispatchBroadcastImpl .shutdown).2 }

private theorem run_queue {actions : List Action} {final : System}
    (byWorker : ∀ action ∈ actions, Action.ByWorker action)
    (ran : system.run actions = some final) (workerId : Nat) {left : List RADIUSPacket}
    (here : final.queues[workerId]? = some left) :
    ∃ recvQueue, system.queues[workerId]? = some recvQueue ∧ left <:+ recvQueue := by
  have kept := partialRun_invariant Action.ByWorker
    (fun later => ∀ left, later.queues[workerId]? = some left →
      ∃ recvQueue, system.queues[workerId]? = some recvQueue ∧ left <:+ recvQueue)
    (fun _ _ _ byWorker stepped holds left here => by
      obtain ⟨between, before, shorter⟩ := (step_queue byWorker stepped).2.2 workerId left here
      obtain ⟨recvQueue, atFirst, isSuffix⟩ := holds between before
      exact ⟨recvQueue, atFirst, shorter.trans isSuffix⟩)
    byWorker ran (fun left here => ⟨left, here, List.suffix_refl left⟩)
  exact kept left here

private theorem toldToStop_queues (system : System) :
    system.toldToStop.queues =
      system.queues.map (· ++ [RADIUSPacket.ofControlMessageId .shutdown]) :=
  rfl

variable {contents : List (List WorkerMessage)}

private theorem Contains.processable (contains : system.Contains contents) :
    system.toldToStop.Processable := by
  refine ⟨?_, ?_⟩
  · show system.threads.length = _
    rw [contains.served, toldToStop_queues, contains.queued, List.length_map, List.length_map]
  · rw [toldToStop_queues, contains.queued]
    intro recvQueue member packet isQueued
    obtain ⟨front, inFront, rfl⟩ := List.mem_map.mp member
    obtain ⟨content, _, rfl⟩ := List.mem_map.mp inFront
    rcases List.mem_append.mp isQueued with before | last
    · obtain ⟨message, _, same⟩ := List.mem_map.mp before
      exact ⟨message, same⟩
    · exact ⟨.shutdown, (List.mem_singleton.mp last).symm⟩

private theorem Contains.queue (contains : system.Contains contents)
    {content : List WorkerMessage} (contentAt : contents[workerId]? = some content) :
    system.toldToStop.queues[workerId]? =
      some (content.map WorkerMessage.packet ++ [RADIUSPacket.ofControlMessageId .shutdown]) := by
  rw [toldToStop_queues, contains.queued, List.getElem?_map, List.getElem?_map, contentAt]
  rfl

private theorem drainsOnShutdown_iff_crew (contains : system.Contains contents) :
    system.DrainsOnShutdown ↔ system.toldToStop.crew.Drains isShutdown := by
  constructor
  · intro drains crewActions crewFinal crewRan workerId isDone
    obtain ⟨actions, final, byWorker, ran, rfl, processable⟩ := partialRun_carriedOut crew
      Action.ByWorker Processable (fun _ _ _ processable stepped => carriedOut processable stepped)
      contains.processable crewRan
    have ranFrom : system.run (.broadcast .shutdown :: actions) = some final :=
      partialRun_cons.mpr ⟨system.toldToStop, rfl, ran⟩
    show (final.queues[workerId]?.getD []).length ≤ 1
    cases queued : final.queues[workerId]? with
    | none => exact Nat.zero_le 1
    | some recvQueue =>
        have inThreads : workerId < final.threads.length := by
          rw [processable.served]
          exact (List.getElem?_eq_some_iff.mp queued).1
        have threadAt := List.getElem?_eq_getElem inThreads
        rw [crew_member threadAt] at isDone
        rw [((WorkerThread.position_eq_done _).mp isDone)] at threadAt
        exact (drains actions final byWorker ranFrom workerId recvQueue threadAt queued).length_le
  · intro drains actions final byWorker ran workerId recvQueue threadAt queued
    obtain ⟨told, toldNow, ran⟩ := partialRun_cons.mp ran
    have same : told = system.toldToStop := (Option.some.inj toldNow).symm
    subst same
    obtain ⟨crewActions, crewRan⟩ := partialRun_seen crew Action.ByWorker
      (fun state action next byWorker stepped => seen byWorker stepped) byWorker ran
    have short := drains crewActions final.crew crewRan workerId
    rw [crew_member threadAt, queued] at short
    obtain ⟨whole, before, isSuffix⟩ := run_queue byWorker ran workerId queued
    rw [toldToStop_queues, List.getElem?_map] at before
    obtain ⟨front, _, rfl⟩ := Option.map_eq_some_iff.mp before
    exact List.suffix_of_suffix_length_le isSuffix (List.suffix_append front _) (short rfl)

private theorem alone_iff (inThreads : workerId < system.threads.length) :
    system.toldToStop.crew.Alone workerId ↔ system.AloneInLoop workerId := by
  constructor
  · intro alone
    refine ⟨alone.lowered, fun other thread threadAt => ?_⟩
    have here : system.toldToStop.crew.member other = ⟨thread.position, _⟩ := crew_member threadAt
    rw [← thread.position_eq_done]
    constructor
    · rintro isDone rfl
      exact alone.working (by rw [here]; exact isDone)
    · intro apart
      have isDone := alone.others other apart
      rw [here] at isDone
      exact isDone
  · intro alone
    refine ⟨alone.lowered, fun isDone => ?_, fun other apart => ?_⟩
    · have threadAt := List.getElem?_eq_getElem inThreads
      have here : system.toldToStop.crew.member workerId = ⟨_, _⟩ := crew_member threadAt
      rw [here] at isDone
      exact (alone.others workerId _ threadAt).mp ((WorkerThread.position_eq_done _).mp isDone) rfl
    · by_contra works
      obtain ⟨thread, threadAt, _⟩ := thread_of_member rfl works
      have here : system.toldToStop.crew.member other = ⟨thread.position, _⟩ :=
        crew_member threadAt
      rw [here] at works
      exact works (thread.position_eq_done.mpr ((alone.others other thread threadAt).mpr apart))

private theorem stopsEarly_iff (content : List WorkerMessage) :
    Crew.StopsEarly isShutdown
        (content.map WorkerMessage.packet ++ [RADIUSPacket.ofControlMessageId .shutdown]) ↔
      WorkerMessage.shutdown ∈ content.dropLast := by
  rw [Crew.stopsEarly_append_singleton, ← List.map_dropLast]
  constructor
  · rintro ⟨packet, member, stops⟩
    obtain ⟨message, inContent, rfl⟩ := List.mem_map.mp member
    rw [message.isShutdown_iff.mp (of_decide_eq_true stops)] at inContent
    exact inContent
  · intro member
    exact ⟨_, List.mem_map.mpr ⟨.shutdown, member, rfl⟩, rfl⟩

private theorem Contains.member (contains : system.Contains contents)
    {content : List WorkerMessage} {thread : WorkerThread}
    (contentAt : contents[workerId]? = some content)
    (threadAt : system.threads[workerId]? = some thread) :
    system.toldToStop.crew.member workerId = ⟨thread.position,
      content.map WorkerMessage.packet ++ [RADIUSPacket.ofControlMessageId .shutdown]⟩ := by
  have here : system.toldToStop.crew.member workerId = ⟨thread.position, _⟩ :=
    crew_member threadAt
  rw [here, contains.queue contentAt]
  rfl

private theorem Contains.member_absent (contains : system.Contains contents)
    (absent : ¬ workerId < system.threads.length) :
    system.toldToStop.crew.member workerId = ⟨.done, []⟩ := by
  have noThread : system.toldToStop.threads[workerId]? = none :=
    List.getElem?_eq_none (Nat.le_of_not_lt absent)
  have noQueue : system.toldToStop.queues[workerId]? = none := by
    apply List.getElem?_eq_none
    rw [← contains.processable.served]
    exact Nat.le_of_not_lt absent
  show CrewMember.mk _ _ = _
  rw [noThread, noQueue]
  rfl

private theorem Contains.content (contains : system.Contains contents)
    (inThreads : workerId < system.threads.length) :
    ∃ content, contents[workerId]? = some content :=
  ⟨_, List.getElem?_eq_getElem (contains.served ▸ inThreads)⟩

private theorem Contains.stoppable (contains : system.Contains contents) (workerId : Nat)
    (works : (system.toldToStop.crew.member workerId).position ≠ .done) :
    ∃ message ∈ (system.toldToStop.crew.member workerId).queue, isShutdown message = true := by
  obtain ⟨thread, threadAt, _⟩ := thread_of_member rfl works
  obtain ⟨content, contentAt⟩ := contains.content (List.getElem?_eq_some_iff.mp threadAt).1
  rw [contains.member contentAt threadAt]
  exact ⟨_, List.mem_append_right _ (List.mem_singleton_self _), rfl⟩

end

/-- A broadcast `SHUTDOWN` leaves nothing behind exactly when each worker's queue holds only
what the worker takes in any case, or the worker is alone and not told to stop earlier. -/
theorem drainsOnShutdown_iff {system : System} {contents : List (List WorkerMessage)}
    (contains : system.Contains contents) :
    system.DrainsOnShutdown ↔
      ∀ (workerId : Nat) content thread, contents[workerId]? = some content →
        system.threads[workerId]? = some thread →
          content.length ≤ thread.takesAnyway ∨
            (system.AloneInLoop workerId ∧ WorkerMessage.shutdown ∉ content.dropLast) := by
  rw [drainsOnShutdown_iff_crew contains, Crew.drains_iff contains.stoppable]
  have length {content : List WorkerMessage} {thread : WorkerThread} :
      (content.map WorkerMessage.packet ++
          [RADIUSPacket.ofControlMessageId .shutdown]).length ≤ thread.position.reach ↔
        content.length ≤ thread.takesAnyway := by
    rw [thread.reach_position, List.length_append, List.length_map]
    exact Nat.succ_le_succ_iff
  constructor
  · intro holds workerId content thread contentAt threadAt
    have atWorker := holds workerId
    rw [contains.member contentAt threadAt, stopsEarly_iff, length,
      alone_iff (List.getElem?_eq_some_iff.mp threadAt).1] at atWorker
    exact atWorker
  · intro holds workerId
    by_cases inThreads : workerId < system.threads.length
    · obtain ⟨content, contentAt⟩ := contains.content inThreads
      have threadAt := List.getElem?_eq_getElem inThreads
      rw [contains.member contentAt threadAt, stopsEarly_iff, length, alone_iff inThreads]
      exact holds workerId content _ contentAt threadAt
    · rw [contains.member_absent inThreads]
      exact .inl (Nat.zero_le _)

/-- New workers in front of such queues. -/
def waitingFor (contents : List (List WorkerMessage)) : System :=
  let fresh := start [] contents.length 1000 ⟨[], "probe"⟩
  { fresh with processor := { fresh.processor with
      receivedPacketQueue := contents.map (List.map WorkerMessage.packet) } }

theorem waitingFor_contains (contents : List (List WorkerMessage)) :
    (waitingFor contents).Contains contents :=
  ⟨rfl, List.length_replicate⟩

/-- A lone worker empties its queue first, the second of two need not. -/
theorem drainsOnShutdown_lone :
    (waitingFor [[.data bareRequest, .syncTimeout, .data bareRequest]]).DrainsOnShutdown ∧
      ¬ (waitingFor [[], [.data bareRequest]]).DrainsOnShutdown := by
  constructor
  · refine (drainsOnShutdown_iff (waitingFor_contains _)).mpr fun workerId content thread here _ =>
      .inr ?_
    cases workerId with
    | succ workerId => cases here
    | zero =>
        cases here
        refine ⟨⟨rfl, fun other thread there => ?_⟩, by simp⟩
        cases other with
        | succ other => cases there
        | zero =>
            cases there
            exact ⟨WorkerThread.noConfusion, fun apart => absurd rfl apart⟩
  · intro drains
    rcases (drainsOnShutdown_iff (waitingFor_contains _)).mp drains 1 _ _ rfl rfl with
      taken | ⟨alone, _⟩
    · exact absurd taken (by decide)
    · exact absurd ((alone.others 0 _ rfl).mpr (by decide)) WorkerThread.noConfusion

/-- The first of two workers takes its `SHUTDOWN`, and the second, which has been given a
request, finds the flag raised. -/
theorem shutdown_leaves_request_behind :
    ∃ system, (start (.create (Fin.val : Fin 1 → Nat) fun _ _ => 0) 2 1000 ⟨[], "probe"⟩).run
        [.receive (some (accessRequest []).bytes) 0, .handOver 1] = some system ∧
      ¬ system.DrainsOnShutdown := by
  let received : System :=
    { start [] 2 1000 ⟨[], "probe"⟩ with packetPtr := some bareRequest.frame }
  let queued : System := { start [] 2 1000 ⟨[], "probe"⟩ with
    processor := { received.processor with receivedPacketQueue := [[], [bareRequest.packet]] } }
  have held : received.packetPtr = some bareRequest.frame := rfl
  have empty : received.queues[1]? = some [] := rfl
  have handed : received.step (.handOver 1) = some queued :=
    handOver_step held empty bareRequest.built
  refine ⟨queued, partialRun_cons.mpr ⟨received, rfl, partialRun_cons.mpr ⟨queued, handed, rfl⟩⟩,
    fun drains => ?_⟩
  have byWorker : ∀ action ∈ [Action.testStop 0, .processNext 0 0, .testStop 1],
      action.ByWorker := by
    simp [Action.ByWorker]
  have leaves := drains _ _ byWorker rfl 1
  have left := leaves _ rfl rfl
  exact absurd left.length_le (by decide)

end System

end TrafficInspector
