import TrafficInspector.Foundation.CrewTermination
import TrafficInspector.Threads.ShutdownDrain

/-!
Owns `~PacketProcessor`, which joins the threads in the order in which they were started and
tells none of them to stop. It returns, whatever the schedule, exactly when every thread has
ended, or has a `SHUTDOWN` in its own queue, or is going to test the flag after it was raised.
-/

namespace TrafficInspector

open Foundation

/-- The destructor while the threads still run, with the number of those it has joined. -/
structure Destruction where
  system : System
  joined : Nat := 0

inductive DestructionAction where
  | testStop (workerId : Nat)
  | processNext (workerId : Nat) (clockMsec : SizeT)
  /-- `thread.join()` returns, and the destructor turns to the next thread. -/
  | join

namespace Destruction

def join (destruction : Destruction) : Option Destruction :=
  match destruction.system.threads[destruction.joined]? with
  | some .finished => some { destruction with joined := destruction.joined + 1 }
  | _ => none

def step (destruction : Destruction) : DestructionAction → Option Destruction
  | .testStop workerId =>
      (destruction.system.testStop workerId).map fun system => { destruction with system }
  | .processNext workerId clockMsec =>
      (destruction.system.processNext workerId clockMsec).map fun system =>
        { destruction with system }
  | .join => destruction.join

def run (destruction : Destruction) (actions : List DestructionAction) : Option Destruction :=
  partialRun step destruction actions

def Returned (destruction : Destruction) : Prop :=
  destruction.joined = destruction.system.threads.length

end Destruction

/-- In whatever order the workers and the destructor take their steps, they come to an end, and
then the destructor has returned. -/
def System.DestructorReturns (system : System) : Prop :=
  ∃ bound, ∀ actions destruction, Destruction.run { system } actions = some destruction →
    actions.length ≤ bound ∧
      ((∀ action, destruction.step action = none) → destruction.Returned)

namespace Destruction

variable {destruction next : Destruction}

/-- A thread is joined, or a worker takes a step. -/
private theorem step_cases {action : DestructionAction}
    (stepped : destruction.step action = some next) :
    (destruction.system.threads[destruction.joined]? = some .finished ∧
        next = { destruction with joined := destruction.joined + 1 }) ∨
      ∃ workerAction : Action, workerAction.ByWorker ∧
        destruction.system.step workerAction = some next.system ∧
        next.joined = destruction.joined := by
  cases action with
  | testStop workerId =>
      obtain ⟨system, tested, rfl⟩ := Option.map_eq_some_iff.mp stepped
      exact .inr ⟨.testStop workerId, trivial, tested, rfl⟩
  | processNext workerId clockMsec =>
      obtain ⟨system, processed, rfl⟩ := Option.map_eq_some_iff.mp stepped
      exact .inr ⟨.processNext workerId clockMsec, trivial, processed, rfl⟩
  | join =>
      have joins : destruction.join = some next := stepped
      unfold join at joins
      split at joins
      · rename_i ended
        exact .inl ⟨ended, (Option.some.inj joins).symm⟩
      · cases joins

private theorem step_of_worker {workerAction : Action} (byWorker : workerAction.ByWorker)
    {system : System} (stepped : destruction.system.step workerAction = some system) :
    ∃ action, destruction.step action = some { destruction with system } := by
  obtain ⟨workerId, rfl⟩ | ⟨workerId, clockMsec, rfl⟩ := byWorker.cases
  · exact ⟨.testStop workerId, Option.map_eq_some_iff.mpr ⟨system, stepped, rfl⟩⟩
  · exact ⟨.processNext workerId clockMsec, Option.map_eq_some_iff.mpr ⟨system, stepped, rfl⟩⟩

private theorem run_of_workers {workerActions : List Action}
    (byWorker : ∀ action ∈ workerActions, Action.ByWorker action) {system final : System}
    (ran : system.run workerActions = some final) :
    ∃ actions, run { system } actions = some { system := final } := by
  induction workerActions generalizing system with
  | nil =>
      cases ran
      exact ⟨[], rfl⟩
  | cons workerAction rest inductionHypothesis =>
      obtain ⟨later, stepped, ran⟩ := partialRun_cons.mp ran
      obtain ⟨first, others⟩ := List.forall_mem_cons.mp byWorker
      obtain ⟨action, stepsTo⟩ := @step_of_worker { system } workerAction first later stepped
      obtain ⟨actions, ranOn⟩ := inductionHypothesis others ran
      exact ⟨action :: actions, partialRun_cons.mpr ⟨_, stepsTo, ranOn⟩⟩

/-! ### What is left to do -/

/-- The steps of the workers, and the threads to join. -/
private def stepsLeft (destruction : Destruction) : Nat :=
  ∑ worker ∈ Finset.range destruction.system.threads.length,
      (destruction.system.crew.member worker).stepsLeft +
    (destruction.system.threads.length - destruction.joined)

private theorem step_stepsLeft {action : DestructionAction}
    (stepped : destruction.step action = some next) :
    next.stepsLeft < destruction.stepsLeft := by
  rcases step_cases stepped with ⟨ended, rfl⟩ | ⟨workerAction, byWorker, stepsTo, same⟩
  · have inThreads := (List.getElem?_eq_some_iff.mp ended).1
    unfold stepsLeft
    dsimp only
    omega
  · obtain ⟨crewAction, seen⟩ := System.seen byWorker stepsTo
    have served := (System.step_queue byWorker stepsTo).1
    have inThreads : crewAction.worker ∈ Finset.range destruction.system.threads.length := by
      rw [Finset.mem_range]
      by_contra absent
      have noThread := List.getElem?_eq_none (Nat.le_of_not_lt absent)
      have isDone : (destruction.system.crew.member crewAction.worker).position = .done := by
        show (Option.map _ destruction.system.threads[crewAction.worker]?).getD _ = _
        rw [noThread]
        rfl
      exact Crew.position_of_step seen isDone
    have lower := Crew.step_sum_stepsLeft seen inThreads
    unfold stepsLeft
    rw [served, same]
    omega

private theorem run_bounded {actions : List DestructionAction} {final : Destruction}
    (ran : destruction.run actions = some final) : actions.length ≤ destruction.stepsLeft := by
  induction actions generalizing destruction with
  | nil => exact Nat.zero_le _
  | cons action rest inductionHypothesis =>
      obtain ⟨next, stepped, ran⟩ := partialRun_cons.mp ran
      exact Nat.lt_of_le_of_lt (inductionHypothesis ran) (step_stepsLeft stepped)

/-! ### What every run keeps -/

/-- What the destructor has joined has ended, and every worker processes what is in its queue. -/
private structure Sound (destruction : Destruction) : Prop where
  inRange : destruction.joined ≤ destruction.system.threads.length
  ended : ∀ thread < destruction.joined, destruction.system.threads[thread]? = some .finished
  processable : destruction.system.Processable

/-- A thread that has ended takes no step. -/
private theorem finished_kept {action : Action} (byWorker : action.ByWorker)
    {system later : System} (stepped : system.step action = some later) {thread : Nat}
    (ended : system.threads[thread]? = some .finished) :
    later.threads[thread]? = some .finished := by
  obtain ⟨mover, rfl⟩ | ⟨mover, clockMsec, rfl⟩ := byWorker.cases
  · obtain ⟨locals, atTest, outcome⟩ := System.testStop_cases stepped
    have apart : mover ≠ thread := by
      rintro rfl
      rw [ended] at atTest
      cases atTest
    rcases outcome with ⟨_, rfl⟩ | ⟨_, rfl⟩
    · exact (List.getElem?_set_ne apart).trans ended
    · exact (List.getElem?_set_ne apart).trans ended
  · obtain ⟨packet, recvQueue, locals, after, pool, processes⟩ := System.processNext_cases stepped
    have apart : mover ≠ thread := by
      rintro rfl
      have receiving := processes.receiving
      rw [ended] at receiving
      cases receiving
    rw [processes.next]
    exact (List.getElem?_set_ne apart).trans ended

private theorem step_sound {action : DestructionAction}
    (stepped : destruction.step action = some next) (sound : destruction.Sound) : next.Sound := by
  rcases step_cases stepped with ⟨ended, rfl⟩ | ⟨workerAction, byWorker, stepsTo, same⟩
  · refine ⟨(List.getElem?_eq_some_iff.mp ended).1, fun thread before => ?_, sound.processable⟩
    rcases Nat.lt_succ_iff_lt_or_eq.mp before with earlier | rfl
    · exact sound.ended thread earlier
    · exact ended
  · refine ⟨?_, fun thread before => ?_, sound.processable.step byWorker stepsTo⟩
    · rw [same, (System.step_queue byWorker stepsTo).1]
      exact sound.inRange
    · rw [same] at before
      exact finished_kept byWorker stepsTo (sound.ended thread before)

private theorem run_sound {actions : List DestructionAction} {final : Destruction}
    (ran : destruction.run actions = some final) (sound : destruction.Sound) : final.Sound :=
  partialRun_invariant (fun _ => True) Sound (fun _ _ _ _ stepped sound => step_sound stepped sound)
    (fun _ _ => trivial) ran sound

/-- A run of the destructor keeps what the steps of the crew keep. -/
private theorem run_crew (Invariant : Crew Nat RADIUSPacket → Prop)
    (kept : ∀ crew action next, Crew.step System.isShutdown crew action = some next →
      Invariant crew → Invariant next)
    {actions : List DestructionAction} {final : Destruction}
    (ran : destruction.run actions = some final) (holds : Invariant destruction.system.crew) :
    Invariant final.system.crew := by
  refine partialRun_invariant (fun _ => True)
    (fun destruction : Destruction => Invariant destruction.system.crew)
    (fun state action next _ stepped holds => ?_) (fun _ _ => trivial) ran holds
  rcases step_cases stepped with ⟨_, rfl⟩ | ⟨workerAction, byWorker, stepsTo, _⟩
  · exact holds
  · obtain ⟨crewAction, seen⟩ := System.seen byWorker stepsTo
    exact kept _ crewAction _ seen holds

/-- Where nothing goes on and nobody waits, all threads have been joined. -/
private theorem returned_of_stuck (sound : destruction.Sound)
    (nobodyWaits : ∀ worker, ¬ destruction.system.crew.Waits worker)
    (stuck : ∀ action, destruction.step action = none) : destruction.Returned := by
  by_contra behind
  have inThreads := Nat.lt_of_le_of_ne sound.inRange behind
  have threadAt := List.getElem?_eq_getElem inThreads
  have crewStuck : ∀ action : CrewAction Nat, action.worker = destruction.joined →
      destruction.system.crew.step System.isShutdown action = none := by
    intro action _
    apply Option.eq_none_iff_forall_ne_some.mpr
    intro crewNext stepped
    obtain ⟨workerAction, system, byWorker, stepsTo, _⟩ :=
      System.carriedOut sound.processable stepped
    obtain ⟨own, goesOn⟩ := step_of_worker byWorker stepsTo
    rw [stuck own] at goesOn
    cases goesOn
  rcases Crew.done_or_waits crewStuck with isDone | waits
  · rw [System.crew_member threadAt] at isDone
    have ended := (WorkerThread.position_eq_done _).mp isDone
    have joins : destruction.join = some { destruction with joined := destruction.joined + 1 } := by
      unfold join
      rw [threadAt, ended]
    rw [show destruction.join = none from stuck .join] at joins
    cases joins
  · exact nobodyWaits _ waits

/-- A destructor that has returned leaves nobody waiting. -/
private theorem nobody_waits_of_returned (sound : destruction.Sound)
    (returned : destruction.Returned) (worker : Nat) :
    ¬ destruction.system.crew.Waits worker := by
  intro waits
  obtain ⟨thread, threadAt, position⟩ :=
    System.thread_of_member waits CrewPosition.noConfusion
  have inThreads := (List.getElem?_eq_some_iff.mp threadAt).1
  rw [← show destruction.joined = _ from returned] at inThreads
  rw [sound.ended worker inThreads] at threadAt
  cases threadAt
  cases position

end Destruction

/-- The thread has ended, or it is told to end: by its own queue, or by the flag, which it is
going to test. -/
def WorkerThread.ToEnd (thread : WorkerThread) (stop : Bool) (content : List WorkerMessage) :
    Prop :=
  thread = .finished ∨ WorkerMessage.shutdown ∈ content ∨
    (stop = true ∧ ((∃ locals, thread = .testing locals) ∨ content ≠ []))

namespace System

variable {system : System}

private theorem sound_of_processable (processable : system.Processable) :
    Destruction.Sound { system } :=
  ⟨Nat.zero_le _, fun thread before => absurd before (Nat.not_lt_zero thread), processable⟩

private theorem destructorReturns_iff_leaves (processable : system.Processable) :
    system.DestructorReturns ↔ ∀ worker, system.crew.Leaves isShutdown worker := by
  have sound := sound_of_processable processable
  constructor
  · rintro ⟨bound, returns⟩ worker
    by_contra stays
    obtain ⟨crewActions, crewFinal, crewRan, waits⟩ : ∃ actions final,
        system.crew.run isShutdown actions = some final ∧ final.Waits worker := by
      simpa [Crew.NeverWaits] using mt Crew.neverWaits_iff.mp stays
    obtain ⟨workerActions, middle, byWorker, ran, rfl, _⟩ := partialRun_carriedOut crew
      Action.ByWorker Processable (fun _ _ _ processable stepped => carriedOut processable stepped)
      processable crewRan
    obtain ⟨actions, reached⟩ := Destruction.run_of_workers byWorker ran
    obtain ⟨more, final, ranOn, stuck⟩ := partialRun_exhausts bound fun inputs final ranOn =>
      Nat.le_of_add_left_le (List.length_append ▸
        (returns (actions ++ inputs) final (partialRun_append.mpr ⟨_, reached, ranOn⟩)).1)
    have whole := partialRun_append.mpr ⟨_, reached, ranOn⟩
    have stillWaits := Destruction.run_crew (Crew.Waits · worker)
      (fun _ _ _ stepped => Crew.step_waits stepped) ranOn waits
    exact Destruction.nobody_waits_of_returned (Destruction.run_sound whole sound)
      ((returns _ final whole).2 stuck) worker stillWaits
  · intro leaves
    refine ⟨Destruction.stepsLeft { system }, fun actions final ran =>
      ⟨Destruction.run_bounded ran, fun stuck => ?_⟩⟩
    have leavesAtEnd := Destruction.run_crew (fun crew => ∀ worker, crew.Leaves isShutdown worker)
      (fun _ _ _ stepped all worker => Crew.step_leaves stepped (all worker)) ran leaves
    exact Destruction.returned_of_stuck (Destruction.run_sound ran sound)
      (fun worker => (leavesAtEnd worker).not_waits) stuck

variable {contents : List (List WorkerMessage)}

private theorem processable_of_contains (contains : system.Contains contents) :
    system.Processable := by
  refine ⟨?_, ?_⟩
  · rw [contains.served, contains.queued, List.length_map]
  · rw [contains.queued]
    intro recvQueue member packet isQueued
    obtain ⟨content, _, rfl⟩ := List.mem_map.mp member
    obtain ⟨message, _, same⟩ := List.mem_map.mp isQueued
    exact ⟨message, same⟩

private theorem leaves_iff_toEnd (contains : system.Contains contents) {workerId : Nat}
    {content : List WorkerMessage} {thread : WorkerThread}
    (contentAt : contents[workerId]? = some content)
    (threadAt : system.threads[workerId]? = some thread) :
    system.crew.Leaves isShutdown workerId ↔ thread.ToEnd system.processor.stop content := by
  have queued : system.queues[workerId]? = some (content.map WorkerMessage.packet) := by
    rw [contains.queued, List.getElem?_map, contentAt]
    rfl
  have stopped : (∃ packet ∈ content.map WorkerMessage.packet, isShutdown packet = true) ↔
      WorkerMessage.shutdown ∈ content := by
    simp only [List.mem_map, isShutdown, decide_eq_true_iff]
    constructor
    · rintro ⟨_, ⟨message, member, rfl⟩, isShutdown⟩
      exact message.isShutdown_iff.mp isShutdown ▸ member
    · exact fun member => ⟨_, ⟨_, member, rfl⟩, rfl⟩
  have atTest : thread.position = .testing ↔ ∃ locals, thread = .testing locals := by
    cases thread <;> simp [WorkerThread.position]
  unfold Crew.Leaves WorkerThread.ToEnd
  rw [crew_member threadAt, queued, Option.getD_some, WorkerThread.position_eq_done, stopped,
    atTest, Ne, List.map_eq_nil_iff]
  exact Iff.rfl

/-- `~PacketProcessor` returns, in every schedule, exactly when every thread is to end. -/
theorem destructorReturns_iff {system : System} {contents : List (List WorkerMessage)}
    (contains : system.Contains contents) :
    system.DestructorReturns ↔
      ∀ (workerId : Nat) content thread, contents[workerId]? = some content →
        system.threads[workerId]? = some thread →
          thread.ToEnd system.processor.stop content := by
  have processable := processable_of_contains contains
  rw [destructorReturns_iff_leaves processable]
  constructor
  · intro leaves workerId content thread contentAt threadAt
    exact (leaves_iff_toEnd contains contentAt threadAt).mp (leaves workerId)
  · intro toEnd workerId
    cases threadAt : system.threads[workerId]? with
    | none =>
        refine .inl ?_
        show (Option.map _ system.threads[workerId]?).getD _ = _
        rw [threadAt]
        rfl
    | some thread =>
        have inThreads := (List.getElem?_eq_some_iff.mp threadAt).1
        have contentAt := List.getElem?_eq_getElem (contains.served ▸ inThreads)
        exact (leaves_iff_toEnd contains contentAt threadAt).mpr
          (toEnd workerId _ thread contentAt threadAt)

/-- Each of two workers has to find a `SHUTDOWN` of its own. -/
theorem destructor_waits_for_each :
    (waitingFor [[.data bareRequest, .shutdown], [.shutdown]]).DestructorReturns ∧
      ¬ (waitingFor [[.data bareRequest, .shutdown], [.data bareRequest]]).DestructorReturns := by
  constructor
  · refine (destructorReturns_iff (waitingFor_contains _)).mpr fun workerId content thread here _ =>
      .inr (.inl ?_)
    have member := List.mem_of_getElem? here
    simp only [List.mem_cons, List.not_mem_nil, or_false] at member
    rcases member with rfl | rfl <;> simp
  · intro returns
    have toEnd := (destructorReturns_iff (waitingFor_contains _)).mp returns 1 _ _ rfl rfl
    rcases toEnd with ended | told | ⟨raised, _⟩
    · cases ended
    · simp at told
    · cases raised

end System

end TrafficInspector
