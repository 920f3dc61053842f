import TrafficInspector.Threads.NotifierThread
import TrafficInspector.Threads.SyncRounds
import TrafficInspector.Threads.WorkerProjection

/-!
Owns all threads of the program at once: the main loop and the workers of the system, the thread
that puts the SYNCs on one queue after the other, and the notifier's, which takes from the queue
that the workers fill. Whatever their order, the log is what the workers would notify alone, as far
as it has got, and every worker is sent a SYNC for each reading of the timer.
-/

namespace TrafficInspector

open Foundation

def RADIUSPacket.isSync (packet : RADIUSPacket) : Bool :=
  decide (packet.ctrlMessageId = .syncTimeout)

/-- A SYNC for the worker. -/
def Action.syncsTo (workerId : Nat) : Action → Bool
  | broadcast inst => decide (inst = .syncTimeout)
  | broadcastTo other inst => decide (other = workerId ∧ inst = .syncTimeout)
  | receive _ _ | drop | handOver _ | testStop _ | processNext _ _ => false

/-! ### A notifier that forgets -/

/-- A thread as the others can tell it apart: without what it shares. -/
def WorkerThread.own : WorkerThread → WorkerThread
  | testing locals => testing (locals.alone false ⟨[], ""⟩)
  | receiving locals => receiving (locals.alone false ⟨[], ""⟩)
  | finished => finished

theorem WorkerThread.own_testing {thread : WorkerThread} {locals : RadiusWorker}
    (same : thread.own = (testing locals).own) :
    ∃ others, thread = testing others ∧
      others.alone false ⟨[], ""⟩ = locals.alone false ⟨[], ""⟩ := by
  cases thread with
  | testing others => exact ⟨others, rfl, WorkerThread.testing.inj same⟩
  | receiving others => cases same
  | finished => cases same

theorem WorkerThread.own_receiving {thread : WorkerThread} {locals : RadiusWorker}
    (same : thread.own = (receiving locals).own) :
    ∃ others, thread = receiving others ∧
      others.alone false ⟨[], ""⟩ = locals.alone false ⟨[], ""⟩ := by
  cases thread with
  | testing others => cases same
  | receiving others => exact ⟨others, rfl, WorkerThread.receiving.inj same⟩
  | finished => cases same

theorem WorkerThread.AsAlone.of_own {responseTimeoutMsec : SizeT} {sourceId : String}
    {own : List WorkerEvent} {thread other : WorkerThread}
    (asAlone : other.AsAlone responseTimeoutMsec sourceId own) (same : other.own = thread.own) :
    thread.AsAlone responseTimeoutMsec sourceId own := by
  obtain ⟨worker, ran, notifier, isMatch⟩ := asAlone
  refine ⟨worker, ran, notifier, ?_⟩
  cases thread with
  | testing locals =>
      obtain ⟨others, rfl, sameOwn⟩ := WorkerThread.own_testing same
      exact isMatch.trans
        (congrArg (fun own => own.alone false worker.resultNotifier) sameOwn)
  | receiving locals =>
      obtain ⟨others, rfl, sameOwn⟩ := WorkerThread.own_receiving same
      exact isMatch.trans
        (congrArg (fun own => own.alone false worker.resultNotifier) sameOwn)
  | finished => trivial

namespace System

/-- The system as it would be if nothing were taken from the notifier's queue, and what was is
`taken`. The threads may hold other copies of what is shared. -/
def untaken (system : System) (taken : List NotificationData) (threads : List WorkerThread) :
    System :=
  { system with
    resultNotifier :=
      { system.resultNotifier with queue := taken ++ system.resultNotifier.queue }
    threads }

structure Lags (taken : List NotificationData) (system whole : System) : Prop where
  same : whole = system.untaken taken whole.threads
  threads : whole.threads.map WorkerThread.own = system.threads.map WorkerThread.own

variable {system next : System} {taken : List NotificationData} {threads : List WorkerThread}
  {workerId : Nat}

private theorem other_thread {thread : WorkerThread}
    (alike : threads.map WorkerThread.own = system.threads.map WorkerThread.own)
    (here : system.threads[workerId]? = some thread) :
    ∃ other, threads[workerId]? = some other ∧ other.own = thread.own := by
  have mapped : (threads.map WorkerThread.own)[workerId]? = some thread.own := by
    rw [alike, List.getElem?_map, here]
    rfl
  rw [List.getElem?_map] at mapped
  exact Option.map_eq_some_iff.mp mapped

private theorem set_alike {thread other : WorkerThread}
    (alike : threads.map WorkerThread.own = system.threads.map WorkerThread.own)
    (same : other.own = thread.own) :
    (threads.set workerId other).map WorkerThread.own =
      (system.threads.set workerId thread).map WorkerThread.own := by
  rw [List.map_set, List.map_set, alike, same]

/-- What a worker finds shared, it finds in the whole with more in the notifier's queue. -/
private theorem shared_untaken {locals others : RadiusWorker}
    (same : others.alone false ⟨[], ""⟩ = locals.alone false ⟨[], ""⟩) :
    (system.untaken taken threads).shared others =
      (system.shared locals).alone system.processor.stop
        ⟨taken ++ system.resultNotifier.queue, system.resultNotifier.sourceId⟩ :=
  congrArg (fun worker => worker.alone system.processor.stop
    ⟨taken ++ system.resultNotifier.queue, system.resultNotifier.sourceId⟩) same

private theorem testStop_lags (stepped : system.testStop workerId = some next)
    (alike : threads.map WorkerThread.own = system.threads.map WorkerThread.own) :
    ∃ whole, (system.untaken taken threads).testStop workerId = some whole ∧
      next.Lags taken whole := by
  obtain ⟨locals, atTest, outcome⟩ := testStop_cases stepped
  obtain ⟨other, there, same⟩ := other_thread alike atTest
  obtain ⟨others, rfl, sameOwn⟩ := WorkerThread.own_testing same
  have thereWhole : (system.untaken taken threads).threads[workerId]? = some (.testing others) :=
    there
  unfold testStop
  rw [thereWhole]
  dsimp only
  rcases outcome with ⟨raised, rfl⟩ | ⟨lowered, rfl⟩
  · have exits : others.exitPool system.pool = locals.exitPool system.pool := by
      show (others.alone false ⟨[], ""⟩).exitPool system.pool = _
      rw [sameOwn]
      rfl
    rw [show (system.untaken taken threads).processor.stop = true from raised, if_pos rfl]
    refine ⟨_, rfl, ?_, set_alike alike rfl⟩
    rw [show others.exitPool (system.untaken taken threads).pool = _ from exits]
    rfl
  · rw [show (system.untaken taken threads).processor.stop = false from lowered,
      if_neg Bool.false_ne_true]
    exact ⟨_, rfl, rfl, set_alike alike (congrArg WorkerThread.receiving sameOwn)⟩

private theorem processNext_lags {clockMsec : SizeT}
    (stepped : system.processNext workerId clockMsec = some next)
    (alike : threads.map WorkerThread.own = system.threads.map WorkerThread.own) :
    ∃ whole, (system.untaken taken threads).processNext workerId clockMsec = some whole ∧
      next.Lags taken whole := by
  obtain ⟨packet, recvQueue, locals, after, pool, receiving, queued, processed, released, rfl⟩ :=
    processNext_cases stepped
  obtain ⟨other, there, same⟩ := other_thread alike receiving
  obtain ⟨others, rfl, sameOwn⟩ := WorkerThread.own_receiving same
  obtain ⟨notified, appended, alone⟩ := RadiusWorker.processMessage_alone processed
  have flag := RadiusWorker.processMessage_stop processed
  have found := @shared_untaken system taken threads locals others sameOwn
  have processedWhole : ((system.untaken taken threads).shared others).processMessage
      system.processor.responseTimeoutMsec ⟨packet, clockMsec⟩ = .ok (after.alone after.stop
        ⟨taken ++ system.resultNotifier.queue ++ notified, system.resultNotifier.sourceId⟩) := by
    rw [found, flag]
    exact alone _ _
  have releasedWhole : ((system.untaken taken threads).shared others).processMessagePool
      system.processor.responseTimeoutMsec ⟨packet, clockMsec⟩ system.pool = .ok pool := by
    rw [found]
    exact released
  have notifies : (⟨taken ++ system.resultNotifier.queue ++ notified,
      system.resultNotifier.sourceId⟩ : ResultNotifier) =
        { after.resultNotifier with queue := taken ++ after.resultNotifier.queue } := by
    rw [appended]
    exact congrArg (ResultNotifier.mk · _) (List.append_assoc ..)
  refine ⟨_, Processes.step ⟨there, queued, processedWhole, releasedWhole, rfl⟩, ?_, ?_⟩
  · rw [untaken, System.mk.injEq]
    exact ⟨rfl, rfl, rfl, notifies, rfl⟩
  · exact set_alike alike (by split <;> rfl)

/-- A step does not depend on what has been taken from the notifier's queue. -/
theorem step_lags {whole : System} {action : Action} (stepped : system.step action = some next)
    (lags : system.Lags taken whole) :
    ∃ wholeNext, whole.step action = some wholeNext ∧ next.Lags taken wholeNext := by
  obtain ⟨same, alike⟩ := lags
  revert alike
  generalize whole.threads = threads at same
  subst same
  intro alike
  cases action with
  | receive message now =>
      obtain ⟨pack, pool, waiting, front, rfl⟩ := receive_cases stepped
      refine ⟨{ system.untaken taken threads with
        pool, packetPtr := some (NIC.receivePacket pack message now).val }, ?_, rfl, alike⟩
      show (system.untaken taken threads).receive message now = _
      unfold receive
      rw [show (system.untaken taken threads).packetPtr = none from waiting,
        show (system.untaken taken threads).pool = some pack :: pool from front]
      rfl
  | drop =>
      obtain ⟨frame, held, rfl⟩ := drop_cases stepped
      refine ⟨{ system.untaken taken threads with
        pool := system.pool.destroyItem (some frame), packetPtr := none }, ?_, rfl, alike⟩
      show (system.untaken taken threads).drop = _
      unfold drop
      rw [show (system.untaken taken threads).packetPtr = some frame from held]
      rfl
  | handOver workerId =>
      obtain ⟨frame, recvQueue, packet, left, held, queued, built, rfl⟩ := handOver_cases stepped
      exact ⟨_, handOver_step held queued built, rfl, alike⟩
  | broadcast inst =>
      cases stepped
      exact ⟨_, rfl, rfl, alike⟩
  | broadcastTo workerId inst =>
      obtain ⟨recvQueue, queued, rfl⟩ := broadcastTo_cases stepped
      refine ⟨{ system.untaken taken threads with processor := { system.processor with
        receivedPacketQueue := system.processor.receivedPacketQueue.set workerId
          (ObjectQueue.putObject recvQueue (RADIUSPacket.ofControlMessageId inst)) } }, ?_, rfl,
        alike⟩
      exact congrArg (Option.map _) queued
  | testStop workerId => exact testStop_lags stepped alike
  | processNext workerId clockMsec => exact processNext_lags stepped alike

/-! ### The SYNCs that a worker is sent -/

private theorem shownBy_processNext (workerId mover : Nat) (clockMsec : SizeT) :
    packetsPut (shownBy workerId (system.events (.processNext mover clockMsec))) = [] := by
  rw [events]
  split
  · rename_i packet rest next taken stepped
    by_cases own : mover = workerId
    · subst own
      rw [shownBy_self]
      exact (of_took ..).1
    · rw [shownBy_of_ne own]
      rfl
  · rfl

/-- A packet that was received is no SYNC. -/
private theorem not_sync {frame : ETHPacket} {packet : RADIUSPacket} {left : RawPacketsPoolItem}
    (built : RADIUSPacket.ofPoolItem (some frame) = .ok (packet, left)) :
    packet.isSync = false := by
  obtain ⟨_, avps, rfl⟩ := ofPoolItem_ok built
  rfl

private theorem syncs_of_put {mover : Nat} (packet : RADIUSPacket) :
    (packetsPut (shownBy workerId ([WorkerEvent.put packet].map (Prod.mk mover)))).countP
        RADIUSPacket.isSync =
      (decide (mover = workerId) && packet.isSync).toNat := by
  by_cases own : mover = workerId
  · subst own
    rw [shownBy_self, decide_eq_true rfl, Bool.true_and]
    show [packet].countP RADIUSPacket.isSync = _
    rw [List.countP_singleton]
    cases packet.isSync <;> rfl
  · rw [shownBy_of_ne own, decide_eq_false own]
    rfl

private theorem step_syncsPut {action : Action} (stepped : system.step action = some next) :
    next.queues.length = system.queues.length ∧ (workerId < system.queues.length →
      (packetsPut (shownBy workerId (system.events action))).countP RADIUSPacket.isSync =
        (action.syncsTo workerId).toNat) := by
  cases action with
  | receive message now =>
      obtain ⟨_, _, _, _, rfl⟩ := receive_cases stepped
      exact ⟨rfl, fun _ => rfl⟩
  | drop =>
      obtain ⟨_, _, rfl⟩ := drop_cases stepped
      exact ⟨rfl, fun _ => rfl⟩
  | handOver mover =>
      obtain ⟨frame, recvQueue, packet, left, held, queued, built, rfl⟩ := handOver_cases stepped
      refine ⟨List.length_set .., fun _ => ?_⟩
      rw [events_handOver held built, syncs_of_put, not_sync built, Bool.and_false]
      rfl
  | broadcast inst =>
      cases stepped
      refine ⟨List.length_map .., fun served => ?_⟩
      rw [events, shownBy_range, if_pos served]
      cases inst <;> rfl
  | broadcastTo mover inst =>
      obtain ⟨recvQueue, queued, rfl⟩ := broadcastTo_cases stepped
      refine ⟨List.length_set .., fun _ => ?_⟩
      rw [events, syncs_of_put, Action.syncsTo, Bool.decide_and]
      rfl
  | testStop mover =>
      obtain ⟨locals, _, ⟨_, rfl⟩ | ⟨_, rfl⟩⟩ := testStop_cases stepped
      · exact ⟨rfl, fun _ => rfl⟩
      · exact ⟨rfl, fun _ => rfl⟩
  | processNext mover clockMsec =>
      rw [shownBy_processNext]
      obtain ⟨packet, recvQueue, locals, after, pool, processes⟩ := processNext_cases stepped
      obtain ⟨_, _, _, _, rfl⟩ := processes
      exact ⟨List.length_set .., fun _ => rfl⟩

private theorem run_syncsPut {actions : List Action} (ran : system.run actions = some next)
    (served : workerId < next.queues.length) :
    (packetsPut (shownBy workerId (system.history actions))).countP RADIUSPacket.isSync =
        actions.countP (Action.syncsTo workerId) ∧
      next.queues.length = system.queues.length := by
  induction actions generalizing system with
  | nil =>
      cases ran
      exact ⟨rfl, rfl⟩
  | cons action rest inductionHypothesis =>
      obtain ⟨middle, stepped, ran⟩ := partialRun_cons.mp ran
      obtain ⟨others, sameRest⟩ := inductionHypothesis ran
      obtain ⟨same, first⟩ := @step_syncsPut system middle workerId action stepped
      refine ⟨?_, sameRest.trans same⟩
      unfold history at others ⊢
      rw [partialTrace_cons stepped, shownBy_append, packetsPut_append, List.countP_append,
        first (by omega), others, List.countP_cons]
      cases action.syncsTo workerId
      · exact Nat.zero_add _
      · exact Nat.add_comm ..

/-- No thread of the system renames the notifier. -/
private theorem step_sourceId {action : Action} (stepped : system.step action = some next) :
    next.resultNotifier.sourceId = system.resultNotifier.sourceId := by
  cases action with
  | receive message now =>
      obtain ⟨_, _, _, _, rfl⟩ := receive_cases stepped
      rfl
  | drop =>
      obtain ⟨_, _, rfl⟩ := drop_cases stepped
      rfl
  | handOver mover =>
      obtain ⟨_, _, _, _, _, _, _, rfl⟩ := handOver_cases stepped
      rfl
  | broadcast inst =>
      cases stepped
      rfl
  | broadcastTo mover inst =>
      obtain ⟨_, _, rfl⟩ := broadcastTo_cases stepped
      rfl
  | testStop mover =>
      obtain ⟨_, _, ⟨_, rfl⟩ | ⟨_, rfl⟩⟩ := testStop_cases stepped
      · rfl
      · rfl
  | processNext mover clockMsec =>
      obtain ⟨packet, recvQueue, locals, after, pool, processes⟩ := processNext_cases stepped
      obtain ⟨_, appended, _⟩ := RadiusWorker.processMessage_alone processes.processed
      rw [processes.next]
      exact (congrArg ResultNotifier.sourceId appended).trans rfl

end System

/-! ### All threads -/

/-- The notifier of the system is the one whose life is here. While the sync thread is
broadcasting, `sent` queues have been put the SYNC. -/
structure Application where
  system : System
  syncLife : SyncLife
  sent : Nat := 0
  notifierLife : NotifierLife

inductive ApplicationAction where
  | ofSystem (action : Action)
  /-- Where the thread broadcasts, this is the end of its loop over the queues. -/
  | ofSync (action : SyncAction)
  /-- One turn of that loop. -/
  | putsSync (workerId : Nat)
  | ofNotifier (action : NotifierAction)

namespace ApplicationAction

/-- Nobody but the sync thread broadcasts, nobody but the workers notifies, and nobody gives the
notifier its name but `main`, before the other threads are there. -/
def Occurs (sourceId : String) : ApplicationAction → Prop
  | ofSystem (.broadcast _) => False
  | ofSystem (.broadcastTo _ _) => False
  | ofSystem _ => True
  | ofSync _ => True
  | putsSync _ => True
  | ofNotifier (.provides ..) => False
  | ofNotifier (.initializes _) => sourceId ≠ ""
  | ofNotifier _ => True

/-- What the system does, and what it is made to do by the sync thread. -/
def systemActions : ApplicationAction → List Action
  | ofSystem action => [action]
  | putsSync workerId => [.broadcastTo workerId .syncTimeout]
  | ofSync _ | ofNotifier _ => []

/-- A reading of the timer that comes through. -/
def isRead : ApplicationAction → Bool
  | ofSync action => action.isRead
  | ofSystem _ | putsSync _ | ofNotifier _ => false

def syncsTo (workerId : Nat) : ApplicationAction → Bool
  | putsSync other => decide (other = workerId)
  | ofSystem _ | ofSync _ | ofNotifier _ => false

end ApplicationAction

namespace Application

/-- The system with the notifier as it is. -/
def shared (app : Application) : System :=
  { app.system with resultNotifier := app.notifierLife.notifier }

/-- What a step of the system leaves. -/
def withSystem (app : Application) (system : System) : Application :=
  { app with
    system
    notifierLife := { app.notifierLife with notifier := system.resultNotifier } }

/-- `dispatchBroadcast(SYNC_TIMEOUT)` or `route(SYNC_TIMEOUT)` at the next queue. -/
def putSync (app : Application) (workerId : Nat) : Option Application :=
  if app.syncLife.place = some .broadcasting ∧ workerId = app.sent then
    (app.shared.step (.broadcastTo workerId .syncTimeout)).map fun system =>
      { app.withSystem system with sent := app.sent + 1 }
  else none

/-- A step of the sync thread's own, which leaves the broadcast behind the last queue only. -/
def syncStep (owner : SyncOwner) (app : Application) (action : SyncAction) : Option Application :=
  match app.syncLife.step owner action with
  | some syncLife =>
      if action.isBroadcast then
        if app.sent = app.system.queues.length then some { app with syncLife, sent := 0 } else none
      else some { app with syncLife }
  | none => none

def step (owner : SyncOwner) (app : Application) : ApplicationAction → Option Application
  | .ofSystem action => (app.shared.step action).map app.withSystem
  | .ofSync action => app.syncStep owner action
  | .putsSync workerId => app.putSync workerId
  | .ofNotifier action =>
      (app.notifierLife.step action).map fun notifierLife => { app with notifierLife }

def run (owner : SyncOwner) (app : Application) (actions : List ApplicationAction) :
    Option Application :=
  partialRun (step owner) app actions

/-- `main` behind `ResultNotifier::instance().initialize(sourceId)`, with the workers started. -/
def start (pool : ObjectPool) (workers : Nat) (responseTimeoutMsec : SizeT) (sourceId : String) :
    Application where
  system := .start pool workers responseTimeoutMsec ⟨[], sourceId⟩
  syncLife := { members := { startedBehindTimer := fun joined => Bool.noConfusion joined } }
  notifierLife := { notifier := ⟨[], sourceId⟩, place := some .testing }

variable {owner : SyncOwner} {app next : Application} {sourceId : String}

theorem putSync_cases {workerId : Nat} (stepped : app.putSync workerId = some next) :
    app.syncLife.place = some .broadcasting ∧ workerId = app.sent ∧
      ∃ system, app.shared.step (.broadcastTo workerId .syncTimeout) = some system ∧
        next = { app.withSystem system with sent := app.sent + 1 } := by
  unfold putSync at stepped
  split at stepped
  · rename_i turn
    obtain ⟨system, systemStepped, rfl⟩ := Option.map_eq_some_iff.mp stepped
    exact ⟨turn.1, turn.2, system, systemStepped, rfl⟩
  · cases stepped

theorem syncStep_cases {action : SyncAction} (stepped : app.syncStep owner action = some next) :
    ∃ syncLife, app.syncLife.step owner action = some syncLife ∧
      ((action.isBroadcast = true ∧ app.sent = app.system.queues.length ∧
          next = { app with syncLife, sent := 0 }) ∨
        (action.isBroadcast = false ∧ next = { app with syncLife })) := by
  unfold syncStep at stepped
  split at stepped
  · rename_i syncLife syncStepped
    refine ⟨syncLife, syncStepped, ?_⟩
    cases broadcast : action.isBroadcast with
    | true =>
        rw [broadcast, if_pos rfl] at stepped
        split at stepped
        · rename_i all
          exact .inl ⟨rfl, all, (Option.some.inj stepped).symm⟩
        · cases stepped
    | false =>
        rw [broadcast, if_neg Bool.false_ne_true] at stepped
        exact .inr ⟨rfl, (Option.some.inj stepped).symm⟩
  · cases stepped

/-! ### The system with a notifier that nothing is taken from -/

private theorem notifier_lags {action : NotifierAction} {life : NotifierLife}
    (occurs : (ApplicationAction.ofNotifier action).Occurs sourceId)
    (named : app.notifierLife.notifier.sourceId = sourceId)
    (stepped : app.notifierLife.step action = some life) {whole : System}
    (lags : app.shared.Lags app.notifierLife.logged whole) :
    ({ app with notifierLife := life } : Application).shared.Lags life.logged whole := by
  have silent : app.notifierLife.provided action = [] := by
    cases action with
    | provides timeMsec resp req => cases occurs
    | _ => rfl
  have inOrder := NotifierLife.step_inOrder stepped
  rw [silent, List.append_nil] at inOrder
  -- a name that is there stays, and only `initialize` gives one
  have name : life.notifier.sourceId = app.notifierLife.notifier.sourceId := by
    rw [NotifierLife.step_name stepped]
    split
    · rename_i empty
      have noName := String.isEmpty_iff.mp empty
      cases action with
      | initializes other => exact absurd (named.symm.trans noName) occurs
      | _ => exact noName.symm
    · rfl
  refine ⟨lags.same.trans ?_, lags.threads⟩
  have notifier : ({ app.notifierLife.notifier with
        queue := app.notifierLife.logged ++ app.notifierLife.notifier.queue } : ResultNotifier) =
      { life.notifier with queue := life.logged ++ life.notifier.queue } := by
    rw [inOrder, ResultNotifier.mk.injEq]
    exact ⟨rfl, name.symm⟩
  exact congrArg (fun notifier => ({ app.system with
    resultNotifier := notifier, threads := whole.threads } : System)) notifier

/-- The system runs as it would with a notifier that nothing is taken from. -/
private theorem step_simulated {action : ApplicationAction} {whole : System}
    (occurs : action.Occurs sourceId) (stepped : app.step owner action = some next)
    (related : app.shared.Lags app.notifierLife.logged whole ∧
      whole.resultNotifier.sourceId = sourceId) :
    ∃ wholeNext, partialRun System.step whole action.systemActions = some wholeNext ∧
      next.shared.Lags next.notifierLife.logged wholeNext ∧
        wholeNext.resultNotifier.sourceId = sourceId := by
  obtain ⟨lags, named⟩ := related
  have one {inst : Action} {system : System} (systemStepped : app.shared.step inst = some system) :
      ∃ wholeNext, partialRun System.step whole [inst] = some wholeNext ∧
        (app.withSystem system).shared.Lags app.notifierLife.logged wholeNext ∧
          wholeNext.resultNotifier.sourceId = sourceId := by
    obtain ⟨wholeNext, wholeStepped, lagsNext⟩ := System.step_lags systemStepped lags
    exact ⟨wholeNext, partialRun_cons.mpr ⟨wholeNext, wholeStepped, rfl⟩, lagsNext,
      (System.step_sourceId wholeStepped).trans named⟩
  cases action with
  | ofSystem inst =>
      obtain ⟨system, systemStepped, rfl⟩ := Option.map_eq_some_iff.mp stepped
      exact one systemStepped
  | ofSync inst =>
      obtain ⟨syncLife, _, ⟨_, _, rfl⟩ | ⟨_, rfl⟩⟩ := syncStep_cases stepped
      · exact ⟨whole, rfl, lags, named⟩
      · exact ⟨whole, rfl, lags, named⟩
  | putsSync workerId =>
      obtain ⟨_, _, system, systemStepped, rfl⟩ := putSync_cases stepped
      exact one systemStepped
  | ofNotifier inst =>
      obtain ⟨life, lifeStepped, rfl⟩ := Option.map_eq_some_iff.mp stepped
      have sameName : app.notifierLife.notifier.sourceId = sourceId :=
        (congrArg (fun system => system.resultNotifier.sourceId) lags.same).symm.trans named
      exact ⟨whole, rfl, notifier_lags occurs sameName lifeStepped lags, named⟩

/-! ### A SYNC for each reading -/

/-- Nothing has been sent of a broadcast that has not begun. -/
structure Synced (workers : Nat) (app : Application) : Prop where
  sound : app.syncLife.Sound
  unsent : app.syncLife.place ≠ some .broadcasting → app.sent = 0
  served : app.system.queues.length = workers

/-- The SYNC that is on its way to the worker. -/
def owedTo (workerId : Nat) (app : Application) : Nat :=
  if app.syncLife.place = some .broadcasting ∧ app.sent ≤ workerId then 1 else 0

private theorem Synced.of_same {workers workerId : Nat} (synced : app.Synced workers)
    (life : next.syncLife = app.syncLife) (sent : next.sent = app.sent)
    (served : next.system.queues.length = app.system.queues.length) :
    next.Synced workers ∧ (false.toNat + next.owedTo workerId =
      app.owedTo workerId + false.toNat) := by
  refine ⟨⟨life ▸ synced.sound, fun elsewhere => ?_, served.trans synced.served⟩, ?_⟩
  · exact sent.trans (synced.unsent (life ▸ elsewhere))
  · unfold owedTo
    rw [life, sent]
    exact Nat.zero_add _

private theorem syncStep_synced {workers workerId : Nat} (inside : workerId < workers)
    {action : SyncAction} (stepped : app.syncStep owner action = some next)
    (synced : app.Synced workers) :
    next.Synced workers ∧ next.owedTo workerId = app.owedTo workerId + action.isRead.toNat := by
  obtain ⟨syncLife, syncStepped, outcome⟩ := syncStep_cases stepped
  have sound := SyncLife.step_sound syncStepped synced.sound
  have owed := SyncLife.step_owed synced.sound syncStepped
  rcases outcome with ⟨broadcasts, all, rfl⟩ | ⟨silent, rfl⟩
  · have last : ¬ app.sent ≤ workerId := by
      rw [all, synced.served]
      exact Nat.not_le_of_lt inside
    cases action with
    | broadcasts =>
        obtain ⟨_, rfl⟩ := SyncLife.broadcast_cases syncStepped
        refine ⟨⟨sound, fun _ => rfl, synced.served⟩, ?_⟩
        have before : app.owedTo workerId = 0 := if_neg fun sending => last sending.2
        rw [before]
        exact if_neg fun sending => nomatch sending.1
    | _ => cases broadcasts
  · rw [silent, Bool.toNat_false, Nat.zero_add] at owed
    unfold SyncLife.owed at owed
    by_cases sending : app.syncLife.place = some .broadcasting
    · rw [if_pos sending] at owed
      have still : syncLife.place = some .broadcasting := by
        by_contra elsewhere
        rw [if_neg elsewhere] at owed
        omega
      rw [if_pos still] at owed
      have unread : action.isRead.toNat = 0 := by omega
      refine ⟨⟨sound, fun elsewhere => absurd still elsewhere, synced.served⟩, ?_⟩
      show (if syncLife.place = some .broadcasting ∧ app.sent ≤ workerId then 1 else 0) = _
      rw [owedTo, sending, still, unread]
      rfl
    · have nothing := synced.unsent sending
      have before : app.owedTo workerId = 0 := if_neg fun both => sending both.1
      rw [if_neg sending, Nat.zero_add] at owed
      refine ⟨⟨sound, fun _ => nothing, synced.served⟩, ?_⟩
      show (if syncLife.place = some .broadcasting ∧ app.sent ≤ workerId then 1 else 0) = _
      rw [nothing, before, Nat.zero_add, ← owed]
      simp only [Nat.zero_le, and_true]

private theorem step_synced {workers workerId : Nat} (inside : workerId < workers)
    {action : ApplicationAction} (stepped : app.step owner action = some next)
    (synced : app.Synced workers) :
    next.Synced workers ∧ (action.syncsTo workerId).toNat + next.owedTo workerId =
      app.owedTo workerId + action.isRead.toNat := by
  cases action with
  | ofSystem inst =>
      obtain ⟨system, systemStepped, rfl⟩ := Option.map_eq_some_iff.mp stepped
      have length := (@System.step_syncsPut app.shared system workerId inst systemStepped).1
      exact synced.of_same rfl rfl length
  | ofSync inst =>
      obtain ⟨syncedNext, owed⟩ := syncStep_synced inside stepped synced
      exact ⟨syncedNext, (Nat.zero_add _).trans owed⟩
  | putsSync other =>
      obtain ⟨sending, rfl, system, systemStepped, rfl⟩ := putSync_cases stepped
      have length := (@System.step_syncsPut app.shared system workerId _ systemStepped).1
      refine ⟨⟨synced.sound, fun elsewhere => absurd sending elsewhere,
        length.trans synced.served⟩, ?_⟩
      show (decide (app.sent = workerId)).toNat +
        (if app.syncLife.place = some .broadcasting ∧ app.sent + 1 ≤ workerId then 1 else 0) =
          (if app.syncLife.place = some .broadcasting ∧ app.sent ≤ workerId then 1 else 0) + 0
      simp only [sending, true_and]
      by_cases own : app.sent = workerId
      · simp [own]
      · simp only [own, decide_false, Bool.toNat_false]
        have same : app.sent + 1 ≤ workerId ↔ app.sent ≤ workerId := by omega
        simp only [same]
        omega
  | ofNotifier inst =>
      obtain ⟨life, _, rfl⟩ := Option.map_eq_some_iff.mp stepped
      exact synced.of_same rfl rfl rfl

/-- Only the sync thread sends SYNCs. -/
private theorem countP_syncsTo {actions : List ApplicationAction}
    (occurs : ∀ action ∈ actions, ApplicationAction.Occurs sourceId action) (workerId : Nat) :
    (actions.flatMap ApplicationAction.systemActions).countP (Action.syncsTo workerId) =
      actions.countP (ApplicationAction.syncsTo workerId) := by
  induction actions with
  | nil => rfl
  | cons action rest inductionHypothesis =>
      obtain ⟨first, others⟩ := List.forall_mem_cons.mp occurs
      rw [List.flatMap_cons, List.countP_append, inductionHypothesis others, List.countP_cons,
        Nat.add_comm]
      congr 1
      cases action with
      | ofSystem inst =>
          cases inst with
          | broadcast => cases first
          | broadcastTo => cases first
          | _ => rfl
      | ofSync inst => rfl
      | putsSync other =>
          rw [ApplicationAction.systemActions, List.countP_singleton, Action.syncsTo,
            ApplicationAction.syncsTo]
          simp
      | ofNotifier inst => rfl

end Application

/-- Every thread does what it would alone: the log and what is left for it are what the workers
notify; each worker is as it would be alone over what it has taken from its own queue, in order;
and it is sent a SYNC for each reading of the timer. -/
structure Application.EachAsAlone (responseTimeoutMsec : SizeT) (sourceId : String)
    (shown : List (Nat × WorkerEvent)) (readings : Nat) (app : Application) : Prop where
  logged : app.notifierLife.logged ++ app.notifierLife.notifier.queue =
    notifications (shown.map Prod.snd)
  workers : ∀ (workerId : Nat) thread, app.system.threads[workerId]? = some thread →
    thread.AsAlone responseTimeoutMsec sourceId (shownBy workerId shown)
  inOrder : ∀ (workerId : Nat) recvQueue, app.system.queues[workerId]? = some recvQueue →
    packetsPut (shownBy workerId shown) =
      (itemsTaken (shownBy workerId shown)).map QueueItem.packet ++ recvQueue
  synced : ∀ (workerId : Nat) recvQueue, app.system.queues[workerId]? = some recvQueue →
    (packetsPut (shownBy workerId shown)).countP RADIUSPacket.isSync +
      (if app.syncLife.place = some .broadcasting ∧ app.sent ≤ workerId then 1 else 0) = readings

/-- In every order in which the main loop, the workers, the sync thread, the notifier's and those
that start and stop these take their steps. -/
theorem each_thread_as_alone (owner : SyncOwner) (pool : ObjectPool) (workers : Nat)
    (responseTimeoutMsec : SizeT) (sourceId : String) (actions : List ApplicationAction)
    (app : Application)
    (occurs : ∀ action ∈ actions, ApplicationAction.Occurs sourceId action)
    (reached : (Application.start pool workers responseTimeoutMsec sourceId).run owner actions =
      some app) :
    app.EachAsAlone responseTimeoutMsec sourceId
      ((System.start pool workers responseTimeoutMsec ⟨[], sourceId⟩).history
        (actions.flatMap ApplicationAction.systemActions))
      (actions.countP ApplicationAction.isRead) := by
  have startLags : (Application.start pool workers responseTimeoutMsec sourceId).shared.Lags []
      (System.start pool workers responseTimeoutMsec ⟨[], sourceId⟩) := ⟨rfl, rfl⟩
  obtain ⟨whole, ran, lags, _⟩ := partialRun_simulated
    (ApplicationAction.Occurs sourceId)
    (fun (app : Application) whole => app.shared.Lags app.notifierLife.logged whole ∧
      whole.resultNotifier.sourceId = sourceId)
    ApplicationAction.systemActions
    (fun _ _ _ _ occurs stepped related => Application.step_simulated occurs stepped related)
    occurs reached ⟨startLags, rfl⟩
  have runsAlone : whole.RunsAlone responseTimeoutMsec sourceId
      ((System.start pool workers responseTimeoutMsec ⟨[], sourceId⟩).history
        (actions.flatMap ApplicationAction.systemActions)) :=
    partialTrace_invariant (System.RunsAlone responseTimeoutMsec sourceId)
      (fun _ _ _ _ stepped runsAlone => System.step_runsAlone stepped runsAlone) ran
      (System.start_runsAlone pool workers responseTimeoutMsec sourceId)
  have queues : whole.queues = app.system.queues := (congrArg System.queues lags.same).trans rfl
  refine ⟨?_, fun workerId thread here => ?_, fun workerId recvQueue here => ?_,
    fun workerId recvQueue here => ?_⟩
  · have notifier := (congrArg System.resultNotifier lags.same).symm.trans runsAlone.notifier
    exact congrArg ResultNotifier.queue notifier
  · obtain ⟨other, there, same⟩ := System.other_thread lags.threads here
    exact (runsAlone.workers workerId other there).of_own same
  · exact runsAlone.inOrder workerId recvQueue (by rw [queues]; exact here)
  · have served : workerId < whole.queues.length := by
      rw [queues]
      exact (List.getElem?_eq_some_iff.mp here).1
    obtain ⟨sent, length⟩ := System.run_syncsPut ran served
    have inside : workerId < workers := by
      rw [length] at served
      exact Nat.lt_of_lt_of_eq served List.length_replicate
    rw [sent, Application.countP_syncsTo occurs]
    have account := partialRun_account (fun _ => True) (Application.Synced workers)
      (Application.owedTo workerId) (ApplicationAction.syncsTo workerId) ApplicationAction.isRead
      (fun _ _ _ _ stepped synced => Application.step_synced inside stepped synced)
      (fun _ _ => trivial) reached ⟨SyncLife.start_sound, fun _ => rfl, List.length_replicate⟩
    exact account.trans (Nat.zero_add _)

/-- The timer is read once, and the main thread receives between the two queues; the notifier is
named again and its thread passes its test. -/
def oneReading : List ApplicationAction :=
  [.ofSync (.initializes 2 ⟨some 3, some ⟨100, 0⟩, true⟩), .ofSystem (.testStop 0), .ofSync .tests,
    .ofSync (.polls .ready), .ofSync (.reads (some 1)), .putsSync 0,
    .ofSystem (.receive none 0), .ofNotifier (.initializes "other"), .ofNotifier .tests]

theorem each_thread_as_alone_reading :
    ∃ app, (Application.start (.create (Fin.val : Fin 1 → Nat) fun _ _ => 0) 2 1000 "probe").run
        .packetDispatcher oneReading = some app ∧ app.sent = 1 ∧
      app.EachAsAlone 1000 "probe" ((System.start (.create (Fin.val : Fin 1 → Nat) fun _ _ => 0) 2
        1000 ⟨[], "probe"⟩).history (oneReading.flatMap ApplicationAction.systemActions)) 1 := by
  have occurs : ∀ action ∈ oneReading, ApplicationAction.Occurs "probe" action := by
    simp [oneReading, ApplicationAction.Occurs]
  exact ⟨_, rfl, rfl, each_thread_as_alone .packetDispatcher _ 2 1000 "probe" oneReading _ occurs
    rfl⟩

end TrafficInspector
