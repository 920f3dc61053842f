import TrafficInspector.Foundation.QueueWorkers
import TrafficInspector.Threads.BufferConservation
import TrafficInspector.Threads.RegularRuns

/-!
Owns the loop of a RADIUS worker with no more in a step than one operation on what the threads
share: a message is taken, a notification provided, one packet after the other destroyed. What a
worker holds between two steps is in its map or in its hands; and a worker that nobody disturbs
does with a message what `processMessage` does.
-/

namespace TrafficInspector

open Foundation

/-- What the workers of all processors use: the pool, and the notifier of the RADIUS workers. -/
structure SharedObjects where
  pool : ObjectPool
  resultNotifier : ResultNotifier

/-- Where a worker is in its loop, with the variables of its thread. The flag and the notifier in
these are references; the shared ones count. -/
inductive RadiusPlace where
  /-- In front of `while(!stopFlag)`. -/
  | testing (locals : RadiusWorker)
  /-- In `getObject`. -/
  | receiving (locals : RadiusWorker)
  /-- Behind `getObject`. -/
  | holding (locals : RadiusWorker) (packet : RADIUSPacket)
  /-- In the loop of a SYNC, with the entries that it has not met. -/
  | sweeping (locals : RadiusWorker) (packet : RADIUSPacket) (timeStamp : SizeT)
      (iter : List (RadSessionPair × RADIUSPacket))
  /-- Behind the notification, in front of `erase(it)`. -/
  | erasing (locals : RadiusWorker) (packet : RADIUSPacket) (it : RadSessionPair × RADIUSPacket)
  /-- At the end of the body, where the packet is destroyed. -/
  | ending (locals : RadiusWorker) (packet : RADIUSPacket)
  /-- Out of the loop, where the map is destroyed. -/
  | leaving (iter : List (RadSessionPair × RADIUSPacket))
  | finished

namespace RadiusPlace

def take : RadiusPlace → RADIUSPacket → Option RadiusPlace
  | receiving locals, packet => some (holding locals packet)
  | _, _ => none

/-- The branch of any other packet: it is kept, or the notification is provided. -/
def processPacket (clockMsec : SizeT) (stop : Bool) (shared : SharedObjects)
    (worker : RadiusWorker) (packet : RADIUSPacket) :
    Option (Bool × SharedObjects × RadiusPlace) :=
  match packet.getPacketSessionPair with
  | .error _ => none
  | .ok sp =>
      match worker.findSession sp with
      | some it =>
          let (resultNotifier, _, _) :=
            shared.resultNotifier.provideDataForNotifier clockMsec packet it.2
          some (stop, { shared with resultNotifier },
            erasing { worker with resultNotifier } packet it)
      | none =>
          some (stop, shared, testing { worker with
            packetSessionsMap := worker.packetSessionsMap.insertIfNew sp packet })

/-- A message that is taken, with the reading of the clock that it takes. -/
def process (clockMsec : SizeT) (stop : Bool) (shared : SharedObjects) (locals : RadiusWorker)
    (packet : RADIUSPacket) : Option (Bool × SharedObjects × RadiusPlace) :=
  let worker := { locals with stop, resultNotifier := shared.resultNotifier }
  match packet.ctrlMessageId with
  | .shutdown => some (true, shared, ending { worker with stop := true } packet)
  | .syncTimeout =>
      some (stop, shared, sweeping worker packet clockMsec worker.packetSessionsMap.toList)
  | .processing | .maxControlMessageId => processPacket clockMsec stop shared worker packet

def act (responseTimeoutMsec clockMsec : SizeT) (stop : Bool) (shared : SharedObjects) :
    RadiusPlace → Option (Bool × SharedObjects × RadiusPlace)
  | testing locals =>
      some (stop, shared,
        if stop then leaving locals.packetSessionsMap.toList else receiving locals)
  | receiving _ => none
  | holding locals packet => process clockMsec stop shared locals packet
  | sweeping locals packet timeStamp (entry :: iter) =>
      some (stop,
        { shared with
          pool := RadiusWorker.syncEntryPool responseTimeoutMsec timeStamp shared.pool entry },
        sweeping (RadiusWorker.syncEntry responseTimeoutMsec timeStamp locals entry) packet
          timeStamp iter)
  | sweeping locals packet _ [] =>
      some (stop, shared, ending { locals with
        syncReports := locals.syncReports ++
          [⟨locals.totalPacketsTimeoutCounter, locals.intervalPacketsTimeoutCounter⟩]
        intervalPacketsTimeoutCounter := 0 } packet)
  | erasing locals packet it =>
      some (stop, { shared with pool := it.2.destroy shared.pool },
        ending { locals with
          packetSessionsMap := locals.packetSessionsMap.erase it.1 } packet)
  -- `break` is behind the test for `SHUTDOWN`
  | ending locals packet =>
      some (stop, { shared with pool := packet.destroy shared.pool },
        if packet.ctrlMessageId = .shutdown then leaving locals.packetSessionsMap.toList
        else testing locals)
  | leaving (entry :: iter) =>
      some (stop, { shared with pool := entry.2.destroy shared.pool }, leaving iter)
  | leaving [] => some (stop, shared, finished)
  | finished => none

/-- Everything that a step of a worker's own can do. -/
inductive Turn (responseTimeoutMsec clockMsec : SizeT) (stop : Bool) (shared : SharedObjects) :
    RadiusPlace → Bool → SharedObjects → RadiusPlace → Prop
  | enters {locals : RadiusWorker} (lowered : stop = false) :
      Turn responseTimeoutMsec clockMsec stop shared (testing locals) stop shared
        (receiving locals)
  | exits {locals : RadiusWorker} (raised : stop = true) :
      Turn responseTimeoutMsec clockMsec stop shared (testing locals) stop shared
        (leaving locals.packetSessionsMap.toList)
  | shutsDown {locals : RadiusWorker} {packet : RADIUSPacket}
      (control : packet.ctrlMessageId = .shutdown) :
      Turn responseTimeoutMsec clockMsec stop shared (holding locals packet) true shared
        (ending { locals with stop := true, resultNotifier := shared.resultNotifier } packet)
  | syncs {locals : RadiusWorker} {packet : RADIUSPacket}
      (control : packet.ctrlMessageId = .syncTimeout) :
      Turn responseTimeoutMsec clockMsec stop shared (holding locals packet) stop shared
        (sweeping { locals with stop, resultNotifier := shared.resultNotifier } packet clockMsec
          locals.packetSessionsMap.toList)
  | joins {locals : RadiusWorker} {packet : RADIUSPacket} {sp : RadSessionPair}
      {req : RADIUSPacket} (own : packet.getPacketSessionPair = .ok sp)
      (held : locals.packetSessionsMap[sp]? = some req) (resultNotifier : ResultNotifier)
      (notifies : resultNotifier = { shared.resultNotifier with
        queue := shared.resultNotifier.queue ++
          [⟨clockMsec, shared.resultNotifier.sourceId, packet.avps, req.avps⟩] }) :
      Turn responseTimeoutMsec clockMsec stop shared (holding locals packet) stop
        { shared with resultNotifier } (erasing { locals with stop, resultNotifier } packet
          (sp, req))
  | keeps {locals : RadiusWorker} {packet : RADIUSPacket} {sp : RadSessionPair}
      (own : packet.getPacketSessionPair = .ok sp)
      (free : locals.packetSessionsMap[sp]? = none) :
      Turn responseTimeoutMsec clockMsec stop shared (holding locals packet) stop shared
        (testing { locals with
          stop, resultNotifier := shared.resultNotifier
          packetSessionsMap := locals.packetSessionsMap.insertIfNew sp packet })
  | sweeps {locals : RadiusWorker} {packet : RADIUSPacket} {timeStamp : SizeT}
      {entry : RadSessionPair × RADIUSPacket} {iter : List (RadSessionPair × RADIUSPacket)} :
      Turn responseTimeoutMsec clockMsec stop shared
        (sweeping locals packet timeStamp (entry :: iter)) stop
        { shared with
          pool := RadiusWorker.syncEntryPool responseTimeoutMsec timeStamp shared.pool entry }
        (sweeping (RadiusWorker.syncEntry responseTimeoutMsec timeStamp locals entry) packet
          timeStamp iter)
  | reports {locals : RadiusWorker} {packet : RADIUSPacket} {timeStamp : SizeT} :
      Turn responseTimeoutMsec clockMsec stop shared (sweeping locals packet timeStamp []) stop
        shared (ending { locals with
          syncReports := locals.syncReports ++
            [⟨locals.totalPacketsTimeoutCounter, locals.intervalPacketsTimeoutCounter⟩]
          intervalPacketsTimeoutCounter := 0 } packet)
  | erases {locals : RadiusWorker} {packet : RADIUSPacket}
      {it : RadSessionPair × RADIUSPacket} :
      Turn responseTimeoutMsec clockMsec stop shared (erasing locals packet it) stop
        { shared with pool := it.2.destroy shared.pool }
        (ending { locals with
          packetSessionsMap := locals.packetSessionsMap.erase it.1 } packet)
  | ends {locals : RadiusWorker} {packet : RADIUSPacket}
      (stays : packet.ctrlMessageId ≠ .shutdown) :
      Turn responseTimeoutMsec clockMsec stop shared (ending locals packet) stop
        { shared with pool := packet.destroy shared.pool } (testing locals)
  | breaks {locals : RadiusWorker} {packet : RADIUSPacket}
      (leaves : packet.ctrlMessageId = .shutdown) :
      Turn responseTimeoutMsec clockMsec stop shared (ending locals packet) stop
        { shared with pool := packet.destroy shared.pool }
        (leaving locals.packetSessionsMap.toList)
  | destroys {entry : RadSessionPair × RADIUSPacket}
      {iter : List (RadSessionPair × RADIUSPacket)} :
      Turn responseTimeoutMsec clockMsec stop shared (leaving (entry :: iter)) stop
        { shared with pool := entry.2.destroy shared.pool } (leaving iter)
  | returns : Turn responseTimeoutMsec clockMsec stop shared (leaving []) stop shared finished

variable {responseTimeoutMsec clockMsec : SizeT} {stop stopAfter : Bool}
  {shared sharedAfter : SharedObjects} {place after : RadiusPlace}

private theorem processPacket_turn {locals : RadiusWorker} {packet : RADIUSPacket}
    (processed : processPacket clockMsec stop shared
      { locals with stop, resultNotifier := shared.resultNotifier } packet =
        some (stopAfter, sharedAfter, after)) :
    Turn responseTimeoutMsec clockMsec stop shared (holding locals packet) stopAfter sharedAfter
      after := by
  unfold processPacket at processed
  cases own : packet.getPacketSessionPair with
  | error fault =>
      rw [own] at processed
      cases processed
  | ok sp =>
      simp only [own, RadiusWorker.findSession_eq] at processed
      cases held : locals.packetSessionsMap[sp]? with
      | some req =>
          rw [held] at processed
          cases processed
          exact .joins own held _ rfl
      | none =>
          rw [held] at processed
          cases processed
          exact .keeps own held

private theorem process_turn {locals : RadiusWorker} {packet : RADIUSPacket}
    (processed : process clockMsec stop shared locals packet =
      some (stopAfter, sharedAfter, after)) :
    Turn responseTimeoutMsec clockMsec stop shared (holding locals packet) stopAfter sharedAfter
      after := by
  unfold process at processed
  cases control : packet.ctrlMessageId with
  | shutdown =>
      rw [control] at processed
      cases processed
      exact .shutsDown control
  | syncTimeout =>
      rw [control] at processed
      cases processed
      exact .syncs control
  | processing =>
      rw [control] at processed
      exact processPacket_turn processed
  | maxControlMessageId =>
      rw [control] at processed
      exact processPacket_turn processed

theorem turn_of_act
    (acted : act responseTimeoutMsec clockMsec stop shared place =
      some (stopAfter, sharedAfter, after)) :
    Turn responseTimeoutMsec clockMsec stop shared place stopAfter sharedAfter after := by
  cases place with
  | testing locals =>
      cases stop with
      | false =>
          cases acted
          exact .enters rfl
      | true =>
          cases acted
          exact .exits rfl
  | receiving locals => cases acted
  | holding locals packet => exact process_turn acted
  | sweeping locals packet timeStamp iter =>
      cases iter with
      | nil =>
          cases acted
          exact .reports
      | cons entry iter =>
          cases acted
          exact .sweeps
  | erasing locals packet it =>
      cases acted
      exact .erases
  | ending locals packet =>
      by_cases leaves : packet.ctrlMessageId = .shutdown
      · rw [act, if_pos leaves] at acted
        cases acted
        exact .breaks leaves
      · rw [act, if_neg leaves] at acted
        cases acted
        exact .ends leaves
  | leaving iter =>
      cases iter with
      | nil =>
          cases acted
          exact .returns
      | cons entry iter =>
          cases acted
          exact .destroys
  | finished => cases acted

end RadiusPlace

/-- The loop over the queue of a worker. -/
def radiusLoop (responseTimeoutMsec : SizeT) :
    QueueLoop RADIUSPacket RadiusPlace SharedObjects SizeT where
  take := RadiusPlace.take
  act := RadiusPlace.act responseTimeoutMsec

namespace RadiusPlace

variable {responseTimeoutMsec clockMsec : SizeT} {stop : Bool} {shared : SharedObjects}

/-! ### A worker that nobody disturbs -/

private theorem sweeps_alone (locals : RadiusWorker) (packet : RADIUSPacket) (timeStamp : SizeT)
    (iter : List (RadSessionPair × RADIUSPacket)) (pool : ObjectPool)
    (resultNotifier : ResultNotifier) :
    partialRun (radiusLoop responseTimeoutMsec).alone
        (stop, ⟨pool, resultNotifier⟩, sweeping locals packet timeStamp iter)
        (List.replicate iter.length clockMsec) =
      some (stop, ⟨iter.foldl (RadiusWorker.syncEntryPool responseTimeoutMsec timeStamp) pool,
        resultNotifier⟩,
        sweeping (iter.foldl (RadiusWorker.syncEntry responseTimeoutMsec timeStamp) locals) packet
          timeStamp []) := by
  induction iter generalizing locals pool with
  | nil => rfl
  | cons entry iter inductionHypothesis =>
      exact partialRun_cons.mpr ⟨_, rfl, inductionHypothesis _ _⟩

private theorem leaves_alone (iter : List (RadSessionPair × RADIUSPacket)) (pool : ObjectPool)
    (resultNotifier : ResultNotifier) :
    partialRun (radiusLoop responseTimeoutMsec).alone
        (stop, ⟨pool, resultNotifier⟩, leaving iter)
        (List.replicate (iter.length + 1) clockMsec) =
      some (stop, ⟨iter.foldl (fun pool entry => entry.2.destroy pool) pool, resultNotifier⟩,
        finished) := by
  induction iter generalizing pool with
  | nil => rfl
  | cons entry iter inductionHypothesis =>
      exact partialRun_cons.mpr ⟨_, rfl, inductionHypothesis _⟩

/-- The test, and the end of the thread behind a raised flag. -/
theorem tests_alone (locals : RadiusWorker) (pool : ObjectPool)
    (resultNotifier : ResultNotifier) :
    ∃ clocks, partialRun (radiusLoop responseTimeoutMsec).alone
        (stop, ⟨pool, resultNotifier⟩, testing locals) clocks =
      some (stop, ⟨if stop then locals.exitPool pool else pool, resultNotifier⟩,
        if stop then finished else receiving locals) := by
  cases stop with
  | true =>
      exact ⟨0 :: _, partialRun_cons.mpr ⟨_, rfl, @leaves_alone responseTimeoutMsec 0 true
        locals.packetSessionsMap.toList pool resultNotifier⟩⟩
  | false => exact ⟨[0], partialRun_cons.mpr ⟨_, rfl, rfl⟩⟩

private theorem act_ending (locals : RadiusWorker) (packet : RADIUSPacket) :
    act responseTimeoutMsec clockMsec stop shared (ending locals packet) =
      some (stop, { shared with pool := packet.destroy shared.pool },
        if packet.ctrlMessageId = .shutdown then leaving locals.packetSessionsMap.toList
        else testing locals) := by
  rw [act]

/-- The end of the body, and of the thread at a `SHUTDOWN`. -/
private theorem ends_alone (locals : RadiusWorker) (packet : RADIUSPacket) (pool : ObjectPool)
    (resultNotifier : ResultNotifier) :
    ∃ clocks, partialRun (radiusLoop responseTimeoutMsec).alone
        (stop, ⟨pool, resultNotifier⟩, ending locals packet) clocks =
      some (stop, ⟨if packet.ctrlMessageId = .shutdown then
          locals.exitPool (packet.destroy pool) else packet.destroy pool, resultNotifier⟩,
        if packet.ctrlMessageId = .shutdown then finished else testing locals) := by
  have ends := @act_ending responseTimeoutMsec 0 stop ⟨pool, resultNotifier⟩ locals packet
  by_cases leaves : packet.ctrlMessageId = .shutdown
  · simp only [if_pos leaves] at ends ⊢
    exact ⟨0 :: _, partialRun_cons.mpr ⟨_, ends, @leaves_alone responseTimeoutMsec 0 stop
      locals.packetSessionsMap.toList _ resultNotifier⟩⟩
  · simp only [if_neg leaves] at ends ⊢
    exact ⟨[0], partialRun_cons.mpr ⟨_, ends, rfl⟩⟩

private theorem processes_packet_alone {locals after : RadiusWorker} {packet : RADIUSPacket}
    {resultNotifier : ResultNotifier} {pool released : ObjectPool}
    (acts : act responseTimeoutMsec clockMsec stop ⟨pool, resultNotifier⟩
        (holding locals packet) =
      processPacket clockMsec stop ⟨pool, resultNotifier⟩ { locals with stop, resultNotifier }
        packet)
    (stays : packet.ctrlMessageId ≠ .shutdown)
    (processed : RadiusWorker.processPacket clockMsec packet { locals with stop, resultNotifier } =
      .ok after)
    (releases : RadiusWorker.processPacketPool packet { locals with stop, resultNotifier } pool =
      .ok released) :
    ∃ clocks, partialRun (radiusLoop responseTimeoutMsec).alone
        (stop, ⟨pool, resultNotifier⟩, holding locals packet) (clockMsec :: clocks) =
      some (after.stop, ⟨released, after.resultNotifier⟩, testing after) := by
  unfold processPacket at acts
  unfold RadiusWorker.processPacketPool at releases
  obtain ⟨sp, own, ⟨req, held, rfl⟩ | ⟨free, rfl⟩⟩ := RadiusWorker.processPacket_cases processed
  · have heldLocals : locals.packetSessionsMap[sp]? = some req := held
    simp only [own, RadiusWorker.findSession_eq, heldLocals, Option.map_some, bind,
      Except.bind] at acts releases
    cases releases
    have ends (locals : RadiusWorker) (shared : SharedObjects) :
        act responseTimeoutMsec 0 stop shared (ending locals packet) =
          some (stop, { shared with pool := packet.destroy shared.pool }, testing locals) :=
      (act_ending locals packet).trans (by rw [if_neg stays])
    exact ⟨[0, 0], partialRun_cons.mpr ⟨_, acts, partialRun_cons.mpr ⟨_, rfl,
      partialRun_cons.mpr ⟨_, ends _ _, rfl⟩⟩⟩⟩
  · have freeLocals : locals.packetSessionsMap[sp]? = none := free
    simp only [own, RadiusWorker.findSession_eq, freeLocals, Option.map_none, bind,
      Except.bind] at acts releases
    cases releases
    exact ⟨[], partialRun_cons.mpr ⟨_, acts, rfl⟩⟩

/-- From one test to the next, or to the end, a worker does what `processMessage` does. -/
theorem processes_alone {locals after : RadiusWorker} {packet : RADIUSPacket}
    {resultNotifier : ResultNotifier} {pool released : ObjectPool}
    (processed : RadiusWorker.processMessage responseTimeoutMsec
      { locals with stop, resultNotifier } ⟨packet, clockMsec⟩ = .ok after)
    (releases : RadiusWorker.processMessagePool responseTimeoutMsec
      { locals with stop, resultNotifier } ⟨packet, clockMsec⟩ pool = .ok released) :
    ∃ clocks, partialRun (radiusLoop responseTimeoutMsec).alone
        (stop, ⟨pool, resultNotifier⟩, holding locals packet) (clockMsec :: clocks) =
      some (after.stop, ⟨if packet.ctrlMessageId = .shutdown then after.exitPool released
          else released, after.resultNotifier⟩,
        if packet.ctrlMessageId = .shutdown then finished else testing after) := by
  have starts : act responseTimeoutMsec clockMsec stop ⟨pool, resultNotifier⟩
      (holding locals packet) = process clockMsec stop ⟨pool, resultNotifier⟩ locals packet := rfl
  unfold process at starts
  unfold RadiusWorker.processMessage at processed
  unfold RadiusWorker.processMessagePool at releases
  cases control : packet.ctrlMessageId with
  | shutdown =>
      simp only [control] at starts processed releases
      cases processed
      cases releases
      obtain ⟨clocks, ran⟩ := @ends_alone responseTimeoutMsec true
        { locals with stop := true, resultNotifier } packet pool resultNotifier
      rw [control] at ran
      exact ⟨clocks, partialRun_cons.mpr ⟨_, starts, ran⟩⟩
  | syncTimeout =>
      simp only [control] at starts processed releases
      cases processed
      cases releases
      have sweeps := @sweeps_alone responseTimeoutMsec 0 stop { locals with stop, resultNotifier }
        packet clockMsec locals.packetSessionsMap.toList pool resultNotifier
      obtain ⟨clocks, ran⟩ := @ends_alone responseTimeoutMsec stop
        (RadiusWorker.processSync responseTimeoutMsec clockMsec
          { locals with stop, resultNotifier }) packet
        (RadiusWorker.processSyncPool responseTimeoutMsec clockMsec
          { locals with stop, resultNotifier } pool) resultNotifier
      rw [control] at ran
      refine ⟨_ ++ 0 :: clocks, partialRun_cons.mpr ⟨_, starts,
        partialRun_append.mpr ⟨_, sweeps, partialRun_cons.mpr ⟨_, rfl, ?_⟩⟩⟩⟩
      rw [RadiusWorker.processSync_stop, RadiusWorker.processSync_resultNotifier]
      exact ran
  | processing =>
      simp only [control] at starts processed releases
      exact processes_packet_alone starts (by rw [control]; exact nofun) processed releases
  | maxControlMessageId =>
      simp only [control] at starts processed releases
      exact processes_packet_alone starts (by rw [control]; exact nofun) processed releases

/-! ### Where the objects are -/

/-- The objects in the session map. -/
def inMap : RadiusPlace → Multiset Nat
  | testing locals | receiving locals | holding locals _ | sweeping locals _ _ _
  | erasing locals _ _ | ending locals _ => locals.objects
  | leaving _ | finished => 0

/-- The objects of the message that is taken, or of what a worker that leaves has still to
destroy. -/
def inHands : RadiusPlace → Multiset Nat
  | holding _ packet | sweeping _ packet _ _ | erasing _ packet _ | ending _ packet =>
      packet.objects
  | leaving iter => listHolds (fun entry => entry.2.objects) iter
  | testing _ | receiving _ | finished => 0

def objects (place : RadiusPlace) : Multiset Nat := place.inMap + place.inHands

/-- An iterator stands on an entry of the map. -/
def Sound : RadiusPlace → Prop
  | sweeping locals _ _ iter =>
      (∀ entry ∈ iter, locals.packetSessionsMap[entry.1]? = some entry.2) ∧
        iter.Pairwise fun entry other => entry.1 ≠ other.1
  | erasing locals _ it => locals.packetSessionsMap[it.1]? = some it.2
  | testing _ | receiving _ | holding _ _ | ending _ _ | leaving _ | finished => True

/-- The loop of a SYNC starts with all entries. -/
private theorem sound_toList (worker : RadiusWorker) (packet : RADIUSPacket) (timeStamp : SizeT) :
    (sweeping worker packet timeStamp worker.packetSessionsMap.toList).Sound := by
  refine ⟨fun entry member => Std.HashMap.mem_toList_iff_getElem?_eq_some.mp member, ?_⟩
  exact Std.HashMap.distinct_keys_toList.imp fun apart same => by
    rw [same, beq_self_eq_true] at apart
    cases apart

/-- Erasing the entry that the iterator stands on leaves the others in the map. -/
private theorem sweeps_sound {locals : RadiusWorker} {packet : RADIUSPacket} {timeStamp : SizeT}
    {entry : RadSessionPair × RADIUSPacket} {iter : List (RadSessionPair × RADIUSPacket)}
    (sound : (sweeping locals packet timeStamp (entry :: iter)).Sound) :
    (sweeping (RadiusWorker.syncEntry responseTimeoutMsec timeStamp locals entry) packet timeStamp
      iter).Sound := by
  obtain ⟨bound, distinct⟩ := sound
  obtain ⟨apart, distinct⟩ := List.pairwise_cons.mp distinct
  refine ⟨fun other member => ?_, distinct⟩
  have before := bound other (.tail entry member)
  unfold RadiusWorker.syncEntry
  split
  · show (locals.packetSessionsMap.erase entry.1)[other.1]? = _
    rw [Std.HashMap.getElem?_erase, if_neg (fun same => apart other member (eq_of_beq same))]
    exact before
  · exact before

private theorem sweeps_objects {locals : RadiusWorker} {entry : RadSessionPair × RADIUSPacket}
    (bound : locals.packetSessionsMap[entry.1]? = some entry.2) (timeStamp : SizeT)
    (pool : ObjectPool) :
    (RadiusWorker.syncEntryPool responseTimeoutMsec timeStamp pool entry).objects +
        (RadiusWorker.syncEntry responseTimeoutMsec timeStamp locals entry).objects =
      pool.objects + locals.objects := by
  unfold RadiusWorker.syncEntryPool RadiusWorker.syncEntry
  split
  · rw [RADIUSPacket.objects_destroy, RadiusWorker.objects, RadiusWorker.objects,
      mapHolds_erase RADIUSPacket.objects bound]
    abel
  · rfl

theorem turn_sound {stopAfter : Bool} {sharedAfter : SharedObjects} {place after : RadiusPlace}
    (turn : Turn responseTimeoutMsec clockMsec stop shared place stopAfter sharedAfter after)
    (sound : place.Sound) : after.Sound := by
  cases turn with
  | syncs control => exact sound_toList _ _ _
  | joins own held resultNotifier notifies => exact held
  | sweeps => exact sweeps_sound sound
  | enters | exits | shutsDown | keeps | reports | erases | ends | breaks | destroys | returns =>
      trivial

/-- No step loses an object or makes one. -/
theorem turn_objects {stopAfter : Bool} {sharedAfter : SharedObjects} {place after : RadiusPlace}
    (turn : Turn responseTimeoutMsec clockMsec stop shared place stopAfter sharedAfter after)
    (sound : place.Sound) :
    sharedAfter.pool.objects + after.objects = shared.pool.objects + place.objects := by
  -- the map's objects are the worker's until its entries are destroyed one by one
  have left (locals : RadiusWorker) :
      (leaving locals.packetSessionsMap.toList).objects = locals.objects := zero_add _
  cases turn with
  | enters lowered => rfl
  | @exits locals raised =>
      rw [left]
      exact congrArg _ (add_zero _).symm
  | shutsDown control => rfl
  | syncs control => rfl
  | joins own held resultNotifier notifies => rfl
  | @keeps locals packet sp own free =>
      have kept := mapHolds_insertIfNew RADIUSPacket.objects free packet
      show shared.pool.objects + (mapHolds RADIUSPacket.objects
        (locals.packetSessionsMap.insertIfNew sp packet) + 0) = _
      rw [kept, add_zero, add_comm packet.objects]
      rfl
  | @sweeps locals packet timeStamp entry iter =>
      have swept := @sweeps_objects responseTimeoutMsec locals entry
        (sound.1 entry List.mem_cons_self) timeStamp shared.pool
      show _ + (RadiusWorker.objects _ + packet.objects) = _
      rw [← add_assoc, swept, add_assoc]
      rfl
  | reports => rfl
  | @erases locals packet it =>
      have erased := mapHolds_erase RADIUSPacket.objects
        (show locals.packetSessionsMap[it.1]? = some it.2 from sound)
      show (it.2.destroy shared.pool).objects + (mapHolds RADIUSPacket.objects
        (locals.packetSessionsMap.erase it.1) + packet.objects) =
          _ + (mapHolds RADIUSPacket.objects locals.packetSessionsMap + packet.objects)
      rw [RADIUSPacket.objects_destroy, erased]
      abel
  | @ends locals packet stays =>
      show (packet.destroy shared.pool).objects + (locals.objects + 0) =
        _ + (locals.objects + packet.objects)
      rw [RADIUSPacket.objects_destroy]
      abel
  | @breaks locals packet leaves =>
      rw [left]
      show (packet.destroy shared.pool).objects + locals.objects =
        _ + (locals.objects + packet.objects)
      rw [RADIUSPacket.objects_destroy]
      abel
  | @destroys entry iter =>
      show (entry.2.destroy shared.pool).objects + (0 + listHolds _ iter) =
        _ + (0 + listHolds _ (entry :: iter))
      rw [RADIUSPacket.objects_destroy, listHolds_cons]
      abel
  | returns => rfl

theorem conserves (responseTimeoutMsec : SizeT) :
    (radiusLoop responseTimeoutMsec).Conserves objects RADIUSPacket.objects
      (fun shared => shared.pool.objects) Sound := by
  refine ⟨fun place packet after sound taken => ?_, fun _ _ _ _ _ _ _ sound acted =>
    ⟨turn_sound (turn_of_act acted) sound, turn_objects (turn_of_act acted) sound⟩⟩
  cases place with
  | receiving locals =>
      cases taken
      exact ⟨trivial, congrArg (· + packet.objects) (add_zero _).symm⟩
  | _ => cases taken

theorem card_inMap_le (place : RadiusPlace) : place.inMap.card ≤ 256 := by
  cases place with
  | leaving iter => exact Nat.zero_le _
  | finished => exact Nat.zero_le _
  | _ => exact RadiusWorker.card_objects_le _

/-- What a worker does leaves objects in the pool only. -/
theorem turn_stocked {stopAfter : Bool} {sharedAfter : SharedObjects} {place after : RadiusPlace}
    (turn : Turn responseTimeoutMsec clockMsec stop shared place stopAfter sharedAfter after)
    (stocked : shared.pool.Stocked) : sharedAfter.pool.Stocked := by
  cases turn with
  | @sweeps locals packet timeStamp entry iter =>
      show ObjectPool.Stocked (RadiusWorker.syncEntryPool responseTimeoutMsec timeStamp
        shared.pool entry)
      unfold RadiusWorker.syncEntryPool
      split
      · exact stocked.destroyItem _
      · exact stocked
  | erases => exact stocked.destroyItem _
  | ends stays => exact stocked.destroyItem _
  | breaks leaves => exact stocked.destroyItem _
  | destroys => exact stocked.destroyItem _
  | enters | exits | shutsDown | syncs | joins | keeps | reports | returns => exact stocked

/-! ### Workers that nobody tells to leave -/

/-- A worker that does not leave, with no `SHUTDOWN` in its hands. -/
def Calm : RadiusPlace → Prop
  | testing _ | receiving _ => True
  | holding _ packet => packet.IsRegular
  | sweeping _ packet _ _ | erasing _ packet _ | ending _ packet =>
      packet.ctrlMessageId ≠ .shutdown
  | leaving _ | finished => False

/-- How many steps a worker can take by itself: a map has no more entries than identifiers. -/
def work : RadiusPlace → Nat
  | receiving _ => 0
  | testing _ => 1
  | ending _ _ => 2
  | erasing _ _ _ => 3
  | sweeping _ _ _ iter => 3 + iter.length
  | holding _ _ => 260
  | leaving iter => 1 + iter.length
  | finished => 0

/-- How many a message makes. -/
def messageWork (_packet : RADIUSPacket) : Nat := 261

private theorem isRegular_stays {packet : RADIUSPacket} (regular : packet.IsRegular) :
    packet.ctrlMessageId ≠ .shutdown := by
  rcases regular with ⟨data, rfl⟩ | rfl
  · rw [data.ctrlMessageId_eq]
    exact nofun
  · exact nofun

private theorem turn_calm {stopAfter : Bool} {sharedAfter : SharedObjects}
    {place after : RadiusPlace}
    (turn : Turn responseTimeoutMsec clockMsec false shared place stopAfter sharedAfter after)
    (calm : place.Calm) : stopAfter = false ∧ after.Calm ∧ after.work + 1 ≤ place.work := by
  cases turn with
  | enters lowered => exact ⟨rfl, trivial, Nat.le_refl _⟩
  | exits raised => cases raised
  | shutsDown control => exact absurd control (isRegular_stays calm)
  | @syncs locals packet control =>
      have entries := size_le_card locals.packetSessionsMap
      rw [card_radSessionPair, ← Std.HashMap.length_toList] at entries
      refine ⟨rfl, isRegular_stays calm, ?_⟩
      simp only [work]
      omega
  | joins own held resultNotifier notifies =>
      exact ⟨rfl, isRegular_stays calm, by simp [work]⟩
  | keeps own free => exact ⟨rfl, trivial, by simp [work]⟩
  | sweeps =>
      refine ⟨rfl, calm, ?_⟩
      simp only [work, List.length_cons]
      omega
  | reports => exact ⟨rfl, calm, Nat.le_refl _⟩
  | erases => exact ⟨rfl, calm, Nat.le_refl _⟩
  | ends stays => exact ⟨rfl, trivial, Nat.le_refl _⟩
  | breaks leaves => exact absurd leaves calm
  | destroys => exact calm.elim
  | returns => exact calm.elim

/-- A worker that has taken a packet or a SYNC can go on. -/
private theorem process_isSome {packet : RADIUSPacket} (regular : packet.IsRegular)
    (stop : Bool) (shared : SharedObjects) (locals : RadiusWorker) :
    (process clockMsec stop shared locals packet).isSome := by
  unfold process
  rcases regular with ⟨data, rfl⟩ | rfl
  · simp only [data.ctrlMessageId_eq]
    unfold processPacket
    simp only [data.getPacketSessionPair_eq]
    split <;> rfl
  · rfl

theorem settles (responseTimeoutMsec : SizeT) :
    (radiusLoop responseTimeoutMsec).Settles RADIUSPacket.IsRegular Calm messageWork work := by
  refine ⟨fun place packet after calm known taken => ?_,
    fun _ _ _ _ _ _ calm acted => turn_calm (turn_of_act acted) calm, fun place calm => ?_⟩
  · cases place with
    | receiving locals =>
        cases taken
        exact ⟨known, Nat.le_refl _⟩
    | _ => cases taken
  · cases place with
    | receiving locals => exact .inl fun _ => rfl
    | testing locals => exact .inr ⟨0, fun _ => rfl⟩
    | holding locals packet => exact .inr ⟨0, fun _ => process_isSome calm _ _ _⟩
    | sweeping locals packet timeStamp iter =>
        refine .inr ⟨0, fun _ => ?_⟩
        cases iter <;> rfl
    | erasing locals packet it => exact .inr ⟨0, fun _ => rfl⟩
    | ending locals packet => exact .inr ⟨0, fun _ => rfl⟩
    | leaving iter => exact calm.elim
    | finished => exact calm.elim

theorem inHands_of_waits {place : RadiusPlace}
    (waits : (radiusLoop responseTimeoutMsec).Waits place) : place.inHands = 0 := by
  have taken := waits (RADIUSPacket.ofControlMessageId .syncTimeout)
  cases place with
  | receiving locals => rfl
  | _ => cases taken

/-- Between two messages. -/
def Quiet : RadiusPlace → Prop
  | testing _ | receiving _ => True
  | _ => False

theorem keepsQuiet (responseTimeoutMsec : SizeT) :
    (radiusLoop responseTimeoutMsec).Keeps Quiet := by
  intro clockMsec shared place stopAfter sharedAfter after quiet acted
  cases place with
  | testing locals =>
      cases acted
      exact ⟨rfl, rfl, trivial⟩
  | receiving locals => cases acted
  | _ => cases quiet

end RadiusPlace

end TrafficInspector
