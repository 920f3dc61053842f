import TrafficInspector.Exchanges
import TrafficInspector.Main
import TrafficInspector.Threads.SystemExpansion
import TrafficInspector.Threads.WorkersAtRest
import TrafficInspector.WorkerPlacement

/-!
Owns how many buffers are enough. A packet that waits for its reply keeps its buffer, and each
RADIUS worker keeps one packet for each identifier, so that so many requests take as many buffers
away until the next SYNC, also if each goes to the worker that its own hash names; with one buffer
more the main thread always gets one again.
-/

namespace TrafficInspector

open Foundation
open Foundation.ByteOrder

/-! ### A request for each worker -/

/-- The address whose bytes a little-endian host reads as the number. -/
def IPAddress.ofNat (value : Nat) : IPAddress :=
  ⟨.ofNat value, .ofNat (value / 256), .ofNat (value / 65536), .ofNat (value / 16777216)⟩

private theorem frameHash_requestWith (pack : ETHPacket) (identifier : UInt8) (value : Nat) :
    (SpecificPacket.radius.frameHash
        (requestWith pack identifier (.ofNat value)).frame).toNat =
      (value + 33554442) % 2 ^ 32 + (21667 + identifier.toNat) := by
  have memory {offset : Nat} (inHeaders : offset < 62) :
      (requestWith pack identifier (.ofNat value)).frame.memory offset =
        (requestMessage identifier (.ofNat value)).headers[offset] :=
    (NIC.receivePacket_memory pack (requestMessage identifier (.ofNat value)).bytes 0
      (show 62 ≤ 4096 by decide) offset inHeaders).trans (List.getElem_append_left inHeaders)
  generalize (requestWith pack identifier (.ofNat value)).frame = frame at memory
  have source : (loadU32 frame.memory 26).toNat = value % 2 ^ 32 := by
    rw [loadU32_toNat, memory (show 26 < 62 by decide), memory (show 26 + 1 < 62 by decide),
      memory (show 26 + 2 < 62 by decide), memory (show 26 + 3 < 62 by decide)]
    show (UInt8.ofNat value).toNat + 256 * (UInt8.ofNat (value / 256)).toNat +
      65536 * (UInt8.ofNat (value / 65536)).toNat +
        16777216 * (UInt8.ofNat (value / 16777216)).toNat = _
    simp only [UInt8.toNat_ofNat']
    omega
  have destination : (loadU32 frame.memory 30).toNat = 33554442 := by
    rw [loadU32_toNat, memory (show 30 < 62 by decide), memory (show 30 + 1 < 62 by decide),
      memory (show 30 + 2 < 62 by decide), memory (show 30 + 3 < 62 by decide)]
    show (10 : UInt8).toNat + 256 * (0 : UInt8).toNat + 65536 * (0 : UInt8).toNat +
      16777216 * (2 : UInt8).toNat = 33554442
    decide
  have sourcePort : (loadU16 frame.memory 34).toNat = 16540 := by
    rw [loadU16_toNat, memory (show 34 < 62 by decide), memory (show 34 + 1 < 62 by decide)]
    show (highByte 40000).toNat + 256 * (lowByte 40000).toNat = 16540
    decide
  have destinationPort : (loadU16 frame.memory 36).toNat = 5127 := by
    rw [loadU16_toNat, memory (show 36 < 62 by decide), memory (show 36 + 1 < 62 by decide)]
    show (highByte 1812).toNat + 256 * (lowByte 1812).toNat = 5127
    decide
  have own : (frame.memory 43).toNat = identifier.toNat :=
    congrArg UInt8.toNat (memory (show 43 < 62 by decide))
  have small := identifier.toNat_lt
  show ((loadU32 frame.memory 26 + loadU32 frame.memory 30).toUInt64 +
    (loadU16 frame.memory 36).toUInt64 + (loadU16 frame.memory 34).toUInt64 +
      (frame.memory 43).toUInt64).toNat = _
  simp only [UInt64.toNat_add, UInt32.toNat_toUInt64, UInt16.toNat_toUInt64,
    UInt8.toNat_toUInt64, UInt32.toNat_add]
  omega

/-- What the sum of the addresses has to be for the worker. -/
def addressSum (workers workerId : Nat) (identifier : UInt8) : Nat :=
  (workerId + (workers - 1) * (21667 + identifier.toNat)) % workers

/-- Who has to send a request with the identifier, so that it goes to the worker. -/
def requester (workers workerId : Nat) (identifier : UInt8) : IPAddress :=
  .ofNat (addressSum workers workerId identifier + (2 ^ 32 - 33554442))

private theorem frameHash_requester (pack : ETHPacket) {workers workerId : Nat}
    (few : workers ≤ 2 ^ 32) (inside : workerId < workers) (identifier : UInt8) :
    (SpecificPacket.radius.frameHash
      (requestWith pack identifier (requester workers workerId identifier)).frame).toNat %
        workers = workerId := by
  have small : addressSum workers workerId identifier < 2 ^ 32 :=
    Nat.lt_of_lt_of_le (Nat.mod_lt _ (Nat.zero_lt_of_lt inside)) few
  rw [requester, frameHash_requestWith]
  have sum : (addressSum workers workerId identifier + (2 ^ 32 - 33554442) + 33554442) % 2 ^ 32 =
      addressSum workers workerId identifier := by omega
  obtain ⟨others, rfl⟩ := Nat.exists_eq_add_one_of_ne_zero (Nat.ne_zero_of_lt inside)
  rw [sum, addressSum, Nat.mod_add_mod, Nat.add_sub_cancel, Nat.add_assoc, ← Nat.succ_mul,
    Nat.add_mul_mod_self_left]
  exact Nat.mod_eq_of_lt inside

/-- The hand-over that `main`, the tree and `onDispatchImpl` intend: to the processor of the class
that the frame is meant for, on the queue that its own hash names. -/
def intendedRouting (workers : SpecificPacket → Nat) : Routing := fun frame target =>
  decide (target = (intendedLeaf frame).map fun leaf =>
    (leaf.specific, (leaf.specific.frameHash frame).toNat % workers leaf.specific))

/-- The request is one of the frames that pass the type test of the RADIUS packets. -/
private theorem requestWith_accepted (pack : ETHPacket) (identifier : UInt8)
    (source : IPAddress) :
    (RADIUSPacket.isDispatchableTypeImpl (requestWith pack identifier source).frame).isSome := by
  let sent : SentPacket :=
    { message := requestMessage identifier source
      attributes := []
      written := rfl
      encodable := by decide
      fits := by decide
      service := .inr rfl }
  exact Arrival.frame_accepted ⟨sent, pack, 0, 0⟩

theorem requester_routed (pack : ETHPacket) {workers : SpecificPacket → Nat}
    (few : workers .radius ≤ 2 ^ 32) {workerId : Nat} (inside : workerId < workers .radius)
    (identifier : UInt8) :
    intendedRouting workers
      (requestWith pack identifier (requester (workers .radius) workerId identifier)).frame
        (some (.radius, workerId)) = true := by
  have leaf : intendedLeaf (requestWith pack identifier
      (requester (workers .radius) workerId identifier)).frame = some radiusProcessor :=
    if_pos (requestWith_accepted pack identifier _)
  have placed := frameHash_requester pack few inside identifier
  rw [intendedRouting, leaf]
  exact decide_eq_true (congrArg (fun place => some (SpecificPacket.radius, place)) placed.symm)

/-! ### One request for each identifier -/

namespace System

variable {system : System}

/-- The sessions of so many requests are filled, worker after worker, and each has its buffer. -/
structure Filled (size workers count : Nat) (system : System) : Prop where
  regular : system.Regular
  waiting : system.packetPtr = none
  idle : ∀ recvQueue ∈ system.queues, recvQueue = []
  served : system.threads.length = workers
  left : system.pool.length + count = size
  sessions : ∀ (workerId : Nat) thread, system.threads[workerId]? = some thread →
    ∃ locals, thread = .testing locals ∧ ∀ identifier : UInt8,
      locals.packetSessionsMap[(⟨identifier⟩ : RadSessionPair)]? ≠ none →
        256 * workerId + identifier.toNat < count

/-- Who waits behind a keep is the packet kept, or waited before. -/
private theorem waits_of_kept {sessions : Std.HashMap RadSessionPair RADIUSPacket}
    {identifier other : UInt8} {packet : RADIUSPacket}
    (free : sessions[(⟨identifier⟩ : RadSessionPair)]? = none)
    (waits : (sessions.insertIfNew ⟨identifier⟩ packet)[(⟨other⟩ : RadSessionPair)]? ≠ none) :
    other = identifier ∨ sessions[(⟨other⟩ : RadSessionPair)]? ≠ none := by
  rw [RadiusWorker.getElem?_kept free] at waits
  by_cases same : identifier = other
  · exact .inl same.symm
  · have apart : ((⟨identifier⟩ : RadSessionPair) == ⟨other⟩) = false :=
      beq_false_of_ne fun equal => same (congrArg RadSessionPair.identifier equal)
    rw [apart] at waits
    exact .inr waits

/-- A request goes where the rule lets it go. -/
private theorem routed_request {routing : Routing} {pack : ETHPacket} {pool : ObjectPool}
    {workerId : Nat} {identifier : UInt8} {source : IPAddress} {next : System}
    (waiting : system.packetPtr = none) (front : system.pool = some pack :: pool)
    (allowed : routing (requestWith pack identifier source).frame (some (.radius, workerId)) = true)
    (ran : system.run (requestActions workerId identifier source) = some next) :
    system.routedRun routing (requestActions workerId identifier source) = some next := by
  obtain ⟨received, receives, ran⟩ := partialRun_cons.mp ran
  obtain ⟨queued, hands, ran⟩ := partialRun_cons.mp ran
  have possible := receive_possible waiting front
    (some (requestMessage identifier source).bytes) 0
  have routes : received.routes routing (.handOver workerId) = true := by
    obtain rfl := Option.some.inj (possible.symm.trans receives)
    exact allowed
  refine partialRun_cons.mpr ⟨received, guarded_eq_some.mpr ⟨rfl, receives⟩,
    partialRun_cons.mpr ⟨queued, guarded_eq_some.mpr ⟨routes, hands⟩,
      partialRun_guarded ?_ ran⟩⟩
  intro action member state
  simp only [List.mem_cons, List.not_mem_nil, or_false] at member
  rcases member with rfl | rfl <;> rfl

/-- The requests can be sent so that the rule lets each go to its worker. -/
def Reaches (routing : Routing) (workers : Nat) (source : Nat → UInt8 → IPAddress) : Prop :=
  ∀ pack workerId identifier, workerId < workers →
    routing (requestWith pack identifier (source workerId identifier)).frame
      (some (.radius, workerId)) = true

variable {routing : Routing} {source : Nat → UInt8 → IPAddress}

private theorem filled_next {size workers count : Nat} (reaches : Reaches routing workers source)
    (filled : Filled size workers count system) (inSize : count < size)
    (inReach : count < 256 * workers) :
    ∃ actions next, (∀ action ∈ actions, Action.IsRegular action) ∧
      system.routedRun routing actions = some next ∧ Filled size workers (count + 1) next := by
  let workerId := count / 256
  let identifier := UInt8.ofNat (count % 256)
  have isCount : 256 * workerId + identifier.toNat = count := by
    rw [UInt8.toNat_ofNat_of_lt' (Nat.mod_lt count (by decide))]
    exact Nat.div_add_mod count 256
  have inWorkers : workerId < workers := Nat.div_lt_of_lt_mul inReach
  have inThreads : workerId < system.threads.length := filled.served ▸ inWorkers
  have threadAt := List.getElem?_eq_getElem inThreads
  obtain ⟨locals, atTest, below⟩ := filled.sessions workerId _ threadAt
  rw [atTest] at threadAt
  have queueAt := List.getElem?_eq_getElem (filled.regular.served ▸ inThreads)
  rw [filled.idle _ (List.getElem_mem _)] at queueAt
  have supplied : system.pool ≠ [] := by
    intro empty
    have left := filled.left
    rw [empty, List.length_nil] at left
    omega
  obtain ⟨pack, pool, front⟩ := filled.regular.stocked.front supplied
  have free : locals.packetSessionsMap[(⟨identifier⟩ : RadSessionPair)]? = none := by
    by_contra waits
    exact absurd (below identifier waits) (Nat.not_lt_of_le (Nat.le_of_eq isCount.symm))
  obtain ⟨next, ran, poolIs, waiting, queues, threads⟩ :=
    keeps_request filled.regular filled.waiting front queueAt threadAt identifier
      (source workerId identifier) free
  have regularActions := requestActions_regular workerId identifier (source workerId identifier)
  have routed := routed_request filled.waiting front
    (reaches pack workerId identifier inWorkers) ran
  refine ⟨_, next, regularActions, routed, run_regular regularActions ran filled.regular,
    waiting, ?_, ?_, ?_, ?_⟩
  · rw [queues]
    intro recvQueue member
    exact (List.mem_or_eq_of_mem_set member).elim (filled.idle recvQueue) id
  · rw [threads, List.length_set, filled.served]
  · have left := filled.left
    rw [front, List.length_cons] at left
    rw [poolIs]
    omega
  · rw [threads]
    intro other thread here
    by_cases own : workerId = other
    · subst own
      rw [List.getElem?_set_self inThreads] at here
      cases here
      refine ⟨_, rfl, fun other waits => ?_⟩
      rcases waits_of_kept free waits with rfl | before
      · rw [isCount]
        exact Nat.lt_succ_self count
      · exact Nat.lt_succ_of_lt (below other before)
    · rw [List.getElem?_set_ne own] at here
      obtain ⟨locals, isTesting, below⟩ := filled.sessions other thread here
      exact ⟨locals, isTesting, fun identifier waits =>
        Nat.lt_succ_of_lt (below identifier waits)⟩

theorem fills {size workers : Nat} (reaches : Reaches routing workers source)
    (fits : size ≤ 256 * workers) (filled : Filled size workers 0 system) (count : Nat)
    (inSize : count ≤ size) :
    ∃ actions later, (∀ action ∈ actions, Action.IsRegular action) ∧
      system.routedRun routing actions = some later ∧ Filled size workers count later := by
  induction count with
  | zero => exact ⟨[], system, fun _ member => (List.not_mem_nil member).elim, rfl, filled⟩
  | succ count inductionHypothesis =>
      obtain ⟨actions, later, regularActions, ran, filledLater⟩ :=
        inductionHypothesis (Nat.le_of_succ_le inSize)
      obtain ⟨more, next, regularMore, ranOn, filledNext⟩ :=
        filled_next reaches filledLater inSize (Nat.lt_of_lt_of_le inSize fits)
      refine ⟨actions ++ more, next, fun action member => ?_,
        partialRun_append.mpr ⟨later, ran, ranOn⟩, filledNext⟩
      exact (List.mem_append.mp member).elim (regularActions action) (regularMore action)

theorem start_filled {size : Nat} (allocate : Fin size → Nat)
    (behind : Nat → ByteOrder.Memory) (workers : Nat) (responseTimeoutMsec : SizeT)
    (resultNotifier : ResultNotifier) :
    Filled size workers 0
      (start (.create allocate behind) workers responseTimeoutMsec resultNotifier) := by
  refine ⟨start_regular allocate behind workers responseTimeoutMsec resultNotifier, rfl,
    fun recvQueue member => List.eq_of_mem_replicate member, List.length_replicate, ?_,
    fun workerId thread here => ?_⟩
  · exact (List.length_map _).trans List.length_finRange
  · obtain rfl := List.eq_of_mem_replicate (List.mem_of_getElem? here)
    exact ⟨_, rfl, fun identifier waits => absurd Std.HashMap.getElem?_empty waits⟩

end System

/-! ### How many buffers are enough -/

/-- Without a broadcast the main thread never receives again. -/
def Inspector.Blocked (inspector : Inspector) : Prop :=
  ∀ actions final, (∀ action ∈ actions, InspectorAction.IsSilent action) →
    inspector.run actions = some final → ∀ message now, final.step (.receive message now) = none

namespace SpecificPacket

/-- Between two messages. -/
def Quiet : (specific : SpecificPacket) → specific.Place → Prop
  | radius => RadiusPlace.Quiet
  | udp | tcp => TransportPlace.Quiet

theorem keepsQuiet (responseTimeoutMsec : SizeT) (specific : SpecificPacket) :
    (specific.loop responseTimeoutMsec).Keeps specific.Quiet := by
  cases specific with
  | radius => exact RadiusPlace.keepsQuiet responseTimeoutMsec
  | udp => exact TransportPlace.keepsQuiet .udp
  | tcp => exact TransportPlace.keepsQuiet .tcp

end SpecificPacket

namespace Inspector

variable {inspector next : Inspector}

/-- With an object in the pool and no frame in its hands, the main thread receives. -/
private theorem receives (stocked : inspector.shared.pool.Stocked)
    (waiting : inspector.packetPtr = none) (supplied : inspector.shared.pool ≠ []) :
    inspector.step (.receive none 0) ≠ none := by
  obtain ⟨pack, pool, front⟩ := stocked.front supplied
  show inspector.receive none 0 ≠ none
  unfold receive
  rw [waiting, front]
  exact Option.some_ne_none _

/-- The pool of a program at rest is not empty, if there are enough buffers. -/
private theorem supplied_of_idle {size workers : Nat} (enough : 256 * workers < size)
    (idle : inspector.Idle) (objects : inspector.objects.card = size)
    (length : (inspector.crews .radius).places.length = workers)
    (waiting : inspector.packetPtr = none) : inspector.shared.pool ≠ [] := by
  intro empty
  have sessions := inspector.card_inSessions_le
  have noneFree : inspector.shared.pool.objects = 0 := by
    rw [empty]
    rfl
  have noneHeld : inspector.inReceiveLoop = 0 := congrArg RawPacketsPoolItem.objects waiting
  rw [objects_of_idle idle, noneFree, noneHeld, zero_add, zero_add] at objects
  rw [objects, length] at sessions
  omega

/-- What a run that begins with some buffers and workers has. -/
private structure Has (size workers : Nat) (inspector : Inspector) : Prop where
  regular : inspector.Regular
  sound : inspector.Sound
  objects : inspector.objects.card = size
  length : (inspector.crews .radius).places.length = workers

private theorem Has.run {size workers : Nat} (has : inspector.Has size workers)
    {actions : List InspectorAction}
    (regularActions : ∀ action ∈ actions, InspectorAction.IsRegular action)
    (ran : inspector.run actions = some next) : next.Has size workers := by
  obtain ⟨sound, objects, length⟩ := run_keeps ran has.sound
  exact ⟨run_regular regularActions ran has.regular, sound,
    (congrArg Multiset.card objects).trans has.objects, (length .radius).trans has.length⟩

private theorem not_blocked_of_waiting {size workers : Nat} (enough : 256 * workers < size)
    (has : inspector.Has size workers) (waiting : inspector.packetPtr = none) :
    ¬ inspector.Blocked := by
  intro blocked
  obtain ⟨actions, final, work, ran, idle, _, same⟩ := has.regular.comesToRest.arrives
  have hasFinal := has.run (fun action member => (work action member).sends _) ran
  have waitingFinal := same.trans waiting
  refine receives hasFinal.regular.stocked waitingFinal
    (supplied_of_idle enough idle hasFinal.objects hasFinal.length waitingFinal) ?_
  exact blocked actions final (fun action member => (work action member).sends _) ran none 0

private theorem not_blocked {size workers : Nat} (enough : 256 * workers < size)
    (has : inspector.Has size workers) : ¬ inspector.Blocked := by
  intro blocked
  cases held : inspector.packetPtr with
  | none => exact not_blocked_of_waiting enough has held blocked
  | some frame =>
      let dropped : Inspector := { inspector with
        shared := { inspector.shared with
          pool := inspector.shared.pool.destroyItem (some frame) }
        packetPtr := none }
      have drops : inspector.step .drop = some dropped := by
        show inspector.drop = _
        unfold drop
        rw [held]
      have hasDropped : dropped.Has size workers :=
        @Has.run inspector dropped size workers has [.drop]
          (List.forall_mem_singleton.mpr trivial) (partialRun_cons.mpr ⟨dropped, drops, rfl⟩)
      refine not_blocked_of_waiting enough hasDropped rfl fun actions final silent ran => ?_
      exact blocked (.drop :: actions) final (List.forall_mem_cons.mpr ⟨trivial, silent⟩)
        (partialRun_cons.mpr ⟨dropped, drops, ran⟩)

/-- Nobody but a broadcast can end this. -/
private structure Starved (inspector : Inspector) : Prop where
  empty : inspector.shared.pool = []
  waiting : inspector.packetPtr = none
  rests : ∀ specific, (inspector.crews specific).Rests specific.Quiet

private theorem rests_withCrew
    (rests : ∀ specific, (inspector.crews specific).Rests specific.Quiet)
    {specific : SpecificPacket} {crew : QueueCrew specific.Packet specific.Place}
    (crewRests : crew.Rests specific.Quiet) :
    ∀ other, ((inspector.withCrew specific crew).crews other).Rests other.Quiet :=
  @forall_withCrew inspector (fun specific crew => crew.Rests specific.Quiet) rests specific crew
    crewRests

private theorem step_starved {action : InspectorAction} (silent : action.IsSilent)
    (stepped : inspector.step action = some next) (starved : inspector.Starved) :
    next.Starved := by
  cases turn_of_step stepped with
  | receive waiting front =>
      rw [starved.empty] at front
      cases front
  | drop held =>
      rw [starved.waiting] at held
      cases held
  | handOver held built put =>
      rw [starved.waiting] at held
      cases held
  | broadcast put => exact silent.elim
  | @take specific workerId crew took =>
      rw [(starved.rests specific).take_eq_none] at took
      cases took
  | @act specific workerId clockMsec crew shared acted =>
      obtain ⟨rests, rfl⟩ := (starved.rests specific).act (specific.keepsQuiet _) acted
      exact ⟨starved.empty, starved.waiting, rests_withCrew starved.rests rests⟩

private theorem Starved.blocked (starved : inspector.Starved) : inspector.Blocked := by
  intro actions final silent ran message now
  have still := partialRun_invariant InspectorAction.IsSilent Starved
    (fun _ _ _ silent stepped starved => step_starved silent stepped starved) silent ran starved
  apply Option.eq_none_iff_forall_ne_some.mpr
  intro next stepped
  cases turn_of_step stepped with
  | receive waiting front =>
      rw [still.empty] at front
      cases front

/-- Where the rule lets requests go to each worker, so many of them starve the main thread. -/
private theorem starves {size : Nat} (allocate : Fin size → Nat)
    (behind : Nat → ByteOrder.Memory) {workers : SpecificPacket → Nat}
    (responseTimeoutMsec : SizeT) (resultNotifier : ResultNotifier) {routing : Routing}
    {source : Nat → UInt8 → IPAddress}
    (reaches : System.Reaches routing (workers .radius) source)
    (fits : size ≤ 256 * workers .radius) :
    ∃ actions final, (∀ action ∈ actions, InspectorAction.IsRegular action) ∧
      (start (.create allocate behind) workers responseTimeoutMsec resultNotifier).routedRun
        routing actions = some final ∧ final.Blocked := by
  obtain ⟨systemActions, system, regularActions, ran, filled⟩ := System.fills reaches fits
    (System.start_filled allocate behind (workers .radius) responseTimeoutMsec resultNotifier)
    size (Nat.le_refl size)
  obtain ⟨actions, regular, expands⟩ := System.run_expands
    (fun action member => (regularActions action member).sends) ran
    (start (.create allocate behind) workers responseTimeoutMsec resultNotifier)
  rw [System.start_inspector] at expands
  have left := filled.left
  have empty : system.pool = [] := List.eq_nil_of_length_eq_zero (by omega)
  have quiet (specific : SpecificPacket) : specific.Quiet (specific.entry resultNotifier) := by
    cases specific <;> trivial
  have crew : system.radiusCrew.Rests SpecificPacket.radius.Quiet := by
    refine ⟨filled.regular.lowered, filled.idle, fun place member => ?_⟩
    obtain ⟨thread, inThreads, rfl⟩ := List.mem_map.mp member
    obtain ⟨workerId, here⟩ := List.mem_iff_getElem?.mp inThreads
    obtain ⟨locals, rfl, _⟩ := filled.sessions workerId thread here
    trivial
  refine ⟨actions, _, regular, expands, Starved.blocked ⟨empty, filled.waiting, ?_⟩⟩
  have others (specific : SpecificPacket) :=
    @QueueCrew.start_rests specific.Packet _ _ _ (quiet specific) (workers specific)
  exact rests_withCrew others crew

end Inspector

/-- Where nothing but SYNCs is broadcast, the threads can leave the main thread without a buffer
until the next one exactly when there are no more buffers than the RADIUS workers can keep, however
many workers the other processors have. So they can, too, when each frame goes where it is meant to
go, by its class and its own hash. -/
theorem pool_starves_iff {size : Nat} (allocate : Fin size → Nat)
    (behind : Nat → ByteOrder.Memory) (workers : SpecificPacket → Nat)
    (responseTimeoutMsec : SizeT) (resultNotifier : ResultNotifier) :
    ((∃ actions inspector, (∀ action ∈ actions, InspectorAction.IsRegular action) ∧
        (Inspector.start (.create allocate behind) workers responseTimeoutMsec
          resultNotifier).run actions = some inspector ∧ inspector.Blocked) ↔
      size ≤ 256 * workers .radius) ∧
    (workers .radius ≤ 2 ^ 32 → size ≤ 256 * workers .radius →
      ∃ actions inspector, (∀ action ∈ actions, InspectorAction.IsRegular action) ∧
        (Inspector.start (.create allocate behind) workers responseTimeoutMsec
          resultNotifier).routedRun (intendedRouting workers) actions = some inspector ∧
        inspector.Blocked) := by
  refine ⟨⟨?_, fun fits => ?_⟩, fun few fits => ?_⟩
  · rintro ⟨actions, inspector, regularActions, ran, blocked⟩
    by_contra enough
    have objects : (Inspector.start (.create allocate behind) workers responseTimeoutMsec
        resultNotifier).objects.card = size := by
      rw [Inspector.start_objects, Multiset.card_map]
      exact Finset.card_univ.trans (Fintype.card_fin size)
    have has : (Inspector.start (.create allocate behind) workers responseTimeoutMsec
        resultNotifier).Has size (workers .radius) :=
      ⟨Inspector.start_regular allocate behind workers responseTimeoutMsec resultNotifier,
        Inspector.start_sound _ workers responseTimeoutMsec resultNotifier, objects,
        List.length_replicate⟩
    exact Inspector.not_blocked (Nat.lt_of_not_le enough) (has.run regularActions ran) blocked
  · obtain ⟨actions, final, regular, ran, blocked⟩ := Inspector.starves allocate behind
      responseTimeoutMsec resultNotifier
      (fun _ _ _ _ => rfl : System.Reaches .free (workers .radius) fun _ _ => ⟨10, 0, 0, 1⟩) fits
    exact ⟨actions, final, regular, partialRun_of_guarded ran, blocked⟩
  · exact Inspector.starves allocate behind responseTimeoutMsec resultNotifier
      (fun pack _ identifier inside => requester_routed pack few inside identifier) fits

end TrafficInspector
