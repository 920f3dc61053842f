import TrafficInspector.Threads.TransportLoop

/-!
Owns the program with all its processors: the main thread and the workers of the RADIUS, the UDP
and the TCP processor, over one pool, with no more in a step than one operation on what they share.
No buffer is ever lost or in two places, also while a worker holds a packet that it has taken.
-/

namespace TrafficInspector

open Foundation

namespace SpecificPacket

/-- Where a worker of the processor is in its loop. -/
def Place : SpecificPacket → Type
  | radius => RadiusPlace
  | udp => TransportPlace .udp
  | tcp => TransportPlace .tcp

def loop (responseTimeoutMsec : SizeT) :
    (specific : SpecificPacket) → QueueLoop specific.Packet specific.Place SharedObjects SizeT
  | radius => radiusLoop responseTimeoutMsec
  | udp => transportLoop .udp
  | tcp => transportLoop .tcp

/-- A new thread is about to enter its loop. -/
def entry (resultNotifier : ResultNotifier) : (specific : SpecificPacket) → specific.Place
  | radius => RadiusPlace.testing { resultNotifier }
  | udp => (TransportPlace.testing : TransportPlace .udp)
  | tcp => (TransportPlace.testing : TransportPlace .tcp)

/-- The objects in the session map of a worker. -/
def inMap : (specific : SpecificPacket) → specific.Place → Multiset Nat
  | radius => RadiusPlace.inMap
  | udp | tcp => fun _ => 0

/-- The objects in the hands of a worker. -/
def inHands : (specific : SpecificPacket) → specific.Place → Multiset Nat
  | radius => RadiusPlace.inHands
  | udp => TransportPlace.inHands
  | tcp => TransportPlace.inHands

def Sound : (specific : SpecificPacket) → specific.Place → Prop
  | radius => RadiusPlace.Sound
  | udp | tcp => fun _ => True

def held (specific : SpecificPacket) (place : specific.Place) : Multiset Nat :=
  specific.inMap place + specific.inHands place

theorem conserves (responseTimeoutMsec : SizeT) (specific : SpecificPacket) :
    (specific.loop responseTimeoutMsec).Conserves specific.held specific.objects
      (fun shared => shared.pool.objects) specific.Sound := by
  have transport (specific : SpecificPacket) (held : TransportPlace specific → Multiset Nat)
      (same : held = TransportPlace.inHands) :
      (transportLoop specific).Conserves held specific.objects
        (fun shared => shared.pool.objects) fun _ => True :=
    same ▸ TransportPlace.conserves specific
  cases specific with
  | radius => exact RadiusPlace.conserves responseTimeoutMsec
  | udp => exact transport .udp _ (funext fun _ => zero_add _)
  | tcp => exact transport .tcp _ (funext fun _ => zero_add _)

/-- Over all processors. -/
def total {Amount : Type} [Add Amount] (amount : SpecificPacket → Amount) : Amount :=
  amount radius + amount udp + amount tcp

variable {Amount : Type} [AddCommMonoid Amount]

theorem total_add (amount other : SpecificPacket → Amount) :
    total (fun specific => amount specific + other specific) = total amount + total other := by
  unfold total
  dsimp only
  abel

/-- What one processor has more, all have more. -/
theorem total_update {Value : SpecificPacket → Type}
    (amount : (specific : SpecificPacket) → Value specific → Amount)
    (values : (specific : SpecificPacket) → Value specific) (specific : SpecificPacket)
    (value : Value specific) :
    total (fun other => amount other (Function.update values specific value other)) +
        amount specific (values specific) =
      total (fun other => amount other (values other)) + amount specific value := by
  unfold total
  cases specific <;> simp [Function.update] <;> abel

end SpecificPacket

/-- The crews of the processors hold their queues, their flags and the places of their workers. -/
structure Inspector where
  shared : SharedObjects
  packetPtr : RawPacketsPoolItem := none
  responseTimeoutMsec : SizeT
  crews : (specific : SpecificPacket) → QueueCrew specific.Packet specific.Place

inductive InspectorAction where
  /-- `receivePacket`: the message, if `recvfrom` got one, and the clock's reading. -/
  | receive (message : Option (List UInt8)) (now : SizeT)
  /-- The end of the loop's body for a packet that cannot be routed. -/
  | drop
  /-- The packet is built and put on the queue of a worker; which worker is left open. -/
  | handOver (specific : SpecificPacket) (workerId : Nat)
  /-- One turn of a broadcast's loop over the queues. -/
  | broadcast (specific : SpecificPacket) (workerId : Nat) (inst : ControlMessageId)
  /-- A worker's `getObject` returns. -/
  | take (specific : SpecificPacket) (workerId : Nat)
  /-- A worker's next step else, with the reading of the clock that this can take. -/
  | act (specific : SpecificPacket) (workerId : Nat) (clockMsec : SizeT)

/-- What is broadcast, if anything is, is allowed. -/
def InspectorAction.Sends (Allowed : ControlMessageId → Prop) : InspectorAction → Prop
  | broadcast _ _ inst => Allowed inst
  | receive _ _ | drop | handOver _ _ | take _ _ | act _ _ _ => True

namespace Inspector

/-- The processors are new, and every thread is about to enter its loop. -/
def start (pool : ObjectPool) (workers : SpecificPacket → Nat) (responseTimeoutMsec : SizeT)
    (resultNotifier : ResultNotifier) : Inspector where
  shared := ⟨pool, resultNotifier⟩
  responseTimeoutMsec := responseTimeoutMsec
  crews specific := QueueCrew.start (specific.entry resultNotifier) (workers specific)

def withCrew (inspector : Inspector) (specific : SpecificPacket)
    (crew : QueueCrew specific.Packet specific.Place) : Inspector :=
  { inspector with crews := Function.update inspector.crews specific crew }

def receive (inspector : Inspector) (message : Option (List UInt8)) (now : SizeT) :
    Option Inspector :=
  match inspector.packetPtr, ObjectQueue.getObject inspector.shared.pool with
  | none, some (some pack, pool) =>
      some { inspector with
        shared := { inspector.shared with pool }
        packetPtr := some (NIC.receivePacket pack message now).val }
  | _, _ => none

def drop (inspector : Inspector) : Option Inspector :=
  match inspector.packetPtr with
  | some frame =>
      some { inspector with
        shared := { inspector.shared with
          pool := inspector.shared.pool.destroyItem (some frame) }
        packetPtr := none }
  | none => none

/-- The hand-over that `canBeDispatchered` and `onDispatchImpl` are there for: in the source the
one does not come back from the root, and the other computes the worker's number from the item it
has emptied. What is left of the item is destroyed with the loop's body. -/
def handOver (inspector : Inspector) (specific : SpecificPacket) (workerId : Nat) :
    Option Inspector :=
  match inspector.packetPtr with
  | some frame =>
      match specific.createPacketPtr (some frame) with
      | .ok (packet, left) =>
          ((inspector.crews specific).put workerId packet).map fun crew =>
            { inspector.withCrew specific crew with
              shared := { inspector.shared with pool := inspector.shared.pool.destroyItem left }
              packetPtr := none }
      | .error _ => none
  | none => none

/-- One step of one thread, where it is possible. A call that does not return has no next state. -/
def step (inspector : Inspector) : InspectorAction → Option Inspector
  | .receive message now => inspector.receive message now
  | .drop => inspector.drop
  | .handOver specific workerId => inspector.handOver specific workerId
  | .broadcast specific workerId inst =>
      ((inspector.crews specific).put workerId (specific.ofControlMessageId inst)).map
        (inspector.withCrew specific)
  | .take specific workerId =>
      ((inspector.crews specific).take (specific.loop inspector.responseTimeoutMsec) workerId).map
        (inspector.withCrew specific)
  | .act specific workerId clockMsec =>
      ((inspector.crews specific).act (specific.loop inspector.responseTimeoutMsec)
        inspector.shared workerId clockMsec).map fun (crew, shared) =>
          { inspector.withCrew specific crew with shared }

def run (inspector : Inspector) (actions : List InspectorAction) : Option Inspector :=
  partialRun step inspector actions

/-! ### What each step does -/

/-- Everything that a step can do. -/
inductive Turn (inspector : Inspector) : InspectorAction → Inspector → Prop
  | receive {message : Option (List UInt8)} {now : SizeT} {pack : ETHPacket} {pool : ObjectPool}
      (waiting : inspector.packetPtr = none) (front : inspector.shared.pool = some pack :: pool) :
      Turn inspector (.receive message now) { inspector with
        shared := { inspector.shared with pool }
        packetPtr := some (NIC.receivePacket pack message now).val }
  | drop {frame : ETHPacket} (held : inspector.packetPtr = some frame) :
      Turn inspector .drop { inspector with
        shared := { inspector.shared with
          pool := inspector.shared.pool.destroyItem (some frame) }
        packetPtr := none }
  | handOver {specific : SpecificPacket} {workerId : Nat} {frame : ETHPacket}
      {packet : specific.Packet} {crew : QueueCrew specific.Packet specific.Place}
      (held : inspector.packetPtr = some frame)
      (built : specific.createPacketPtr (some frame) = .ok (packet, none))
      (put : (inspector.crews specific).put workerId packet = some crew) :
      Turn inspector (.handOver specific workerId)
        { inspector.withCrew specific crew with packetPtr := none }
  | broadcast {specific : SpecificPacket} {workerId : Nat} {inst : ControlMessageId}
      {crew : QueueCrew specific.Packet specific.Place}
      (put : (inspector.crews specific).put workerId (specific.ofControlMessageId inst) =
        some crew) :
      Turn inspector (.broadcast specific workerId inst) (inspector.withCrew specific crew)
  | take {specific : SpecificPacket} {workerId : Nat}
      {crew : QueueCrew specific.Packet specific.Place}
      (took : (inspector.crews specific).take (specific.loop inspector.responseTimeoutMsec)
        workerId = some crew) :
      Turn inspector (.take specific workerId) (inspector.withCrew specific crew)
  | act {specific : SpecificPacket} {workerId : Nat} {clockMsec : SizeT}
      {crew : QueueCrew specific.Packet specific.Place} {shared : SharedObjects}
      (acted : (inspector.crews specific).act (specific.loop inspector.responseTimeoutMsec)
        inspector.shared workerId clockMsec = some (crew, shared)) :
      Turn inspector (.act specific workerId clockMsec)
        { inspector.withCrew specific crew with shared }

variable {inspector next : Inspector}

private theorem receive_turn {message : Option (List UInt8)} {now : SizeT}
    (stepped : inspector.receive message now = some next) :
    Turn inspector (.receive message now) next := by
  unfold receive at stepped
  split at stepped
  · rename_i pack pool waiting taken
    cases stepped
    exact .receive waiting (ObjectQueue.getObject_eq_some.mp taken)
  · cases stepped

private theorem drop_turn (stepped : inspector.drop = some next) : Turn inspector .drop next := by
  unfold drop at stepped
  split at stepped
  · rename_i frame held
    cases stepped
    exact .drop held
  · cases stepped

private theorem handOver_turn {specific : SpecificPacket} {workerId : Nat}
    (stepped : inspector.handOver specific workerId = some next) :
    Turn inspector (.handOver specific workerId) next := by
  unfold handOver at stepped
  split at stepped
  · rename_i frame held
    split at stepped
    · rename_i packet left built
      obtain ⟨crew, put, rfl⟩ := Option.map_eq_some_iff.mp stepped
      obtain ⟨rfl, _⟩ := SpecificPacket.createPacketPtr_ok built
      exact .handOver held built put
    · cases stepped
  · cases stepped

theorem turn_of_step {action : InspectorAction} (stepped : inspector.step action = some next) :
    Turn inspector action next := by
  cases action with
  | receive message now => exact receive_turn stepped
  | drop => exact drop_turn stepped
  | handOver specific workerId => exact handOver_turn stepped
  | broadcast specific workerId inst =>
      obtain ⟨crew, put, rfl⟩ := Option.map_eq_some_iff.mp stepped
      exact .broadcast put
  | take specific workerId =>
      obtain ⟨crew, took, rfl⟩ := Option.map_eq_some_iff.mp stepped
      exact .take took
  | act specific workerId clockMsec =>
      obtain ⟨⟨crew, shared⟩, acted, rfl⟩ := Option.map_eq_some_iff.mp stepped
      exact .act acted

/-! ### Where the buffers are -/

def inReceiveLoop (inspector : Inspector) : Multiset Nat := inspector.packetPtr.objects

def inQueues (inspector : Inspector) : Multiset Nat :=
  SpecificPacket.total fun specific =>
    listHolds (listHolds specific.objects) (inspector.crews specific).queues

/-- In the hands of workers of any processor. -/
def inHands (inspector : Inspector) : Multiset Nat :=
  SpecificPacket.total fun specific =>
    listHolds specific.inHands (inspector.crews specific).places

/-- Only RADIUS workers use their maps. -/
def inSessions (inspector : Inspector) : Multiset Nat :=
  listHolds RadiusPlace.inMap (inspector.crews .radius).places

def objects (inspector : Inspector) : Multiset Nat :=
  inspector.shared.pool.objects + inspector.inReceiveLoop + inspector.inQueues +
    inspector.inHands + inspector.inSessions

/-- What the crews hold together. -/
def inCrews (inspector : Inspector) : Multiset Nat :=
  SpecificPacket.total fun specific =>
    (inspector.crews specific).amount specific.held specific.objects

theorem inCrews_eq (inspector : Inspector) :
    inspector.inCrews = inspector.inQueues + inspector.inHands + inspector.inSessions := by
  have crew (specific : SpecificPacket) :
      (inspector.crews specific).amount specific.held specific.objects =
        listHolds (listHolds specific.objects) (inspector.crews specific).queues +
          (listHolds specific.inMap (inspector.crews specific).places +
            listHolds specific.inHands (inspector.crews specific).places) :=
    congrArg _ listHolds_add
  have maps : SpecificPacket.total (fun specific =>
      listHolds specific.inMap (inspector.crews specific).places) = inspector.inSessions := by
    have udp : listHolds SpecificPacket.udp.inMap (inspector.crews .udp).places = 0 :=
      listHolds_of_zero fun _ _ => rfl
    have tcp : listHolds SpecificPacket.tcp.inMap (inspector.crews .tcp).places = 0 :=
      listHolds_of_zero fun _ _ => rfl
    unfold SpecificPacket.total
    dsimp only
    rw [udp, tcp, add_zero, add_zero]
    rfl
  rw [inCrews, funext crew, SpecificPacket.total_add, SpecificPacket.total_add, maps]
  show inspector.inQueues + (inspector.inSessions + inspector.inHands) = _
  abel

theorem objects_eq (inspector : Inspector) : inspector.objects =
    inspector.shared.pool.objects + inspector.inReceiveLoop + inspector.inCrews := by
  rw [inCrews_eq, objects]
  abel

/-- An iterator stands on an entry of its map. -/
def Sound (inspector : Inspector) : Prop :=
  ∀ specific, ∀ place ∈ (inspector.crews specific).places, specific.Sound place

/-- What holds of one crew and of the others holds of all. -/
theorem forall_withCrew
    {Holds : (specific : SpecificPacket) → QueueCrew specific.Packet specific.Place → Prop}
    (all : ∀ specific, Holds specific (inspector.crews specific)) {specific : SpecificPacket}
    {crew : QueueCrew specific.Packet specific.Place} (own : Holds specific crew) :
    ∀ other, Holds other ((inspector.withCrew specific crew).crews other) :=
  (Function.forall_update_iff inspector.crews Holds).mpr ⟨own, fun other _ => all other⟩

private theorem Sound.withCrew (sound : inspector.Sound) {specific : SpecificPacket}
    {crew : QueueCrew specific.Packet specific.Place}
    (crewSound : ∀ place ∈ crew.places, specific.Sound place) :
    (inspector.withCrew specific crew).Sound :=
  @forall_withCrew inspector (fun specific crew => ∀ place ∈ crew.places, specific.Sound place)
    sound specific crew crewSound

theorem turn_sound {action : InspectorAction} (turn : Turn inspector action next)
    (sound : inspector.Sound) : next.Sound := by
  cases turn with
  | receive waiting front => exact sound
  | drop held => exact sound
  | @handOver specific workerId frame packet crew held built put =>
      exact sound.withCrew ((QueueCrew.put_places put).1 ▸ sound specific)
  | @broadcast specific workerId inst crew put =>
      exact sound.withCrew ((QueueCrew.put_places put).1 ▸ sound specific)
  | @take specific workerId crew took =>
      exact sound.withCrew (QueueCrew.take_sound (specific.conserves _) (sound specific) took)
  | @act specific workerId clockMsec crew shared acted =>
      exact sound.withCrew (QueueCrew.act_sound (specific.conserves _) (sound specific) acted)

/-- What one crew has more, the crews have more. -/
private theorem inCrews_withCrew (inspector : Inspector) (specific : SpecificPacket)
    (crew : QueueCrew specific.Packet specific.Place) :
    (inspector.withCrew specific crew).inCrews +
        (inspector.crews specific).amount specific.held specific.objects =
      inspector.inCrews + crew.amount specific.held specific.objects :=
  SpecificPacket.total_update (fun specific (crew : QueueCrew specific.Packet specific.Place) =>
    crew.amount specific.held specific.objects) inspector.crews specific crew

private theorem inCrews_put {specific : SpecificPacket} {workerId : Nat}
    {packet : specific.Packet} {crew : QueueCrew specific.Packet specific.Place}
    (put : (inspector.crews specific).put workerId packet = some crew) :
    (inspector.withCrew specific crew).inCrews =
      inspector.inCrews + specific.objects packet := by
  apply add_right_cancel (b := (inspector.crews specific).amount specific.held specific.objects)
  rw [inCrews_withCrew, QueueCrew.put_amount specific.held put]
  abel

/-- No step loses an object or makes one. -/
theorem turn_objects {action : InspectorAction} (turn : Turn inspector action next)
    (sound : inspector.Sound) : next.objects = inspector.objects := by
  rw [objects_eq, objects_eq]
  cases turn with
  | @receive message now pack pool waiting front =>
      have received : RawPacketsPoolItem.objects
          (some (NIC.receivePacket pack message now).val) = {pack.data} := by
        cases message <;> rfl
      have free : inspector.shared.pool.objects = ObjectPool.objects pool + {pack.data} := by
        rw [front]
        exact (listHolds_cons _ _ _).trans (add_comm _ _)
      have none : inspector.inReceiveLoop = 0 := congrArg RawPacketsPoolItem.objects waiting
      show ObjectPool.objects pool + RawPacketsPoolItem.objects (some _) + inspector.inCrews = _
      rw [received, none, free, add_zero]
  | @drop frame held =>
      have had : inspector.inReceiveLoop = RawPacketsPoolItem.objects (some frame) :=
        congrArg RawPacketsPoolItem.objects held
      show (inspector.shared.pool.destroyItem (some frame)).objects + 0 + inspector.inCrews = _
      rw [ObjectPool.objects_destroyItem, add_zero, had]
  | @handOver specific workerId frame packet crew held built put =>
      have owns : specific.objects packet = inspector.inReceiveLoop := by
        rw [SpecificPacket.objects, (SpecificPacket.createPacketPtr_ok built).2.1, inReceiveLoop,
          held]
      show inspector.shared.pool.objects + 0 + (inspector.withCrew specific crew).inCrews = _
      rw [inCrews_put put, owns, add_zero]
      abel
  | @broadcast specific workerId inst crew put =>
      have nothing : specific.objects (specific.ofControlMessageId inst) = 0 := by
        rw [SpecificPacket.objects, SpecificPacket.poolItem_ofControlMessageId]
        rfl
      show inspector.shared.pool.objects + inspector.inReceiveLoop +
        (inspector.withCrew specific crew).inCrews = _
      rw [inCrews_put put, nothing, add_zero]
  | @take specific workerId crew took =>
      have same := inspector.inCrews_withCrew specific crew
      rw [QueueCrew.take_amount (specific.conserves _) (sound specific) took] at same
      exact congrArg _ (add_right_cancel same)
  | @act specific workerId clockMsec crew shared acted =>
      have balance := QueueCrew.act_amount (specific.conserves _) (sound specific) acted
      have exchanged := inspector.inCrews_withCrew specific crew
      apply add_right_cancel
        (b := (inspector.crews specific).amount specific.held specific.objects)
      show shared.pool.objects + inspector.inReceiveLoop +
        (inspector.withCrew specific crew).inCrews + _ = _
      calc _ = shared.pool.objects + inspector.inReceiveLoop +
            ((inspector.withCrew specific crew).inCrews +
              (inspector.crews specific).amount specific.held specific.objects) :=
            add_assoc ..
        _ = (shared.pool.objects + crew.amount specific.held specific.objects) +
            inspector.inReceiveLoop + inspector.inCrews := by
          rw [exchanged]
          abel
        _ = _ := by
          rw [balance]
          abel

theorem turn_workers {action : InspectorAction} (turn : Turn inspector action next)
    (specific : SpecificPacket) :
    (next.crews specific).places.length = (inspector.crews specific).places.length := by
  have moved {mover : SpecificPacket} {crew : QueueCrew mover.Packet mover.Place}
      (same : crew.places.length = (inspector.crews mover).places.length) :
      ((inspector.withCrew mover crew).crews specific).places.length =
        (inspector.crews specific).places.length :=
    @forall_withCrew inspector
      (fun other crew => crew.places.length = (inspector.crews other).places.length)
      (fun _ => rfl) mover crew same specific
  cases turn with
  | receive waiting front => rfl
  | drop held => rfl
  | handOver held built put => exact moved (congrArg List.length (QueueCrew.put_places put).1)
  | broadcast put => exact moved (congrArg List.length (QueueCrew.put_places put).1)
  | take took => exact moved (QueueCrew.take_length took).1
  | act acted => exact moved (QueueCrew.act_length acted).1

/-! ### Every run -/

/-- All buffers there are, and how many workers. -/
theorem run_keeps {actions : List InspectorAction} (ran : inspector.run actions = some next)
    (sound : inspector.Sound) : next.Sound ∧ next.objects = inspector.objects ∧
      ∀ specific, (next.crews specific).places.length =
        (inspector.crews specific).places.length :=
  partialRun_invariant (fun _ => True)
    (fun later => later.Sound ∧ later.objects = inspector.objects ∧
      ∀ specific, (later.crews specific).places.length =
        (inspector.crews specific).places.length)
    (fun _ _ _ _ stepped ⟨sound, objects, workers⟩ =>
      have turn := turn_of_step stepped
      ⟨turn_sound turn sound, (turn_objects turn sound).trans objects,
        fun specific => (turn_workers turn specific).trans (workers specific)⟩)
    (fun _ _ => trivial) ran ⟨sound, rfl, fun _ => rfl⟩

theorem start_sound (pool : ObjectPool) (workers : SpecificPacket → Nat)
    (responseTimeoutMsec : SizeT) (resultNotifier : ResultNotifier) :
    (start pool workers responseTimeoutMsec resultNotifier).Sound := by
  intro specific place member
  rw [List.eq_of_mem_replicate member]
  cases specific <;> trivial

theorem start_objects {size : Nat} (allocate : Fin size → Nat)
    (behind : Nat → ByteOrder.Memory) (workers : SpecificPacket → Nat)
    (responseTimeoutMsec : SizeT) (resultNotifier : ResultNotifier) :
    (start (.create allocate behind) workers responseTimeoutMsec resultNotifier).objects =
      Multiset.map allocate Finset.univ.val := by
  have nothing (specific : SpecificPacket) : specific.held (specific.entry resultNotifier) = 0 := by
    cases specific with
    | radius => exact (add_zero _).trans (mapHolds_empty RADIUSPacket.objects)
    | udp => rfl
    | tcp => rfl
  have crews (specific : SpecificPacket) : (QueueCrew.start (specific.entry resultNotifier)
      (workers specific)).amount specific.held specific.objects = 0 :=
    QueueCrew.start_amount (nothing specific) _
  have inCrews : (start (.create allocate behind) workers responseTimeoutMsec
      resultNotifier).inCrews = 0 := by
    show SpecificPacket.total (fun specific => (QueueCrew.start (specific.entry resultNotifier)
      (workers specific)).amount specific.held specific.objects) = 0
    rw [funext crews]
    rfl
  rw [objects_eq, inCrews, add_zero]
  show (ObjectPool.create allocate behind).objects + 0 = _
  rw [ObjectPool.objects_create, add_zero]

theorem card_inSessions_le (inspector : Inspector) :
    inspector.inSessions.card ≤ 256 * (inspector.crews .radius).places.length := by
  have most (places : List RadiusPlace) :
      (listHolds RadiusPlace.inMap places).card ≤ 256 * places.length := by
    induction places with
    | nil => exact Nat.zero_le _
    | cons place places inductionHypothesis =>
        have own := place.card_inMap_le
        rw [listHolds_cons, Multiset.card_add, List.length_cons]
        omega
  exact most _

/-- Each of the pool's objects is in exactly one place, nothing else is anywhere, and only the
session maps keep packets. -/
structure Conserves {size : Nat} (allocate : Fin size ↪ Nat) (radiusWorkers : Nat)
    (inspector : Inspector) : Prop where
  partitioned : inspector.shared.pool.objects + inspector.inReceiveLoop + inspector.inQueues +
    inspector.inHands + inspector.inSessions = Multiset.map allocate Finset.univ.val
  inOnePlace : ∀ index, inspector.shared.pool.objects.count (allocate index) +
    inspector.inReceiveLoop.count (allocate index) + inspector.inQueues.count (allocate index) +
      inspector.inHands.count (allocate index) + inspector.inSessions.count (allocate index) = 1
  bounded : inspector.inSessions.card ≤ 256 * radiusWorkers

end Inspector

/-- Buffers are conserved in every state that the threads of all processors reach, in whatever
order they take their steps. -/
theorem program_buffers_conserved {size : Nat} (allocate : Fin size ↪ Nat)
    (behind : Nat → ByteOrder.Memory) (workers : SpecificPacket → Nat)
    (responseTimeoutMsec : SizeT) (resultNotifier : ResultNotifier)
    (actions : List InspectorAction) (inspector : Inspector)
    (reached : (Inspector.start (.create allocate behind) workers responseTimeoutMsec
      resultNotifier).run actions = some inspector) :
    inspector.Conserves allocate (workers .radius) := by
  obtain ⟨_, objects, length⟩ := Inspector.run_keeps reached
    (Inspector.start_sound _ workers responseTimeoutMsec resultNotifier)
  rw [Inspector.start_objects] at objects
  refine ⟨objects, fun index => ?_, ?_⟩
  · have once : (Multiset.map allocate Finset.univ.val).count (allocate index) = 1 := by
      rw [Multiset.count_map_eq_count' _ _ allocate.injective]
      exact Multiset.count_eq_one_of_mem Finset.univ.nodup (Finset.mem_univ index)
    rw [← objects, Inspector.objects] at once
    simpa only [Multiset.count_add] using once
  · have bound := inspector.card_inSessions_le
    rw [length] at bound
    exact Nat.le_trans bound (Nat.le_of_eq (congrArg _ List.length_replicate))

/-- A UDP packet from port 0 to port 0. -/
def datagram : List UInt8 :=
  List.replicate 12 0 ++ [8, 0, 69] ++ List.replicate 8 0 ++ [17] ++ List.replicate 18 0

/-- A packet is handed over to the UDP worker, which takes it. -/
def datagramActions : List InspectorAction :=
  [.receive (some datagram) 0, .handOver .udp 0, .act .udp 0 0, .take .udp 0]

theorem program_buffers_conserved_datagram :
    ∃ inspector, (Inspector.start (.create (Fin.valEmbedding : Fin 2 ↪ Nat) fun _ _ => 0)
        (fun _ => 1) 1000 ⟨[], "probe"⟩).run datagramActions = some inspector ∧
      inspector.inHands = {0} ∧
      inspector.Conserves (Fin.valEmbedding : Fin 2 ↪ Nat) 1 :=
  ⟨_, rfl, rfl, program_buffers_conserved Fin.valEmbedding (fun _ _ => 0) (fun _ => 1) 1000
    ⟨[], "probe"⟩ datagramActions _ rfl⟩

end TrafficInspector
