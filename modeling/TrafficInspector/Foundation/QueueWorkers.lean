import TrafficInspector.Foundation.Holdings

/-!
Owns workers of one loop, each with a queue of its own, that share a stop flag and whatever else
their loop touches. The loop is given place by place: what a worker becomes when it is given a
message, and what any other step of its own does. What each step keeps of an amount, the crew
keeps; what each step lowers, the crew lowers; and while the flag is down and nobody is told to
leave, a crew goes on until every queue is empty and every worker waits.
-/

namespace Foundation

universe u v w x y

structure QueueLoop (Message : Type u) (Place : Type v) (Shared : Type w) (Input : Type x) where
  /-- Where a worker is that has been given the message, if it waits for one. -/
  take : Place → Message → Option Place
  /-- Any other step: the flag, what is shared and the place after it. -/
  act : Input → Bool → Shared → Place → Option (Bool × Shared × Place)

/-- The workers of one loop, and the queue of each. -/
structure QueueCrew (Message : Type u) (Place : Type v) where
  queues : List (List Message)
  stop : Bool := false
  places : List Place

variable {Message : Type u} {Place : Type v} {Shared : Type w} {Input : Type x}
  {loop : QueueLoop Message Place Shared Input}

namespace QueueLoop

/-- Whatever it is given, a worker here takes it. -/
def Waits (loop : QueueLoop Message Place Shared Input) (place : Place) : Prop :=
  ∀ message, (loop.take place message).isSome

/-- The steps of a worker that nobody disturbs. -/
def alone (loop : QueueLoop Message Place Shared Input) :
    Bool × Shared × Place → Input → Option (Bool × Shared × Place) :=
  fun (stop, shared, place) input => loop.act input stop shared place

/-- An amount goes with the messages from the queues to the workers, and from these to what is
shared. -/
structure Conserves {Amount : Type y} [Add Amount]
    (loop : QueueLoop Message Place Shared Input) (held : Place → Amount)
    (carried : Message → Amount) (stored : Shared → Amount) (Sound : Place → Prop) : Prop where
  takes : ∀ place message after, Sound place → loop.take place message = some after →
    Sound after ∧ held after = held place + carried message
  acts : ∀ input stop shared place stopAfter sharedAfter after, Sound place →
    loop.act input stop shared place = some (stopAfter, sharedAfter, after) →
      Sound after ∧ stored sharedAfter + held after = stored shared + held place

/-- While the flag is down and the messages are such, a worker stays where it is calm, each step
leaves it less to do, and it can always take one or waits for a message. -/
structure Settles (loop : QueueLoop Message Place Shared Input) (Known : Message → Prop)
    (Calm : Place → Prop) (cost : Message → Nat) (work : Place → Nat) : Prop where
  takes : ∀ place message after, Calm place → Known message →
    loop.take place message = some after →
      Calm after ∧ work after + 1 ≤ work place + cost message
  acts : ∀ input shared place stopAfter sharedAfter after, Calm place →
    loop.act input false shared place = some (stopAfter, sharedAfter, after) →
      stopAfter = false ∧ Calm after ∧ work after + 1 ≤ work place
  goesOn : ∀ place, Calm place →
    loop.Waits place ∨ ∃ input, ∀ shared, (loop.act input false shared place).isSome

/-- While the flag is down, a worker stays at such places and leaves what is shared alone. -/
def Keeps (loop : QueueLoop Message Place Shared Input) (Quiet : Place → Prop) : Prop :=
  ∀ input shared place stopAfter sharedAfter after, Quiet place →
    loop.act input false shared place = some (stopAfter, sharedAfter, after) →
      stopAfter = false ∧ sharedAfter = shared ∧ Quiet after

end QueueLoop

namespace QueueCrew

variable {crew next : QueueCrew Message Place} {shared sharedNext : Shared} {worker : Nat}
  {message : Message} {input : Input}

/-- The workers are all at one place, and the queues are empty. -/
def start (entry : Place) (workers : Nat) : QueueCrew Message Place where
  queues := List.replicate workers []
  places := List.replicate workers entry

def put (crew : QueueCrew Message Place) (worker : Nat) (message : Message) :
    Option (QueueCrew Message Place) :=
  crew.queues[worker]?.map fun queue =>
    { crew with queues := crew.queues.set worker (queue ++ [message]) }

def take (loop : QueueLoop Message Place Shared Input) (crew : QueueCrew Message Place)
    (worker : Nat) : Option (QueueCrew Message Place) :=
  match crew.places[worker]?, crew.queues[worker]? with
  | some place, some (message :: queue) =>
      (loop.take place message).map fun next =>
        { crew with
          queues := crew.queues.set worker queue, places := crew.places.set worker next }
  | _, _ => none

def act (loop : QueueLoop Message Place Shared Input) (crew : QueueCrew Message Place)
    (shared : Shared) (worker : Nat) (input : Input) : Option (QueueCrew Message Place × Shared) :=
  match crew.places[worker]? with
  | some place =>
      (loop.act input crew.stop shared place).map fun (stop, shared, next) =>
        ({ crew with stop, places := crew.places.set worker next }, shared)
  | none => none

/-! ### What each step does -/

theorem put_cases (stepped : crew.put worker message = some next) :
    ∃ queue, crew.queues[worker]? = some queue ∧
      next = { crew with queues := crew.queues.set worker (queue ++ [message]) } := by
  obtain ⟨queue, queued, rfl⟩ := Option.map_eq_some_iff.mp stepped
  exact ⟨queue, queued, rfl⟩

theorem take_cases (stepped : crew.take loop worker = some next) :
    ∃ place message queue after, crew.places[worker]? = some place ∧
      crew.queues[worker]? = some (message :: queue) ∧ loop.take place message = some after ∧
      next = { crew with
        queues := crew.queues.set worker queue, places := crew.places.set worker after } := by
  unfold take at stepped
  split at stepped
  · rename_i place message queue here queued
    obtain ⟨after, taken, rfl⟩ := Option.map_eq_some_iff.mp stepped
    exact ⟨place, message, queue, after, here, queued, taken, rfl⟩
  · cases stepped

theorem act_cases (stepped : crew.act loop shared worker input = some (next, sharedNext)) :
    ∃ place stop after, crew.places[worker]? = some place ∧
      loop.act input crew.stop shared place = some (stop, sharedNext, after) ∧
      next = { crew with stop, places := crew.places.set worker after } := by
  unfold act at stepped
  split at stepped
  · rename_i place here
    obtain ⟨⟨stop, sharedAfter, after⟩, acted, same⟩ := Option.map_eq_some_iff.mp stepped
    cases same
    exact ⟨place, stop, after, here, acted, rfl⟩
  · cases stepped

theorem take_step {place after : Place} {queue : List Message}
    (here : crew.places[worker]? = some place)
    (queued : crew.queues[worker]? = some (message :: queue))
    (taken : loop.take place message = some after) :
    crew.take loop worker = some { crew with
      queues := crew.queues.set worker queue, places := crew.places.set worker after } := by
  rw [take, here, queued]
  dsimp only
  rw [taken, Option.map_some]

theorem act_step {place : Place} (here : crew.places[worker]? = some place) (shared : Shared)
    (input : Input) :
    crew.act loop shared worker input =
      (loop.act input crew.stop shared place).map fun (stop, shared, next) =>
        ({ crew with stop, places := crew.places.set worker next }, shared) := by
  rw [act, here]

/-! ### What the workers and the queues hold -/

section

variable {Amount : Type y} [AddCancelCommMonoid Amount] {held : Place → Amount}
  {carried : Message → Amount} {stored : Shared → Amount} {Sound : Place → Prop}

/-- What the queues hold, and what the workers do. -/
def amount (held : Place → Amount) (carried : Message → Amount) (crew : QueueCrew Message Place) :
    Amount :=
  listHolds (listHolds carried) crew.queues + listHolds held crew.places

theorem start_amount {entry : Place} (nothing : held entry = 0) (workers : Nat) :
    (start entry workers : QueueCrew Message Place).amount held carried = 0 := by
  have queues := listHolds_replicate (listHolds carried) (listHolds_nil carried) workers
  show listHolds (listHolds carried) (List.replicate workers []) +
    listHolds held (List.replicate workers entry) = 0
  rw [queues, listHolds_replicate held nothing, add_zero]

theorem put_amount (held : Place → Amount) (stepped : crew.put worker message = some next) :
    next.amount held carried = crew.amount held carried + carried message := by
  obtain ⟨queue, queued, rfl⟩ := put_cases stepped
  have longer : listHolds carried (queue ++ [message]) =
      listHolds carried queue + carried message := by
    rw [listHolds_append, listHolds_cons, listHolds_nil, add_zero]
  show listHolds (listHolds carried) (crew.queues.set worker (queue ++ [message])) +
    listHolds held crew.places = _
  rw [listHolds_set_gains queued longer, amount]
  abel

theorem take_amount (conserves : loop.Conserves held carried stored Sound)
    (sound : ∀ place ∈ crew.places, Sound place) (stepped : crew.take loop worker = some next) :
    next.amount held carried = crew.amount held carried := by
  obtain ⟨place, message, queue, after, here, queued, taken, rfl⟩ := take_cases stepped
  obtain ⟨_, gains⟩ := conserves.takes _ _ _ (sound place (List.mem_of_getElem? here)) taken
  have shorter := listHolds_set_loses queued
    ((listHolds_cons carried message queue).trans (add_comm _ _))
  show listHolds (listHolds carried) (crew.queues.set worker queue) +
    listHolds held (crew.places.set worker after) = _
  rw [listHolds_set_gains here gains, amount, shorter]
  abel

theorem act_amount (conserves : loop.Conserves held carried stored Sound)
    (sound : ∀ place ∈ crew.places, Sound place)
    (stepped : crew.act loop shared worker input = some (next, sharedNext)) :
    stored sharedNext + next.amount held carried =
      stored shared + crew.amount held carried := by
  obtain ⟨place, stop, after, here, acted, rfl⟩ := act_cases stepped
  obtain ⟨_, balance⟩ := conserves.acts _ _ _ _ _ _ _ (sound place (List.mem_of_getElem? here))
    acted
  have exchanged := listHolds_set held here after
  apply add_right_cancel (b := held place)
  show stored sharedNext + (listHolds (listHolds carried) crew.queues +
    listHolds held (crew.places.set worker after)) + held place = _
  calc _ = stored sharedNext + listHolds (listHolds carried) crew.queues +
        (listHolds held (crew.places.set worker after) + held place) := by abel
    _ = stored sharedNext + held after + listHolds (listHolds carried) crew.queues +
        listHolds held crew.places := by
      rw [exchanged]
      abel
    _ = _ := by
      rw [balance, amount]
      abel

theorem take_sound (conserves : loop.Conserves held carried stored Sound)
    (sound : ∀ place ∈ crew.places, Sound place) (stepped : crew.take loop worker = some next) :
    ∀ place ∈ next.places, Sound place := by
  obtain ⟨place, message, queue, after, here, _, taken, rfl⟩ := take_cases stepped
  have moved := (conserves.takes _ _ _ (sound place (List.mem_of_getElem? here)) taken).1
  intro other member
  exact (List.mem_or_eq_of_mem_set member).elim (sound other) fun same => same ▸ moved

theorem act_sound (conserves : loop.Conserves held carried stored Sound)
    (sound : ∀ place ∈ crew.places, Sound place)
    (stepped : crew.act loop shared worker input = some (next, sharedNext)) :
    ∀ place ∈ next.places, Sound place := by
  obtain ⟨place, stop, after, here, acted, rfl⟩ := act_cases stepped
  have moved := (conserves.acts _ _ _ _ _ _ _ (sound place (List.mem_of_getElem? here)) acted).1
  intro other member
  exact (List.mem_or_eq_of_mem_set member).elim (sound other) fun same => same ▸ moved

end

theorem put_places (stepped : crew.put worker message = some next) :
    next.places = crew.places ∧ next.queues.length = crew.queues.length := by
  obtain ⟨queue, _, rfl⟩ := put_cases stepped
  exact ⟨rfl, List.length_set ..⟩

theorem take_length (stepped : crew.take loop worker = some next) :
    next.places.length = crew.places.length ∧ next.queues.length = crew.queues.length := by
  obtain ⟨_, _, _, _, _, _, _, rfl⟩ := take_cases stepped
  exact ⟨List.length_set .., List.length_set ..⟩

theorem act_length (stepped : crew.act loop shared worker input = some (next, sharedNext)) :
    next.places.length = crew.places.length ∧ next.queues = crew.queues := by
  obtain ⟨_, _, _, _, _, rfl⟩ := act_cases stepped
  exact ⟨List.length_set .., rfl⟩

/-! ### Workers that nobody tells to leave -/

/-- The flag is down, and nobody will raise it. -/
structure Regular (Known : Message → Prop) (Calm : Place → Prop) (crew : QueueCrew Message Place) :
    Prop where
  lowered : crew.stop = false
  calm : ∀ place ∈ crew.places, Calm place
  served : crew.places.length = crew.queues.length
  known : ∀ queue ∈ crew.queues, ∀ message ∈ queue, Known message

/-- Every queue is empty and every worker waits. -/
structure Idle (loop : QueueLoop Message Place Shared Input) (crew : QueueCrew Message Place) :
    Prop where
  empty : ∀ queue ∈ crew.queues, queue = []
  waits : ∀ place ∈ crew.places, loop.Waits place

section

variable {Known : Message → Prop} {Calm : Place → Prop} {cost : Message → Nat}
  {work : Place → Nat}

theorem start_regular {entry : Place} (calm : Calm entry) (workers : Nat) :
    (start entry workers : QueueCrew Message Place).Regular Known Calm := by
  refine ⟨rfl, fun place member => ?_, ?_, fun queue member => ?_⟩
  · rw [List.eq_of_mem_replicate member]
    exact calm
  · exact List.length_replicate.trans List.length_replicate.symm
  · rw [List.eq_of_mem_replicate member]
    exact fun message inQueue => absurd inQueue List.not_mem_nil

theorem put_regular (regular : crew.Regular Known Calm) (known : Known message)
    (stepped : crew.put worker message = some next) : next.Regular Known Calm := by
  obtain ⟨queue, queued, rfl⟩ := put_cases stepped
  refine ⟨regular.lowered, regular.calm, regular.served.trans List.length_set.symm,
    fun other member => ?_⟩
  rcases List.mem_or_eq_of_mem_set member with before | rfl
  · exact regular.known other before
  · intro waiting inQueue
    rcases List.mem_append.mp inQueue with before | last
    · exact regular.known queue (List.mem_of_getElem? queued) waiting before
    · rw [List.mem_singleton.mp last]
      exact known

theorem take_regular (settles : loop.Settles Known Calm cost work)
    (regular : crew.Regular Known Calm) (stepped : crew.take loop worker = some next) :
    next.Regular Known Calm ∧ next.amount work cost + 1 ≤ crew.amount work cost := by
  obtain ⟨place, message, queue, after, here, queued, taken, rfl⟩ := take_cases stepped
  have known := regular.known _ (List.mem_of_getElem? queued)
  obtain ⟨calm, lowers⟩ := settles.takes _ _ _ (regular.calm place (List.mem_of_getElem? here))
    (known message List.mem_cons_self) taken
  refine ⟨⟨regular.lowered, fun other member => ?_, ?_, fun other member => ?_⟩, ?_⟩
  · exact (List.mem_or_eq_of_mem_set member).elim (regular.calm other) fun same => same ▸ calm
  · exact List.length_set.trans (regular.served.trans List.length_set.symm)
  · rcases List.mem_or_eq_of_mem_set member with before | rfl
    · exact regular.known other before
    · exact fun waiting inQueue => known waiting (.tail message inQueue)
  · have shorter := listHolds_set (listHolds cost) queued queue
    have moved := listHolds_set work here after
    rw [listHolds_cons] at shorter
    show listHolds (listHolds cost) (crew.queues.set worker queue) +
      listHolds work (crew.places.set worker after) + 1 ≤ _
    unfold amount
    omega

theorem act_regular (settles : loop.Settles Known Calm cost work)
    (regular : crew.Regular Known Calm)
    (stepped : crew.act loop shared worker input = some (next, sharedNext)) :
    next.Regular Known Calm ∧ next.amount work cost + 1 ≤ crew.amount work cost := by
  obtain ⟨place, stop, after, here, acted, rfl⟩ := act_cases stepped
  rw [regular.lowered] at acted
  obtain ⟨lowered, calm, lowers⟩ := settles.acts _ _ _ _ _ _
    (regular.calm place (List.mem_of_getElem? here)) acted
  refine ⟨⟨lowered, fun other member => ?_, List.length_set.trans regular.served,
    regular.known⟩, ?_⟩
  · exact (List.mem_or_eq_of_mem_set member).elim (regular.calm other) fun same => same ▸ calm
  · have moved := listHolds_set work here after
    show listHolds (listHolds cost) crew.queues +
      listHolds work (crew.places.set worker after) + 1 ≤ _
    unfold amount
    omega

/-- Unless the crew is idle, some worker goes on. -/
theorem Regular.goesOn (settles : loop.Settles Known Calm cost work)
    (regular : crew.Regular Known Calm) (shared : Shared) :
    crew.Idle loop ∨ (∃ worker, (crew.take loop worker).isSome) ∨
      ∃ worker input, (crew.act loop shared worker input).isSome := by
  by_cases waits : ∀ place ∈ crew.places, loop.Waits place
  · by_cases empty : ∀ queue ∈ crew.queues, queue = []
    · exact .inl ⟨empty, waits⟩
    · push Not at empty
      obtain ⟨queue, member, supplied⟩ := empty
      obtain ⟨worker, queued⟩ := List.mem_iff_getElem?.mp member
      obtain ⟨message, rest, rfl⟩ := List.exists_cons_of_ne_nil supplied
      have inPlaces : worker < crew.places.length :=
        regular.served ▸ (List.getElem?_eq_some_iff.mp queued).1
      obtain ⟨after, taken⟩ := Option.isSome_iff_exists.mp
        (waits _ (List.getElem_mem inPlaces) message)
      refine .inr (.inl ⟨worker, ?_⟩)
      rw [take_step (List.getElem?_eq_getElem inPlaces) queued taken]
      rfl
  · push Not at waits
    obtain ⟨place, member, busy⟩ := waits
    obtain ⟨worker, here⟩ := List.mem_iff_getElem?.mp member
    obtain ⟨input, acts⟩ := (settles.goesOn place (regular.calm place member)).resolve_left busy
    refine .inr (.inr ⟨worker, input, ?_⟩)
    rw [act_step here, regular.lowered, Option.isSome_map]
    exact acts shared

end

/-! ### Workers that have nothing to do -/

/-- The flag is down, the queues are empty, and the workers are at such places. -/
structure Rests (Quiet : Place → Prop) (crew : QueueCrew Message Place) : Prop where
  lowered : crew.stop = false
  empty : ∀ queue ∈ crew.queues, queue = []
  quiet : ∀ place ∈ crew.places, Quiet place

theorem start_rests {Quiet : Place → Prop} {entry : Place} (quiet : Quiet entry)
    (workers : Nat) : (start entry workers : QueueCrew Message Place).Rests Quiet :=
  ⟨rfl, fun _ member => List.eq_of_mem_replicate member,
    fun _ member => List.eq_of_mem_replicate member ▸ quiet⟩

theorem Rests.take_eq_none {Quiet : Place → Prop} (rests : crew.Rests Quiet) (worker : Nat) :
    crew.take loop worker = none := by
  apply Option.eq_none_iff_forall_ne_some.mpr
  intro next stepped
  obtain ⟨_, _, _, _, _, queued, _⟩ := take_cases stepped
  cases rests.empty _ (List.mem_of_getElem? queued)

theorem Rests.act {Quiet : Place → Prop} (keeps : loop.Keeps Quiet) (rests : crew.Rests Quiet)
    (stepped : crew.act loop shared worker input = some (next, sharedNext)) :
    next.Rests Quiet ∧ sharedNext = shared := by
  obtain ⟨place, stop, after, here, acted, rfl⟩ := act_cases stepped
  rw [rests.lowered] at acted
  obtain ⟨lowered, same, quiet⟩ := keeps _ _ _ _ _ _
    (rests.quiet place (List.mem_of_getElem? here)) acted
  refine ⟨⟨lowered, rests.empty, fun other member => ?_⟩, same⟩
  exact (List.mem_or_eq_of_mem_set member).elim (rests.quiet other) fun isSame => isSame ▸ quiet

end QueueCrew

end Foundation
