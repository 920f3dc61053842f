import TrafficInspector.Utils.MutualExclusion

/-!
Owns what the calls of `ObjectQueue` amount to: between its call and its return each one takes
effect at one step, and in the order of these steps they are the operations of a queue that
nobody shares. So the lock makes a call of many steps one step of the program.
-/

namespace TrafficInspector

open Foundation

inductive QueueCall (Object : Type) where
  | getObject
  | putObject (obj : Object)
deriving DecidableEq, Repr

/-- What a thread shows of its calls. -/
inductive QueueEvent (Object : Type) where
  | called (call : QueueCall Object)
  | tookEffect (call : QueueCall Object) (result : Option Object)
  | returned (result : Option Object)
deriving DecidableEq, Repr

/-- How far a thread has got with a call. -/
inductive CallProgress (Object : Type) where
  | idle
  | pending (call : QueueCall Object)
  | effected (result : Option Object)
deriving DecidableEq, Repr

variable {Object : Type}

/-- A thread's events come in rounds: a call, its effect, and its return with the result that
the effect had. -/
inductive Rounds : List (QueueEvent Object) → CallProgress Object → Prop
  | start : Rounds [] .idle
  | called {events : List (QueueEvent Object)} (call : QueueCall Object)
      (before : Rounds events .idle) : Rounds (events ++ [.called call]) (.pending call)
  | tookEffect {events : List (QueueEvent Object)} {call : QueueCall Object}
      (result : Option Object) (before : Rounds events (.pending call)) :
      Rounds (events ++ [.tookEffect call result]) (.effected result)
  | returned {events : List (QueueEvent Object)} {result : Option Object}
      (before : Rounds events (.effected result)) : Rounds (events ++ [.returned result]) .idle

/-- The calls, one after the other, are those of the queue, with their results. -/
inductive Performs (initial : ObjectQueue Object) :
    List (QueueCall Object × Option Object) → ObjectQueue Object → Prop
  | start : Performs initial [] initial
  | putObject {effects : List (QueueCall Object × Option Object)} {queue : ObjectQueue Object}
      (before : Performs initial effects queue) (obj : Object) :
      Performs initial (effects ++ [(.putObject obj, none)]) (ObjectQueue.putObject queue obj)
  | getObject {effects : List (QueueCall Object × Option Object)}
      {queue rest : ObjectQueue Object} {obj : Object} (before : Performs initial effects queue)
      (taken : ObjectQueue.getObject queue = some (obj, rest)) :
      Performs initial (effects ++ [(.getObject, some obj)]) rest

def QueueEvent.effect : QueueEvent Object → Option (QueueCall Object × Option Object)
  | tookEffect call result => some (call, result)
  | called _ | returned _ => none

def effectsOf (shown : List (Nat × QueueEvent Object)) :
    List (QueueCall Object × Option Object) :=
  shown.filterMap fun event => event.2.effect

theorem effectsOf_concat (shown : List (Nat × QueueEvent Object)) (thread : Nat)
    (call : QueueCall Object) (result : Option Object) :
    effectsOf (shown ++ [(thread, .tookEffect call result)]) =
      effectsOf shown ++ [(call, result)] :=
  List.filterMap_append

def QueueCall.argument : QueueCall Object → Option Object
  | putObject obj => some obj
  | getObject => none

/-- The objects put, in the order in which that took effect. -/
def objectsPut (effects : List (QueueCall Object × Option Object)) : List Object :=
  effects.filterMap fun effect => effect.1.argument

/-- The objects that the calls of `getObject` yield. -/
def objectsGot (effects : List (QueueCall Object × Option Object)) : List Object :=
  effects.filterMap Prod.snd

private theorem filterMap_concat {First Second : Type} (select : First → Option Second)
    (values : List First) (last : First) :
    (values ++ [last]).filterMap select = values.filterMap select ++ (select last).toList := by
  rw [List.filterMap_append]
  cases chosen : select last <;> simp [chosen]

/-- What a queue held and was given comes out of it in that order, each object once. -/
theorem Performs.in_order {initial queue : ObjectQueue Object}
    {effects : List (QueueCall Object × Option Object)}
    (performs : Performs initial effects queue) :
    initial ++ objectsPut effects = objectsGot effects ++ queue := by
  unfold objectsPut objectsGot
  induction performs with
  | start => exact List.append_nil initial
  | putObject before obj inductionHypothesis =>
      rw [filterMap_concat, filterMap_concat, ← List.append_assoc, inductionHypothesis]
      simp [QueueCall.argument, ObjectQueue.putObject]
  | getObject before taken inductionHypothesis =>
      rw [ObjectQueue.getObject_eq_some.mp taken] at inductionHypothesis
      rw [filterMap_concat, filterMap_concat, ← List.append_assoc, inductionHypothesis]
      simp [QueueCall.argument]

/-! ### What a step shows -/

/-- Where a thread with this progress can be. -/
inductive QueuePosition.At : QueuePosition Object → CallProgress Object → Prop
  | outside : At .outside .idle
  | getLocking : At .getLocking (.pending .getObject)
  | testing : At .testing (.pending .getObject)
  | released : At .released (.pending .getObject)
  | relocking : At .relocking (.pending .getObject)
  | taking : At .taking (.pending .getObject)
  | popping (ret : Object) : At (.popping ret) (.effected (some ret))
  | returning (ret : Object) : At (.returning ret) (.effected (some ret))
  | putLocking (obj : Object) : At (.putLocking obj) (.pending (.putObject obj))
  | pushing (obj : Object) : At (.pushing obj) (.pending (.putObject obj))
  | notifying : At .notifying (.effected none)
  | leaving : At .leaving (.effected none)

/-- The moves within a call that show nothing. -/
inductive QueuePosition.Silent : QueuePosition Object → QueuePosition Object → Prop
  | lock {position inside : QueuePosition Object} (locks : position.Locks inside) :
      Silent position inside
  | release : Silent .testing .released
  | find : Silent .testing .taking
  | comeBack : Silent .released .relocking
  | pop (ret : Object) : Silent (.popping ret) (.returning ret)
  | notify : Silent .notifying .leaving

/-- A thread that shows nothing has got no further with its call. -/
theorem QueuePosition.Silent.at {position next : QueuePosition Object}
    (silent : position.Silent next) (progress : CallProgress Object)
    (isAt : position.At progress) : next.At progress := by
  cases silent with
  | lock locks => cases locks <;> cases isAt <;> constructor
  | release =>
      cases isAt
      exact .released
  | find =>
      cases isAt
      exact .taking
  | comeBack =>
      cases isAt
      exact .relocking
  | pop ret =>
      cases isAt
      exact .returning ret
  | notify =>
      cases isAt
      exact .leaving

/-- In front of `pop_front()`. -/
def QueuePosition.pops : QueuePosition Object → Nat
  | popping _ => 1
  | _ => 0

namespace SharedQueue

/-- What the thread at the position shows with its next step. -/
def proceedEvent (container : ObjectQueue Object) :
    QueuePosition Object → Option (QueueEvent Object)
  | .taking => container.head?.map fun ret => .tookEffect .getObject (some ret)
  | .returning ret => some (.returned (some ret))
  | .pushing obj => some (.tookEffect (.putObject obj) none)
  | .leaving => some (.returned none)
  | _ => none

/-- The events of a step, with the thread they are of. -/
def events (queue : SharedQueue Object) : QueueAction Object → List (Nat × QueueEvent Object)
  | .callGet thread => [(thread, .called .getObject)]
  | .callPut thread obj => [(thread, .called (.putObject obj))]
  | .proceed thread =>
      ((queue.threads[thread]?.bind (proceedEvent queue.container)).map (Prod.mk thread)).toList
  | .notify _ _ | .wakeUp _ => []

/-- The events of a run. -/
def history (policy : LockPolicy) (emptied : Object) (queue : SharedQueue Object)
    (actions : List (QueueAction Object)) : List (Nat × QueueEvent Object) :=
  partialTrace events (step policy emptied) queue actions

/-- A container with this content while so many threads are in front of `pop_front()`. -/
def held (emptied : Object) (content : ObjectQueue Object) : Nat → ObjectQueue Object
  | 0 => content
  | _ + 1 => emptied :: content

/-- What the container amounts to: in front of `pop_front()` there is one more object, which the
move has emptied. -/
def Represents (emptied : Object) (queue : SharedQueue Object) (content : ObjectQueue Object) :
    Prop :=
  queue.container = held emptied content (queue.total QueuePosition.pops)

variable {policy : LockPolicy} {emptied : Object} {queue next : SharedQueue Object}

/-! ### The rounds of a thread -/

/-- Every thread's events come in rounds, and it is where the last one has got to. -/
def InRounds (shown : List (Nat × QueueEvent Object)) (queue : SharedQueue Object) : Prop :=
  ∀ (thread : Nat) position, queue.threads[thread]? = some position →
    ∃ progress, position.At progress ∧ Rounds (shownBy thread shown) progress

/-- One thread moves on, and shows what leads from where it was to where it is. -/
private theorem InRounds.of_set {shown : List (Nat × QueueEvent Object)}
    (inRounds : InRounds shown queue) {thread : Nat} {old new : QueuePosition Object}
    (here : queue.threads[thread]? = some old) (event : Option (QueueEvent Object))
    (continues : ∀ (before : List (QueueEvent Object)) progress, old.At progress →
      Rounds before progress →
        ∃ after, new.At after ∧ Rounds (before ++ event.toList) after)
    (locked : Bool) (container : ObjectQueue Object) :
    InRounds (shown ++ (event.map (Prod.mk thread)).toList)
      ⟨locked, container, queue.threads.set thread new⟩ := by
  intro other position there
  have own : shownBy other (shown ++ (event.map (Prod.mk thread)).toList) =
      shownBy other shown ++ if thread = other then event.toList else [] := by
    rw [shownBy_append, Option.toList_map]
    by_cases same : thread = other
    · rw [if_pos same, ← same, shownBy_self]
    · rw [if_neg same, shownBy_of_ne same]
  rw [own]
  by_cases same : thread = other
  · subst same
    rw [List.getElem?_set_self (List.getElem?_eq_some_iff.mp here).1] at there
    cases there
    obtain ⟨progress, isAt, rounds⟩ := inRounds thread old here
    rw [if_pos rfl]
    exact continues _ progress isAt rounds
  · rw [List.getElem?_set_ne same] at there
    rw [if_neg same, List.append_nil]
    exact inRounds other position there

private theorem InRounds.of_silent {shown : List (Nat × QueueEvent Object)}
    (inRounds : InRounds shown queue) {thread : Nat} {old new : QueuePosition Object}
    (here : queue.threads[thread]? = some old) (silent : old.Silent new)
    (locked : Bool) (container : ObjectQueue Object) :
    InRounds (shown ++ []) ⟨locked, container, queue.threads.set thread new⟩ := by
  refine inRounds.of_set here none (fun before progress isAt rounds => ?_) locked container
  rw [Option.toList_none, List.append_nil]
  exact ⟨progress, silent.at progress isAt, rounds⟩

private theorem events_proceed {thread : Nat} {position : QueuePosition Object}
    (here : queue.threads[thread]? = some position) :
    queue.events (.proceed thread) =
      ((proceedEvent queue.container position).map (Prod.mk thread)).toList := by
  rw [events, here, Option.bind_some]

private theorem events_silent {thread : Nat} {position next : QueuePosition Object}
    (here : queue.threads[thread]? = some position) (silent : position.Silent next) :
    queue.events (.proceed thread) = [] := by
  rw [events_proceed here]
  cases silent with
  | lock locks => cases locks <;> rfl
  | _ => rfl

private theorem InRounds.of_silent_step {shown : List (Nat × QueueEvent Object)}
    (inRounds : InRounds shown queue) {thread : Nat} {old new : QueuePosition Object}
    (here : queue.threads[thread]? = some old) (silent : old.Silent new)
    (locked : Bool) (container : ObjectQueue Object) :
    InRounds (shown ++ queue.events (.proceed thread))
      ⟨locked, container, queue.threads.set thread new⟩ := by
  rw [events_silent here silent]
  exact inRounds.of_silent here silent locked container

private theorem step_inRounds {shown : List (Nat × QueueEvent Object)}
    {action : QueueAction Object} (stepped : queue.step policy emptied action = some next)
    (inRounds : InRounds shown queue) : InRounds (shown ++ queue.events action) next := by
  cases turn_of_step stepped with
  | callGet here =>
      refine inRounds.of_set here (some (.called .getObject)) ?_ _ _
      intro before progress isAt rounds
      cases isAt
      exact ⟨_, .getLocking, .called .getObject rounds⟩
  | callPut here =>
      refine inRounds.of_set here (some (.called (.putObject _))) ?_ _ _
      intro before progress isAt rounds
      cases isAt
      exact ⟨_, .putLocking _, .called (.putObject _) rounds⟩
  | spin here locks spins held =>
      rw [events_silent here (.lock locks), List.append_nil]
      exact inRounds
  | lock here locks free => exact inRounds.of_silent_step here (.lock locks) _ _
  | release here empty => exact inRounds.of_silent_step here .release _ _
  | find here supplied => exact inRounds.of_silent_step here .find _ _
  | comeBack here yields => exact inRounds.of_silent_step here .comeBack _ _
  | take here front =>
      rw [events_proceed here, front]
      refine inRounds.of_set here (some (.tookEffect .getObject (some _))) ?_ _ _
      intro before progress isAt rounds
      cases isAt
      exact ⟨_, .popping _, .tookEffect _ rounds⟩
  | pop here front => exact inRounds.of_silent_step here (.pop _) _ _
  | giveBack here =>
      rw [events_proceed here]
      refine inRounds.of_set here (some (.returned (some _))) ?_ _ _
      intro before progress isAt rounds
      cases isAt
      exact ⟨_, .outside, .returned rounds⟩
  | push here =>
      rw [events_proceed here]
      refine inRounds.of_set here (some (.tookEffect (.putObject _) none)) ?_ _ _
      intro before progress isAt rounds
      cases isAt
      exact ⟨_, .notifying, .tookEffect none rounds⟩
  | notifyNobody here nobody => exact inRounds.of_silent here .notify _ _
  | notifyOne here asleep sleeps =>
      have woken := inRounds.of_silent asleep .comeBack queue.locked queue.container
      rw [List.append_nil] at woken
      exact woken.of_silent (notifier_kept here asleep) .notify _ _
  | leave here =>
      rw [events_proceed here]
      refine inRounds.of_set here (some (.returned none)) ?_ _ _
      intro before progress isAt rounds
      cases isAt
      exact ⟨_, .outside, .returned rounds⟩
  | wakeUp here sleeps => exact inRounds.of_silent here .comeBack _ _

/-! ### The queue that nobody shares -/

/-- Whoever holds the lock and is not about to pop is alone with the container. -/
private theorem Guarded.pops_eq_zero (guarded : queue.Guarded) {thread : Nat}
    {position : QueuePosition Object} (here : queue.threads[thread]? = some position)
    (holds : position.holds = true) (notPopping : position.pops = 0) :
    queue.total QueuePosition.pops = 0 := by
  by_contra someone
  obtain ⟨popper, popping, there, pops⟩ := listHolds_pos.mp (Nat.pos_of_ne_zero someone)
  have holds' : popping.holds = true := by
    cases popping with
    | popping ret => rfl
    | _ => cases pops
  obtain rfl := guarded.lockExcludes.excludes thread popper position popping here there holds holds'
  rw [here] at there
  cases there
  exact absurd notPopping (Nat.ne_of_gt pops)

private theorem Guarded.pops_le_one (guarded : queue.Guarded) :
    queue.total QueuePosition.pops ≤ 1 := by
  have below : queue.total QueuePosition.pops ≤ queue.total QueuePosition.holdsLock := by
    apply listHolds_mono
    intro position
    cases position <;> simp [QueuePosition.pops, QueuePosition.holdsLock, QueuePosition.holds]
  rw [guarded.exclusive] at below
  exact Nat.le_trans below queue.locked.toNat_le

variable {content : ObjectQueue Object}

/-- A thread that neither was nor is about to pop leaves the container as it is. -/
private theorem Represents.of_set (represents : Represents emptied queue content) {thread : Nat}
    {old : QueuePosition Object} (here : queue.threads[thread]? = some old)
    (new : QueuePosition Object) (same : new.pops = old.pops) (locked : Bool) :
    Represents emptied ⟨locked, queue.container, queue.threads.set thread new⟩ content := by
  have moved := total_set here new QueuePosition.pops
  rw [same] at moved
  have kept : listHolds QueuePosition.pops (queue.threads.set thread new) =
      queue.total QueuePosition.pops := Nat.add_right_cancel moved
  exact represents.trans (congrArg (held emptied content) kept.symm)

/-- The effects so far are those of a queue that nobody shares, and the container amounts to it. -/
structure Linearized (emptied : Object) (initial : ObjectQueue Object)
    (shown : List (Nat × QueueEvent Object)) (queue : SharedQueue Object) : Prop where
  guarded : queue.Guarded
  performs : ∃ content, Represents emptied queue content ∧
    Performs initial (effectsOf shown) content

variable {initial : ObjectQueue Object} {shown : List (Nat × QueueEvent Object)}

/-- A step that has no effect on the queue and does not pop. -/
private theorem Linearized.of_set (linearized : Linearized emptied initial shown queue)
    {thread : Nat} {old new : QueuePosition Object} (here : queue.threads[thread]? = some old)
    {locked : Bool} (guarded : Guarded ⟨locked, queue.container, queue.threads.set thread new⟩)
    (same : new.pops = old.pops) {events : List (Nat × QueueEvent Object)}
    (noEffect : effectsOf events = []) :
    Linearized emptied initial (shown ++ events)
      ⟨locked, queue.container, queue.threads.set thread new⟩ := by
  obtain ⟨content, represents, performs⟩ := linearized.performs
  refine ⟨guarded, content, represents.of_set here new same locked, ?_⟩
  rw [effectsOf, List.filterMap_append, ← effectsOf, ← effectsOf, noEffect, List.append_nil]
  exact performs

/-- Nobody else is about to pop, so what is taken is the front of the queue. -/
private theorem Linearized.of_take (linearized : Linearized emptied initial shown queue)
    {thread : Nat} {ret : Object} {rest : ObjectQueue Object}
    (here : queue.threads[thread]? = some .taking) (front : queue.container = ret :: rest)
    (guarded : Guarded ⟨queue.locked, emptied :: rest, queue.threads.set thread (.popping ret)⟩) :
    Linearized emptied initial (shown ++ queue.events (.proceed thread))
      ⟨queue.locked, emptied :: rest, queue.threads.set thread (.popping ret)⟩ := by
  obtain ⟨content, represents, performs⟩ := linearized.performs
  have alone := linearized.guarded.pops_eq_zero here rfl rfl
  have moved := total_set here (.popping ret) QueuePosition.pops
  rw [alone] at moved
  rw [Represents, alone, front] at represents
  have shows : queue.events (.proceed thread) =
      [(thread, .tookEffect .getObject (some ret))] := by
    rw [events_proceed here, front]
    rfl
  refine ⟨guarded, rest, congrArg (held emptied rest) moved.symm, ?_⟩
  rw [shows, effectsOf_concat]
  exact performs.getObject (ObjectQueue.getObject_eq_some.mpr represents.symm)

/-- The emptied object goes, and the container is what the queue has been since the take. -/
private theorem Linearized.of_pop (linearized : Linearized emptied initial shown queue)
    {thread : Nat} {ret left : Object} {rest : ObjectQueue Object}
    (here : queue.threads[thread]? = some (.popping ret)) (front : queue.container = left :: rest)
    (guarded : Guarded ⟨queue.locked, rest, queue.threads.set thread (.returning ret)⟩) :
    Linearized emptied initial (shown ++ queue.events (.proceed thread))
      ⟨queue.locked, rest, queue.threads.set thread (.returning ret)⟩ := by
  obtain ⟨content, represents, performs⟩ := linearized.performs
  have moved := total_set here (.returning ret) QueuePosition.pops
  have one : queue.total QueuePosition.pops = 1 :=
    Nat.le_antisymm linearized.guarded.pops_le_one (le_total here QueuePosition.pops)
  rw [one] at moved
  rw [Represents, one, front] at represents
  refine ⟨guarded, content, ?_, ?_⟩
  · exact (List.cons.inj represents).2.trans
      (congrArg (held emptied content) (Nat.add_right_cancel moved).symm)
  · rw [events_silent here (.pop ret), List.append_nil]
    exact performs

private theorem Linearized.of_push (linearized : Linearized emptied initial shown queue)
    {thread : Nat} {obj : Object} (here : queue.threads[thread]? = some (.pushing obj))
    (guarded : Guarded ⟨queue.locked, ObjectQueue.putObject queue.container obj,
      queue.threads.set thread .notifying⟩) :
    Linearized emptied initial (shown ++ queue.events (.proceed thread))
      ⟨queue.locked, ObjectQueue.putObject queue.container obj,
        queue.threads.set thread .notifying⟩ := by
  obtain ⟨content, represents, performs⟩ := linearized.performs
  have alone := linearized.guarded.pops_eq_zero here rfl rfl
  have moved := total_set here .notifying QueuePosition.pops
  rw [alone] at moved
  rw [Represents, alone] at represents
  have shows : queue.events (.proceed thread) =
      [(thread, .tookEffect (.putObject obj) none)] := events_proceed here
  refine ⟨guarded, ObjectQueue.putObject content obj, ?_, ?_⟩
  · exact (congrArg (ObjectQueue.putObject · obj) represents).trans
      (congrArg (held emptied _) moved.symm)
  · rw [shows, effectsOf_concat]
    exact performs.putObject obj

private theorem step_linearized {action : QueueAction Object}
    (stepped : queue.step policy emptied action = some next)
    (linearized : Linearized emptied initial shown queue) :
    Linearized emptied initial (shown ++ queue.events action) next := by
  have guarded := step_guarded stepped linearized.guarded
  cases turn_of_step stepped with
  | callGet here => exact linearized.of_set here guarded rfl (by rfl)
  | callPut here => exact linearized.of_set here guarded rfl (by rfl)
  | spin here locks spins held =>
      rw [events_silent here (.lock locks), List.append_nil]
      exact linearized
  | lock here locks free =>
      rw [events_silent here (.lock locks)]
      refine linearized.of_set here guarded ?_ (by rfl)
      cases locks <;> rfl
  | release here empty =>
      rw [events_silent here .release]
      exact linearized.of_set here guarded rfl (by rfl)
  | find here supplied =>
      rw [events_silent here .find]
      exact linearized.of_set here guarded rfl (by rfl)
  | comeBack here yields =>
      rw [events_silent here .comeBack]
      exact linearized.of_set here guarded rfl (by rfl)
  | take here front => exact linearized.of_take here front guarded
  | pop here front => exact linearized.of_pop here front guarded
  | giveBack here =>
      rw [events_proceed here]
      exact linearized.of_set here guarded rfl (by rfl)
  | push here => exact linearized.of_push here guarded
  | notifyNobody here nobody => exact linearized.of_set here guarded rfl (by rfl)
  | @notifyOne thread sleeper here asleep sleeps =>
      obtain ⟨content, represents, performs⟩ := linearized.performs
      have woken : Represents emptied (queue.moveTo sleeper .relocking) content :=
        represents.of_set asleep .relocking rfl queue.locked
      refine ⟨guarded, content,
        woken.of_set (notifier_kept here asleep) .leaving rfl queue.locked, ?_⟩
      rw [events, List.append_nil]
      exact performs
  | leave here =>
      rw [events_proceed here]
      exact linearized.of_set here guarded rfl (by rfl)
  | wakeUp here sleeps => exact linearized.of_set here guarded rfl (by rfl)

/-! ### Every run -/

section

variable {actions : List (QueueAction Object)} {final : SharedQueue Object}

theorem run_linearized
    (ran : queue.run policy emptied actions = some final)
    (linearized : Linearized emptied initial [] queue) :
    Linearized emptied initial (queue.history policy emptied actions) final :=
  partialTrace_invariant (Linearized emptied initial)
    (fun _ _ _ _ stepped linearized => step_linearized stepped linearized) ran linearized

theorem run_inRounds (ran : queue.run policy emptied actions = some final)
    (inRounds : InRounds [] queue) : InRounds (queue.history policy emptied actions) final :=
  partialTrace_invariant InRounds
    (fun _ _ _ _ stepped inRounds => step_inRounds stepped inRounds) ran inRounds

end

/-- The history of a run is that of calls which take effect at one step each, and the queue is
then what these leave of one that nobody shares. -/
structure Linearizes (emptied : Object) (initial : ObjectQueue Object)
    (history : List (Nat × QueueEvent Object)) (final : SharedQueue Object) : Prop where
  rounds : InRounds history final
  performs : ∃ content, Represents emptied final content ∧
    Performs initial (effectsOf history) content ∧
    initial ++ objectsPut (effectsOf history) = objectsGot (effectsOf history) ++ content

end SharedQueue

/-- Every run of the threads is linearizable, under either policy. -/
theorem queue_linearizes (policy : LockPolicy) (emptied : Object)
    (container : ObjectQueue Object) (threads : Nat) (actions : List (QueueAction Object))
    (final : SharedQueue Object)
    (ran : (SharedQueue.start container threads).run policy emptied actions = some final) :
    final.Linearizes emptied container
      ((SharedQueue.start container threads).history policy emptied actions) := by
  have outside : SharedQueue.InRounds [] (SharedQueue.start container threads) := by
    intro thread position here
    obtain rfl := List.eq_of_mem_replicate (List.mem_of_getElem? here)
    exact ⟨.idle, .outside, .start⟩
  have nobodyPops : (SharedQueue.start container threads).total QueuePosition.pops = 0 :=
    listHolds_replicate QueuePosition.pops rfl threads
  have unshared : SharedQueue.Represents emptied (SharedQueue.start container threads) container :=
    congrArg (SharedQueue.held emptied container) nobodyPops.symm
  obtain ⟨_, content, represents, performs⟩ := SharedQueue.run_linearized ran
    ⟨SharedQueue.start_guarded container threads, container, unshared, .start⟩
  exact ⟨SharedQueue.run_inRounds ran outside, content, represents, performs, performs.in_order⟩

/-- Two getters, and a putter whose object the second one gets: the first had the lock before. -/
theorem queue_linearizes_overtaken :
    (⟨true, [], [.released, .returning 7, .outside]⟩ : SharedQueue Nat).Linearizes 0 []
      [(0, .called .getObject), (2, .called (.putObject 7)), (2, .tookEffect (.putObject 7) none),
        (1, .called .getObject), (2, .returned none), (1, .tookEffect .getObject (some 7))] :=
  queue_linearizes .spinLock 0 [] 3
    [.callGet 0, .proceed 0, .proceed 0, .callPut 2 7, .proceed 2, .proceed 2, .callGet 1,
      .notify 2 none, .proceed 2, .proceed 1, .proceed 1, .proceed 1, .proceed 1] _ rfl

end TrafficInspector
