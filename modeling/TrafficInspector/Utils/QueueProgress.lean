import Mathlib.Algebra.BigOperators.Ring.List
import TrafficInspector.Utils.MutualExclusion

/-!
Owns that no call of `ObjectQueue` is left hanging. Under `WaitLockPolicy` the threads get no
further only when every call has returned but those of getters that sleep in front of an empty
container, and they get there within so many steps: no wake-up is lost. Under `SpinLockPolicy`,
where a getter polls and a lock spins, they can always get there, and those in front of an empty
container then poll on.
-/

namespace TrafficInspector

open Foundation

variable {Object : Type}

namespace QueueAction

/-- The thread goes on by itself: it does not call, and it does not wake up unnotified. -/
def isOwn : QueueAction Object → Bool
  | proceed _ | notify _ _ => true
  | callGet _ | callPut _ _ | wakeUp _ => false

def isWakeUp : QueueAction Object → Bool
  | wakeUp _ => true
  | _ => false

def isCall : QueueAction Object → Bool
  | callGet _ | callPut _ _ => true
  | _ => false

end QueueAction

namespace QueuePosition

/-- How many steps a thread can take until it is outside or has given the lock up, with those
of the sleeper that it may wake. -/
def cost : QueuePosition Object → Nat
  | outside | released => 0
  | getLocking | relocking => 5
  | testing => 4
  | taking => 3
  | popping _ => 2
  | returning _ | leaving => 1
  | putLocking _ => 10
  | pushing _ => 9
  | notifying => 7

theorem cost_le (position : QueuePosition Object) : position.cost ≤ 10 := by
  cases position <;> simp [cost]

theorem Locks.cost {position inside : QueuePosition Object} (locks : position.Locks inside) :
    inside.cost + 1 = position.cost := by
  cases locks <;> rfl

/-- On the way to an object, or to waking somebody for it. -/
def awake : QueuePosition Object → Nat
  | relocking | testing | taking | popping _ | notifying => 1
  | outside | getLocking | released | returning _ | putLocking _ | pushing _ | leaving => 0

def asleep (position : QueuePosition Object) : Nat := position.isReleased.toNat

theorem Locks.onTheWay {position inside : QueuePosition Object}
    (locks : position.Locks inside) :
    inside.asleep ≤ position.asleep ∧ position.awake ≤ inside.awake := by
  cases locks <;> exact ⟨Nat.le_refl 0, by simp [QueuePosition.awake]⟩

/-- In the loop of `wait`. -/
def isPolling : QueuePosition Object → Bool
  | testing | released | relocking => true
  | _ => false

theorem eq_released {position : QueuePosition Object} (released : position.isReleased = true) :
    position = .released := by
  cases position with
  | released => rfl
  | _ => cases released

end QueuePosition

namespace SharedQueue

/-- Every call has returned, but for those of getters that have given the lock up in front of an
empty container. -/
def Settled (queue : SharedQueue Object) : Prop :=
  ∀ (thread : Nat) position, queue.threads[thread]? = some position →
    position = .outside ∨ (position = .released ∧ queue.container = [])

/-- The getters poll on without end: whatever steps the threads take, the container stays empty,
and every one of them is in the loop of `wait` still and can take one more step there. -/
def PollsOn (emptied : Object) (queue : SharedQueue Object) : Prop :=
  ∀ steps later, (∀ action ∈ steps, action.isOwn = true) →
    queue.run .spinLock emptied steps = some later →
      ∀ thread : Nat, queue.threads[thread]? = some .released → later.container = [] ∧
        ∃ position next, later.threads[thread]? = some position ∧ position.isPolling = true ∧
          later.step .spinLock emptied (.proceed thread) = some next

/-- A thread turns in a loop: it spins, or it comes back from `yield()`. -/
def Idles (queue : SharedQueue Object) (action : QueueAction Object) : Prop :=
  ∃ (thread : Nat) (position : QueuePosition Object), action = .proceed thread ∧
    queue.threads[thread]? = some position ∧
      (position = .released ∨ (queue.locked = true ∧ position.holds = false))

variable {policy : LockPolicy} {emptied : Object} {queue next : SharedQueue Object}

/-! ### Every step costs -/

/-- Lower than before, also when what the container holds is counted. -/
def Costs (queue next : SharedQueue Object) : Prop :=
  next.total QueuePosition.cost + 1 ≤ queue.total QueuePosition.cost ∧
    next.total QueuePosition.cost + next.container.length + 1 ≤
      queue.total QueuePosition.cost + queue.container.length

private theorem costs_of_set {thread : Nat} {old new : QueuePosition Object}
    {container : ObjectQueue Object} (here : queue.threads[thread]? = some old)
    (lower : new.cost + 1 ≤ old.cost)
    (covered : new.cost + container.length + 1 ≤ old.cost + queue.container.length)
    (locked : Bool) : queue.Costs ⟨locked, container, queue.threads.set thread new⟩ := by
  have moved := total_set here new QueuePosition.cost
  constructor
  · show listHolds _ (queue.threads.set thread new) + 1 ≤ _
    omega
  · show listHolds _ (queue.threads.set thread new) + container.length + 1 ≤ _
    omega

private theorem costs_of_move {thread : Nat} {old new : QueuePosition Object}
    (here : queue.threads[thread]? = some old) (lower : new.cost + 1 ≤ old.cost)
    (locked : Bool) : queue.Costs ⟨locked, queue.container, queue.threads.set thread new⟩ := by
  refine costs_of_set here lower ?_ locked
  omega

theorem step_costs {action : QueueAction Object} (own : action.isOwn = true)
    (stepped : queue.step policy emptied action = some next) :
    (policy = .spinLock ∧ queue.Idles action) ∨ queue.Costs next := by
  cases turn_of_step stepped with
  | callGet here => cases own
  | callPut here => cases own
  | spin here locks spins held =>
      refine .inl ⟨spins, _, _, rfl, here, .inr ⟨held, ?_⟩⟩
      cases locks <;> rfl
  | lock here locks free =>
      exact .inr (costs_of_move here (Nat.le_of_eq locks.cost) true)
  | release here empty => exact .inr (costs_of_move here (by simp [QueuePosition.cost]) false)
  | find here supplied =>
      exact .inr (costs_of_move here (by simp [QueuePosition.cost]) queue.locked)
  | comeBack here yields => exact .inl ⟨yields, _, _, rfl, here, .inl rfl⟩
  | take here front =>
      refine .inr (costs_of_set here (Nat.le_refl _) ?_ queue.locked)
      rw [front, List.length_cons, List.length_cons]
      simp only [QueuePosition.cost]
      omega
  | pop here front =>
      refine .inr (costs_of_set here (Nat.le_refl _) ?_ queue.locked)
      rw [front, List.length_cons]
      simp only [QueuePosition.cost]
      omega
  | giveBack here => exact .inr (costs_of_move here (Nat.le_refl _) false)
  | push here =>
      refine .inr (costs_of_set here (by simp [QueuePosition.cost]) ?_ queue.locked)
      rw [ObjectQueue.putObject, List.length_append]
      simp only [QueuePosition.cost, List.length_singleton]
      omega
  | notifyNobody here nobody =>
      exact .inr (costs_of_move here (by simp [QueuePosition.cost]) queue.locked)
  | @notifyOne thread sleeper here asleep sleeps =>
      have notified := total_notified here asleep QueuePosition.cost
      simp only [QueuePosition.cost] at notified
      have same : ((queue.moveTo sleeper .relocking).moveTo thread .leaving).container.length =
          queue.container.length := rfl
      exact .inr ⟨by omega, by omega⟩
  | leave here => exact .inr (costs_of_move here (Nat.le_refl _) false)
  | wakeUp here sleeps => cases own

theorem wakeUp_cost {action : QueueAction Object} (wakes : action.isWakeUp = true)
    (stepped : queue.step policy emptied action = some next) :
    next.total QueuePosition.cost = queue.total QueuePosition.cost + 5 := by
  cases turn_of_step stepped with
  | wakeUp here sleeps => exact total_set here .relocking QueuePosition.cost
  | _ => cases wakes

/-! ### No wake-up is lost -/

/-- While somebody sleeps, there are no more objects than threads on their way to one or to
waking somebody for it. -/
def Attended (queue : SharedQueue Object) : Prop :=
  0 < queue.total QueuePosition.asleep →
    queue.container.length ≤ queue.total QueuePosition.awake

private theorem Attended.of_set (attended : queue.Attended) {thread : Nat}
    {old : QueuePosition Object} {container : ObjectQueue Object}
    (here : queue.threads[thread]? = some old) (new : QueuePosition Object)
    (sleeps : new.asleep ≤ old.asleep)
    (covered : container.length + old.awake ≤ queue.container.length + new.awake)
    (locked : Bool) : Attended ⟨locked, container, queue.threads.set thread new⟩ := by
  have moved := total_set here new QueuePosition.asleep
  have exchanged := total_set here new QueuePosition.awake
  intro someone
  have stillSomeone : 0 < listHolds QueuePosition.asleep (queue.threads.set thread new) := someone
  have enough := attended (by omega)
  show container.length ≤ listHolds QueuePosition.awake (queue.threads.set thread new)
  omega

private theorem asleep_eq_zero (nobody : queue.threads.any QueuePosition.isReleased = false) :
    queue.total QueuePosition.asleep = 0 := by
  by_contra someone
  obtain ⟨thread, position, here, sleeps⟩ := listHolds_pos.mp (Nat.pos_of_ne_zero someone)
  have awake := List.any_eq_false.mp nobody position (List.mem_of_getElem? here)
  rw [QueuePosition.asleep, eq_false_of_ne_true awake] at sleeps
  cases sleeps

theorem step_attended {action : QueueAction Object}
    (stepped : queue.step .waitLock emptied action = some next) (attended : queue.Attended) :
    next.Attended := by
  cases turn_of_step stepped with
  | callGet here =>
      exact attended.of_set here .getLocking (Nat.le_refl 0) (Nat.le_refl _) queue.locked
  | @callPut _ obj here =>
      exact attended.of_set here (.putLocking obj) (Nat.le_refl 0) (Nat.le_refl _) queue.locked
  | spin here locks spins held => cases spins
  | @lock _ _ inside here locks free =>
      obtain ⟨sleeps, awake⟩ := locks.onTheWay
      exact attended.of_set here inside sleeps (Nat.add_le_add_left awake _) true
  | release here empty =>
      intro _
      rw [show (queue.unlock _ .released).container = [] from empty]
      exact Nat.zero_le _
  | find here supplied =>
      exact attended.of_set here .taking (Nat.le_refl 0) (Nat.le_refl _) queue.locked
  | comeBack here yields => cases yields
  | @take _ ret rest here front =>
      refine attended.of_set here (.popping ret) (Nat.le_refl 0) ?_ queue.locked
      rw [front]
      exact Nat.le_refl _
  | @pop _ ret _ rest here front =>
      refine attended.of_set here (.returning ret) (Nat.le_refl 0) ?_ queue.locked
      rw [front]
      exact Nat.le_refl _
  | giveBack here => exact attended.of_set here .outside (Nat.le_refl 0) (Nat.le_refl _) false
  | push here =>
      refine attended.of_set here .notifying (Nat.le_refl 0) ?_ queue.locked
      rw [ObjectQueue.putObject, List.length_append]
      exact Nat.le_refl _
  | notifyNobody here nobody =>
      have moved := total_set here .leaving QueuePosition.asleep
      rw [asleep_eq_zero (nobody rfl)] at moved
      intro someone
      exact absurd moved (Nat.ne_of_gt (Nat.add_pos_left someone _))
  | @notifyOne thread sleeper here asleep sleeps =>
      have sleepers := total_notified here asleep QueuePosition.asleep
      have onTheWay := total_notified here asleep QueuePosition.awake
      simp only [QueuePosition.asleep, QueuePosition.isReleased, QueuePosition.awake,
        Bool.toNat_false, Bool.toNat_true] at sleepers onTheWay
      intro someone
      have enough := attended (by omega)
      show queue.container.length ≤ _
      omega
  | leave here => exact attended.of_set here .outside (Nat.le_refl 0) (Nat.le_refl _) false
  | wakeUp here sleeps =>
      refine attended.of_set here .relocking (Nat.zero_le _) ?_ queue.locked
      exact Nat.le_add_right _ _

/-! ### Who can go on -/

/-- Some thread can take a step of its own that gets it further. -/
def GoesOn (policy : LockPolicy) (emptied : Object) (queue : SharedQueue Object) : Prop :=
  ∃ action next, action.isOwn = true ∧ queue.step policy emptied action = some next ∧
    ¬ queue.Idles action

theorem step_proceed {thread : Nat} {position : QueuePosition Object}
    (here : queue.threads[thread]? = some position) :
    queue.step policy emptied (.proceed thread) =
      queue.proceed policy emptied thread position := by
  rw [step, here, Option.bind_some]

private theorem goesOn_of_proceed {thread : Nat} {position : QueuePosition Object}
    (here : queue.threads[thread]? = some position)
    (stepped : queue.proceed policy emptied thread position = some next)
    (notReleased : position.isReleased = false)
    (works : queue.locked = true → position.holds = true) :
    GoesOn policy emptied queue := by
  refine ⟨.proceed thread, next, rfl, (step_proceed here).trans stepped, ?_⟩
  rintro ⟨other, place, same, there, idles⟩
  cases same
  rw [here] at there
  cases there
  rcases idles with released | ⟨locked, outside⟩
  · rw [released] at notReleased
    cases notReleased
  · rw [works locked] at outside
    cases outside

/-- Whether somebody sleeps or not, one of the ways to notify is open. -/
private theorem notifier_goesOn {thread : Nat}
    (here : queue.threads[thread]? = some .notifying) : GoesOn policy emptied queue := by
  have notifies : ∃ woken next, queue.notifyWait policy thread woken = some next := by
    cases policy with
    | spinLock => exact ⟨none, _, rfl⟩
    | waitLock =>
        cases someone : queue.threads.any QueuePosition.isReleased with
        | false =>
            refine ⟨none, queue.moveTo thread .leaving, ?_⟩
            rw [notifyWait, someone]
            rfl
        | true =>
            obtain ⟨position, member, released⟩ := List.any_eq_true.mp someone
            obtain ⟨sleeper, there⟩ := List.mem_iff_getElem?.mp member
            obtain rfl := QueuePosition.eq_released released
            refine ⟨some sleeper, (queue.moveTo sleeper .relocking).moveTo thread .leaving, ?_⟩
            rw [notifyWait, there]
  obtain ⟨woken, next, notified⟩ := notifies
  refine ⟨.notify thread woken, next, rfl, ?_, ?_⟩
  · rw [step, here]
    exact notified
  · rintro ⟨other, place, same, _⟩
    cases same

/-- The thread that holds the lock. -/
private theorem holder_goesOn (guarded : queue.Guarded) {thread : Nat}
    {position : QueuePosition Object} (here : queue.threads[thread]? = some position)
    (holds : position.holds = true) : GoesOn policy emptied queue := by
  have supplied := guarded.lockExcludes.supplied thread position here
  cases position with
  | outside => cases holds
  | getLocking => cases holds
  | released => cases holds
  | relocking => cases holds
  | putLocking obj => cases holds
  | testing =>
      cases content : queue.container with
      | nil =>
          have stepped : queue.proceed policy emptied thread .testing =
              some (queue.unlock thread .released) := by
            rw [proceed, content]
            rfl
          exact goesOn_of_proceed here stepped rfl fun _ => rfl
      | cons obj rest =>
          have stepped : queue.proceed policy emptied thread .testing =
              some (queue.moveTo thread .taking) := by
            rw [proceed, content]
            rfl
          exact goesOn_of_proceed here stepped rfl fun _ => rfl
  | taking =>
      obtain ⟨ret, rest, front⟩ := List.exists_cons_of_ne_nil (supplied Nat.one_pos)
      have stepped : queue.proceed policy emptied thread .taking = some { queue with
          container := emptied :: rest, threads := queue.threads.set thread (.popping ret) } := by
        rw [proceed, front]
      exact goesOn_of_proceed here stepped rfl fun _ => rfl
  | popping ret =>
      obtain ⟨left, rest, front⟩ := List.exists_cons_of_ne_nil (supplied Nat.one_pos)
      have stepped : queue.proceed policy emptied thread (.popping ret) = some { queue with
          container := rest, threads := queue.threads.set thread (.returning ret) } := by
        rw [proceed, front]
      exact goesOn_of_proceed here stepped rfl fun _ => rfl
  | returning ret => exact goesOn_of_proceed here rfl rfl fun _ => rfl
  | pushing obj => exact goesOn_of_proceed here rfl rfl fun _ => rfl
  | leaving => exact goesOn_of_proceed here rfl rfl fun _ => rfl
  | notifying => exact notifier_goesOn here

/-- Either somebody goes on, or nobody is inside or about to take the lock. -/
theorem goesOn_or_rests (policy : LockPolicy) (emptied : Object) (guarded : queue.Guarded) :
    GoesOn policy emptied queue ∨ (queue.locked = false ∧
      ∀ (thread : Nat) position, queue.threads[thread]? = some position →
        position = .outside ∨ position = .released) := by
  cases flag : queue.locked with
  | true =>
      have someone : 0 < queue.total QueuePosition.holdsLock := by
        rw [guarded.exclusive, flag]
        exact Nat.one_pos
      obtain ⟨thread, position, here, inside⟩ := listHolds_pos.mp someone
      refine .inl (holder_goesOn guarded here ?_)
      cases holds : position.holds with
      | true => rfl
      | false =>
          rw [QueuePosition.holdsLock, holds] at inside
          cases inside
  | false =>
      by_cases locks : ∃ (thread : Nat) (position inside : QueuePosition Object),
          queue.threads[thread]? = some position ∧ position.Locks inside
      · obtain ⟨thread, position, inside, here, locks⟩ := locks
        have stepped : queue.proceed policy emptied thread position =
            policy.lock queue thread inside := by
          cases locks <;> rfl
        unfold LockPolicy.lock at stepped
        rw [flag] at stepped
        refine .inl (goesOn_of_proceed here stepped ?_ fun locked => ?_)
        · cases locks <;> rfl
        · rw [flag] at locked
          cases locked
      · refine .inr ⟨rfl, fun thread position here => ?_⟩
        have without := le_total here QueuePosition.holdsLock
        rw [guarded.exclusive, flag] at without
        cases position with
        | outside => exact .inl rfl
        | released => exact .inr rfl
        | getLocking => exact absurd ⟨thread, _, _, here, .getObject⟩ locks
        | relocking => exact absurd ⟨thread, _, _, here, .wait⟩ locks
        | putLocking obj => exact absurd ⟨thread, _, _, here, .putObject obj⟩ locks
        | _ => cases without

theorem Settled.unlocked (settled : queue.Settled) (guarded : queue.Guarded) :
    queue.locked = false := by
  apply eq_false_of_ne_true
  intro locked
  obtain ⟨thread, position, here, holds⟩ := guarded.lockExcludes.flag.mp locked
  rcases settled thread position here with rfl | ⟨rfl, _⟩
  · cases holds
  · cases holds

/-! ### Under a mutex and a condition variable -/

/-- Left to themselves, the threads take so many steps at most, unless sleepers wake up
unnotified, and where they can take no more, every call has returned that could. -/
structure SettlesByItself (emptied : Object) (queue : SharedQueue Object) : Prop where
  bounded : ∀ actions later, (∀ action ∈ actions, action.isCall = false) →
    queue.run .waitLock emptied actions = some later →
      actions.countP QueueAction.isOwn ≤
        10 * queue.threads.length + 5 * actions.countP QueueAction.isWakeUp
  settled : (∀ action, action.isOwn = true → queue.step .waitLock emptied action = none) →
    queue.Settled

private theorem waits_bounded {actions : List (QueueAction Object)} {later : SharedQueue Object}
    (silent : ∀ action ∈ actions, action.isCall = false)
    (ran : queue.run .waitLock emptied actions = some later) :
    actions.countP QueueAction.isOwn ≤
      10 * queue.threads.length + 5 * actions.countP QueueAction.isWakeUp := by
  have kept (queue : SharedQueue Object) (action : QueueAction Object)
      (next : SharedQueue Object) (silent : action.isCall = false)
      (stepped : queue.step .waitLock emptied action = some next) (_ : True) :
      True ∧ next.total QueuePosition.cost + action.isOwn.toNat ≤
        queue.total QueuePosition.cost + 5 * action.isWakeUp.toNat := by
    refine ⟨trivial, ?_⟩
    cases own : action.isOwn with
    | true =>
        rcases step_costs own stepped with ⟨spins, _⟩ | costs
        · cases spins
        · exact Nat.le_add_right_of_le costs.1
    | false =>
        have wakes : action.isWakeUp = true := by
          cases action with
          | wakeUp thread => rfl
          | callGet thread => cases silent
          | callPut thread obj => cases silent
          | proceed thread => cases own
          | notify thread woken => cases own
        rw [wakes]
        exact Nat.le_of_eq (wakeUp_cost wakes stepped)
  have paid := partialRun_balance (fun action : QueueAction Object => action.isCall = false)
    (fun _ => True) (fun queue => queue.total QueuePosition.cost)
    (fun action => action.isOwn.toNat) (fun action => 5 * action.isWakeUp.toNat) kept silent ran
    trivial
  have steps := listHolds_toNat QueueAction.isOwn actions
  have wakeUps := listHolds_toNat QueueAction.isWakeUp actions
  have most := listHolds_le_mul QueuePosition.cost_le queue.threads
  rw [List.sum_map_mul_left] at paid
  unfold listHolds at steps wakeUps
  unfold total at paid
  omega

private theorem settled_of_stuck (guarded : queue.Guarded) (attended : queue.Attended)
    (stuck : ∀ action, action.isOwn = true → queue.step .waitLock emptied action = none) :
    queue.Settled := by
  rcases goesOn_or_rests .waitLock emptied guarded with ⟨action, next, own, stepped, _⟩ | rests
  · rw [stuck action own] at stepped
    cases stepped
  · intro thread position here
    refine (rests.2 thread position here).imp id fun released => ⟨released, ?_⟩
    subst released
    have nobody : queue.total QueuePosition.awake = 0 := by
      by_contra someone
      obtain ⟨other, place, there, awake⟩ := listHolds_pos.mp (Nat.pos_of_ne_zero someone)
      rcases rests.2 other place there with rfl | rfl
      · cases awake
      · cases awake
    have enough := attended (Nat.lt_of_lt_of_le Nat.one_pos (le_total here QueuePosition.asleep))
    rw [nobody] at enough
    exact List.eq_nil_of_length_eq_zero (Nat.le_zero.mp enough)

theorem run_attended {actions : List (QueueAction Object)} {final : SharedQueue Object}
    (ran : queue.run .waitLock emptied actions = some final) (attended : queue.Attended) :
    final.Attended :=
  partialRun_invariant (fun _ => True) Attended
    (fun _ _ _ _ stepped attended => step_attended stepped attended) (fun _ _ => trivial) ran
    attended

/-! ### Under a spin lock -/

/-- A getter that comes back to an object takes it. -/
private theorem comeBack_takes {thread : Nat} {ret : Object} {rest : ObjectQueue Object}
    (here : queue.threads[thread]? = some .released) (free : queue.locked = false)
    (front : queue.container = ret :: rest) :
    queue.run .spinLock emptied (List.replicate 6 (.proceed thread)) =
      some ⟨false, rest, queue.threads.set thread .outside⟩ := by
  have moved (position : QueuePosition Object) :
      (queue.threads.set thread position)[thread]? = some position :=
    List.getElem?_set_self (List.getElem?_eq_some_iff.mp here).1
  obtain ⟨locked, container, positions⟩ := queue
  subst free front
  have comeBack : step .spinLock emptied ⟨false, ret :: rest, positions⟩ (.proceed thread) =
      some ⟨false, ret :: rest, positions.set thread .relocking⟩ := step_proceed here
  have goesOn {locked : Bool} {container : ObjectQueue Object}
      {position : QueuePosition Object} :
      step .spinLock emptied ⟨locked, container, positions.set thread position⟩
          (.proceed thread) =
        proceed .spinLock emptied ⟨locked, container, positions.set thread position⟩ thread
          position := step_proceed (moved position)
  simp only [run, partialRun, List.replicate, List.foldlM_cons, comeBack, goesOn, proceed,
    LockPolicy.lock, moveTo, unlock, List.set_set, List.isEmpty_cons, Bool.false_eq_true,
    if_false, Option.bind_eq_bind, Option.bind_some]
  rfl

/-- Unless all is settled, some steps lower what is left to do. -/
private theorem spins_on (guarded : queue.Guarded) (unsettled : ¬ queue.Settled) :
    ∃ actions next, (∀ action ∈ actions, action.isOwn = true) ∧
      queue.run .spinLock emptied actions = some next ∧
        next.total QueuePosition.cost + next.container.length <
          queue.total QueuePosition.cost + queue.container.length := by
  rcases goesOn_or_rests .spinLock emptied guarded with
    ⟨action, next, own, stepped, notIdle⟩ | ⟨free, rests⟩
  · refine ⟨[action], next, List.forall_mem_singleton.mpr own,
      partialRun_cons.mpr ⟨next, stepped, rfl⟩, ?_⟩
    rcases step_costs own stepped with ⟨_, idles⟩ | costs
    · exact absurd idles notIdle
    · exact costs.2
  · unfold Settled at unsettled
    push Not at unsettled
    obtain ⟨thread, position, here, inCall, supplied⟩ := unsettled
    obtain rfl := (rests thread position here).resolve_left inCall
    obtain ⟨ret, rest, front⟩ := List.exists_cons_of_ne_nil (supplied rfl)
    have moved := total_set here .outside QueuePosition.cost
    refine ⟨_, _, fun action member => ?_, comeBack_takes here free front, ?_⟩
    · rw [List.eq_of_mem_replicate member]
      rfl
    · show listHolds _ (queue.threads.set thread .outside) + rest.length < _
      rw [front, List.length_cons]
      simp only [QueuePosition.cost] at moved
      omega

/-- Nothing has come in and nobody has returned since `queue`, whose getters were released. -/
structure PollsSince (queue later : SharedQueue Object) : Prop where
  empty : later.container = []
  placed : ∀ (thread : Nat) (position : QueuePosition Object),
    later.threads[thread]? = some position →
      position = .outside ∨ (queue.threads[thread]? = some .released ∧ position.isPolling = true)
  inCall : ∀ thread : Nat, queue.threads[thread]? = some .released →
    ∃ position, later.threads[thread]? = some position ∧ position.isPolling = true

private theorem PollsSince.of_set {later : SharedQueue Object} (polls : queue.PollsSince later)
    {thread : Nat} {old new : QueuePosition Object} (here : later.threads[thread]? = some old)
    (inLoop : old.isPolling = true) (stays : new.isPolling = true) (locked : Bool) :
    queue.PollsSince ⟨locked, later.container, later.threads.set thread new⟩ := by
  have inside : thread < later.threads.length := (List.getElem?_eq_some_iff.mp here).1
  refine ⟨polls.empty, fun other position there => ?_, fun other released => ?_⟩
  · by_cases same : thread = other
    · subst same
      rw [List.getElem?_set_self inside] at there
      cases there
      refine .inr ⟨?_, stays⟩
      rcases polls.placed thread old here with rfl | ⟨released, _⟩
      · cases inLoop
      · exact released
    · rw [List.getElem?_set_ne same] at there
      exact polls.placed other position there
  · by_cases same : thread = other
    · subst same
      exact ⟨new, List.getElem?_set_self inside, stays⟩
    · obtain ⟨position, there, polling⟩ := polls.inCall other released
      exact ⟨position, (List.getElem?_set_ne same).trans there, polling⟩

private theorem step_pollsSince {later : SharedQueue Object} {action : QueueAction Object}
    (own : action.isOwn = true) (stepped : later.step .spinLock emptied action = some next)
    (polls : queue.PollsSince later) : queue.PollsSince next := by
  -- a thread that is neither outside nor in the loop of `wait` is not there
  have nowhere {thread : Nat} {position : QueuePosition Object}
      (here : later.threads[thread]? = some position) (inCall : position ≠ .outside)
      (elsewhere : position.isPolling = false) : queue.PollsSince next := by
    rcases polls.placed thread position here with outside | ⟨_, polling⟩
    · exact absurd outside inCall
    · rw [elsewhere] at polling
      cases polling
  cases turn_of_step stepped with
  | callGet here => cases own
  | callPut here => cases own
  | wakeUp here sleeps => cases own
  | spin here locks spins held => exact polls
  | lock here locks free =>
      cases locks with
      | getObject => exact nowhere here nofun rfl
      | wait => exact polls.of_set here rfl rfl true
      | putObject obj => exact nowhere here nofun rfl
  | release here empty => exact polls.of_set here rfl rfl false
  | find here supplied => exact absurd polls.empty supplied
  | comeBack here yields => exact polls.of_set here rfl rfl later.locked
  | take here front => exact nowhere here nofun rfl
  | pop here front => exact nowhere here nofun rfl
  | giveBack here => exact nowhere here nofun rfl
  | push here => exact nowhere here nofun rfl
  | notifyNobody here nobody => exact nowhere here nofun rfl
  | notifyOne here asleep sleeps => exact nowhere here nofun rfl
  | leave here => exact nowhere here nofun rfl

private theorem polling_proceeds {later : SharedQueue Object} {thread : Nat}
    {position : QueuePosition Object} (here : later.threads[thread]? = some position)
    (polling : position.isPolling = true) :
    ∃ next, later.step .spinLock emptied (.proceed thread) = some next := by
  rw [step_proceed here]
  cases position with
  | testing =>
      unfold proceed
      cases later.container.isEmpty <;> exact ⟨_, rfl⟩
  | released => exact ⟨_, rfl⟩
  | relocking =>
      unfold proceed LockPolicy.lock
      cases later.locked <;> exact ⟨_, rfl⟩
  | _ => cases polling

theorem Settled.pollsOn (settled : queue.Settled) : queue.PollsOn emptied := by
  intro steps later own ran thread released
  have atFirst : queue.PollsSince queue := by
    refine ⟨?_, fun other position there => ?_, fun other released => ⟨_, released, rfl⟩⟩
    · rcases settled thread _ released with outside | ⟨_, empty⟩
      · cases outside
      · exact empty
    · rcases settled other position there with outside | ⟨rfl, _⟩
      · exact .inl outside
      · exact .inr ⟨there, rfl⟩
  have polls := partialRun_invariant (fun action : QueueAction Object => action.isOwn = true)
    queue.PollsSince (fun _ _ _ own stepped polls => step_pollsSince own stepped polls) own ran
    atFirst
  obtain ⟨position, here, polling⟩ := polls.inCall thread released
  obtain ⟨next, stepped⟩ := @polling_proceeds _ emptied later thread position here polling
  exact ⟨polls.empty, position, next, here, polling, stepped⟩

end SharedQueue

/-- From every state that threads reach under `WaitLockPolicy`, they settle. -/
theorem waiting_threads_settle (emptied : Object) (container : ObjectQueue Object)
    (threads : Nat) (actions : List (QueueAction Object)) (queue : SharedQueue Object)
    (ran : (SharedQueue.start container threads).run .waitLock emptied actions = some queue) :
    queue.SettlesByItself emptied := by
  have guarded := SharedQueue.run_guarded ran (SharedQueue.start_guarded container threads)
  have attended := SharedQueue.run_attended ran fun someone => by
    have nobody : (SharedQueue.start container threads).total QueuePosition.asleep = 0 :=
      listHolds_replicate QueuePosition.asleep rfl threads
    rw [nobody] at someone
    cases someone
  exact ⟨fun _ _ silent ran => SharedQueue.waits_bounded silent ran,
    SharedQueue.settled_of_stuck guarded attended⟩

/-- A putter inside while a getter sleeps and another waits for the lock. -/
theorem waiting_threads_settle_sleeper :
    (⟨true, [], [.released, .pushing 7, .getLocking]⟩ : SharedQueue Nat).SettlesByItself 0 :=
  waiting_threads_settle 0 [] 3
    [.callGet 0, .proceed 0, .proceed 0, .callPut 1 7, .proceed 1, .callGet 2] _ rfl

/-- From every state that threads reach under `SpinLockPolicy`, they can settle, and the getters
that are left poll on. -/
theorem spinning_threads_settle (emptied : Object) (container : ObjectQueue Object)
    (threads : Nat) (actions : List (QueueAction Object)) (queue : SharedQueue Object)
    (ran : (SharedQueue.start container threads).run .spinLock emptied actions = some queue) :
    ∃ steps final, (∀ action ∈ steps, action.isOwn = true) ∧
      queue.run .spinLock emptied steps = some final ∧ final.Settled ∧ final.locked = false ∧
        final.PollsOn emptied := by
  have goesOn (queue : SharedQueue Object) (guarded : queue.Guarded)
      (unsettled : ¬ queue.Settled) :
      ∃ actions next, (∀ action ∈ actions, action.isOwn = true) ∧
        queue.run .spinLock emptied actions = some next ∧ next.Guarded ∧
          next.total QueuePosition.cost + next.container.length <
            queue.total QueuePosition.cost + queue.container.length := by
    obtain ⟨actions, next, own, ran, lower⟩ := SharedQueue.spins_on guarded unsettled
    exact ⟨actions, next, own, ran, SharedQueue.run_guarded ran guarded, lower⟩
  obtain ⟨steps, final, own, ranOn, guarded, settled⟩ := partialRun_reaches
    (fun action : QueueAction Object => action.isOwn = true) SharedQueue.Guarded
    SharedQueue.Settled _ goesOn
    (SharedQueue.run_guarded ran (SharedQueue.start_guarded container threads))
  exact ⟨steps, final, own, ranOn, settled, settled.unlocked guarded, settled.pollsOn⟩

/-- Two getters poll while a putter is inside, whose object is for one of them. -/
theorem spinning_threads_settle_polling :
    ∃ steps final, (∀ action ∈ steps, action.isOwn = true) ∧
      (⟨true, [], [.relocking, .pushing 7, .released]⟩ : SharedQueue Nat).run .spinLock 0 steps =
          some final ∧
        final.Settled ∧ final.locked = false ∧ final.PollsOn 0 :=
  spinning_threads_settle 0 [] 3
    [.callGet 0, .proceed 0, .proceed 0, .callGet 2, .proceed 2, .proceed 2, .callPut 1 7,
      .proceed 1, .proceed 0, .proceed 0] _ rfl

end TrafficInspector
