import TrafficInspector.Foundation.Holdings
import TrafficInspector.Utils.LockPolicies

/-!
Owns mutual exclusion in `ObjectQueue`: at most one thread is between `lock()` and the
guard's destructor, so that the object which `pred()` has found is still in front when it is
moved out and when `pop_front` removes what the move left.
-/

namespace TrafficInspector

open Foundation

variable {Object : Type}

namespace QueuePosition

/-- Behind `lock()` and in front of the guard's destructor or of `wait`'s unlocking. -/
def holds : QueuePosition Object → Bool
  | testing | taking | popping _ | returning _ | pushing _ | notifying | leaving => true
  | outside | getLocking | released | relocking | putLocking _ => false

def holdsLock (position : QueuePosition Object) : Nat := position.holds.toNat

/-- Between `pred()`, which has found an object, and `pop_front()`. -/
def needsFront : QueuePosition Object → Nat
  | taking | popping _ => 1
  | _ => 0

/-- In front of `pred()`. -/
def tests : QueuePosition Object → Nat
  | testing => 1
  | _ => 0

theorem needsFront_add_tests_le (position : QueuePosition Object) :
    position.needsFront + position.tests ≤ position.holdsLock := by
  cases position <;> simp [needsFront, tests, holdsLock, holds]

theorem Locks.holdsLock {position inside : QueuePosition Object} (locks : position.Locks inside) :
    position.holdsLock = 0 ∧ inside.holdsLock = 1 ∧
      inside.needsFront = position.needsFront := by
  cases locks <;> exact ⟨rfl, rfl, rfl⟩

end QueuePosition

namespace SharedQueue

def total (queue : SharedQueue Object) (count : QueuePosition Object → Nat) : Nat :=
  listHolds count queue.threads

/-- One thread at most holds the lock, and one that is to take an object has one to take. -/
structure Guarded (queue : SharedQueue Object) : Prop where
  exclusive : queue.total QueuePosition.holdsLock = queue.locked.toNat
  supplied : queue.total QueuePosition.needsFront ≤ queue.container.length

variable {policy : LockPolicy} {emptied : Object} {queue next : SharedQueue Object}

theorem total_set {thread : Nat} {old : QueuePosition Object}
    (here : queue.threads[thread]? = some old) (new : QueuePosition Object)
    (count : QueuePosition Object → Nat) :
    listHolds count (queue.threads.set thread new) + count old = queue.total count + count new :=
  listHolds_set count here new

theorem le_total {thread : Nat} {position : QueuePosition Object}
    (here : queue.threads[thread]? = some position) (count : QueuePosition Object → Nat) :
    count position ≤ queue.total count :=
  le_listHolds here

/-- One thread moves on, where the lock and the container change as its position asks. -/
private theorem Guarded.of_set (guarded : queue.Guarded) {thread : Nat}
    {old new : QueuePosition Object} {locked : Bool} {container : ObjectQueue Object}
    (here : queue.threads[thread]? = some old)
    (flag : queue.locked.toNat + new.holdsLock = locked.toNat + old.holdsLock)
    (front : queue.total QueuePosition.needsFront + new.needsFront ≤
      container.length + old.needsFront) :
    Guarded ⟨locked, container, queue.threads.set thread new⟩ := by
  have holds := total_set here new QueuePosition.holdsLock
  have needs := total_set here new QueuePosition.needsFront
  have exclusive := guarded.exclusive
  constructor
  · show listHolds _ (queue.threads.set thread new) = locked.toNat
    omega
  · show listHolds _ (queue.threads.set thread new) ≤ container.length
    omega

/-- Who gives the lock back has it. -/
private theorem Guarded.flag (guarded : queue.Guarded) {thread : Nat}
    {position new : QueuePosition Object} (here : queue.threads[thread]? = some position)
    (holds : position.holdsLock = 1 + new.holdsLock) :
    queue.locked.toNat + new.holdsLock = false.toNat + position.holdsLock := by
  have held := le_total here QueuePosition.holdsLock
  have flag := queue.locked.toNat_le
  rw [guarded.exclusive] at held
  rw [Bool.toNat_false]
  omega

/-- A thread that tests is the one that holds the lock, and no other needs an object. -/
private theorem Guarded.needsFront_of_testing (guarded : queue.Guarded) {thread : Nat}
    (here : queue.threads[thread]? = some .testing) :
    queue.total QueuePosition.needsFront = 0 := by
  have one : 1 ≤ queue.total QueuePosition.tests := le_total here QueuePosition.tests
  have both : listHolds (fun position => position.needsFront + position.tests) queue.threads ≤
      queue.total QueuePosition.holdsLock :=
    listHolds_mono QueuePosition.needsFront_add_tests_le
  rw [listHolds_add, guarded.exclusive] at both
  have flag := queue.locked.toNat_le
  unfold total at one ⊢
  omega

/-- The sleeper that is woken is not the thread that wakes it. -/
theorem notifier_kept {thread sleeper : Nat} (here : queue.threads[thread]? = some .notifying)
    (asleep : queue.threads[sleeper]? = some .released) :
    (queue.moveTo sleeper .relocking).threads[thread]? = some .notifying := by
  have apart : sleeper ≠ thread := by
    rintro rfl
    rw [here] at asleep
    cases asleep
  exact (List.getElem?_set_ne apart).trans here

theorem total_notified {thread sleeper : Nat} (here : queue.threads[thread]? = some .notifying)
    (asleep : queue.threads[sleeper]? = some .released) (count : QueuePosition Object → Nat) :
    ((queue.moveTo sleeper .relocking).moveTo thread .leaving).total count +
        (count .notifying + count .released) =
      queue.total count + (count .relocking + count .leaving) := by
  have woken : (queue.moveTo sleeper .relocking).total count + count .released =
      queue.total count + count .relocking := total_set asleep .relocking count
  have notified : ((queue.moveTo sleeper .relocking).moveTo thread .leaving).total count +
      count .notifying = (queue.moveTo sleeper .relocking).total count + count .leaving :=
    total_set (notifier_kept here asleep) .leaving count
  omega

theorem step_guarded {action : QueueAction Object}
    (stepped : queue.step policy emptied action = some next) (guarded : queue.Guarded) :
    next.Guarded := by
  have supplied := guarded.supplied
  cases turn_of_step stepped with
  | callGet here => exact guarded.of_set here rfl supplied
  | callPut here => exact guarded.of_set here rfl supplied
  | spin here locks spins held => exact guarded
  | lock here locks free =>
      obtain ⟨without, within, same⟩ := locks.holdsLock
      refine guarded.of_set here ?_ (same ▸ Nat.add_le_add_right supplied _)
      rw [free, without, within]
      rfl
  | release here empty => exact guarded.of_set here (guarded.flag here rfl) supplied
  | find here found =>
      refine guarded.of_set here rfl ?_
      rw [guarded.needsFront_of_testing here]
      exact List.length_pos_iff.mpr found
  | comeBack here yields => exact guarded.of_set here rfl supplied
  | take here front =>
      refine guarded.of_set here rfl (Nat.add_le_add_right ?_ 1)
      rw [front] at supplied
      exact supplied
  | pop here front =>
      refine guarded.of_set here rfl ?_
      rw [front] at supplied
      exact supplied
  | giveBack here => exact guarded.of_set here (guarded.flag here rfl) supplied
  | push here =>
      refine guarded.of_set here rfl ?_
      rw [ObjectQueue.putObject, List.length_append]
      exact Nat.le_trans supplied (Nat.le_add_right _ 1)
  | notifyNobody here nobody => exact guarded.of_set here rfl supplied
  | notifyOne here asleep sleeps =>
      have woken : (queue.moveTo _ .relocking).Guarded := guarded.of_set asleep rfl supplied
      exact woken.of_set (notifier_kept here asleep) rfl woken.supplied
  | leave here => exact guarded.of_set here (guarded.flag here rfl) supplied
  | wakeUp here sleeps => exact guarded.of_set here rfl supplied

theorem run_guarded {actions : List (QueueAction Object)} {final : SharedQueue Object}
    (ran : queue.run policy emptied actions = some final) (guarded : queue.Guarded) :
    final.Guarded :=
  partialRun_invariant (fun _ => True) Guarded
    (fun _ _ _ _ stepped guarded => step_guarded stepped guarded) (fun _ _ => trivial) ran guarded

theorem start_guarded (container : ObjectQueue Object) (threads : Nat) :
    (start container threads).Guarded := by
  have outside (count : QueuePosition Object → Nat) (nothing : count .outside = 0) :
      (start container threads).total count = 0 :=
    listHolds_replicate count nothing threads
  constructor
  · exact outside QueuePosition.holdsLock rfl
  · rw [outside QueuePosition.needsFront rfl]
    exact Nat.zero_le _

/-- The lock is taken exactly while a thread is inside, which is then the only one, and whoever
takes from the front of the container finds it filled. -/
structure LockExcludes (queue : SharedQueue Object) : Prop where
  excludes : ∀ (first second : Nat) position position', queue.threads[first]? = some position →
    queue.threads[second]? = some position' → position.holds = true → position'.holds = true →
      first = second
  flag : queue.locked = true ↔
    ∃ (thread : Nat) (position : QueuePosition Object),
      queue.threads[thread]? = some position ∧ position.holds = true
  supplied : ∀ (thread : Nat) position, queue.threads[thread]? = some position →
    0 < position.needsFront → queue.container ≠ []

theorem Guarded.lockExcludes (guarded : queue.Guarded) : queue.LockExcludes := by
  refine ⟨fun first second position position' here there holds holds' => ?_, ?_,
    fun thread position here needs => ?_⟩
  · by_contra apart
    have both : position.holdsLock + position'.holdsLock ≤ queue.total QueuePosition.holdsLock :=
      add_le_listHolds apart here there
    rw [guarded.exclusive, QueuePosition.holdsLock, QueuePosition.holdsLock, holds, holds'] at both
    exact Nat.not_lt_of_le queue.locked.toNat_le both
  · have someone : 0 < queue.locked.toNat ↔ ∃ (thread : Nat) (position : QueuePosition Object),
        queue.threads[thread]? = some position ∧ 0 < position.holdsLock := by
      rw [← guarded.exclusive]
      exact listHolds_pos
    have raised (flag : Bool) : 0 < flag.toNat ↔ flag = true := by cases flag <;> decide
    simpa only [QueuePosition.holdsLock, raised] using someone
  · have needed := Nat.lt_of_lt_of_le needs (le_total here QueuePosition.needsFront)
    exact List.length_pos_iff.mp (Nat.lt_of_lt_of_le needed guarded.supplied)

end SharedQueue

/-- Mutual exclusion, under either policy, whatever the threads call and in whatever order they
take their steps. -/
theorem lock_excludes (policy : LockPolicy) (emptied : Object) (container : ObjectQueue Object)
    (threads : Nat) (actions : List (QueueAction Object)) (final : SharedQueue Object)
    (ran : (SharedQueue.start container threads).run policy emptied actions = some final) :
    final.LockExcludes :=
  (SharedQueue.run_guarded ran (SharedQueue.start_guarded container threads)).lockExcludes

/-- A getter that has given the lock up, and a putter inside. -/
theorem lock_excludes_sleeper :
    (⟨true, [], [.released, .pushing 7]⟩ : SharedQueue Nat).LockExcludes :=
  lock_excludes .waitLock 0 [] 2
    [.callGet 0, .proceed 0, .proceed 0, .callPut 1 7, .proceed 1] _ rfl

end TrafficInspector
