import TrafficInspector.Foundation.PartialRun
import TrafficInspector.Utils.ObjectQueue

/-!
Owns `ObjectQueue` as its threads see it: `getObject` and `putObject` step by step under
`WaitLockPolicy` and under `SpinLockPolicy`, with as many threads as there are, which take
their steps in any order. A `wait` gives the lock up while the container is empty; the one
policy then sleeps until it is notified, the other yields and comes back. Taking an object is
two steps, the move and `pop_front`, and only the lock keeps others from coming in between.
-/

namespace TrafficInspector

open Foundation

inductive LockPolicy where
  | waitLock
  | spinLock
deriving DecidableEq, Repr

/-- Where a thread is in the code of the queue. -/
inductive QueuePosition (Object : Type) where
  | outside
  /-- `getObject`, in `LockPolicy::lock()`. -/
  | getLocking
  /-- In `wait`, in front of `pred()`. -/
  | testing
  /-- In `wait`, with the lock given up: asleep in `m_cond`, or in `yield()`. -/
  | released
  /-- In `wait`, about to take the lock back. -/
  | relocking
  /-- Behind `wait`. -/
  | taking
  /-- In front of `pop_front()`. -/
  | popping (ret : Object)
  /-- `return (ret)`, in front of the guard's destructor. -/
  | returning (ret : Object)
  /-- `putObject`, in `LockPolicy::lock()`. -/
  | putLocking (obj : Object)
  | pushing (obj : Object)
  /-- In front of `notifyWait()`. -/
  | notifying
  /-- In front of the guard's destructor. -/
  | leaving
deriving DecidableEq, Repr

def QueuePosition.isReleased {Object : Type} : QueuePosition Object → Bool
  | released => true
  | _ => false

/-- The lock, as `atomic_flag` or as a mutex, the container, and the threads. -/
structure SharedQueue (Object : Type) where
  locked : Bool := false
  container : ObjectQueue Object
  threads : List (QueuePosition Object)

inductive QueueAction (Object : Type) where
  | callGet (thread : Nat)
  | callPut (thread : Nat) (obj : Object)
  /-- The thread's next step, where there is only one. -/
  | proceed (thread : Nat)
  /-- `notifyWait()`, with the sleeper that the condition variable picks. -/
  | notify (thread : Nat) (woken : Option Nat)
  /-- A sleeper wakes up unnotified. -/
  | wakeUp (thread : Nat)
deriving DecidableEq, Repr

variable {Object : Type}

namespace LockPolicy

/-- `lock()` by a thread that is to go on at `next`: a mutex waits while it is locked, and a
`SpinLock` turns its loop once more. -/
def lock (policy : LockPolicy) (queue : SharedQueue Object) (thread : Nat)
    (next : QueuePosition Object) : Option (SharedQueue Object) :=
  if queue.locked then
    match policy with
    | waitLock => none
    | spinLock => some queue
  else
    some { queue with locked := true, threads := queue.threads.set thread next }

end LockPolicy

namespace SharedQueue

def start (container : ObjectQueue Object) (threads : Nat) : SharedQueue Object where
  container := container
  threads := List.replicate threads .outside

def moveTo (queue : SharedQueue Object) (thread : Nat) (next : QueuePosition Object) :
    SharedQueue Object :=
  { queue with threads := queue.threads.set thread next }

/-- The guard is destroyed, or `wait` gives the lock up. -/
def unlock (queue : SharedQueue Object) (thread : Nat) (next : QueuePosition Object) :
    SharedQueue Object :=
  { queue with locked := false, threads := queue.threads.set thread next }

/-- The next step of a thread at the position, where there is only one. A move leaves `emptied`
in the front of the container. -/
def proceed (policy : LockPolicy) (emptied : Object) (queue : SharedQueue Object) (thread : Nat) :
    QueuePosition Object → Option (SharedQueue Object)
  | .getLocking => policy.lock queue thread .testing
  | .testing =>
      if queue.container.isEmpty then some (queue.unlock thread .released)
      else some (queue.moveTo thread .taking)
  | .released =>
      match policy with
      | .waitLock => none
      | .spinLock => some (queue.moveTo thread .relocking)
  | .relocking => policy.lock queue thread .testing
  | .taking =>
      match queue.container with
      | ret :: rest =>
          some { queue with
            container := emptied :: rest, threads := queue.threads.set thread (.popping ret) }
      | [] => none
  | .popping ret =>
      match queue.container with
      | _ :: rest =>
          some { queue with
            container := rest, threads := queue.threads.set thread (.returning ret) }
      | [] => none
  | .returning _ => some (queue.unlock thread .outside)
  | .putLocking obj => policy.lock queue thread (.pushing obj)
  | .pushing obj =>
      some { queue with
        container := ObjectQueue.putObject queue.container obj
        threads := queue.threads.set thread .notifying }
  | .leaving => some (queue.unlock thread .outside)
  | .outside | .notifying => none

/-- `notifyWait()`: `notify_one` wakes a sleeper if there is one, and a `SpinLockPolicy` has
nobody to wake. -/
def notifyWait (policy : LockPolicy) (queue : SharedQueue Object) (thread : Nat)
    (woken : Option Nat) : Option (SharedQueue Object) :=
  match policy, woken with
  | .spinLock, none => some (queue.moveTo thread .leaving)
  | .spinLock, some _ => none
  | .waitLock, some sleeper =>
      match queue.threads[sleeper]? with
      | some .released => some ((queue.moveTo sleeper .relocking).moveTo thread .leaving)
      | _ => none
  | .waitLock, none =>
      if queue.threads.any QueuePosition.isReleased then none
      else some (queue.moveTo thread .leaving)

/-- A call, by a thread that is not in one. -/
def call (queue : SharedQueue Object) (thread : Nat) (first : QueuePosition Object) :
    Option (SharedQueue Object) :=
  match queue.threads[thread]? with
  | some .outside => some (queue.moveTo thread first)
  | _ => none

def step (policy : LockPolicy) (emptied : Object) (queue : SharedQueue Object) :
    QueueAction Object → Option (SharedQueue Object)
  | .callGet thread => queue.call thread .getLocking
  | .callPut thread obj => queue.call thread (.putLocking obj)
  | .proceed thread => queue.threads[thread]?.bind (queue.proceed policy emptied thread)
  | .notify thread woken =>
      match queue.threads[thread]? with
      | some .notifying => queue.notifyWait policy thread woken
      | _ => none
  | .wakeUp thread =>
      match policy, queue.threads[thread]? with
      | .waitLock, some .released => some (queue.moveTo thread .relocking)
      | _, _ => none

def run (policy : LockPolicy) (emptied : Object) (queue : SharedQueue Object)
    (actions : List (QueueAction Object)) : Option (SharedQueue Object) :=
  partialRun (step policy emptied) queue actions

end SharedQueue

/-! ### What each step does -/

/-- In `lock()`, from where a thread goes on at the second position. -/
inductive QueuePosition.Locks : QueuePosition Object → QueuePosition Object → Prop
  | getObject : Locks .getLocking .testing
  | wait : Locks .relocking .testing
  | putObject (obj : Object) : Locks (.putLocking obj) (.pushing obj)

/-- Everything that a step can do. -/
inductive QueueTurn (policy : LockPolicy) (emptied : Object) (queue : SharedQueue Object) :
    QueueAction Object → SharedQueue Object → Prop
  | callGet {thread : Nat} (here : queue.threads[thread]? = some .outside) :
      QueueTurn policy emptied queue (.callGet thread) (queue.moveTo thread .getLocking)
  | callPut {thread : Nat} {obj : Object} (here : queue.threads[thread]? = some .outside) :
      QueueTurn policy emptied queue (.callPut thread obj) (queue.moveTo thread (.putLocking obj))
  | spin {thread : Nat} {position inside : QueuePosition Object}
      (here : queue.threads[thread]? = some position) (locks : position.Locks inside)
      (spins : policy = .spinLock) (held : queue.locked = true) :
      QueueTurn policy emptied queue (.proceed thread) queue
  | lock {thread : Nat} {position inside : QueuePosition Object}
      (here : queue.threads[thread]? = some position) (locks : position.Locks inside)
      (free : queue.locked = false) :
      QueueTurn policy emptied queue (.proceed thread)
        { queue with locked := true, threads := queue.threads.set thread inside }
  | release {thread : Nat} (here : queue.threads[thread]? = some .testing)
      (empty : queue.container = []) :
      QueueTurn policy emptied queue (.proceed thread) (queue.unlock thread .released)
  | find {thread : Nat} (here : queue.threads[thread]? = some .testing)
      (supplied : queue.container ≠ []) :
      QueueTurn policy emptied queue (.proceed thread) (queue.moveTo thread .taking)
  | comeBack {thread : Nat} (here : queue.threads[thread]? = some .released)
      (yields : policy = .spinLock) :
      QueueTurn policy emptied queue (.proceed thread) (queue.moveTo thread .relocking)
  | take {thread : Nat} {ret : Object} {rest : ObjectQueue Object}
      (here : queue.threads[thread]? = some .taking) (front : queue.container = ret :: rest) :
      QueueTurn policy emptied queue (.proceed thread)
        { queue with
          container := emptied :: rest, threads := queue.threads.set thread (.popping ret) }
  | pop {thread : Nat} {ret left : Object} {rest : ObjectQueue Object}
      (here : queue.threads[thread]? = some (.popping ret))
      (front : queue.container = left :: rest) :
      QueueTurn policy emptied queue (.proceed thread)
        { queue with container := rest, threads := queue.threads.set thread (.returning ret) }
  | giveBack {thread : Nat} {ret : Object} (here : queue.threads[thread]? = some (.returning ret)) :
      QueueTurn policy emptied queue (.proceed thread) (queue.unlock thread .outside)
  | push {thread : Nat} {obj : Object} (here : queue.threads[thread]? = some (.pushing obj)) :
      QueueTurn policy emptied queue (.proceed thread)
        { queue with
          container := ObjectQueue.putObject queue.container obj
          threads := queue.threads.set thread .notifying }
  | notifyNobody {thread : Nat} (here : queue.threads[thread]? = some .notifying)
      (nobody : policy = .waitLock → queue.threads.any QueuePosition.isReleased = false) :
      QueueTurn policy emptied queue (.notify thread none) (queue.moveTo thread .leaving)
  | notifyOne {thread sleeper : Nat} (here : queue.threads[thread]? = some .notifying)
      (asleep : queue.threads[sleeper]? = some .released) (sleeps : policy = .waitLock) :
      QueueTurn policy emptied queue (.notify thread (some sleeper))
        ((queue.moveTo sleeper .relocking).moveTo thread .leaving)
  | leave {thread : Nat} (here : queue.threads[thread]? = some .leaving) :
      QueueTurn policy emptied queue (.proceed thread) (queue.unlock thread .outside)
  | wakeUp {thread : Nat} (here : queue.threads[thread]? = some .released)
      (sleeps : policy = .waitLock) :
      QueueTurn policy emptied queue (.wakeUp thread) (queue.moveTo thread .relocking)

namespace SharedQueue

variable {policy : LockPolicy} {emptied : Object} {queue next : SharedQueue Object}

private theorem call_turn {thread : Nat} {first : QueuePosition Object}
    (called : queue.call thread first = some next) :
    queue.threads[thread]? = some .outside ∧ next = queue.moveTo thread first := by
  unfold call at called
  split at called
  · rename_i here
    exact ⟨here, (Option.some.inj called).symm⟩
  · cases called

private theorem lock_turn {thread : Nat} {position inside : QueuePosition Object}
    (here : queue.threads[thread]? = some position) (locks : position.Locks inside)
    (locked : policy.lock queue thread inside = some next) :
    QueueTurn policy emptied queue (.proceed thread) next := by
  unfold LockPolicy.lock at locked
  cases flag : queue.locked with
  | false =>
      rw [flag] at locked
      cases locked
      exact .lock here locks flag
  | true =>
      rw [flag] at locked
      cases policy with
      | waitLock => cases locked
      | spinLock =>
          cases locked
          exact .spin here locks rfl flag

private theorem proceed_turn {thread : Nat} {position : QueuePosition Object}
    (here : queue.threads[thread]? = some position)
    (stepped : queue.proceed policy emptied thread position = some next) :
    QueueTurn policy emptied queue (.proceed thread) next := by
  cases position with
  | outside => cases stepped
  | getLocking => exact lock_turn here .getObject stepped
  | testing =>
      unfold proceed at stepped
      cases content : queue.container with
      | nil =>
          rw [content] at stepped
          cases stepped
          exact .release here content
      | cons obj rest =>
          rw [content] at stepped
          cases stepped
          exact .find here (content ▸ List.cons_ne_nil obj rest)
  | released =>
      cases policy with
      | waitLock => cases stepped
      | spinLock =>
          cases stepped
          exact .comeBack here rfl
  | relocking => exact lock_turn here .wait stepped
  | taking =>
      unfold proceed at stepped
      dsimp only at stepped
      split at stepped
      · rename_i ret rest front
        cases stepped
        exact .take here front
      · cases stepped
  | popping ret =>
      unfold proceed at stepped
      dsimp only at stepped
      split at stepped
      · rename_i left rest front
        cases stepped
        exact .pop here front
      · cases stepped
  | returning ret =>
      cases stepped
      exact .giveBack here
  | putLocking obj => exact lock_turn here (.putObject obj) stepped
  | pushing obj =>
      cases stepped
      exact .push here
  | notifying => cases stepped
  | leaving =>
      cases stepped
      exact .leave here

private theorem notify_turn {thread : Nat} {woken : Option Nat}
    (here : queue.threads[thread]? = some .notifying)
    (notified : queue.notifyWait policy thread woken = some next) :
    QueueTurn policy emptied queue (.notify thread woken) next := by
  cases policy with
  | spinLock =>
      cases woken with
      | none =>
          cases notified
          exact .notifyNobody here LockPolicy.noConfusion
      | some sleeper => cases notified
  | waitLock =>
      unfold notifyWait at notified
      cases woken with
      | none =>
          dsimp only at notified
          split at notified
          · cases notified
          · rename_i nobody
            cases notified
            exact .notifyNobody here fun _ => eq_false_of_ne_true nobody
      | some sleeper =>
          dsimp only at notified
          split at notified
          · rename_i asleep
            cases notified
            exact .notifyOne here asleep rfl
          · cases notified

theorem turn_of_step {action : QueueAction Object}
    (stepped : queue.step policy emptied action = some next) :
    QueueTurn policy emptied queue action next := by
  cases action with
  | callGet thread =>
      obtain ⟨here, rfl⟩ := call_turn stepped
      exact .callGet here
  | callPut thread obj =>
      obtain ⟨here, rfl⟩ := call_turn stepped
      exact .callPut here
  | proceed thread =>
      obtain ⟨position, here, stepped⟩ := Option.bind_eq_some_iff.mp stepped
      exact proceed_turn here stepped
  | notify thread woken =>
      unfold step at stepped
      dsimp only at stepped
      split at stepped
      · rename_i here
        exact notify_turn here stepped
      · cases stepped
  | wakeUp thread =>
      unfold step at stepped
      dsimp only at stepped
      split at stepped
      · rename_i asleep
        cases stepped
        exact .wakeUp asleep rfl
      · cases stepped

end SharedQueue

end TrafficInspector
