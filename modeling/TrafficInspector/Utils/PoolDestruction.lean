import TrafficInspector.Utils.CommonObjectPool

/-!
Owns `~ObjectPool` and what it calls: it clears the container under the pool's lock,
and the deleter of each removed item puts the object back, under the same lock. A
`SpinLock` does not know who holds it.
-/

namespace TrafficInspector

/-- The pool during its destruction, by the one thread that still uses it: the flag of
its `SpinLock`, its container, how often the thread has set out to take the lock while
it held it, and the objects whose items are destroyed. -/
structure LockedPool (Object : Type) where
  locked : Bool := false
  container : ObjectQueue (Option Object)
  heldAttempts : Nat := 0
  destroyed : List Object := []

/-- A loop is still turning after as many turns as it was allowed. -/
inductive StillTurning where
  | spinLock
  | clear
deriving DecidableEq, Repr

/-- What the thread does to the pool, and whether it gets through. -/
abbrev PoolAction (Object Result : Type) := EStateM StillTurning (LockedPool Object) Result

variable {Object : Type}

namespace SpinLock

/-- `locked.test_and_set()`. -/
def testAndSet : PoolAction Object Bool := fun pool =>
  .ok pool.locked { pool with locked := true }

/-- `lock`, allowed so many turns of its loop. -/
def lock : Nat → PoolAction Object Unit
  | 0 => throw .spinLock
  | turns + 1 => do
      if ← testAndSet then
        lock turns

def unlock : PoolAction Object Unit := fun pool => .ok () { pool with locked := false }

end SpinLock

namespace LockedPool

/-- `LockPolicy::lock()`; a held lock is this thread's own. -/
def lock (turns : Nat) : PoolAction Object Unit := do
  modify fun pool =>
    { pool with heldAttempts := pool.heldAttempts + if pool.locked then 1 else 0 }
  SpinLock.lock turns

def putObject (turns : Nat) (obj : Option Object) : PoolAction Object Unit := do
  lock turns
  modify fun pool => { pool with container := ObjectQueue.putObject pool.container obj }
  SpinLock.unlock

def releaseObject (turns : Nat) (objPtr : Object) : PoolAction Object Unit :=
  putObject turns (some objPtr)

/-- `~unique_ptr` of an item. The deleter of an object that the pool made knows its pool. -/
def destroyItem (turns : Nat) : Option Object → PoolAction Object Unit
  | some ptr => do
      releaseObject turns ptr
      modify fun pool => { pool with destroyed := pool.destroyed ++ [ptr] }
  | none => pure ()

/-- `m_container.clear()`: one node after the other, until there is none. -/
def clear : Nat → PoolAction Object Unit
  | 0 => throw .clear
  | turns + 1 => do
      match (← get).container with
      | [] => return
      | item :: rest =>
          modify fun pool => { pool with container := rest }
          destroyItem turns item
          clear turns

/-- `~ObjectPool`, in which every loop is allowed so many turns. -/
def destroy (turns : Nat) : PoolAction Object Unit := do
  lock turns
  clear turns
  SpinLock.unlock

/-- The pool that nobody else uses any more, with the objects that came back. -/
def holding (pooled : List Object) : LockedPool Object where
  container := pooled.map some

end LockedPool

/-- The pool as an action leaves it, whether or not it gets through. -/
def PoolAction.leaves {Result : Type} (action : PoolAction Object Result)
    (pool : LockedPool Object) : LockedPool Object :=
  match action pool with
  | .ok _ after => after
  | .error _ after => after

/-- The destructor gets through, with an empty container and each object destroyed once, and
however far it has got, it has not set out to take the lock it holds. -/
structure DestructionFinishes (pooled : List Object) : Prop where
  finishes : ∃ turns final, LockedPool.destroy turns (LockedPool.holding pooled) = .ok () final ∧
    final.container = [] ∧ final.destroyed.Perm pooled
  neverRelocks : ∀ turns,
    ((LockedPool.destroy turns).leaves (LockedPool.holding pooled)).heldAttempts = 0

theorem PoolAction.bind_of_ok {First Second : Type} {action : PoolAction Object First}
    {next : First → PoolAction Object Second} {pool after : LockedPool Object} {result : First}
    (returned : action pool = .ok result after) : (action >>= next) pool = next result after := by
  show EStateM.bind action next pool = _
  rw [EStateM.bind, returned]

theorem PoolAction.bind_of_error {First Second : Type} {action : PoolAction Object First}
    {next : First → PoolAction Object Second} {pool after : LockedPool Object}
    {turning : StillTurning} (turns : action pool = .error turning after) :
    (action >>= next) pool = .error turning after := by
  show EStateM.bind action next pool = _
  rw [EStateM.bind, turns]

/-! ### The lock -/

namespace SpinLock

theorem lock_free (turns : Nat) (pool : LockedPool Object) (free : pool.locked = false) :
    lock (turns + 1) pool = .ok () { pool with locked := true } := by
  show (if pool.locked = true then lock turns else pure ()) { pool with locked := true } = _
  rw [free]
  rfl

/-- A held lock gives no way out of the loop. -/
theorem lock_held (turns : Nat) (pool : LockedPool Object) (held : pool.locked = true) :
    lock turns pool = .error .spinLock pool := by
  have unchanged : { pool with locked := true } = pool := by rw [← held]
  induction turns with
  | zero => rfl
  | succ turns inductionHypothesis =>
      show (if pool.locked = true then lock turns else pure ()) { pool with locked := true } = _
      rw [held, if_pos rfl, unchanged]
      exact inductionHypothesis

end SpinLock

namespace LockedPool

variable (turns : Nat) (container : ObjectQueue (Option Object)) (attempts : Nat)
  (destroyed : List Object)

theorem lock_free :
    lock (turns + 1) ⟨false, container, attempts, destroyed⟩ =
      .ok () ⟨true, container, attempts, destroyed⟩ :=
  SpinLock.lock_free turns ⟨false, container, attempts, destroyed⟩ rfl

theorem lock_held :
    lock turns ⟨true, container, attempts, destroyed⟩ =
      .error .spinLock ⟨true, container, attempts + 1, destroyed⟩ :=
  SpinLock.lock_held turns ⟨true, container, attempts + 1, destroyed⟩ rfl

/-- Under a free lock an item gives its object back to the pool, as the packets' items do. -/
theorem destroyItem_free (pool : ObjectPool) (released : List ETHPacket) (ptr : ETHPacket) :
    destroyItem (turns + 1) (some ptr) ⟨false, pool, attempts, released⟩ =
      .ok () ⟨false, pool.destroyItem (some ptr), attempts, released ++ [ptr]⟩ := by
  have locked := lock_free turns pool attempts released
  have put : releaseObject (turns + 1) ptr ⟨false, pool, attempts, released⟩ =
      .ok () ⟨false, pool.releaseObject ptr, attempts, released⟩ := by
    exact PoolAction.bind_of_ok locked
  exact PoolAction.bind_of_ok put

/-- Under a held one its deleter does not come back. -/
theorem destroyItem_held (ptr : Object) :
    destroyItem turns (some ptr) ⟨true, container, attempts, destroyed⟩ =
      .error .spinLock ⟨true, container, attempts + 1, destroyed⟩ := by
  have waits := lock_held turns container attempts destroyed
  unfold destroyItem releaseObject putObject
  exact PoolAction.bind_of_error (PoolAction.bind_of_error waits)

theorem clear_nil :
    clear (turns + 1) (⟨true, [], attempts, destroyed⟩ : LockedPool Object) =
      .ok () ⟨true, [], attempts, destroyed⟩ :=
  rfl

theorem clear_cons (ptr : Object) :
    clear (turns + 1) ⟨true, some ptr :: container, attempts, destroyed⟩ =
      .error .spinLock ⟨true, container, attempts + 1, destroyed⟩ := by
  show (destroyItem (turns + 1) (some ptr) >>= fun _ => clear turns)
    ⟨true, container, attempts, destroyed⟩ = _
  exact PoolAction.bind_of_error
    (destroyItem_held (turns + 1) container attempts destroyed ptr)

/-- An empty container is cleared at once. -/
theorem destroy_nil :
    destroy (turns + 1) (holding ([] : List Object)) = .ok () ⟨false, [], 0, []⟩ := by
  have entered := lock_free turns ([] : ObjectQueue (Option Object)) 0 []
  have cleared := clear_nil turns 0 ([] : List Object)
  exact (PoolAction.bind_of_ok entered).trans (PoolAction.bind_of_ok cleared)

/-- The first object that came back is the last that the destructor gets to. -/
theorem destroy_cons (ptr : Object) (pooled : List Object) :
    destroy (turns + 1) (holding (ptr :: pooled)) =
      .error .spinLock ⟨true, pooled.map some, 1, []⟩ := by
  have entered := lock_free turns (some ptr :: pooled.map some) 0 []
  have waits := clear_cons turns (pooled.map some) 0 [] ptr
  exact (PoolAction.bind_of_ok entered).trans (PoolAction.bind_of_error waits)

end LockedPool

/-- The destructor finishes exactly if no object came back. -/
theorem destructionFinishes_iff (pooled : List Object) :
    DestructionFinishes pooled ↔ pooled = [] := by
  cases pooled with
  | nil =>
      refine iff_of_true ⟨⟨1, _, LockedPool.destroy_nil 0, rfl, List.Perm.refl _⟩, ?_⟩ rfl
      intro turns
      cases turns with
      | zero => rfl
      | succ turns =>
          rw [PoolAction.leaves, LockedPool.destroy_nil]
  | cons ptr pooled =>
      refine iff_of_false ?_ (List.cons_ne_nil ptr pooled)
      intro finishes
      have relocks := finishes.neverRelocks 1
      rw [PoolAction.leaves, LockedPool.destroy_cons] at relocks
      cases relocks

/-- A pool of one packet, which is back. -/
theorem single_packet_pool_not_destroyed :
    ¬ DestructionFinishes [ETHPacket.create 0 fun _ => 0] := by
  intro finishes
  obtain ⟨turns, final, through, _⟩ := finishes.finishes
  cases turns with
  | zero => cases through
  | succ turns =>
      rw [LockedPool.destroy_cons] at through
      cases through

end TrafficInspector
