import TrafficInspector.Foundation.Holdings
import TrafficInspector.Foundation.PartialRun
import TrafficInspector.Packets.RawPacket

/-!
Owns who frees the buffer of an `ETHPacket`. The constructor allocates it, the two moves hand it
on, and the destructor frees it, in whatever order objects are made, moved and destroyed. No
buffer is freed twice or while another object has it; the move assignment, which frees nothing,
loses the buffer that its target had.
-/

namespace TrafficInspector

open Foundation

/-- The members that `ETHPacket`'s lifetime functions name; a null pointer is `none`. -/
structure BufferHolder where
  data : Option Nat
  ethHeader : Option Nat
  size : SizeT
  timeStamp : SizeT

namespace BufferHolder

/-- `ETHPacket()`, with what `calloc` returns. -/
def create (buffer : Option Nat) : BufferHolder where
  data := buffer
  ethHeader := buffer
  size := 0
  timeStamp := 0

/-- What both moves leave of their source. -/
def movedFrom : BufferHolder where
  data := none
  ethHeader := none
  size := 0
  timeStamp := 0

/-- The buffer that the destructor would free. -/
def buffer (holder : BufferHolder) : Multiset Nat :=
  match holder.data with
  | some address => {address}
  | none => 0

end BufferHolder

/-- The objects by their numbers, `none` once destroyed; what `calloc` has returned and `free` not
yet taken; and whether `free` was ever given anything else. -/
structure EthernetHeap where
  objects : List (Option BufferHolder) := []
  allocated : Multiset Nat := 0
  badFree : Bool := false

inductive LifetimeAction where
  /-- `ETHPacket()`, with what `calloc` returns. -/
  | construct (buffer : Option Nat)
  /-- `ETHPacket(std::move(orig))`. -/
  | moveConstruct (orig : Nat)
  /-- `object = std::move(src)`; the two may be the same. -/
  | assign (object src : Nat)
  /-- `~ETHPacket()`. -/
  | destroy (object : Nat)

namespace EthernetHeap

/-- `free(ptr)`. -/
def free (heap : EthernetHeap) : Option Nat → EthernetHeap
  | some address =>
      if address ∈ heap.allocated then
        { heap with allocated := heap.allocated.erase address }
      else
        { heap with badFree := true }
  | none => heap

/-- The object with this number, while it lives. -/
def object (heap : EthernetHeap) (number : Nat) : Option BufferHolder :=
  heap.objects[number]?.join

/-- `calloc` returns nothing that is still allocated. -/
def construct (heap : EthernetHeap) (buffer : Option Nat) : Option EthernetHeap :=
  match buffer with
  | some address =>
      if address ∈ heap.allocated then none
      else some { heap with
        objects := heap.objects ++ [some (.create (some address))]
        allocated := address ::ₘ heap.allocated }
  | none => some { heap with objects := heap.objects ++ [some (.create none)] }

def moveConstruct (heap : EthernetHeap) (orig : Nat) : Option EthernetHeap :=
  (heap.object orig).map fun holder =>
    { heap with objects := heap.objects.set orig (some .movedFrom) ++ [some holder] }

/-- The members are taken over first, and those of `src` set to null then. -/
def assign (heap : EthernetHeap) (object src : Nat) : Option EthernetHeap :=
  match heap.object object, heap.object src with
  | some _, some holder =>
      some { heap with
        objects := (heap.objects.set object (some holder)).set src (some .movedFrom) }
  | _, _ => none

def destroy (heap : EthernetHeap) (object : Nat) : Option EthernetHeap :=
  (heap.object object).map fun holder =>
    { heap.free holder.data with objects := heap.objects.set object none }

/-- One of the four, where the objects it names are there. -/
def step (heap : EthernetHeap) : LifetimeAction → Option EthernetHeap
  | .construct buffer => heap.construct buffer
  | .moveConstruct orig => heap.moveConstruct orig
  | .assign object src => heap.assign object src
  | .destroy object => heap.destroy object

/-- The buffer an assignment takes from its target without freeing it. -/
def lost (heap : EthernetHeap) : LifetimeAction → List Nat
  | .assign object _ => ((heap.object object).bind BufferHolder.data).toList
  | .construct _ | .moveConstruct _ | .destroy _ => []

/-! ### What each step does -/

/-- What the living objects would free. -/
def owned (heap : EthernetHeap) : Multiset Nat :=
  listHolds (fun object => (object.map BufferHolder.buffer).getD 0) heap.objects

variable {heap next : EthernetHeap} {number : Nat} {holder : BufferHolder}

private theorem objects_of_object (lives : heap.object number = some holder) :
    heap.objects[number]? = some (some holder) :=
  Option.join_eq_some_iff.mp lives

/-- An object in the place of another changes what is owned by the two. -/
private theorem owned_set (lives : heap.object number = some holder)
    (object : Option BufferHolder) :
    listHolds (fun object => (object.map BufferHolder.buffer).getD 0)
        (heap.objects.set number object) + holder.buffer =
      heap.owned + (object.map BufferHolder.buffer).getD 0 :=
  listHolds_set _ (objects_of_object lives) object

theorem lost_eq (lives : heap.object number = some holder) (src : Nat) :
    (heap.lost (.assign number src) : Multiset Nat) = holder.buffer := by
  rw [lost, lives]
  show ((Option.bind (some holder) BufferHolder.data).toList : Multiset Nat) = holder.buffer
  rw [Option.bind_some, BufferHolder.buffer]
  cases holder.data <;> rfl

private theorem assign_owned {object src : Nat}
    (stepped : heap.assign object src = some next) :
    next.owned + (heap.lost (.assign object src) : Multiset Nat) = heap.owned ∧
      next.allocated = heap.allocated ∧ next.badFree = heap.badFree := by
  unfold assign at stepped
  split at stepped
  · rename_i target holder targetLives srcLives
    cases stepped
    refine ⟨?_, rfl, rfl⟩
    rw [lost_eq targetLives]
    let between : EthernetHeap :=
      { heap with objects := heap.objects.set object (some holder) }
    have first := owned_set targetLives (some holder)
    have srcThere : between.object src = some holder := by
      show (heap.objects.set object (some holder))[src]?.join = some holder
      by_cases same : object = src
      · subst same
        have inObjects := (List.getElem?_eq_some_iff.mp (objects_of_object targetLives)).1
        rw [List.getElem?_set_self inObjects]
        rfl
      · rw [List.getElem?_set_ne same]
        exact srcLives
    have second := owned_set srcThere (some .movedFrom)
    have nothing : (Option.map BufferHolder.buffer (some .movedFrom)).getD 0 = 0 := rfl
    have taken : (Option.map BufferHolder.buffer (some holder)).getD 0 = holder.buffer := rfl
    rw [nothing, add_zero] at second
    rw [taken] at first
    apply add_right_cancel (b := holder.buffer)
    calc _ = (_ + holder.buffer) + target.buffer := add_right_comm _ _ _
      _ = between.owned + target.buffer := congrArg (· + target.buffer) second
      _ = _ := first
  · cases stepped

/-- The headers go with the buffers. -/
def HeadersAgree (heap : EthernetHeap) : Prop :=
  ∀ holder, some holder ∈ heap.objects → holder.ethHeader = holder.data

/-- Every buffer that is allocated is owned by one living object, or lost. -/
structure Ledger (lost : List Nat) (heap : EthernetHeap) : Prop where
  balanced : heap.allocated = heap.owned + (lost : Multiset Nat)
  once : heap.allocated.Nodup
  noBadFree : heap.badFree = false
  headers : heap.HeadersAgree

variable {lost : List Nat}

private theorem owned_append (objects : List (Option BufferHolder)) (object : Option BufferHolder) :
    listHolds (fun object => (object.map BufferHolder.buffer).getD 0) (objects ++ [object]) =
      listHolds (fun object => (object.map BufferHolder.buffer).getD 0) objects +
        (object.map BufferHolder.buffer).getD 0 := by
  rw [listHolds_append, listHolds_cons, listHolds_nil, add_zero]

private theorem Ledger.construct (ledger : heap.Ledger lost) {buffer : Option Nat}
    (stepped : heap.construct buffer = some next) : next.Ledger lost := by
  have headers (buffer : Option Nat) : ∀ holder, some holder ∈
      heap.objects ++ [some (.create buffer)] → holder.ethHeader = holder.data := by
    intro holder member
    rcases List.mem_append.mp member with before | last
    · exact ledger.headers holder before
    · rw [Option.some.inj (List.mem_singleton.mp last)]
      rfl
  unfold EthernetHeap.construct at stepped
  split at stepped
  · rename_i address
    split at stepped
    · cases stepped
    · rename_i isNew
      cases stepped
      refine ⟨?_, Multiset.nodup_cons.mpr ⟨isNew, ledger.once⟩, ledger.noBadFree, headers _⟩
      show address ::ₘ heap.allocated = listHolds _ (heap.objects ++ [_]) + (lost : Multiset Nat)
      rw [owned_append, ledger.balanced, ← Multiset.singleton_add]
      show {address} + (heap.owned + (lost : Multiset Nat)) = heap.owned + {address} + _
      abel
  · cases stepped
    refine ⟨?_, ledger.once, ledger.noBadFree, headers _⟩
    show heap.allocated = listHolds _ (heap.objects ++ [_]) + (lost : Multiset Nat)
    rw [owned_append, ledger.balanced]
    exact congrArg (· + (lost : Multiset Nat)) (add_zero heap.owned).symm

private theorem headers_set (agree : heap.HeadersAgree) (number : Nat) {object : BufferHolder}
    (own : object.ethHeader = object.data) :
    ∀ holder, some holder ∈ heap.objects.set number (some object) →
      holder.ethHeader = holder.data := by
  intro holder member
  rcases List.mem_or_eq_of_mem_set member with before | same
  · exact agree holder before
  · rw [Option.some.inj same]
    exact own

private theorem Ledger.moveConstruct (ledger : heap.Ledger lost) {orig : Nat}
    (stepped : heap.moveConstruct orig = some next) : next.Ledger lost := by
  obtain ⟨holder, lives, rfl⟩ := Option.map_eq_some_iff.mp stepped
  have emptied := owned_set lives (some .movedFrom)
  have nothing : (Option.map BufferHolder.buffer (some .movedFrom)).getD 0 = 0 := rfl
  rw [nothing, add_zero] at emptied
  refine ⟨?_, ledger.once, ledger.noBadFree, fun other member => ?_⟩
  · show heap.allocated = listHolds _ (heap.objects.set orig (some .movedFrom) ++ [some holder]) +
      (lost : Multiset Nat)
    rw [owned_append, ledger.balanced, ← emptied]
    rfl
  · rcases List.mem_append.mp member with before | last
    · exact headers_set ledger.headers orig rfl other before
    · rw [Option.some.inj (List.mem_singleton.mp last)]
      exact ledger.headers holder (List.mem_of_getElem? (objects_of_object lives))

private theorem Ledger.assign (ledger : heap.Ledger lost) {object src : Nat}
    (stepped : heap.assign object src = some next) :
    next.Ledger (lost ++ heap.lost (.assign object src)) := by
  obtain ⟨owned, allocated, badFree⟩ := assign_owned stepped
  refine ⟨?_, allocated ▸ ledger.once, badFree.trans ledger.noBadFree, ?_⟩
  · rw [allocated, ledger.balanced, ← owned, ← Multiset.coe_add]
    abel
  · unfold EthernetHeap.assign at stepped
    split at stepped
    · rename_i target holder _ srcLives
      cases stepped
      have agree := ledger.headers holder (List.mem_of_getElem? (objects_of_object srcLives))
      let between : EthernetHeap :=
        { heap with objects := heap.objects.set object (some holder) }
      have kept : between.HeadersAgree := headers_set ledger.headers object agree
      exact headers_set kept src rfl
    · cases stepped

private theorem Ledger.destroy (ledger : heap.Ledger lost) {object : Nat}
    (stepped : heap.destroy object = some next) : next.Ledger lost := by
  obtain ⟨holder, lives, rfl⟩ := Option.map_eq_some_iff.mp stepped
  have emptied := owned_set lives none
  have nothing : (Option.map BufferHolder.buffer none).getD 0 = 0 := rfl
  rw [nothing, add_zero] at emptied
  have headers : ∀ other, some other ∈ heap.objects.set object none →
      other.ethHeader = other.data := by
    intro other member
    rcases List.mem_or_eq_of_mem_set member with before | same
    · exact ledger.headers other before
    · cases same
  have balanced := ledger.balanced
  rw [← emptied] at balanced
  cases data : holder.data with
  | none =>
      have empty : holder.buffer = 0 := by rw [BufferHolder.buffer, data]
      rw [empty, add_zero] at balanced
      exact ⟨balanced, ledger.once, ledger.noBadFree, headers⟩
  | some address =>
      have single : holder.buffer = {address} := by rw [BufferHolder.buffer, data]
      rw [single] at balanced
      have isAllocated : address ∈ heap.allocated := by
        rw [balanced]
        simp
      have freed : heap.free (some address) =
          { heap with allocated := heap.allocated.erase address } := if_pos isAllocated
      rw [freed]
      refine ⟨?_, ledger.once.erase address, ledger.noBadFree, headers⟩
      show heap.allocated.erase address =
        listHolds _ (heap.objects.set object none) + (lost : Multiset Nat)
      rw [balanced, add_right_comm, add_comm _ ({address} : Multiset Nat), Multiset.singleton_add,
        Multiset.erase_cons_head]

theorem Ledger.step (ledger : heap.Ledger lost) {action : LifetimeAction}
    (stepped : heap.step action = some next) : next.Ledger (lost ++ heap.lost action) := by
  cases action with
  | construct buffer => exact (List.append_nil lost).symm ▸ ledger.construct stepped
  | moveConstruct orig => exact (List.append_nil lost).symm ▸ ledger.moveConstruct stepped
  | assign object src => exact ledger.assign stepped
  | destroy object => exact (List.append_nil lost).symm ▸ ledger.destroy stepped

end EthernetHeap

/-- Whatever `ETHPacket`s are made, moved and destroyed, nothing is freed that is not allocated;
and each buffer that is still allocated has one living object to free it, but for those that an
assignment has taken from its target, which nobody frees any more. -/
theorem eth_buffers_have_one_owner (actions : List LifetimeAction) (heap : EthernetHeap)
    (ran : partialRun EthernetHeap.step {} actions = some heap) :
    heap.Ledger (partialTrace EthernetHeap.lost EthernetHeap.step {} actions) := by
  have start : EthernetHeap.Ledger [] {} :=
    ⟨rfl, Multiset.nodup_zero, rfl, fun _ member => absurd member List.not_mem_nil⟩
  exact partialTrace_invariant (fun lost heap => heap.Ledger lost)
    (fun _ _ _ _ stepped ledger => ledger.step stepped) ran start

/-- An object is assigned to another, and both are destroyed; the first one's buffer stays. -/
theorem eth_buffers_have_one_owner_assigned :
    ∃ heap, partialRun EthernetHeap.step {}
        [.construct (some 4096), .construct (some 8192), .assign 0 1, .destroy 0, .destroy 1] =
          some heap ∧ heap.allocated = {4096} ∧ heap.Ledger [4096] :=
  ⟨_, rfl, by decide, eth_buffers_have_one_owner
    [.construct (some 4096), .construct (some 8192), .assign 0 1, .destroy 0, .destroy 1] _ rfl⟩

end TrafficInspector
