import Mathlib.Data.List.Forall2
import TrafficInspector.Dispatcher.IDispatcher
import TrafficInspector.PacketProcessor

/-!
Owns the broadcast of control messages: down the dispatcher tree, which holds the
processors in its leaves, and through `PacketRouter::route(ControlMessageId)`,
which holds them in a row.
-/

namespace TrafficInspector

open Foundation

/-! ### Through any leaves -/

section

variable {Class Leaf : Type} (onDispatchBroadcastImpl : Leaf → ControlMessageId → Bool × Leaf)

/-- The terminator's `dispatchServiceMessage`; its `bool` is returned as `size_t`. -/
def dispatchServiceMessage (leaf : Leaf) (inst : ControlMessageId) : Nat × Leaf :=
  let (answer, leaf) := onDispatchBroadcastImpl leaf inst
  (answer.toNat, leaf)

mutual

/-- `dispatchBroadcast(inst)`, with the tree as it leaves it. Forwarding moves `inst`, which
for an enumeration leaves it as it is. -/
def dispatchBroadcast : IDispatcher Class Leaf → ControlMessageId → Nat × IDispatcher Class Leaf
  | .leaf leaf, inst =>
      let (answer, leaf) := dispatchServiceMessage onDispatchBroadcastImpl leaf inst
      (answer, .leaf leaf)
  | .node type2Dispatcher dispatchers, inst =>
      let (dispatchingResult, dispatchers) := broadcastResult dispatchers inst
      (dispatchingResult.length, .node type2Dispatcher dispatchers)

/-- The array `dispatchingResult`, one answer for each dispatcher. -/
def broadcastResult : SpecificDispatchers Class Leaf → ControlMessageId →
    List Bool × SpecificDispatchers Class Leaf
  | .last x, inst =>
      let (answer, x) := dispatchBroadcast x inst
      ([answer != 0], .last x)
  | .more x rest, inst =>
      let (answer, x) := dispatchBroadcast x inst
      let (answers, rest) := broadcastResult rest inst
      ((answer != 0) :: answers, .more x rest)

end

/-- `PacketRouter::route(ControlMessageId)`, with the processors as it leaves them. -/
def routeControlMessage : List Leaf → ControlMessageId → List Leaf
  | [], _ => []
  | x :: rest, packet =>
      (dispatchServiceMessage onDispatchBroadcastImpl x packet).2 ::
        routeControlMessage rest packet

/-- What one leaf is left as. -/
def afterBroadcast (inst : ControlMessageId) (leaf : Leaf) : Leaf :=
  (onDispatchBroadcastImpl leaf inst).2

mutual

/-- The broadcast is the change of every leaf, whatever the nesting. -/
theorem dispatchBroadcast_eq_map (inst : ControlMessageId) : (tree : IDispatcher Class Leaf) →
    (dispatchBroadcast onDispatchBroadcastImpl tree inst).2 =
      tree.map (afterBroadcast onDispatchBroadcastImpl inst)
  | .leaf _ => rfl
  | .node type2Dispatcher dispatchers => by
      rw [dispatchBroadcast, GuardedTree.map, ← broadcastResult_eq_map]

theorem broadcastResult_eq_map (inst : ControlMessageId) :
    (dispatchers : SpecificDispatchers Class Leaf) →
      (broadcastResult onDispatchBroadcastImpl dispatchers inst).2 =
        dispatchers.map (afterBroadcast onDispatchBroadcastImpl inst)
  | .last x => by
      rw [broadcastResult, GuardedForest.map, ← dispatchBroadcast_eq_map]
  | .more x rest => by
      rw [broadcastResult, GuardedForest.map, ← dispatchBroadcast_eq_map,
        ← broadcastResult_eq_map]

end

theorem routeControlMessage_eq_map (leaves : List Leaf) (inst : ControlMessageId) :
    routeControlMessage onDispatchBroadcastImpl leaves inst =
      leaves.map (afterBroadcast onDispatchBroadcastImpl inst) := by
  induction leaves with
  | nil => rfl
  | cons leaf rest inductionHypothesis =>
      rw [routeControlMessage, inductionHypothesis, List.map_cons]
      rfl

end

/-! ### To the processors -/

/-- A processor object with its packet class. -/
abbrev AnyProcessor := (specific : SpecificPacket) × PacketProcessor specific

def AnyProcessor.onDispatchBroadcastImpl (processor : AnyProcessor) (inst : ControlMessageId) :
    Bool × AnyProcessor :=
  let (answer, after) := processor.2.onDispatchBroadcastImpl inst
  (answer, ⟨processor.1, after⟩)

/-- Every worker queue has one control packet more, at its end, that carries the message; the
rest of the processor is as before. -/
def ReachesWorkers (inst : ControlMessageId) (before after : AnyProcessor) : Prop :=
  ∃ packet : before.1.Packet, before.1.getCtrlMessageId packet = inst ∧
    after = ⟨before.1, { before.2 with
      receivedPacketQueue := before.2.receivedPacketQueue.map (· ++ [packet]) }⟩

theorem reachesWorkers_afterBroadcast (inst : ControlMessageId) (processor : AnyProcessor) :
    ReachesWorkers inst processor
      (afterBroadcast AnyProcessor.onDispatchBroadcastImpl inst processor) :=
  ⟨processor.1.ofControlMessageId inst, processor.1.getCtrlMessageId_ofControlMessageId inst, rfl⟩

/-- A broadcast reaches every worker of every processor in the tree once, and leaves the tree
otherwise as it was; and routing the message to the same processors in a row leaves them the
same. -/
theorem broadcast_reaches_every_worker {Class : Type} (tree : IDispatcher Class AnyProcessor)
    (inst : ControlMessageId) :
    let after := (dispatchBroadcast AnyProcessor.onDispatchBroadcastImpl tree inst).2
    List.Forall₂ (ReachesWorkers inst) tree.leaves after.leaves ∧
      after = tree.map (afterBroadcast AnyProcessor.onDispatchBroadcastImpl inst) ∧
      routeControlMessage AnyProcessor.onDispatchBroadcastImpl tree.leaves inst =
        after.leaves := by
  intro after
  have changed : after = tree.map (afterBroadcast AnyProcessor.onDispatchBroadcastImpl inst) :=
    dispatchBroadcast_eq_map AnyProcessor.onDispatchBroadcastImpl inst tree
  have leaves := congrArg GuardedTree.leaves changed
  rw [GuardedTree.leaves_map] at leaves
  refine ⟨?_, changed, ?_⟩
  · rw [leaves, List.forall₂_map_right_iff, List.forall₂_same]
    intro processor _
    exact reachesWorkers_afterBroadcast inst processor
  · rw [leaves, routeControlMessage_eq_map]

end TrafficInspector
