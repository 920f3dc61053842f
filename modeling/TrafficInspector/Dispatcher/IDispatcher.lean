import TrafficInspector.Foundation.GuardedTree
import TrafficInspector.Packets.BasePacket

/-!
Owns `IDispatcher`: a tree whose inner nodes are `IDispatcher<Type2Dispatcher,
...>` with at least one dispatcher, and whose leaves are the terminators that
hand a packet to their `Dispatcher<Packet>`. The children of a node are asked
one by one through an array of short-circuited answers, an index is taken from
the array, and the child at that index asks its own children again.

What the tree calls is a parameter: the type tests, which may fail to return,
and the leaves' `onDispatchImpl`. Every call of the latter is recorded before it
runs, so that it is known also of a call that does not return.
-/

namespace TrafficInspector

open Foundation

/-- The `uint8_t *` that the type tests store through; null at first. -/
abbrev OutInfo := Option Pointer

abbrev IDispatcher (Class Leaf : Type) := GuardedTree Class Leaf

/-- `SpecificDispatchers`, the tuple of a node's children. -/
abbrev SpecificDispatchers (Class Leaf : Type) := GuardedForest Class Leaf

structure Dispatching (Class Leaf Packet World : Type) where
  /-- `Class::isDispatchableType(inst, outInfo)`. -/
  isDispatchableType : Class → Packet → OutInfo → Except Fault (Bool × OutInfo)
  /-- `PacketProcessorPacket` of a leaf. -/
  processorPacket : Leaf → Class
  /-- `onDispatchImpl(std::move(inst))`: the answer, what is left in `inst`, and the effect. -/
  onDispatchImpl : Leaf → Option Packet → World →
    Except Fault (Bool × Option Packet) × World

/-- The leaves called so far, in order, and the state behind them. -/
structure Calls (Leaf World : Type) where
  called : List Leaf
  world : World

/-- A computation that calls leaves and may fail to return. -/
abbrev Program (Leaf World : Type) := ExceptT Fault (StateM (Calls Leaf World))

namespace Dispatching

variable {Class Leaf Packet World : Type} (env : Dispatching Class Leaf Packet World)

/-- The terminator's `dispatch`. -/
def dispatchLeaf (leaf : Leaf) (inst : Option Packet) :
    Program Leaf World (Bool × Option Packet) :=
  fun calls =>
    let (result, world) := env.onDispatchImpl leaf inst calls.world
    (result, { called := calls.called ++ [leaf], world })

mutual

def canBeDispatchered : IDispatcher Class Leaf → Packet → OutInfo →
    Except Fault (Option Nat × OutInfo)
  | .leaf leaf, inst, outInfo => do
      let (accepted, outInfo) ← env.isDispatchableType (env.processorPacket leaf) inst outInfo
      return (if accepted then some 0 else none, outInfo)
  | .node type2Dispatcher dispatchers, inst, outInfo => do
      let (accepted, outInfo) ← env.isDispatchableType type2Dispatcher inst outInfo
      if accepted then
        let (results, outInfo) ← dispatchingResult dispatchers inst outInfo false
        return (results.idxOf? true, outInfo)
      else
        return (none, outInfo)

/-- The array `dispatchingResult`, under the flag `dispatcheredByCurrentInstance`. -/
def dispatchingResult : SpecificDispatchers Class Leaf → Packet → OutInfo → Bool →
    Except Fault (List Bool × OutInfo)
  | .last x, inst, outInfo, dispatchered => do
      if dispatchered then
        return ([false], outInfo)
      else
        let (index, outInfo) ← canBeDispatchered x inst outInfo
        return ([index.isSome], outInfo)
  | .more x rest, inst, outInfo, dispatchered => do
      if dispatchered then
        let (results, outInfo) ← dispatchingResult rest inst outInfo dispatchered
        return (false :: results, outInfo)
      else
        let (index, outInfo) ← canBeDispatchered x inst outInfo
        let (results, outInfo) ← dispatchingResult rest inst outInfo index.isSome
        return (index.isSome :: results, outInfo)

end

mutual

def dispatch : IDispatcher Class Leaf → Option Packet → Program Leaf World (Bool × Option Packet)
  | .leaf leaf, inst => env.dispatchLeaf leaf inst
  | .node type2Dispatcher dispatchers, inst => do
      let packet ← deref inst
      let (dispatcherIndex, _) ←
        env.canBeDispatchered (.node type2Dispatcher dispatchers) packet none
      match dispatcherIndex with
      | some index => do
          let inst ← dispatchAt dispatchers index 0 inst
          return (true, inst)
      | none => return (false, inst)

/-- The array expression of `dispatchByIndex`, from `currIndex` on. -/
def dispatchAt : SpecificDispatchers Class Leaf → Nat → Nat → Option Packet →
    Program Leaf World (Option Packet)
  | .last x, dispatcherIndex, currIndex, inst =>
      if currIndex = dispatcherIndex then do
        let (_, inst) ← dispatch x inst
        return inst
      else
        return inst
  | .more x rest, dispatcherIndex, currIndex, inst =>
      if currIndex = dispatcherIndex then do
        let (_, inst) ← dispatch x inst
        dispatchAt rest dispatcherIndex (currIndex + 1) inst
      else
        dispatchAt rest dispatcherIndex (currIndex + 1) inst

end

/-- `dispatchByIndex`; a leaf has no use for the index. -/
def dispatchByIndex (tree : IDispatcher Class Leaf) (dispatcherIndex : Nat)
    (inst : Option Packet) : Program Leaf World (Option Packet) :=
  match tree with
  | .leaf leaf => do
      let (_, inst) ← env.dispatchLeaf leaf inst
      return inst
  | .node _ dispatchers => env.dispatchAt dispatchers dispatcherIndex 0 inst

end Dispatching

end TrafficInspector
