import TrafficInspector.Dispatcher.IDispatchable
import TrafficInspector.PacketProcessor
import TrafficInspector.Packets.WireFormat

/-!
Owns `main`: the dispatcher it builds, one step of its loop, and the routing
that the dispatcher is built for. The root's type test is `ETHPacket`'s, which
does not return, so no step of the loop gets past it.
-/

namespace TrafficInspector

open Foundation

def radiusProcessor : ProcessorLeaf := ⟨0, .radius⟩

def udpProcessor : ProcessorLeaf := ⟨1, .udp⟩

def tcpProcessor : ProcessorLeaf := ⟨2, .tcp⟩

/-- `IDispatcher<UDPPacket, PacketProcessor<RADIUSPacket>, PacketProcessor<UDPPacket>>`
followed by `PacketProcessor<TCPPacket>`. -/
def mainDispatchers : SpecificDispatchers PacketClass ProcessorLeaf :=
  .more (.node .udp (.more (.leaf radiusProcessor) (.last (.leaf udpProcessor))))
    (.last (.leaf tcpProcessor))

/-- `packetRouter`, a `PacketDispatcher`, which is an `IDispatcher` over `ETHPacket`. -/
def packetRouter : IDispatcher PacketClass ProcessorLeaf := .node .eth mainDispatchers

def mainProcessors : Processors := fun leaf => .create leaf.specific 1 2000

/-- The calls `main`'s dispatcher makes, on a stack with room for `depth` frames. -/
def mainDispatching (depth : Nat) : Dispatching PacketClass ProcessorLeaf ETHPacket Processors :=
  processorDispatching (PacketClass.isDispatchableType depth)

/-- The body of the main loop for a received packet, with what it leaves in `packetPtr`. -/
def routingStep {Class Leaf Packet World : Type} (env : Dispatching Class Leaf Packet World)
    (router : IDispatcher Class Leaf) (packetPtr : Option Packet) :
    Program Leaf World (Option Packet) := do
  let packet ← deref packetPtr
  let (routingInstanceIndex, _) ← env.canBeDispatchered router packet none
  match routingInstanceIndex with
  | some index => env.dispatchByIndex router index packetPtr
  | none => return packetPtr

/-- The leaf a frame is meant for: RADIUS first, then UDP, then TCP. -/
def intendedLeaf (frame : ETHPacket) : Option ProcessorLeaf :=
  if (RADIUSPacket.isDispatchableTypeImpl frame).isSome then some radiusProcessor
  else if (UDPPacket.isDispatchableTypeImpl frame).isSome then some udpProcessor
  else if (TCPPacket.isDispatchableTypeImpl frame).isSome then some tcpProcessor
  else none

/-- The step returns, having called the leaf the frame is meant for and no
other; `canBeDispatchered` is empty when there is none; and the type tests of the
classes used in the tree return. All with some amount of stack. -/
structure RoutesAsIntended (frame : ETHPacket) (processors : Processors) : Prop where
  step : ∃ depth packetPtr world,
    routingStep (mainDispatching depth) packetRouter (some frame) ⟨[], processors⟩ =
      (.ok packetPtr, ⟨(intendedLeaf frame).toList, world⟩)
  index : ∃ depth index stored,
    (mainDispatching depth).canBeDispatchered packetRouter frame none = .ok (index, stored) ∧
      (index = none ↔ intendedLeaf frame = none)
  tests : ∀ packetClass ∈ [PacketClass.eth, .udp, .radius, .tcp], ∃ depth answer,
    packetClass.isDispatchableType depth frame none = .ok answer

/-- The root's question is not answered, whatever the stack. -/
theorem packetRouter_canBeDispatchered (depth : Nat) (frame : ETHPacket) (outInfo : OutInfo) :
    (mainDispatching depth).canBeDispatchered packetRouter frame outInfo =
      .error .stackExhausted := by
  unfold packetRouter Dispatching.canBeDispatchered
  show (PacketClass.eth.isDispatchableType depth frame outInfo >>= _) = _
  rw [isDispatchableType_eth]
  rfl

/-- No step of the main loop calls a leaf or returns. -/
theorem routingStep_exhausts (depth : Nat) (frame : ETHPacket) (processors : Processors) :
    routingStep (mainDispatching depth) packetRouter (some frame) ⟨[], processors⟩ =
      (.error .stackExhausted, ⟨[], processors⟩) := by
  unfold routingStep
  show (ExceptT.bindCont _ ((mainDispatching depth).canBeDispatchered packetRouter frame none) :
    StateM _ _) _ = _
  rw [packetRouter_canBeDispatchered]
  rfl

/-- No frame is routed as intended. -/
theorem never_routesAsIntended (frame : ETHPacket) (processors : Processors) :
    ¬ RoutesAsIntended frame processors := by
  intro routes
  obtain ⟨depth, packetPtr, world, returned⟩ := routes.step
  rw [routingStep_exhausts] at returned
  exact absurd (congrArg Prod.fst returned) (fun same => nomatch same)

theorem accessRequest_not_routed :
    intendedLeaf (receivedFresh (accessRequest [1, 3, 65]).bytes).val = some radiusProcessor ∧
      ¬ RoutesAsIntended (receivedFresh (accessRequest [1, 3, 65]).bytes).val mainProcessors := by
  refine ⟨by decide, fun routes => ?_⟩
  obtain ⟨depth, answer, returned⟩ := routes.tests .eth (by decide)
  rw [isDispatchableType_eth] at returned
  cases returned

end TrafficInspector
