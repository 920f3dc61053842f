import TrafficInspector.Dispatcher.Delivery
import TrafficInspector.Main
import TrafficInspector.WorkerPlacement

/-!
Owns exactly-once delivery in a dispatcher tree of any shape: asking the tree,
dispatching, and dispatching by the index that was returned all agree on the
leftmost admitted leaf. Whether the delivery comes to an end is up to that leaf.
-/

namespace TrafficInspector

open Foundation

namespace Dispatching

variable {Class Leaf Packet World : Type} (env : Dispatching Class Leaf Packet World)

def Returns (leaf : Leaf) (packet : Packet) (world : World) : Prop :=
  ∃ result, (env.onDispatchImpl leaf (some packet) world).1 = .ok result

/-- With an admitted leaf, `canBeDispatchered` has a value, `dispatch` answers
`true` and has called the leftmost admitted leaf, once and nothing else, and the
value leads `dispatchByIndex` to the same calls with the same effect. Without
one, there is no value, `dispatch` answers `false`, calls nothing, and the caller
still holds the packet. -/
structure ExactlyOneDelivery (accepts : Class → Bool) (type2Dispatcher : Class)
    (dispatchers : SpecificDispatchers Class Leaf) (packet : Packet)
    (calls : Calls Leaf World) : Prop where
  selected : ∀ leaf, env.selectedLeaf accepts (.node type2Dispatcher dispatchers) = some leaf →
    ∃ index inst world,
      (∀ outInfo, ∃ stored, env.canBeDispatchered (.node type2Dispatcher dispatchers) packet
        outInfo = .ok (some index, stored)) ∧
      env.dispatch (.node type2Dispatcher dispatchers) (some packet) calls =
        (.ok (true, inst), ⟨calls.called ++ [leaf], world⟩) ∧
      env.dispatchByIndex (.node type2Dispatcher dispatchers) index (some packet) calls =
        (.ok inst, ⟨calls.called ++ [leaf], world⟩)
  unselected : env.selectedLeaf accepts (.node type2Dispatcher dispatchers) = none →
    (∀ outInfo, ∃ stored, env.canBeDispatchered (.node type2Dispatcher dispatchers) packet
      outInfo = .ok (none, stored)) ∧
    env.dispatch (.node type2Dispatcher dispatchers) (some packet) calls =
      (.ok (false, some packet), calls)

variable {env}

section

variable {leaf : Leaf} {packet : Packet} {calls : Calls Leaf World} {Result : Type}

private theorem dispatchLeaf_bind_ok {result : Bool × Option Packet}
    (returned : (env.onDispatchImpl leaf (some packet) calls.world).1 = .ok result)
    (next : Bool × Option Packet → Program Leaf World Result) :
    (env.dispatchLeaf leaf (some packet) >>= next) calls =
      next result ⟨calls.called ++ [leaf],
        (env.onDispatchImpl leaf (some packet) calls.world).2⟩ := by
  show ExceptT.bindCont next (env.onDispatchImpl leaf (some packet) calls.world).1 _ = _
  rw [returned]
  rfl

private theorem dispatchLeaf_bind_error {fault : Fault}
    (failed : (env.onDispatchImpl leaf (some packet) calls.world).1 = .error fault)
    (next : Bool × Option Packet → Program Leaf World Result) :
    ((env.dispatchLeaf leaf (some packet) >>= next) calls).1 = .error fault := by
  show (ExceptT.bindCont next (env.onDispatchImpl leaf (some packet) calls.world).1 _).1 = _
  rw [failed]
  rfl

end

/-- A tree delivers a packet exactly once just when the leaf it selects returns. -/
theorem exactlyOneDelivery_iff {packet : Packet} {accepts : Class → Bool}
    (type2Dispatcher : Class) (dispatchers : SpecificDispatchers Class Leaf)
    (fixed : env.FixedTests (env.classes (.node type2Dispatcher dispatchers)) packet accepts)
    (calls : Calls Leaf World) :
    env.ExactlyOneDelivery accepts type2Dispatcher dispatchers packet calls ↔
      ∀ leaf, env.selectedLeaf accepts (.node type2Dispatcher dispatchers) = some leaf →
        env.Returns leaf packet calls.world := by
  constructor
  · intro delivery leaf selected
    obtain ⟨index, inst, world, _, dispatched, _⟩ := delivery.selected leaf selected
    rw [dispatch_selected _ fixed selected] at dispatched
    cases outcome : (env.onDispatchImpl leaf (some packet) calls.world).1 with
    | ok result => exact ⟨result, outcome⟩
    | error fault =>
        have failed := dispatchLeaf_bind_error outcome fun result =>
          (pure (answered (.node type2Dispatcher dispatchers) result.1, result.2) :
            Program Leaf World (Bool × Option Packet))
        have returned := congrArg Prod.fst dispatched
        exact absurd (failed.symm.trans returned) (by simp)
  · intro returns
    constructor
    · intro leaf selected
      obtain ⟨⟨result, inst⟩, returned⟩ := returns leaf selected
      obtain ⟨index, position, byIndex⟩ := dispatchByIndex_selected _ fixed selected
      refine ⟨index, inst, (env.onDispatchImpl leaf (some packet) calls.world).2, ?_, ?_, ?_⟩
      · intro outInfo
        rw [← position]
        exact canBeDispatchered_eq _ fixed outInfo
      · rw [dispatch_selected _ fixed selected]
        exact dispatchLeaf_bind_ok returned _
      · rw [byIndex]
        exact dispatchLeaf_bind_ok returned _
    · intro unselected
      refine ⟨fun outInfo => ?_, ?_⟩
      · rw [← position_of_unselected unselected]
        exact canBeDispatchered_eq _ fixed outInfo
      · rw [dispatch_unselected fixed unselected]
        rfl

theorem processor_not_returns
    (tests : PacketClass → ETHPacket → OutInfo → Except Fault (Bool × OutInfo))
    (leaf : ProcessorLeaf) (packet : ETHPacket) (processors : Processors) :
    ¬ (processorDispatching tests).Returns leaf packet processors := by
  rintro ⟨result, returned⟩
  obtain ⟨fault, fails⟩ := (processors leaf).onDispatchImpl_faults (some packet)
  simp only [processorDispatching, fails] at returned
  cases returned

/-- The dispatchers of `main`'s `UDPPacket` node. -/
def udpDispatchers : SpecificDispatchers PacketClass ProcessorLeaf :=
  .more (.leaf radiusProcessor) (.last (.leaf udpProcessor))

/-- Both classes of the node accept an access request. -/
private theorem accessRequest_fixed :
    (mainDispatching 6).FixedTests ((mainDispatching 6).classes (.node .udp udpDispatchers))
      (receivedFresh (accessRequest [1, 3, 65]).bytes).val (fun _ => true) := by
  have radius : (OwnTest.radius.answer
      (receivedFresh (accessRequest [1, 3, 65]).bytes).val).isSome = true := by decide
  have udp : (OwnTest.udp.answer
      (receivedFresh (accessRequest [1, 3, 65]).bytes).val).isSome = true := by decide
  have inTree : (mainDispatching 6).classes (.node .udp udpDispatchers) =
      [.udp, .radius, .udp] := rfl
  intro packetClass member outInfo
  rw [inTree] at member
  obtain rfl | rfl : packetClass = .udp ∨ packetClass = .radius := by
    revert member
    cases packetClass <;> decide
  · exact ⟨_, udp ▸ @isDispatchableType_own 0 .udp .udp rfl _ outInfo⟩
  · exact ⟨_, radius ▸ @isDispatchableType_own 0 .radius .radius rfl _ outInfo⟩

/-- The node with the program's own tests. -/
theorem exactlyOneDelivery_iff_accessRequest :
    (mainDispatching 6).ExactlyOneDelivery (fun _ => true) .udp udpDispatchers
        (receivedFresh (accessRequest [1, 3, 65]).bytes).val ⟨[], mainProcessors⟩ ↔
      ∀ leaf, (mainDispatching 6).selectedLeaf (fun _ => true) (.node .udp udpDispatchers) =
          some leaf →
        (mainDispatching 6).Returns leaf (receivedFresh (accessRequest [1, 3, 65]).bytes).val
          mainProcessors :=
  exactlyOneDelivery_iff _ _ accessRequest_fixed ⟨[], mainProcessors⟩

/-- There the call of the RADIUS leaf ends on the emptied item. -/
theorem accessRequest_not_delivered :
    ¬ (mainDispatching 6).ExactlyOneDelivery (fun _ => true) .udp udpDispatchers
        (receivedFresh (accessRequest [1, 3, 65]).bytes).val ⟨[], mainProcessors⟩ := by
  intro delivery
  obtain ⟨index, inst, world, _, dispatched, _⟩ := delivery.selected radiusProcessor rfl
  have fails := congrArg Prod.fst dispatched
  cases fails

end Dispatching

end TrafficInspector
