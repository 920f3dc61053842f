import TrafficInspector.Dispatcher.Delivery
import TrafficInspector.Main
import TrafficInspector.PacketRouter

/-!
Owns that the dispatcher tree routes as the flat router did, over the same
leaves from left to right. Both come down to one call of the first leaf whose
test accepts, the tree under the condition that a leaf's test implies the tests
of the nodes above it.
-/

namespace TrafficInspector

open Foundation

namespace Dispatching

variable {Class Leaf Packet World : Type} {env : Dispatching Class Leaf Packet World}
  {packet : Packet} {accepts : Class → Bool}

/-- One call of the given leaf with the packet, or none at all. -/
def deliverTo (env : Dispatching Class Leaf Packet World) (packet : Packet) :
    Option Leaf → Program Leaf World (Option Packet)
  | some leaf => do
      let (_, inst) ← env.dispatchLeaf leaf (some packet)
      return inst
  | none => pure (some packet)

/-! ### The flat router -/

private theorem convResult_interrupted (leaves : List Leaf) (inst : Option Packet)
    (payload : OutInfo) :
    env.convResult leaves inst payload true = .ok (leaves.map fun _ => false, payload) := by
  induction leaves with
  | nil => rfl
  | cons x rest inductionHypothesis =>
      unfold convResult
      rw [if_pos rfl, inductionHypothesis]
      rfl

private theorem dispatchConverted_none (leaves : List Leaf) (inst : Option Packet) :
    env.dispatchConverted ((leaves.map fun _ => false).zip leaves) inst = pure inst := by
  induction leaves with
  | nil => rfl
  | cons x rest inductionHypothesis => exact inductionHypothesis

private theorem convResult_cons {x : Leaf} {rest : List Leaf}
    (fixed : env.FixedTests ((x :: rest).map env.processorPacket) packet accepts)
    (payload : OutInfo) :
    ∃ stored, ∀ results after,
      env.convResult rest (some packet) stored (accepts (env.processorPacket x)) =
        .ok (results, after) →
      env.convResult (x :: rest) (some packet) payload false =
        .ok (accepts (env.processorPacket x) :: results, after) := by
  obtain ⟨stored, answer⟩ := fixed (env.processorPacket x) List.mem_cons_self payload
  refine ⟨stored, fun results after answers => ?_⟩
  unfold convResult
  rw [if_neg Bool.false_ne_true, deref_some]
  show (env.isDispatchableType (env.processorPacket x) packet payload >>= _) = _
  rw [answer]
  show (env.convResult rest (some packet) stored (accepts (env.processorPacket x)) >>= _) = _
  rw [answers]
  rfl

private theorem converted_eq (leaves : List Leaf)
    (fixed : env.FixedTests (leaves.map env.processorPacket) packet accepts)
    (payload : OutInfo) :
    ∃ results stored, env.convResult leaves (some packet) payload false = .ok (results, stored) ∧
      env.dispatchConverted (results.zip leaves) (some packet) =
        env.deliverTo packet (leaves.find? fun x => accepts (env.processorPacket x)) := by
  induction leaves generalizing payload with
  | nil => exact ⟨[], payload, rfl, rfl⟩
  | cons x rest inductionHypothesis =>
      obtain ⟨stored, unfolded⟩ := convResult_cons fixed payload
      cases accepted : accepts (env.processorPacket x) with
      | true =>
          rw [accepted] at unfolded
          refine ⟨_, _, unfolded _ _ (convResult_interrupted rest (some packet) stored), ?_⟩
          rw [List.find?_cons, accepted]
          show (env.dispatchLeaf x (some packet) >>= fun result =>
            env.dispatchConverted ((rest.map fun _ => false).zip rest) result.2) = _
          simp only [dispatchConverted_none]
          rfl
      | false =>
          rw [accepted] at unfolded
          obtain ⟨results, after, answers, pushed⟩ :=
            inductionHypothesis (fixed.of_subset (List.subset_cons_self ..)) stored
          refine ⟨_, _, unfolded _ _ answers, ?_⟩
          rw [List.find?_cons, accepted]
          exact pushed

theorem route_eq (leaves : List Leaf)
    (fixed : env.FixedTests (leaves.map env.processorPacket) packet accepts) :
    env.route leaves (some packet) =
      env.deliverTo packet (leaves.find? fun x => accepts (env.processorPacket x)) := by
  obtain ⟨results, stored, answers, pushed⟩ := converted_eq leaves fixed none
  unfold route
  rw [answers, ← pushed]
  rfl

/-! ### The tree -/

/-- A dispatcher node calls the leaf it selects. -/
theorem dispatch_eq_deliverTo (type2Dispatcher : Class)
    (dispatchers : SpecificDispatchers Class Leaf)
    (fixed : env.FixedTests (env.classes (.node type2Dispatcher dispatchers)) packet accepts) :
    (do let (_, inst) ← env.dispatch (.node type2Dispatcher dispatchers) (some packet)
        return inst) =
      env.deliverTo packet (env.selectedLeaf accepts (.node type2Dispatcher dispatchers)) := by
  cases selected : env.selectedLeaf accepts (.node type2Dispatcher dispatchers) with
  | some leaf =>
      rw [dispatch_selected _ fixed selected, bind_assoc]
      simp only [pure_bind]
      rfl
  | none =>
      rw [dispatch_unselected fixed selected]
      rfl

private theorem route_eq_dispatch (type2Dispatcher : Class)
    (dispatchers : SpecificDispatchers Class Leaf)
    (fixed : env.FixedTests (env.classes (.node type2Dispatcher dispatchers)) packet accepts)
    (covered : GuardedTree.Covered env.processorPacket accepts
      (.node type2Dispatcher dispatchers)) :
    env.route dispatchers.leaves (some packet) = do
      let (_, inst) ← env.dispatch (.node type2Dispatcher dispatchers) (some packet)
      return inst := by
  have fixedLeaves : env.FixedTests (dispatchers.leaves.map env.processorPacket) packet accepts :=
    fixed.of_subset
      (GuardedTree.leaves_guards env.processorPacket (.node type2Dispatcher dispatchers))
  rw [dispatch_eq_deliverTo _ _ fixed, route_eq _ fixedLeaves, selectedLeaf,
    selected_of_covered env.processorPacket accepts _ covered]
  rfl

/-! ### The same routing -/

/-- The node and the router over its leaves deliver the packet to the same leaf,
if to any, with the same effect and the same rest in the caller's hands. -/
structure SameRouting (env : Dispatching Class Leaf Packet World) (type2Dispatcher : Class)
    (dispatchers : SpecificDispatchers Class Leaf) (packet : Packet)
    (calls : Calls Leaf World) : Prop where
  delivers : ∀ leaf,
    (env.dispatch (.node type2Dispatcher dispatchers) (some packet) calls).2.called =
        calls.called ++ [leaf] ↔
      (env.route dispatchers.leaves (some packet) calls).2.called = calls.called ++ [leaf]
  nothing :
    (env.dispatch (.node type2Dispatcher dispatchers) (some packet) calls).2.called =
        calls.called ↔
      (env.route dispatchers.leaves (some packet) calls).2.called = calls.called
  effect : (env.route dispatchers.leaves (some packet) calls).2 =
    (env.dispatch (.node type2Dispatcher dispatchers) (some packet) calls).2
  rest : (env.route dispatchers.leaves (some packet) calls).1 =
    (env.dispatch (.node type2Dispatcher dispatchers) (some packet) calls).1.map Prod.snd

private theorem drop_answer (program : Program Leaf World (Bool × Option Packet))
    (calls : Calls Leaf World) :
    (do let (_, inst) ← program
        return inst : Program Leaf World (Option Packet)) calls =
      ((program calls).1.map Prod.snd, (program calls).2) := by
  show (ExceptT.bindCont _ (program calls).1 : StateM (Calls Leaf World) _) (program calls).2 = _
  cases (program calls).1 <;> rfl

theorem sameRouting_of_covered (type2Dispatcher : Class)
    (dispatchers : SpecificDispatchers Class Leaf)
    (fixed : env.FixedTests (env.classes (.node type2Dispatcher dispatchers)) packet accepts)
    (covered : GuardedTree.Covered env.processorPacket accepts
      (.node type2Dispatcher dispatchers)) (calls : Calls Leaf World) :
    env.SameRouting type2Dispatcher dispatchers packet calls := by
  have same : env.route dispatchers.leaves (some packet) calls =
      ((env.dispatch (.node type2Dispatcher dispatchers) (some packet) calls).1.map Prod.snd,
        (env.dispatch (.node type2Dispatcher dispatchers) (some packet) calls).2) := by
    rw [route_eq_dispatch type2Dispatcher dispatchers fixed covered]
    exact drop_answer _ calls
  have effect := congrArg Prod.snd same
  refine ⟨fun leaf => ?_, ?_, effect, congrArg Prod.fst same⟩
  · rw [effect]
  · rw [effect]

end Dispatching

/-! ### The tree of `main` -/

/-- The answer of the class's own test on a frame. -/
def PacketClass.accepts (frame : ETHPacket) (packetClass : PacketClass) : Bool :=
  (packetClass.ownTest.bind (OwnTest.answer frame)).isSome

theorem intendedLeaf_isSome (frame : ETHPacket) :
    (intendedLeaf frame).isSome ↔ (RADIUSPacket.isDispatchableTypeImpl frame).isSome ∨
      (UDPPacket.isDispatchableTypeImpl frame).isSome ∨
        (TCPPacket.isDispatchableTypeImpl frame).isSome := by
  unfold intendedLeaf
  cases (RADIUSPacket.isDispatchableTypeImpl frame).isSome <;>
    cases (UDPPacket.isDispatchableTypeImpl frame).isSome <;>
    cases (TCPPacket.isDispatchableTypeImpl frame).isSome <;> simp

/-- The class at the root has a test with a fixed answer on the frame, and accepts it if a leaf
of `main`'s tree does. -/
def Dispatching.AcceptsAtRoot {Leaf World : Type}
    (env : Dispatching PacketClass Leaf ETHPacket World) (root : PacketClass)
    (frame : ETHPacket) : Prop :=
  ∃ accepted : Bool, ((intendedLeaf frame).isSome → accepted = true) ∧
    ∀ outInfo, ∃ stored, env.isDispatchableType root frame outInfo = .ok (accepted, stored)

/-- The root's answer, and those of the other classes' own tests. -/
private def answersUnder (root : PacketClass) (accepted : Bool) (frame : ETHPacket)
    (packetClass : PacketClass) : Bool :=
  if packetClass = root then accepted else packetClass.accepts frame

private theorem answersUnder_transport {root : PacketClass} (above : root ∈ [PacketClass.eth, .ip])
    (accepted : Bool) (frame : ETHPacket) {packetClass : PacketClass}
    (transport : packetClass ∈ [PacketClass.udp, .radius, .tcp]) :
    answersUnder root accepted frame packetClass = packetClass.accepts frame := by
  refine if_neg fun same => ?_
  subst same
  revert above transport
  cases packetClass <;> decide

private theorem own_fixed (depth : Nat) (frame : ETHPacket) {packetClass : PacketClass}
    (transport : packetClass ∈ [PacketClass.udp, .radius, .tcp]) (outInfo : OutInfo) :
    ∃ stored, packetClass.isDispatchableType (depth + 6) frame outInfo =
      .ok (packetClass.accepts frame, stored) := by
  obtain ⟨test, declared⟩ : ∃ test, packetClass.ownTest = some test := by
    revert transport
    cases packetClass <;> simp [PacketClass.ownTest]
  refine ⟨(test.answer frame).or outInfo, ?_⟩
  rw [isDispatchableType_own depth declared, PacketClass.accepts, declared]
  rfl

private theorem mainDispatchers_fixed {World : Type}
    (env : Dispatching PacketClass ProcessorLeaf ETHPacket World) (depth : Nat)
    (classes : env.processorPacket = fun leaf => leaf.specific.packetClass)
    (tests : ∀ packetClass ∈ [PacketClass.udp, .radius, .tcp],
      env.isDispatchableType packetClass = packetClass.isDispatchableType (depth + 6))
    {root : PacketClass} (above : root ∈ [PacketClass.eth, .ip]) {accepted : Bool}
    {frame : ETHPacket}
    (atRoot : ∀ outInfo, ∃ stored,
      env.isDispatchableType root frame outInfo = .ok (accepted, stored)) :
    env.FixedTests (env.classes (.node root mainDispatchers)) frame
      (answersUnder root accepted frame) := by
  have inTree : env.classes (.node root mainDispatchers) = [root, .udp, .radius, .udp, .tcp] := by
    unfold Dispatching.classes
    rw [classes]
    rfl
  rw [inTree]
  intro packetClass member outInfo
  rcases List.mem_cons.mp member with rfl | below
  · obtain ⟨stored, answer⟩ := atRoot outInfo
    exact ⟨stored, answer.trans (congrArg (fun same => Except.ok (same, stored)) (if_pos rfl).symm)⟩
  · have transport : packetClass ∈ [PacketClass.udp, .radius, .tcp] := by
      simp only [List.mem_cons, List.not_mem_nil, or_false] at below ⊢
      tauto
    rw [tests packetClass transport, answersUnder_transport above accepted frame transport]
    exact own_fixed depth frame transport outInfo

private theorem mainDispatchers_covered {root : PacketClass}
    (above : root ∈ [PacketClass.eth, .ip]) {accepted : Bool} {frame : ETHPacket}
    (implied : (intendedLeaf frame).isSome → accepted = true) :
    GuardedTree.Covered (fun leaf : ProcessorLeaf => leaf.specific.packetClass)
      (answersUnder root accepted frame) (.node root mainDispatchers) := by
  have paths : (GuardedTree.node root mainDispatchers).paths
      (fun leaf : ProcessorLeaf => leaf.specific.packetClass) =
        [([root, .udp, .radius], radiusProcessor), ([root, .udp, .udp], udpProcessor),
          ([root, .tcp], tcpProcessor)] := rfl
  have atRoot : answersUnder root accepted frame root = accepted := if_pos rfl
  have own {packetClass : PacketClass} :=
    @answersUnder_transport root above accepted frame packetClass
  have onRadius := @own .radius (by decide)
  have onUDP := @own .udp (by decide)
  have onTCP := @own .tcp (by decide)
  intro path member accepts
  rw [paths] at member
  simp only [List.mem_cons, List.not_mem_nil, or_false] at member
  rw [List.all_eq_true]
  rcases member with rfl | rfl | rfl
  · have radius : (RADIUSPacket.isDispatchableTypeImpl frame).isSome = true :=
      onRadius.symm.trans accepts
    have udp : PacketClass.udp.accepts frame = true := udp_accepts_of_radius frame radius
    have admitted := implied ((intendedLeaf_isSome frame).mpr (.inl radius))
    exact List.forall_mem_cons.mpr ⟨atRoot.trans admitted, List.forall_mem_cons.mpr
      ⟨onUDP.trans udp, List.forall_mem_singleton.mpr accepts⟩⟩
  · have udp : (UDPPacket.isDispatchableTypeImpl frame).isSome = true := onUDP.symm.trans accepts
    have admitted := implied ((intendedLeaf_isSome frame).mpr (.inr (.inl udp)))
    exact List.forall_mem_cons.mpr ⟨atRoot.trans admitted, List.forall_mem_cons.mpr
      ⟨accepts, List.forall_mem_singleton.mpr accepts⟩⟩
  · have tcp : (TCPPacket.isDispatchableTypeImpl frame).isSome = true := onTCP.symm.trans accepts
    have admitted := implied ((intendedLeaf_isSome frame).mpr (.inr (.inr tcp)))
    exact List.forall_mem_cons.mpr ⟨atRoot.trans admitted, List.forall_mem_singleton.mpr accepts⟩

/-- The dispatchers of `main`, with the program's own tests, under any root above them. -/
private theorem mainDispatchers_sameRouting {World : Type}
    (env : Dispatching PacketClass ProcessorLeaf ETHPacket World) (depth : Nat)
    (classes : env.processorPacket = fun leaf => leaf.specific.packetClass)
    (tests : ∀ packetClass ∈ [PacketClass.udp, .radius, .tcp],
      env.isDispatchableType packetClass = packetClass.isDispatchableType (depth + 6))
    {root : PacketClass} (above : root ∈ [PacketClass.eth, .ip]) {frame : ETHPacket}
    (atRoot : env.AcceptsAtRoot root frame) (calls : Calls ProcessorLeaf World) :
    env.SameRouting root mainDispatchers frame calls := by
  obtain ⟨accepted, implied, answers⟩ := atRoot
  refine Dispatching.sameRouting_of_covered _ _
    (mainDispatchers_fixed env depth classes tests above answers) ?_ calls
  rw [classes]
  exact mainDispatchers_covered above implied

/-- A leaf's test goes through `IPPacket`'s. -/
private theorem ip_acceptsAtRoot {Leaf World : Type}
    (env : Dispatching PacketClass Leaf ETHPacket World) (depth : Nat)
    (tests : env.isDispatchableType = PacketClass.isDispatchableType (depth + 6))
    (frame : ETHPacket) : env.AcceptsAtRoot .ip frame := by
  refine ⟨(IPPacket.isDispatchableTypeImpl frame).isSome, fun routed => ?_, fun outInfo => ?_⟩
  · have isIP : EtherTypeIP frame.memory := by
      rcases (intendedLeaf_isSome frame).mp routed with radius | udp | tcp
      · exact ((radius_accepts_iff frame).mp radius).1.1
      · exact ((udp_accepts_iff frame).mp udp).1
      · exact ((tcp_accepts_iff frame).mp tcp).1
    rw [ip_test_eq, if_pos isIP]
    rfl
  · rw [tests]
    exact ⟨_, @isDispatchableType_own depth .ip .ip rfl frame outInfo⟩

/-- The tree routes as the router: any covered tree over any classes, leaves and effects; and
the UDP node followed by the TCP leaf for every frame, since the program's own tests cover them,
under `IPPacket` as the root or any other root above them that admits what a leaf accepts. -/
theorem tree_refines_router :
    (∀ (Class Leaf Packet World : Type) (env : Dispatching Class Leaf Packet World)
      (packet : Packet) (accepts : Class → Bool) (type2Dispatcher : Class)
      (dispatchers : SpecificDispatchers Class Leaf) (calls : Calls Leaf World),
      env.FixedTests (env.classes (.node type2Dispatcher dispatchers)) packet accepts →
      GuardedTree.Covered env.processorPacket accepts (.node type2Dispatcher dispatchers) →
        env.SameRouting type2Dispatcher dispatchers packet calls) ∧
    (∀ frame : ETHPacket, (RADIUSPacket.isDispatchableTypeImpl frame).isSome →
      (UDPPacket.isDispatchableTypeImpl frame).isSome) ∧
    (∀ frame : ETHPacket, (UDPPacket.isDispatchableTypeImpl frame).isSome →
      (TCPPacket.isDispatchableTypeImpl frame).isSome → False) ∧
    mainDispatchers.leaves = [radiusProcessor, udpProcessor, tcpProcessor] ∧
    ∀ (World : Type) (env : Dispatching PacketClass ProcessorLeaf ETHPacket World) (depth : Nat)
      (frame : ETHPacket) (calls : Calls ProcessorLeaf World),
      env.processorPacket = (fun leaf => leaf.specific.packetClass) →
        (env.isDispatchableType = PacketClass.isDispatchableType (depth + 6) →
          env.SameRouting .ip mainDispatchers frame calls) ∧
        ∀ root ∈ [PacketClass.eth, .ip],
          (∀ packetClass ∈ [PacketClass.udp, .radius, .tcp],
            env.isDispatchableType packetClass = packetClass.isDispatchableType (depth + 6)) →
          env.AcceptsAtRoot root frame → env.SameRouting root mainDispatchers frame calls := by
  refine ⟨?_, udp_accepts_of_radius, not_udp_and_tcp, rfl, ?_⟩
  · intro Class Leaf Packet World env packet accepts type2Dispatcher dispatchers calls fixed covered
    exact Dispatching.sameRouting_of_covered type2Dispatcher dispatchers fixed covered calls
  · intro World env depth frame calls classes
    refine ⟨fun tests => ?_, fun root above tests atRoot => ?_⟩
    · exact mainDispatchers_sameRouting env depth classes
        (fun packetClass _ => congrFun tests packetClass) (by decide)
        (ip_acceptsAtRoot env depth tests frame) calls
    · exact mainDispatchers_sameRouting env depth classes tests above atRoot calls

/-- An access request under an `IPPacket` root, with the program's own tests. -/
theorem tree_refines_router_accessRequest :
    (mainDispatching 6).SameRouting .ip mainDispatchers
      (receivedFresh (accessRequest [1, 3, 65]).bytes).val ⟨[], mainProcessors⟩ :=
  (tree_refines_router.2.2.2.2 _ (mainDispatching 6) 0 _ ⟨[], mainProcessors⟩ rfl).1 rfl

end TrafficInspector
