import TrafficInspector.Dispatcher.IDispatcher

/-!
Owns what a dispatcher tree does with a packet on which every type test has a
fixed answer: `canBeDispatchered` finds the position of the leftmost admitted
leaf, and `dispatch` and `dispatchByIndex` come down to one call of that leaf's
`onDispatchImpl`, or to nothing at all.
-/

namespace TrafficInspector

open Foundation

namespace Dispatching

variable {Class Leaf Packet World : Type} (env : Dispatching Class Leaf Packet World)

/-- The tests of these classes have fixed answers on the packet, whatever the
tests before them stored. -/
def FixedTests (classes : List Class) (packet : Packet) (accepts : Class → Bool) : Prop :=
  ∀ packetClass ∈ classes, ∀ outInfo, ∃ stored,
    env.isDispatchableType packetClass packet outInfo = .ok (accepts packetClass, stored)

/-- The classes a tree tests for. -/
def classes (tree : IDispatcher Class Leaf) : List Class := tree.guards env.processorPacket

/-- The leftmost leaf whose own test and the tests of all nodes above it hold. -/
def selectedLeaf (accepts : Class → Bool) (tree : IDispatcher Class Leaf) : Option Leaf :=
  tree.selected env.processorPacket accepts

section

variable {env} {packet : Packet} {accepts : Class → Bool}

theorem FixedTests.of_subset {some all : List Class} (fixed : env.FixedTests all packet accepts)
    (inAll : some ⊆ all) : env.FixedTests some packet accepts :=
  fun packetClass member => fixed packetClass (inAll member)

/-! ### Asking the tree -/

variable (env packet) in
private theorem dispatchingResult_done (forest : SpecificDispatchers Class Leaf)
    (outInfo : OutInfo) :
    ∃ results, env.dispatchingResult forest packet outInfo true = .ok (results, outInfo) ∧
      results.idxOf? true = none := by
  match forest with
  | .last x => exact ⟨[false], rfl, rfl⟩
  | .more x rest =>
      obtain ⟨results, answered, noneTrue⟩ := dispatchingResult_done rest outInfo
      refine ⟨false :: results, ?_, ?_⟩
      · unfold dispatchingResult
        rw [answered]
        rfl
      · rw [List.idxOf?_cons, noneTrue]
        rfl

private theorem dispatchingResult_more {x : IDispatcher Class Leaf}
    {rest : SpecificDispatchers Class Leaf} {outInfo stored after : OutInfo} {index : Option Nat}
    {results : List Bool}
    (answer : env.canBeDispatchered x packet outInfo = .ok (index, stored))
    (answers : env.dispatchingResult rest packet stored index.isSome = .ok (results, after)) :
    env.dispatchingResult (.more x rest) packet outInfo false =
      .ok (index.isSome :: results, after) := by
  unfold dispatchingResult
  rw [answer]
  show (env.dispatchingResult rest packet stored index.isSome >>= _) = _
  rw [answers]
  rfl

mutual

theorem canBeDispatchered_eq (tree : IDispatcher Class Leaf)
    (fixed : env.FixedTests (env.classes tree) packet accepts) (outInfo : OutInfo) :
    ∃ stored, env.canBeDispatchered tree packet outInfo =
      .ok (tree.position env.processorPacket accepts, stored) := by
  match tree with
  | .leaf leaf =>
      obtain ⟨stored, answer⟩ := fixed (env.processorPacket leaf) List.mem_cons_self outInfo
      refine ⟨stored, ?_⟩
      unfold canBeDispatchered
      rw [answer]
      rfl
  | .node type2Dispatcher dispatchers =>
      obtain ⟨stored, answer⟩ := fixed type2Dispatcher List.mem_cons_self outInfo
      unfold canBeDispatchered
      rw [answer]
      by_cases accepted : accepts type2Dispatcher = true
      · obtain ⟨results, after, answers, chosen⟩ := dispatchingResult_eq dispatchers
          (fixed.of_subset (List.subset_cons_self ..)) stored
        refine ⟨after, ?_⟩
        rw [GuardedTree.position, if_pos accepted, ← chosen]
        show (if accepts type2Dispatcher = true then _ else _) = _
        rw [if_pos accepted, answers]
        rfl
      · refine ⟨stored, ?_⟩
        rw [GuardedTree.position, if_neg accepted]
        exact if_neg accepted

theorem dispatchingResult_eq (forest : SpecificDispatchers Class Leaf)
    (fixed : env.FixedTests (forest.guards env.processorPacket) packet accepts)
    (outInfo : OutInfo) :
    ∃ results stored, env.dispatchingResult forest packet outInfo false = .ok (results, stored) ∧
      results.idxOf? true = forest.choice env.processorPacket accepts := by
  match forest with
  | .last x =>
      obtain ⟨stored, answer⟩ := canBeDispatchered_eq x fixed outInfo
      refine ⟨[(x.position env.processorPacket accepts).isSome], stored, ?_, ?_⟩
      · unfold dispatchingResult
        rw [answer]
        rfl
      · rw [position_isSome, GuardedForest.choice]
        cases x.selected env.processorPacket accepts <;> rfl
  | .more x rest =>
      obtain ⟨stored, answer⟩ :=
        canBeDispatchered_eq x (fixed.of_subset (List.subset_append_left ..)) outInfo
      have admitted := position_isSome env.processorPacket accepts x
      cases found : x.selected env.processorPacket accepts with
      | some leaf =>
          rw [found, Option.isSome_some] at admitted
          obtain ⟨results, answers, _⟩ := dispatchingResult_done env packet rest stored
          refine ⟨_, stored, dispatchingResult_more answer (admitted ▸ answers), ?_⟩
          rw [admitted, GuardedForest.choice, found]
          rfl
      | none =>
          rw [found, Option.isSome_none] at admitted
          obtain ⟨results, after, answers, chosen⟩ := dispatchingResult_eq rest
            (fixed.of_subset (List.subset_append_right ..)) stored
          refine ⟨_, after, dispatchingResult_more answer (admitted ▸ answers), ?_⟩
          rw [admitted, GuardedForest.choice, found, ← chosen, List.idxOf?_cons]
          rfl

end

/-! ### Descending to the leaf -/

/-- What a tree answers for a leaf that answered `result`. -/
def answered (tree : IDispatcher Class Leaf) (result : Bool) : Bool :=
  match tree with
  | .leaf _ => result
  | .node _ _ => true

private theorem dispatch_node_some {type2Dispatcher : Class}
    {dispatchers : SpecificDispatchers Class Leaf} {index : Nat} {stored : OutInfo}
    (answer : env.canBeDispatchered (.node type2Dispatcher dispatchers) packet none =
      .ok (some index, stored)) :
    env.dispatch (.node type2Dispatcher dispatchers) (some packet) = do
      let inst ← env.dispatchAt dispatchers index 0 (some packet)
      return (true, inst) := by
  unfold dispatch
  show ((liftM (env.canBeDispatchered _ packet none) : Program Leaf World _) >>= _) = _
  rw [answer]
  rfl

private theorem dispatch_node_none {type2Dispatcher : Class}
    {dispatchers : SpecificDispatchers Class Leaf} {stored : OutInfo}
    (answer : env.canBeDispatchered (.node type2Dispatcher dispatchers) packet none =
      .ok (none, stored)) :
    env.dispatch (.node type2Dispatcher dispatchers) (some packet) =
      pure (false, some packet) := by
  unfold dispatch
  show ((liftM (env.canBeDispatchered _ packet none) : Program Leaf World _) >>= _) = _
  rw [answer]
  rfl

theorem dispatchAt_past (forest : SpecificDispatchers Class Leaf) {dispatcherIndex currIndex : Nat}
    (past : dispatcherIndex < currIndex) (inst : Option Packet) :
    env.dispatchAt forest dispatcherIndex currIndex inst = pure inst := by
  match forest with
  | .last x =>
      unfold dispatchAt
      exact if_neg (by omega)
  | .more x rest =>
      unfold dispatchAt
      rw [if_neg (by omega)]
      exact dispatchAt_past rest (by omega) inst

mutual

/-- A tree with an admitted leaf calls the leftmost one, and nothing else. -/
theorem dispatch_selected (tree : IDispatcher Class Leaf)
    (fixed : env.FixedTests (env.classes tree) packet accepts) {leaf : Leaf}
    (selected : env.selectedLeaf accepts tree = some leaf) :
    env.dispatch tree (some packet) = do
      let (result, inst) ← env.dispatchLeaf leaf (some packet)
      return (answered tree result, inst) := by
  match tree with
  | .leaf value =>
      rw [selectedLeaf, selected_leaf, Option.ite_none_right_eq_some, Option.some.injEq] at selected
      obtain ⟨_, rfl⟩ := selected
      unfold dispatch
      exact (bind_pure (env.dispatchLeaf value (some packet))).symm
  | .node type2Dispatcher dispatchers =>
      rw [selectedLeaf, selected_node, Option.ite_none_right_eq_some] at selected
      obtain ⟨accepted, inChildren⟩ := selected
      obtain ⟨index, chosen, descends⟩ := dispatchAt_selected dispatchers
        (fixed.of_subset (List.subset_cons_self ..)) inChildren
      obtain ⟨stored, answer⟩ :=
        canBeDispatchered_eq (.node type2Dispatcher dispatchers) fixed none
      rw [GuardedTree.position, if_pos accepted, chosen] at answer
      have descent := descends 0
      rw [Nat.zero_add] at descent
      rw [dispatch_node_some answer]
      simp only [descent, bind_assoc, pure_bind]
      rfl

theorem dispatchAt_selected (forest : SpecificDispatchers Class Leaf)
    (fixed : env.FixedTests (forest.guards env.processorPacket) packet accepts) {leaf : Leaf}
    (selected : forest.selected env.processorPacket accepts = some leaf) :
    ∃ index, forest.choice env.processorPacket accepts = some index ∧
      ∀ currIndex, env.dispatchAt forest (currIndex + index) currIndex (some packet) = do
        let (_, inst) ← env.dispatchLeaf leaf (some packet)
        return inst := by
  match forest with
  | .last x =>
      rw [selected_last] at selected
      refine ⟨0, ?_, fun currIndex => ?_⟩
      · rw [GuardedForest.choice, selected]
        rfl
      · unfold dispatchAt
        rw [if_pos (Nat.add_zero currIndex).symm, dispatch_selected x fixed selected, bind_assoc]
        simp only [pure_bind]
  | .more x rest =>
      rw [selected_more] at selected
      cases found : x.selected env.processorPacket accepts with
      | some value =>
          rw [found, Option.some_or, Option.some.injEq] at selected
          subst selected
          refine ⟨0, ?_, fun currIndex => ?_⟩
          · rw [GuardedForest.choice, found]
            rfl
          · unfold dispatchAt
            rw [if_pos (Nat.add_zero currIndex).symm, dispatch_selected x
              (fixed.of_subset (List.subset_append_left ..)) found, bind_assoc]
            simp only [pure_bind, Nat.add_zero, dispatchAt_past rest (Nat.lt_succ_self currIndex)]
      | none =>
          rw [found, Option.none_or] at selected
          obtain ⟨index, chosen, descends⟩ := dispatchAt_selected rest
            (fixed.of_subset (List.subset_append_right ..)) selected
          refine ⟨index + 1, ?_, fun currIndex => ?_⟩
          · rw [GuardedForest.choice, found, chosen]
            rfl
          · unfold dispatchAt
            rw [if_neg (by omega), ← descends (currIndex + 1)]
            congr 1
            omega

end

theorem position_of_unselected {tree : IDispatcher Class Leaf}
    (unselected : env.selectedLeaf accepts tree = none) :
    tree.position env.processorPacket accepts = none := by
  have nowhere := position_isSome env.processorPacket accepts tree
  rw [← selectedLeaf, unselected] at nowhere
  exact Option.not_isSome_iff_eq_none.mp (nowhere ▸ Bool.false_ne_true)

/-- A node without an admitted leaf calls nothing and leaves the packet where it is. -/
theorem dispatch_unselected {type2Dispatcher : Class}
    {dispatchers : SpecificDispatchers Class Leaf}
    (fixed : env.FixedTests (env.classes (.node type2Dispatcher dispatchers)) packet accepts)
    (unselected : env.selectedLeaf accepts (.node type2Dispatcher dispatchers) = none) :
    env.dispatch (.node type2Dispatcher dispatchers) (some packet) =
      pure (false, some packet) := by
  obtain ⟨stored, answer⟩ := canBeDispatchered_eq (.node type2Dispatcher dispatchers) fixed none
  rw [position_of_unselected unselected] at answer
  exact dispatch_node_none answer

theorem dispatchByIndex_selected (tree : IDispatcher Class Leaf)
    (fixed : env.FixedTests (env.classes tree) packet accepts) {leaf : Leaf}
    (selected : env.selectedLeaf accepts tree = some leaf) :
    ∃ index, tree.position env.processorPacket accepts = some index ∧
      env.dispatchByIndex tree index (some packet) = do
        let (_, inst) ← env.dispatchLeaf leaf (some packet)
        return inst := by
  cases tree with
  | leaf value =>
      rw [selectedLeaf, selected_leaf, Option.ite_none_right_eq_some, Option.some.injEq] at selected
      obtain ⟨accepted, rfl⟩ := selected
      exact ⟨0, if_pos accepted, rfl⟩
  | node type2Dispatcher dispatchers =>
      rw [selectedLeaf, selected_node, Option.ite_none_right_eq_some] at selected
      obtain ⟨accepted, inChildren⟩ := selected
      obtain ⟨index, chosen, descends⟩ := dispatchAt_selected dispatchers
        (fixed.of_subset (List.subset_cons_self ..)) inChildren
      refine ⟨index, (if_pos accepted).trans chosen, ?_⟩
      have descent := descends 0
      rw [Nat.zero_add] at descent
      exact descent

end

end Dispatching

end TrafficInspector
