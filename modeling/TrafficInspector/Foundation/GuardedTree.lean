import Mathlib.Data.List.Find

/-!
Owns trees whose inner nodes carry a guard and at least one child, and whose
leaves carry a value with a guard of its own. A leaf is admitted when its own
guard and those of all nodes above it hold; the selected leaf is the leftmost
admitted one. Descending by guards and searching the list of leaves with their
guards come to the same, and so does searching the bare leaves once every leaf
covers the nodes above it.
-/

namespace Foundation

universe u v

mutual

/-- A leaf, or a guarded node over at least one tree. -/
inductive GuardedTree (Guard : Type u) (Leaf : Type v) : Type (max u v) where
  | leaf (value : Leaf)
  | node (guard : Guard) (children : GuardedForest Guard Leaf)

inductive GuardedForest (Guard : Type u) (Leaf : Type v) : Type (max u v) where
  | last (tree : GuardedTree Guard Leaf)
  | more (tree : GuardedTree Guard Leaf) (rest : GuardedForest Guard Leaf)

end

variable {Guard : Type u} {Leaf : Type v}

/-- A leaf with its guards, seen from above one more guard. -/
def underGuard (guard : Guard) (path : List Guard × Leaf) : List Guard × Leaf :=
  (guard :: path.1, path.2)

section

variable (guardOf : Leaf → Guard)

mutual

/-- The leaves from left to right, each with its guards, outermost first. -/
def GuardedTree.paths : GuardedTree Guard Leaf → List (List Guard × Leaf)
  | .leaf value => [([guardOf value], value)]
  | .node guard children => children.paths.map (underGuard guard)

def GuardedForest.paths : GuardedForest Guard Leaf → List (List Guard × Leaf)
  | .last tree => tree.paths
  | .more tree rest => tree.paths ++ rest.paths

end

mutual

/-- The guards of the nodes and of the leaves. -/
def GuardedTree.guards : GuardedTree Guard Leaf → List Guard
  | .leaf value => [guardOf value]
  | .node guard children => guard :: children.guards

def GuardedForest.guards : GuardedForest Guard Leaf → List Guard
  | .last tree => tree.guards
  | .more tree rest => tree.guards ++ rest.guards

end

mutual

def GuardedTree.leaves : GuardedTree Guard Leaf → List Leaf
  | .leaf value => [value]
  | .node _ children => children.leaves

def GuardedForest.leaves : GuardedForest Guard Leaf → List Leaf
  | .last tree => tree.leaves
  | .more tree rest => tree.leaves ++ rest.leaves

end

variable {Other : Type v} (change : Leaf → Other)

mutual

/-- The tree with every leaf's value changed. -/
def GuardedTree.map : GuardedTree Guard Leaf → GuardedTree Guard Other
  | .leaf value => .leaf (change value)
  | .node guard children => .node guard children.map

def GuardedForest.map : GuardedForest Guard Leaf → GuardedForest Guard Other
  | .last tree => .last tree.map
  | .more tree rest => .more tree.map rest.map

end

mutual

theorem GuardedTree.leaves_map : (tree : GuardedTree Guard Leaf) →
    (tree.map change).leaves = tree.leaves.map change
  | .leaf _ => rfl
  | .node _ children => by
      rw [GuardedTree.map, GuardedTree.leaves, GuardedTree.leaves, GuardedForest.leaves_map]

theorem GuardedForest.leaves_map : (forest : GuardedForest Guard Leaf) →
    (forest.map change).leaves = forest.leaves.map change
  | .last tree => by
      rw [GuardedForest.map, GuardedForest.leaves, GuardedForest.leaves, GuardedTree.leaves_map]
  | .more tree rest => by
      rw [GuardedForest.map, GuardedForest.leaves, GuardedForest.leaves, List.map_append,
        GuardedTree.leaves_map, GuardedForest.leaves_map]

end

variable (holds : Guard → Bool)

def leftmost (paths : List (List Guard × Leaf)) : Option Leaf :=
  (paths.find? fun path => path.1.all holds).map Prod.snd

/-- The leftmost leaf all of whose guards hold. -/
def GuardedTree.selected (tree : GuardedTree Guard Leaf) : Option Leaf :=
  leftmost holds (tree.paths guardOf)

def GuardedForest.selected (forest : GuardedForest Guard Leaf) : Option Leaf :=
  leftmost holds (forest.paths guardOf)

/-! ### Selection by descent -/

theorem selected_leaf (value : Leaf) :
    (GuardedTree.leaf value : GuardedTree Guard Leaf).selected guardOf holds =
      if holds (guardOf value) then some value else none := by
  unfold GuardedTree.selected leftmost GuardedTree.paths
  by_cases admitted : holds (guardOf value) = true
  · simp [admitted]
  · simp [admitted]

theorem selected_node (guard : Guard) (children : GuardedForest Guard Leaf) :
    (GuardedTree.node guard children).selected guardOf holds =
      if holds guard then children.selected guardOf holds else none := by
  unfold GuardedTree.selected GuardedForest.selected leftmost GuardedTree.paths
  rw [List.find?_map, Option.map_map]
  by_cases open_ : holds guard = true
  · rw [if_pos open_]
    have same : (fun path : List Guard × Leaf => path.1.all holds) ∘ underGuard guard =
        fun path => path.1.all holds := by
      funext path
      simp [underGuard, open_]
    rw [same]
    rfl
  · rw [if_neg open_]
    have closed : ∀ path ∈ children.paths guardOf,
        ¬ ((fun path : List Guard × Leaf => path.1.all holds) ∘ underGuard guard) path = true := by
      intro path _
      simp [underGuard, open_]
    rw [List.find?_eq_none.mpr closed]
    rfl

theorem selected_last (tree : GuardedTree Guard Leaf) :
    (GuardedForest.last tree).selected guardOf holds = tree.selected guardOf holds :=
  rfl

theorem selected_more (tree : GuardedTree Guard Leaf) (rest : GuardedForest Guard Leaf) :
    (GuardedForest.more tree rest).selected guardOf holds =
      (tree.selected guardOf holds).or (rest.selected guardOf holds) := by
  unfold GuardedTree.selected GuardedForest.selected leftmost
  rw [GuardedForest.paths, List.find?_append, Option.map_or]

/-- The position of the first child that has an admitted leaf. -/
def GuardedForest.choice : GuardedForest Guard Leaf → Option Nat
  | .last tree => if (tree.selected guardOf holds).isSome then some 0 else none
  | .more tree rest =>
      if (tree.selected guardOf holds).isSome then some 0 else rest.choice.map (· + 1)

theorem choice_isSome (forest : GuardedForest Guard Leaf) :
    (forest.choice guardOf holds).isSome = (forest.selected guardOf holds).isSome := by
  match forest with
  | .last tree =>
      rw [GuardedForest.choice, selected_last]
      cases tree.selected guardOf holds <;> rfl
  | .more tree rest =>
      rw [GuardedForest.choice, selected_more]
      cases tree.selected guardOf holds with
      | none => simpa using choice_isSome rest
      | some value => rfl

/-- The position a descent takes at the root: the chosen child of an open node,
and the first position for an admitted leaf. -/
def GuardedTree.position : GuardedTree Guard Leaf → Option Nat
  | .leaf value => if holds (guardOf value) then some 0 else none
  | .node guard children => if holds guard then children.choice guardOf holds else none

theorem position_isSome (tree : GuardedTree Guard Leaf) :
    (tree.position guardOf holds).isSome = (tree.selected guardOf holds).isSome := by
  cases tree with
  | leaf value =>
      rw [GuardedTree.position, selected_leaf]
      split <;> rfl
  | node guard children =>
      rw [GuardedTree.position, selected_node]
      by_cases open_ : holds guard = true
      · rw [if_pos open_, if_pos open_, choice_isSome]
      · rw [if_neg open_, if_neg open_]
        rfl

/-! ### Selection among the bare leaves -/

mutual

theorem GuardedTree.paths_leaves (tree : GuardedTree Guard Leaf) :
    (tree.paths guardOf).map Prod.snd = tree.leaves := by
  match tree with
  | .leaf value => rfl
  | .node guard children =>
      rw [GuardedTree.paths, GuardedTree.leaves, List.map_map, ← children.paths_leaves]
      rfl

theorem GuardedForest.paths_leaves (forest : GuardedForest Guard Leaf) :
    (forest.paths guardOf).map Prod.snd = forest.leaves := by
  match forest with
  | .last tree => exact tree.paths_leaves
  | .more tree rest =>
      rw [GuardedForest.paths, GuardedForest.leaves, List.map_append, tree.paths_leaves,
        rest.paths_leaves]

end

mutual

theorem GuardedTree.leaves_guards (tree : GuardedTree Guard Leaf) :
    tree.leaves.map guardOf ⊆ tree.guards guardOf := by
  match tree with
  | .leaf value => exact List.Subset.refl _
  | .node guard children => exact List.subset_cons_of_subset guard children.leaves_guards

theorem GuardedForest.leaves_guards (forest : GuardedForest Guard Leaf) :
    forest.leaves.map guardOf ⊆ forest.guards guardOf := by
  match forest with
  | .last tree => exact tree.leaves_guards
  | .more tree rest =>
      rw [GuardedForest.leaves, GuardedForest.guards, List.map_append]
      exact List.append_subset.mpr ⟨List.subset_append_of_subset_left _ tree.leaves_guards,
        List.subset_append_of_subset_right _ rest.leaves_guards⟩

end

mutual

theorem GuardedTree.own_guard_mem (tree : GuardedTree Guard Leaf) :
    ∀ path ∈ tree.paths guardOf, guardOf path.2 ∈ path.1 := by
  match tree with
  | .leaf value =>
      intro path member
      rw [GuardedTree.paths, List.mem_singleton] at member
      subst member
      exact List.mem_singleton.mpr rfl
  | .node guard children =>
      intro path member
      rw [GuardedTree.paths, List.mem_map] at member
      obtain ⟨inner, inside, rfl⟩ := member
      exact List.mem_cons_of_mem guard (children.own_guard_mem inner inside)

theorem GuardedForest.own_guard_mem (forest : GuardedForest Guard Leaf) :
    ∀ path ∈ forest.paths guardOf, guardOf path.2 ∈ path.1 := by
  match forest with
  | .last tree => exact tree.own_guard_mem
  | .more tree rest =>
      intro path member
      rw [GuardedForest.paths, List.mem_append] at member
      rcases member with inTree | inRest
      · exact tree.own_guard_mem path inTree
      · exact rest.own_guard_mem path inRest

end

/-- A leaf whose own guard holds has all its guards hold. -/
def GuardedTree.Covered (tree : GuardedTree Guard Leaf) : Prop :=
  ∀ path ∈ tree.paths guardOf, holds (guardOf path.2) = true → path.1.all holds = true

/-- In a covered tree the guards of the nodes make no difference. -/
theorem selected_of_covered (tree : GuardedTree Guard Leaf)
    (covered : tree.Covered guardOf holds) :
    tree.selected guardOf holds = tree.leaves.find? fun value => holds (guardOf value) := by
  have sameTest : ∀ path ∈ tree.paths guardOf,
      path.1.all holds = holds (guardOf path.2) := by
    intro path member
    rw [Bool.eq_iff_iff]
    constructor
    · intro all
      exact List.all_eq_true.mp all _ (tree.own_guard_mem guardOf path member)
    · exact covered path member
  unfold GuardedTree.selected leftmost
  rw [List.find?_congr sameTest, ← tree.paths_leaves guardOf, List.find?_map]
  rfl

end

end Foundation
