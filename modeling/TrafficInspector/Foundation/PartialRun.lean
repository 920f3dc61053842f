import Mathlib.Algebra.BigOperators.Group.List.Basic
import Mathlib.Algebra.GroupWithZero.Nat
import Mathlib.Data.List.Basic

/-!
Owns runs of a step that is not always possible: a run takes its inputs in order, and is
possible when each of its steps is. Whatever every step keeps, a run keeps; a run whose steps
lower a measure comes to an end; what a run shows on its way is its trace; and when every step
is one of another system, seen through a view of the states, every run is one of it.
-/

namespace Foundation

universe u v

variable {State : Type u} {Input : Type v} {step : State → Input → Option State}

/-- Take the inputs one after the other. -/
def partialRun (step : State → Input → Option State) (state : State) (inputs : List Input) :
    Option State :=
  inputs.foldlM step state

@[simp] theorem partialRun_nil (state : State) : partialRun step state [] = some state :=
  rfl

theorem partialRun_cons {state final : State} {input : Input} {rest : List Input} :
    partialRun step state (input :: rest) = some final ↔
      ∃ next, step state input = some next ∧ partialRun step next rest = some final := by
  rw [partialRun, List.foldlM_cons]
  exact Option.bind_eq_some_iff

theorem partialRun_append {state final : State} {front back : List Input} :
    partialRun step state (front ++ back) = some final ↔
      ∃ middle, partialRun step state front = some middle ∧
        partialRun step middle back = some final := by
  rw [partialRun, List.foldlM_append]
  exact Option.bind_eq_some_iff

/-- What every step by an allowed input keeps, a run of allowed inputs keeps. -/
theorem partialRun_invariant (Allowed : Input → Prop) (Invariant : State → Prop)
    (kept : ∀ state input next, Allowed input → step state input = some next →
      Invariant state → Invariant next)
    {state final : State} {inputs : List Input} (allowed : ∀ input ∈ inputs, Allowed input)
    (ran : partialRun step state inputs = some final) (holds : Invariant state) :
    Invariant final := by
  induction inputs generalizing state with
  | nil =>
      cases ran
      exact holds
  | cons input rest inductionHypothesis =>
      obtain ⟨next, stepped, ran⟩ := partialRun_cons.mp ran
      exact inductionHypothesis (fun other member => allowed other (.tail input member)) ran
        (kept state input next (allowed input List.mem_cons_self) stepped holds)

/-- What is done to one place after the other is done to all. -/
theorem partialRun_set_range {Value : Type u} (change : Value → Value) (values : List Value) :
    partialRun (fun values index => values[index]?.map fun value => values.set index (change value))
      values (List.range values.length) = some (values.map change) := by
  have upTo (count : Nat) (inside : count ≤ values.length) :
      partialRun
        (fun values index => values[index]?.map fun value => values.set index (change value))
        values (List.range count) = some ((values.take count).map change ++ values.drop count) := by
    induction count with
    | zero => rfl
    | succ count inductionHypothesis =>
        rw [List.range_succ]
        refine partialRun_append.mpr ⟨_, inductionHypothesis (Nat.le_of_succ_le inside),
          partialRun_cons.mpr ⟨_, ?_, rfl⟩⟩
        have changed : ((values.take count).map change).length = count := by
          rw [List.length_map, List.length_take, Nat.min_eq_left (Nat.le_of_succ_le inside)]
        rw [List.getElem?_append_right (Nat.le_of_eq changed), changed, Nat.sub_self,
          List.drop_eq_getElem_cons inside, List.getElem?_cons_zero, Option.map_some,
          List.set_append_right _ _ (Nat.le_of_eq changed), changed, Nat.sub_self,
          List.set_cons_zero, List.take_succ_eq_append_getElem inside, List.map_append,
          List.append_assoc]
        rfl
  have all := upTo values.length (Nat.le_refl _)
  rwa [List.take_length, List.drop_length, List.append_nil] at all

/-! ### Runs that a guard watches -/

/-- The steps that the guard lets pass. -/
def guarded (guard : State → Input → Bool) (step : State → Input → Option State) :
    State → Input → Option State :=
  fun state input => if guard state input then step state input else none

variable {guard : State → Input → Bool}

theorem guarded_eq_some {state next : State} {input : Input} :
    guarded guard step state input = some next ↔
      guard state input = true ∧ step state input = some next := by
  cases passes : guard state input <;> simp [guarded, passes]

theorem partialRun_of_guarded {state final : State} {inputs : List Input}
    (ran : partialRun (guarded guard step) state inputs = some final) :
    partialRun step state inputs = some final := by
  induction inputs generalizing state with
  | nil => exact ran
  | cons input rest inductionHypothesis =>
      obtain ⟨next, stepped, ran⟩ := partialRun_cons.mp ran
      exact partialRun_cons.mpr
        ⟨next, (guarded_eq_some.mp stepped).2, inductionHypothesis ran⟩

/-- Inputs that the guard always lets pass. -/
theorem partialRun_guarded {state final : State} {inputs : List Input}
    (passes : ∀ input ∈ inputs, ∀ state, guard state input = true)
    (ran : partialRun step state inputs = some final) :
    partialRun (guarded guard step) state inputs = some final := by
  induction inputs generalizing state with
  | nil => exact ran
  | cons input rest inductionHypothesis =>
      obtain ⟨next, stepped, ran⟩ := partialRun_cons.mp ran
      refine partialRun_cons.mpr ⟨next, guarded_eq_some.mpr ⟨?_, stepped⟩, ?_⟩
      · exact passes input List.mem_cons_self state
      · exact inductionHypothesis (fun other member => passes other (.tail input member)) ran

/-! ### Runs that come to an end -/

/-- What the steps spend is covered by what there is at first and what they gain. -/
theorem partialRun_balance (Allowed : Input → Prop) (Invariant : State → Prop)
    (balance : State → Nat) (spent gained : Input → Nat)
    (kept : ∀ state input next, Allowed input → step state input = some next →
      Invariant state → Invariant next ∧ balance next + spent input ≤ balance state + gained input)
    {state final : State} {inputs : List Input} (allowed : ∀ input ∈ inputs, Allowed input)
    (ran : partialRun step state inputs = some final) (holds : Invariant state) :
    balance final + (inputs.map spent).sum ≤ balance state + (inputs.map gained).sum := by
  induction inputs generalizing state with
  | nil =>
      cases ran
      exact Nat.le_refl _
  | cons input rest inductionHypothesis =>
      obtain ⟨next, stepped, ran⟩ := partialRun_cons.mp ran
      obtain ⟨holdsNext, first⟩ :=
        kept state input next (allowed input List.mem_cons_self) stepped holds
      have others := inductionHypothesis (fun other member => allowed other (.tail input member))
        ran holdsNext
      rw [List.map_cons, List.sum_cons, List.map_cons, List.sum_cons]
      omega

/-- Where each step keeps a balance, spends one of it or gains one, a run does so many. -/
theorem partialRun_account (Allowed : Input → Prop) (Invariant : State → Prop)
    (balance : State → Nat) (spends gains : Input → Bool)
    (kept : ∀ state input next, Allowed input → step state input = some next → Invariant state →
      Invariant next ∧ (spends input).toNat + balance next =
        balance state + (gains input).toNat)
    {state final : State} {inputs : List Input} (allowed : ∀ input ∈ inputs, Allowed input)
    (ran : partialRun step state inputs = some final) (holds : Invariant state) :
    inputs.countP spends + balance final = balance state + inputs.countP gains := by
  induction inputs generalizing state with
  | nil =>
      cases ran
      exact Nat.add_comm 0 _
  | cons input rest inductionHypothesis =>
      obtain ⟨next, stepped, ran⟩ := partialRun_cons.mp ran
      obtain ⟨holdsNext, first⟩ :=
        kept state input next (allowed input List.mem_cons_self) stepped holds
      have others := inductionHypothesis (fun other member => allowed other (.tail input member))
        ran holdsNext
      rw [List.countP_cons, List.countP_cons]
      cases spent : spends input <;> cases gained : gains input <;>
        rw [spent, gained] at first <;> simp at first ⊢ <;> omega

/-- Of the steps that a measure pays for there are no more than it is. -/
theorem partialRun_countP (Invariant : State → Prop) (measure : State → Nat) (paid : Input → Bool)
    (kept : ∀ state input next, step state input = some next → Invariant state →
      Invariant next ∧ measure next + (paid input).toNat ≤ measure state)
    {state final : State} {inputs : List Input} (ran : partialRun step state inputs = some final)
    (holds : Invariant state) : measure final + inputs.countP paid ≤ measure state := by
  induction inputs generalizing state with
  | nil =>
      cases ran
      exact Nat.le_refl _
  | cons input rest inductionHypothesis =>
      obtain ⟨next, stepped, ran⟩ := partialRun_cons.mp ran
      obtain ⟨holdsNext, first⟩ := kept state input next stepped holds
      have others := inductionHypothesis ran holdsNext
      rw [List.countP_cons]
      cases isPaid : paid input <;> rw [isPaid] at first <;> simp at first ⊢ <;> omega

/-- Where some allowed run lowers a measure from every state that is not done, a run gets done. -/
theorem partialRun_reaches (Allowed : Input → Prop) (Invariant Done : State → Prop)
    (measure : State → Nat)
    (progress : ∀ state, Invariant state → ¬ Done state →
      ∃ inputs next, (∀ input ∈ inputs, Allowed input) ∧
        partialRun step state inputs = some next ∧ Invariant next ∧ measure next < measure state)
    {state : State} (holds : Invariant state) :
    ∃ inputs final, (∀ input ∈ inputs, Allowed input) ∧
      partialRun step state inputs = some final ∧ Invariant final ∧ Done final := by
  induction bound : measure state using Nat.strongRecOn generalizing state with
  | ind count inductionHypothesis =>
      by_cases done : Done state
      · exact ⟨[], state, fun _ member => (List.not_mem_nil member).elim, rfl, holds, done⟩
      · obtain ⟨front, next, allowedFront, ranFront, holdsNext, lower⟩ :=
          progress state holds done
        obtain ⟨back, final, allowedBack, ranBack, holdsFinal, done⟩ :=
          inductionHypothesis (measure next) (bound ▸ lower) holdsNext rfl
        refine ⟨front ++ back, final, ?_, partialRun_append.mpr ⟨next, ranFront, ranBack⟩,
          holdsFinal, done⟩
        intro input member
        exact (List.mem_append.mp member).elim (allowedFront input) (allowedBack input)

/-- Where all runs are short, one goes on until no step is possible. -/
theorem partialRun_exhausts {state : State} (bound : Nat)
    (short : ∀ inputs final, partialRun step state inputs = some final →
      inputs.length ≤ bound) :
    ∃ inputs final, partialRun step state inputs = some final ∧
      ∀ input, step final input = none := by
  induction bound generalizing state with
  | zero =>
      refine ⟨[], state, rfl, fun input => Option.eq_none_iff_forall_ne_some.mpr ?_⟩
      intro next stepped
      exact absurd (short [input] next (partialRun_cons.mpr ⟨next, stepped, rfl⟩)) (by simp)
  | succ bound inductionHypothesis =>
      by_cases goesOn : ∃ input next, step state input = some next
      · obtain ⟨input, next, stepped⟩ := goesOn
        obtain ⟨inputs, final, ran, stuck⟩ := inductionHypothesis fun inputs final ran =>
          Nat.le_of_succ_le_succ
            (short (input :: inputs) final (partialRun_cons.mpr ⟨next, stepped, ran⟩))
        exact ⟨input :: inputs, final, partialRun_cons.mpr ⟨next, stepped, ran⟩, stuck⟩
      · refine ⟨[], state, rfl, fun input => Option.eq_none_iff_forall_ne_some.mpr ?_⟩
        exact fun next stepped => goesOn ⟨input, next, stepped⟩

/-- By allowed inputs, whatever their order, it comes to an end after so many, and then it is
so. -/
def ComesToWithin (bound : Nat) (step : State → Input → Option State) (Allowed : Input → Prop)
    (Done : State → Prop) (state : State) : Prop :=
  ∀ inputs final, (∀ input ∈ inputs, Allowed input) →
    partialRun step state inputs = some final →
      inputs.length ≤ bound ∧
        ((∀ input, Allowed input → step final input = none) → Done final)

def ComesTo (step : State → Input → Option State) (Allowed : Input → Prop) (Done : State → Prop)
    (state : State) : Prop :=
  ∃ bound, ComesToWithin bound step Allowed Done state

/-- What lowers a measure comes to where it can go no further. -/
theorem comesTo_of_measure {Allowed : Input → Prop} {Done : State → Prop}
    (Invariant : State → Prop) (measure : State → Nat)
    (kept : ∀ state input next, Allowed input → step state input = some next →
      Invariant state → Invariant next ∧ measure next + 1 ≤ measure state)
    (ends : ∀ state, Invariant state → (∀ input, Allowed input → step state input = none) →
      Done state)
    {state : State} (holds : Invariant state) :
    ComesToWithin (measure state) step Allowed Done state := by
  refine fun inputs final allowed ran => ⟨?_, ?_⟩
  · have balance := partialRun_balance Allowed Invariant measure (fun _ => 1) (fun _ => 0)
      kept allowed ran holds
    simp at balance
    omega
  · exact ends final (partialRun_invariant Allowed Invariant
      (fun _ _ _ isAllowed stepped holds => (kept _ _ _ isAllowed stepped holds).1) allowed ran
      holds)

/-- Some way of going on gets it done. -/
theorem ComesToWithin.arrives {bound : Nat} {Allowed : Input → Prop} {Done : State → Prop}
    {state : State} (comesTo : ComesToWithin bound step Allowed Done state) :
    ∃ inputs final, (∀ input ∈ inputs, Allowed input) ∧
      partialRun step state inputs = some final ∧ Done final := by
  induction bound generalizing state with
  | zero =>
      refine ⟨[], state, fun _ member => (List.not_mem_nil member).elim, rfl, ?_⟩
      refine (comesTo [] state (fun _ member => (List.not_mem_nil member).elim) rfl).2 ?_
      intro input allowed
      refine Option.eq_none_iff_forall_ne_some.mpr fun next stepped => ?_
      have short := (comesTo [input] next (List.forall_mem_singleton.mpr allowed)
        (partialRun_cons.mpr ⟨next, stepped, rfl⟩)).1
      exact absurd short (by simp)
  | succ bound inductionHypothesis =>
      by_cases goesOn : ∃ input next, Allowed input ∧ step state input = some next
      · obtain ⟨input, next, allowed, stepped⟩ := goesOn
        obtain ⟨inputs, final, allAllowed, ran, done⟩ := @inductionHypothesis next fun inputs final
            allAllowed ran => by
          obtain ⟨short, ends⟩ := comesTo (input :: inputs) final
            (List.forall_mem_cons.mpr ⟨allowed, allAllowed⟩)
            (partialRun_cons.mpr ⟨next, stepped, ran⟩)
          exact ⟨Nat.le_of_succ_le_succ short, ends⟩
        exact ⟨input :: inputs, final, List.forall_mem_cons.mpr ⟨allowed, allAllowed⟩,
          partialRun_cons.mpr ⟨next, stepped, ran⟩, done⟩
      · refine ⟨[], state, fun _ member => (List.not_mem_nil member).elim, rfl, ?_⟩
        refine (comesTo [] state (fun _ member => (List.not_mem_nil member).elim) rfl).2 ?_
        intro input allowed
        exact Option.eq_none_iff_forall_ne_some.mpr fun next stepped =>
          goesOn ⟨input, next, allowed, stepped⟩

/-- Where it can go no further, it is done. -/
theorem ComesTo.of_stuck {Allowed : Input → Prop} {Done : State → Prop} {state final : State}
    {inputs : List Input} (comesTo : ComesTo step Allowed Done state)
    (allowed : ∀ input ∈ inputs, Allowed input) (ran : partialRun step state inputs = some final)
    (stuck : ∀ input, Allowed input → step final input = none) : Done final := by
  obtain ⟨bound, ends⟩ := comesTo
  exact (ends inputs final allowed ran).2 stuck

/-! ### What a run shows -/

section

universe z

variable {Output : Type z} {label : State → Input → List Output}

/-- What the steps show, one after the other, up to one that is not possible. -/
def partialTrace (label : State → Input → List Output) (step : State → Input → Option State) :
    State → List Input → List Output
  | _, [] => []
  | state, input :: rest =>
      match step state input with
      | some next => label state input ++ partialTrace label step next rest
      | none => []

theorem partialTrace_cons {state next : State} {input : Input}
    (stepped : step state input = some next) (rest : List Input) :
    partialTrace label step state (input :: rest) =
      label state input ++ partialTrace label step next rest := by
  rw [partialTrace, stepped]

theorem partialTrace_append {state middle : State} {front : List Input}
    (ran : partialRun step state front = some middle) (back : List Input) :
    partialTrace label step state (front ++ back) =
      partialTrace label step state front ++ partialTrace label step middle back := by
  induction front generalizing state with
  | nil =>
      cases ran
      rfl
  | cons input rest inductionHypothesis =>
      obtain ⟨next, stepped, ran⟩ := partialRun_cons.mp ran
      rw [List.cons_append, partialTrace_cons stepped, partialTrace_cons stepped,
        inductionHypothesis ran, List.append_assoc]

/-- Where each step shows one thing or nothing, as much is shown as there are such steps. -/
theorem length_partialTrace (shows : Input → Bool)
    (alone : ∀ state input, (label state input).length = (shows input).toNat)
    {state final : State} {inputs : List Input}
    (ran : partialRun step state inputs = some final) :
    (partialTrace label step state inputs).length = inputs.countP shows := by
  induction inputs generalizing state with
  | nil => rfl
  | cons input rest inductionHypothesis =>
      obtain ⟨next, stepped, ran⟩ := partialRun_cons.mp ran
      rw [partialTrace_cons stepped, List.length_append, alone, inductionHypothesis ran,
        List.countP_cons, Nat.add_comm]
      cases shows input <;> rfl

/-- What holds of every step's state, with all that has been shown before it, holds at the end. -/
theorem partialTrace_invariant (Invariant : List Output → State → Prop)
    (kept : ∀ shown state input next, step state input = some next →
      Invariant shown state → Invariant (shown ++ label state input) next)
    {state final : State} {inputs : List Input} {shown : List Output}
    (ran : partialRun step state inputs = some final) (holds : Invariant shown state) :
    Invariant (shown ++ partialTrace label step state inputs) final := by
  induction inputs generalizing state shown with
  | nil =>
      cases ran
      rwa [partialTrace, List.append_nil]
  | cons input rest inductionHypothesis =>
      obtain ⟨next, stepped, ran⟩ := partialRun_cons.mp ran
      rw [partialTrace_cons stepped, ← List.append_assoc]
      exact inductionHypothesis ran (kept shown state input next stepped holds)

/-- What one of the parties has shown. -/
def shownBy (party : Nat) (shown : List (Nat × Output)) : List Output :=
  shown.filterMap fun event => if event.1 = party then some event.2 else none

@[simp] theorem shownBy_append (party : Nat) (front back : List (Nat × Output)) :
    shownBy party (front ++ back) = shownBy party front ++ shownBy party back :=
  List.filterMap_append

@[simp] theorem shownBy_self (party : Nat) (events : List Output) :
    shownBy party (events.map (Prod.mk party)) = events := by
  simp [shownBy, List.filterMap_map]

theorem shownBy_of_ne {party other : Nat} (apart : other ≠ party) (events : List Output) :
    shownBy party (events.map (Prod.mk other)) = [] := by
  simp [shownBy, List.filterMap_map, apart]

/-- Every one of the parties shows the same. -/
theorem shownBy_range (party parties : Nat) (event : Output) :
    shownBy party ((List.range parties).map fun other => (other, event)) =
      if party < parties then [event] else [] := by
  induction parties with
  | zero => rfl
  | succ parties inductionHypothesis =>
      rw [List.range_succ, List.map_append, shownBy_append, inductionHypothesis]
      by_cases last : parties = party
      · subst last
        simp [shownBy]
      · have same : party < parties + 1 ↔ party < parties := by omega
        simp [shownBy, last, same]

end

/-! ### Runs of another system -/

section

universe w x

variable {View : Type w} {ViewInput : Type x} {viewStep : View → ViewInput → Option View}
  (view : State → View) (Allowed : Input → Prop)

theorem partialRun_seen
    (seen : ∀ state input next, Allowed input → step state input = some next →
      ∃ viewInput, viewStep (view state) viewInput = some (view next))
    {state final : State} {inputs : List Input} (allowed : ∀ input ∈ inputs, Allowed input)
    (ran : partialRun step state inputs = some final) :
    ∃ viewInputs, partialRun viewStep (view state) viewInputs = some (view final) := by
  induction inputs generalizing state with
  | nil =>
      cases ran
      exact ⟨[], rfl⟩
  | cons input rest inductionHypothesis =>
      obtain ⟨next, stepped, ran⟩ := partialRun_cons.mp ran
      obtain ⟨first, seenFirst⟩ := seen state input next (allowed input List.mem_cons_self) stepped
      obtain ⟨others, seenRest⟩ :=
        inductionHypothesis (fun other member => allowed other (.tail input member)) ran
      exact ⟨first :: others, partialRun_cons.mpr ⟨view next, seenFirst, seenRest⟩⟩

/-- A simulation in which a step may stand for any number of steps of the other system. -/
theorem partialRun_simulated (Related : State → View → Prop) (standsFor : Input → List ViewInput)
    (kept : ∀ state input next viewed, Allowed input → step state input = some next →
      Related state viewed → ∃ viewNext,
        partialRun viewStep viewed (standsFor input) = some viewNext ∧ Related next viewNext)
    {state final : State} {viewed : View} {inputs : List Input}
    (allowed : ∀ input ∈ inputs, Allowed input) (ran : partialRun step state inputs = some final)
    (related : Related state viewed) :
    ∃ viewFinal, partialRun viewStep viewed (inputs.flatMap standsFor) = some viewFinal ∧
      Related final viewFinal := by
  induction inputs generalizing state viewed with
  | nil =>
      cases ran
      exact ⟨viewed, rfl, related⟩
  | cons input rest inductionHypothesis =>
      obtain ⟨next, stepped, ran⟩ := partialRun_cons.mp ran
      obtain ⟨viewNext, first, relatedNext⟩ :=
        kept state input next viewed (allowed input List.mem_cons_self) stepped related
      obtain ⟨viewFinal, others, relatedFinal⟩ :=
        inductionHypothesis (fun other member => allowed other (.tail input member)) ran relatedNext
      exact ⟨viewFinal, partialRun_append.mpr ⟨viewNext, first, others⟩, relatedFinal⟩

/-- A system in whose place another takes any number of steps for each of its own. -/
theorem partialRun_expands (AllowedView : ViewInput → Prop)
    (expands : ∀ state input next, Allowed input → step state input = some next →
      ∃ viewInputs, (∀ viewInput ∈ viewInputs, AllowedView viewInput) ∧
        partialRun viewStep (view state) viewInputs = some (view next))
    {state final : State} {inputs : List Input} (allowed : ∀ input ∈ inputs, Allowed input)
    (ran : partialRun step state inputs = some final) :
    ∃ viewInputs, (∀ viewInput ∈ viewInputs, AllowedView viewInput) ∧
      partialRun viewStep (view state) viewInputs = some (view final) := by
  induction inputs generalizing state with
  | nil =>
      cases ran
      exact ⟨[], fun _ member => (List.not_mem_nil member).elim, rfl⟩
  | cons input rest inductionHypothesis =>
      obtain ⟨next, stepped, ran⟩ := partialRun_cons.mp ran
      obtain ⟨allowedInput, allowedRest⟩ := List.forall_mem_cons.mp allowed
      obtain ⟨front, allowedFront, ranFront⟩ := expands state input next allowedInput stepped
      obtain ⟨back, allowedBack, ranBack⟩ := inductionHypothesis allowedRest ran
      refine ⟨front ++ back, fun viewInput member => ?_,
        partialRun_append.mpr ⟨_, ranFront, ranBack⟩⟩
      exact (List.mem_append.mp member).elim (allowedFront viewInput) (allowedBack viewInput)

/-- A system inside another runs there as it runs alone. -/
theorem partialRun_inside (name : Input → ViewInput)
    (inside : ∀ state input, viewStep (view state) (name input) = (step state input).map view)
    (state : State) (inputs : List Input) :
    partialRun viewStep (view state) (inputs.map name) =
      (partialRun step state inputs).map view := by
  induction inputs generalizing state with
  | nil => rfl
  | cons input rest inductionHypothesis =>
      rw [List.map_cons, partialRun, List.foldlM_cons, partialRun, List.foldlM_cons, inside]
      cases step state input with
      | none => rfl
      | some next => exact inductionHypothesis next

/-- The converse: what the other system does from a view, the system does. -/
theorem partialRun_carriedOut (Invariant : State → Prop)
    (carriedOut : ∀ state viewInput viewNext, Invariant state →
      viewStep (view state) viewInput = some viewNext →
        ∃ input next, Allowed input ∧ step state input = some next ∧ view next = viewNext ∧
          Invariant next)
    {state : State} (holds : Invariant state) {viewInputs : List ViewInput} {viewFinal : View}
    (ran : partialRun viewStep (view state) viewInputs = some viewFinal) :
    ∃ inputs final, (∀ input ∈ inputs, Allowed input) ∧
      partialRun step state inputs = some final ∧ view final = viewFinal ∧ Invariant final := by
  induction viewInputs generalizing state with
  | nil =>
      cases ran
      exact ⟨[], state, fun _ member => (List.not_mem_nil member).elim, rfl, rfl, holds⟩
  | cons viewInput rest inductionHypothesis =>
      obtain ⟨viewNext, viewStepped, ran⟩ := partialRun_cons.mp ran
      obtain ⟨input, next, allowed, stepped, rfl, kept⟩ :=
        carriedOut state viewInput viewNext holds viewStepped
      obtain ⟨others, final, allAllowed, ranRest, atEnd⟩ := inductionHypothesis kept ran
      exact ⟨input :: others, final, List.forall_mem_cons.mpr ⟨allowed, allAllowed⟩,
        partialRun_cons.mpr ⟨next, stepped, ranRest⟩, atEnd⟩

end

end Foundation
