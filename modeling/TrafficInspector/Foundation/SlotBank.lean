import Mathlib.Data.List.Basic

/-!
Owns deterministic machines that answer every input, banks of them, and steps
that carry a machine out. In a bank each slot takes only the inputs addressed to
it, so where it ends and what it answers are those of the machine alone on these
inputs, however the others are mixed in between. A step that can fail carries a
machine out when, from a state that represents the machine's, it succeeds, keeps
the representation and shows the machine's answer; a run of such steps does too.
-/

namespace Foundation

universe u v w x y

/-- A deterministic machine with an answer to every input. -/
structure Machine (State : Type u) (Input : Type v) (Output : Type w) where
  next : State → Input → State
  output : State → Input → Output

namespace Machine

variable {State : Type u} {Input : Type v} {Output : Type w} {Key : Type x}

def run (machine : Machine State Input Output) (state : State) (inputs : List Input) : State :=
  inputs.foldl machine.next state

theorem run_concat (machine : Machine State Input Output) (state : State)
    (inputs : List Input) (input : Input) :
    machine.run state (inputs ++ [input]) = machine.next (machine.run state inputs) input :=
  List.foldl_concat machine.next state input inputs

def outputs (machine : Machine State Input Output) : State → List Input → List Output
  | _, [] => []
  | state, input :: rest =>
      machine.output state input :: machine.outputs (machine.next state input) rest

theorem outputs_concat (machine : Machine State Input Output) (state : State)
    (inputs : List Input) (input : Input) :
    machine.outputs state (inputs ++ [input]) =
      machine.outputs state inputs ++ [machine.output (machine.run state inputs) input] := by
  induction inputs generalizing state with
  | nil => rfl
  | cons first rest inductionHypothesis =>
      show _ :: machine.outputs _ (rest ++ [input]) = _
      rw [inductionHypothesis]
      rfl

/-- One slot for each key, all running the machine; an input moves the slots it
is addressed to. -/
def bank (machine : Machine State Input Output) (addressed : Key → Input → Bool) :
    Machine (Key → State) Input (Key → Option Output) where
  next slots input key :=
    if addressed key input then machine.next (slots key) input else slots key
  output slots input key :=
    if addressed key input then some (machine.output (slots key) input) else none

variable {machine : Machine State Input Output} {addressed : Key → Input → Bool}

/-- A slot ends where the machine alone ends on the inputs addressed to the slot. -/
theorem bank_run (slots : Key → State) (inputs : List Input) (key : Key) :
    (machine.bank addressed).run slots inputs key =
      machine.run (slots key) (inputs.filter (addressed key)) := by
  induction inputs generalizing slots with
  | nil => rfl
  | cons input rest inductionHypothesis =>
      have first : (machine.bank addressed).next slots input key =
          if addressed key input then machine.next (slots key) input else slots key := rfl
      rw [run, List.foldl_cons, ← run, inductionHypothesis, first]
      by_cases moves : addressed key input = true
      · rw [if_pos moves, List.filter_cons_of_pos moves]
        rfl
      · rw [if_neg moves, List.filter_cons_of_neg moves]

theorem bank_outputs (slots : Key → State) (inputs : List Input) (key : Key) :
    ((machine.bank addressed).outputs slots inputs).filterMap (fun answers => answers key) =
      machine.outputs (slots key) (inputs.filter (addressed key)) := by
  induction inputs generalizing slots with
  | nil => rfl
  | cons input rest inductionHypothesis =>
      have answer : (machine.bank addressed).output slots input key =
          if addressed key input then some (machine.output (slots key) input) else none := rfl
      have first : (machine.bank addressed).next slots input key =
          if addressed key input then machine.next (slots key) input else slots key := rfl
      rw [outputs, List.filterMap_cons, answer, inductionHypothesis, first]
      by_cases moves : addressed key input = true
      · rw [if_pos moves, if_pos moves, List.filter_cons_of_pos moves]
        rfl
      · rw [if_neg moves, if_neg moves, List.filter_cons_of_neg moves]

end Machine

/-! ### Steps that can fail -/

/-- A step of a run: the state it found, the input it took, the state it left. -/
structure Step (State : Type u) (Input : Type v) where
  before : State
  input : Input
  after : State

section

variable {State : Type u} {Input : Type v} {Output : Type w} {Abstract : Type x}
  {Failure : Type y}

/-- The steps of a run, up to one that fails. -/
def history (step : State → Input → Except Failure State) :
    State → List Input → List (Step State Input)
  | _, [] => []
  | before, input :: rest =>
      match step before input with
      | .ok after => ⟨before, input, after⟩ :: history step after rest
      | .error _ => []

/-- Where the state represents the machine's, a step succeeds, its state
represents the machine's next one, and what is observed of it is the machine's answer. -/
def CarriesOut (step : State → Input → Except Failure State)
    (machine : Machine Abstract Input Output) (Represents : State → Abstract → Prop)
    (observe : Step State Input → Output) : Prop :=
  ∀ state abstract, Represents state abstract → ∀ input, ∃ after,
    step state input = .ok after ∧ Represents after (machine.next abstract input) ∧
      observe ⟨state, input, after⟩ = machine.output abstract input

variable {step : State → Input → Except Failure State} {machine : Machine Abstract Input Output}
  {Represents : State → Abstract → Prop} {observe : Step State Input → Output}

theorem CarriesOut.run (carriesOut : CarriesOut step machine Represents observe)
    {state : State} {abstract : Abstract} (represents : Represents state abstract)
    (inputs : List Input) :
    ∃ final, inputs.foldlM step state = .ok final ∧
      Represents final (machine.run abstract inputs) ∧
      (history step state inputs).map observe = machine.outputs abstract inputs := by
  induction inputs generalizing state abstract with
  | nil => exact ⟨state, rfl, represents, rfl⟩
  | cons input rest inductionHypothesis =>
      obtain ⟨after, stepped, kept, answered⟩ := carriesOut state abstract represents input
      obtain ⟨final, ran, represented, observed⟩ := inductionHypothesis kept
      refine ⟨final, ?_, represented, ?_⟩
      · rw [List.foldlM_cons, stepped]
        exact ran
      · rw [history, stepped]
        show observe ⟨state, input, after⟩ :: (history step after rest).map observe = _
        rw [answered, observed]
        rfl

end

end Foundation
