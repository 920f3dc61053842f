import Mathlib.Data.List.Basic

/-!
Owns `while` loops whose body may fail: a guard, a body that records what one
iteration observed and either fails or moves the state on, and a bound on the
number of iterations. A run yields the observations in order and the way it
ended. The rules proved here are the unfolding equations, what they say of a
loop that may take any number of iterations, and how many a loop takes that gets
ahead by a stride in each.
-/

namespace Foundation

universe u v w

section

variable {State : Type u} {Observation : Type v} {Failure : Type w}

/-- Run the loop for at most `fuel` iterations; a guard that still holds after
that ends the run with `exhausted`. -/
def fueledLoop (guard : State → Bool) (body : State → Observation × Except Failure State)
    (exhausted : Failure) : Nat → State → List Observation × Except Failure State
  | 0, state => ([], if guard state then .error exhausted else .ok state)
  | fuel + 1, state =>
      if guard state then
        match body state with
        | (observation, .error failure) => ([observation], .error failure)
        | (observation, .ok next) =>
            let rest := fueledLoop guard body exhausted fuel next
            (observation :: rest.1, rest.2)
      else
        ([], .ok state)

variable {guard : State → Bool} {body : State → Observation × Except Failure State}
  {exhausted : Failure}

theorem fueledLoop_exit (fuel : Nat) {state : State} (leaves : guard state = false) :
    fueledLoop guard body exhausted fuel state = ([], .ok state) := by
  cases fuel <;> simp [fueledLoop, leaves]

theorem fueledLoop_fail (fuel : Nat) {state : State} {observation : Observation}
    {failure : Failure} (enters : guard state = true)
    (step : body state = (observation, .error failure)) :
    fueledLoop guard body exhausted (fuel + 1) state = ([observation], .error failure) := by
  simp [fueledLoop, enters, step]

theorem fueledLoop_next (fuel : Nat) {state next : State} {observation : Observation}
    (enters : guard state = true) (step : body state = (observation, .ok next)) :
    fueledLoop guard body exhausted (fuel + 1) state =
      (observation :: (fueledLoop guard body exhausted fuel next).1,
        (fueledLoop guard body exhausted fuel next).2) := by
  simp [fueledLoop, enters, step]

variable (guard body exhausted) in
/-- Some number of iterations is enough for the loop to leave, in `final`. -/
def EndsIn (state final : State) : Prop :=
  ∃ fuel, (fueledLoop guard body exhausted fuel state).2 = .ok final

theorem endsIn_exit {state final : State} (leaves : guard state = false) :
    EndsIn guard body exhausted state final ↔ final = state := by
  constructor
  · rintro ⟨fuel, ends⟩
    rw [fueledLoop_exit fuel leaves] at ends
    exact (Except.ok.inj ends).symm
  · rintro rfl
    exact ⟨0, congrArg Prod.snd (fueledLoop_exit 0 leaves)⟩

theorem endsIn_next {state next final : State} (enters : guard state = true)
    (step : (body state).2 = .ok next) :
    EndsIn guard body exhausted state final ↔ EndsIn guard body exhausted next final := by
  have observed : body state = ((body state).1, .ok next) := Prod.ext rfl step
  constructor
  · rintro ⟨fuel, ends⟩
    cases fuel with
    | zero =>
        rw [fueledLoop, enters] at ends
        cases ends
    | succ fuel =>
        rw [fueledLoop_next fuel enters observed] at ends
        exact ⟨fuel, ends⟩
  · rintro ⟨fuel, ends⟩
    exact ⟨fuel + 1, (congrArg Prod.snd (fueledLoop_next fuel enters observed)).trans ends⟩

/-- A body that gives its state back keeps the loop going for ever. -/
theorem not_endsIn_of_fixed {state : State} (enters : guard state = true)
    (fixed : (body state).2 = .ok state) (final : State) :
    ¬ EndsIn guard body exhausted state final := by
  rintro ⟨fuel, ends⟩
  induction fuel with
  | zero =>
      rw [fueledLoop, enters] at ends
      cases ends
  | succ fuel inductionHypothesis =>
      have observed : body state = ((body state).1, .ok state) := Prod.ext rfl fixed
      rw [fueledLoop_next fuel enters observed] at ends
      exact inductionHypothesis ends

/-- The rule for runs with a bound: what holds of the four ways in which a run can start
holds of every run. -/
theorem fueledLoop_rule (Holds : Nat → State → List Observation × Except Failure State → Prop)
    (leaves : ∀ fuel state, guard state = false → Holds fuel state ([], .ok state))
    (stops : ∀ state, guard state = true → Holds 0 state ([], .error exhausted))
    (fails : ∀ fuel state observation failure, guard state = true →
      body state = (observation, .error failure) →
        Holds (fuel + 1) state ([observation], .error failure))
    (goesOn : ∀ fuel state observation next rest, guard state = true →
      body state = (observation, .ok next) → Holds fuel next rest →
        Holds (fuel + 1) state (observation :: rest.1, rest.2))
    (fuel : Nat) (state : State) :
    Holds fuel state (fueledLoop guard body exhausted fuel state) := by
  induction fuel generalizing state with
  | zero =>
      cases enters : guard state with
      | false =>
          rw [fueledLoop_exit 0 enters]
          exact leaves 0 state enters
      | true =>
          rw [fueledLoop, if_pos enters]
          exact stops state enters
  | succ fuel inductionHypothesis =>
      cases enters : guard state with
      | false =>
          rw [fueledLoop_exit _ enters]
          exact leaves (fuel + 1) state enters
      | true =>
          cases step : body state with
          | mk observation outcome =>
              cases outcome with
              | error failure =>
                  rw [fueledLoop_fail fuel enters step]
                  exact fails fuel state observation failure enters step
              | ok next =>
                  rw [fueledLoop_next fuel enters step]
                  exact goesOn fuel state observation next _ enters step
                    (inductionHypothesis next)

/-! ### Loops that get ahead -/

section

variable {position : State → Nat} {stop stride : Nat}
  (bounded : ∀ state, guard state = true → position state < stop)
  (ahead : ∀ state observation next, guard state = true →
    body state = (observation, .ok next) → position state + stride ≤ position next)

include bounded ahead

variable (exhausted) in
/-- The iterations are at most as many as strides fit between the start and the stop,
rounded up. -/
theorem fueledLoop_length_le (fuel : Nat) (state : State) :
    stride * (fueledLoop guard body exhausted fuel state).1.length ≤
      stop - position state + (stride - 1) := by
  suffices run : stride * (fueledLoop guard body exhausted fuel state).1.length ≤
      stop - position state + (stride - 1) ∧
        (guard state = false → (fueledLoop guard body exhausted fuel state).1 = []) from run.1
  apply fueledLoop_rule fun _ state result =>
    stride * result.1.length ≤ stop - position state + (stride - 1) ∧
      (guard state = false → result.1 = [])
  · intro fuel state _
    exact ⟨Nat.zero_le _, fun _ => rfl⟩
  · intro state _
    exact ⟨Nat.zero_le _, fun _ => rfl⟩
  · intro fuel state observation failure enters _
    have below := bounded state enters
    refine ⟨?_, fun leaves => absurd enters (Bool.eq_false_iff.mp leaves)⟩
    rw [List.length_singleton]
    omega
  · intro fuel state observation next rest enters step run
    have below := bounded state enters
    have moved := ahead state observation next enters step
    refine ⟨?_, fun leaves => absurd enters (Bool.eq_false_iff.mp leaves)⟩
    rw [List.length_cons, Nat.mul_add_one]
    -- The last stride may go past the stop; then there is no iteration behind it.
    cases again : guard next with
    | false =>
        rw [run.2 again, List.length_nil, Nat.mul_zero]
        omega
    | true =>
        have belowNext := bounded next again
        have strides := run.1
        omega

variable (exhausted) in
/-- With fuel for every position up to the stop, the loop leaves at its guard or fails as
its body does. -/
theorem fueledLoop_ends (advances : 0 < stride) (fuel : Nat) (state : State)
    (enough : stop ≤ position state + fuel) :
    (∃ final, (fueledLoop guard body exhausted fuel state).2 = .ok final ∧
        guard final = false) ∨
      ∃ last failure, (fueledLoop guard body exhausted fuel state).2 = .error failure ∧
        guard last = true ∧ (body last).2 = .error failure := by
  revert enough
  apply fueledLoop_rule fun fuel state result =>
    stop ≤ position state + fuel →
      (∃ final, result.2 = .ok final ∧ guard final = false) ∨
        ∃ last failure, result.2 = .error failure ∧
          guard last = true ∧ (body last).2 = .error failure
  · intro fuel state leaves _
    exact .inl ⟨state, rfl, leaves⟩
  · intro state enters enough
    have below := bounded state enters
    omega
  · intro fuel state observation failure enters step _
    exact .inr ⟨state, failure, rfl, enters, congrArg Prod.snd step⟩
  · intro fuel state observation next rest enters step run enough
    have moved := ahead state observation next enters step
    exact run (by omega)

end

end

end Foundation
