import Mathlib.Algebra.Order.BigOperators.Group.Finset
import TrafficInspector.Foundation.SharedStop

/-!
Owns when a crew comes to its end. A worker takes so many steps at most, and one that takes no
more is done, or waits at its empty queue for ever. Nobody ever waits exactly when everybody is
done, or is to take a message that stops him, or cannot fail to test the flag after it was raised.
-/

namespace Foundation

universe u v

/-- How many steps a worker at this place can take, with a queue of this length. -/
def CrewMember.stepsLeft {Message : Type u} (member : CrewMember Message) : Nat :=
  match member.position with
  | .testing => 2 * member.queue.length + 1
  | .taking => 2 * member.queue.length
  | .done => 0

namespace CrewAction

variable {Worker : Type v}

def worker : CrewAction Worker → Worker
  | test worker | take worker => worker

end CrewAction

namespace Crew

variable {Worker : Type v} {Message : Type u}

/-- The worker leaves its loop, whatever the others do: it has, or a message in its queue stops
it, or it tests the raised flag. -/
def Leaves (stops : Message → Bool) (crew : Crew Worker Message) (worker : Worker) : Prop :=
  (crew.member worker).position = .done ∨
    (∃ message ∈ (crew.member worker).queue, stops message = true) ∨
    (crew.stop = true ∧
      ((crew.member worker).position = .testing ∨ (crew.member worker).queue ≠ []))

/-- It is in front of its empty queue, where nothing more arrives. -/
def Waits (crew : Crew Worker Message) (worker : Worker) : Prop :=
  crew.member worker = ⟨.taking, []⟩

variable {stops : Message → Bool} {crew next : Crew Worker Message} {worker : Worker}

theorem Leaves.not_waits (leaves : crew.Leaves stops worker) : ¬ crew.Waits worker := by
  intro waits
  unfold Leaves at leaves
  rw [waits] at leaves
  rcases leaves with isDone | ⟨message, member, _⟩ | ⟨_, atTest | supplied⟩
  · cases isDone
  · cases member
  · cases atTest
  · exact supplied rfl

variable [DecidableEq Worker]

/-- In whatever order the workers take their steps, this one never waits. -/
def NeverWaits (stops : Message → Bool) (crew : Crew Worker Message) (worker : Worker) : Prop :=
  ∀ actions final, crew.run stops actions = some final → ¬ final.Waits worker

theorem put_self (crew : Crew Worker Message) (worker : Worker) :
    crew.put worker (crew.member worker) = crew :=
  congrArg (Crew.mk crew.stop) (Function.update_eq_self ..)

/-! ### Every step is one less -/

theorem step_stepsLeft {action : CrewAction Worker}
    (stepped : crew.step stops action = some next) (worker : Worker) :
    (next.member worker).stepsLeft + (decide (action.worker = worker)).toNat ≤
      (crew.member worker).stepsLeft := by
  cases action with
  | test mover =>
      obtain ⟨queue, atTest, rfl⟩ := test_cases stepped
      by_cases own : mover = worker
      · subst own
        rw [member_put_self, atTest, CrewAction.worker, decide_eq_true rfl]
        cases crew.stop with
        | true => exact Nat.le_add_left 1 _
        | false => exact Nat.le_refl _
      · rw [member_put_of_ne _ _ (Ne.symm own), CrewAction.worker, decide_eq_false own]
        exact Nat.le_refl _
  | take mover =>
      obtain ⟨message, queue, behindTest, rfl⟩ := take_cases stepped
      by_cases own : mover = worker
      · subst own
        rw [member_put_self, behindTest, CrewAction.worker, decide_eq_true rfl]
        cases stops message with
        | true => exact Nat.le_add_left 1 _
        | false => exact Nat.le_refl _
      · rw [member_put_of_ne _ _ (Ne.symm own), CrewAction.worker, decide_eq_false own]
        exact Nat.le_refl _

theorem position_of_step {action : CrewAction Worker}
    (stepped : crew.step stops action = some next) :
    (crew.member action.worker).position ≠ .done := by
  cases action with
  | test mover =>
      obtain ⟨queue, atTest, _⟩ := test_cases stepped
      rw [CrewAction.worker, atTest]
      exact CrewPosition.noConfusion
  | take mover =>
      obtain ⟨message, queue, behindTest, _⟩ := take_cases stepped
      rw [CrewAction.worker, behindTest]
      exact CrewPosition.noConfusion

theorem step_sum_stepsLeft {action : CrewAction Worker} {workers : Finset Worker}
    (stepped : crew.step stops action = some next) (member : action.worker ∈ workers) :
    ∑ worker ∈ workers, (next.member worker).stepsLeft <
      ∑ worker ∈ workers, (crew.member worker).stepsLeft := by
  apply Finset.sum_lt_sum
  · exact fun worker _ => Nat.le_of_add_right_le (step_stepsLeft stepped worker)
  · have own := step_stepsLeft stepped action.worker
    rw [decide_eq_true rfl] at own
    exact ⟨action.worker, member, own⟩

/-- Whoever cannot go on is done or waits. -/
theorem done_or_waits (stuck : ∀ action : CrewAction Worker, action.worker = worker →
      crew.step stops action = none) :
    (crew.member worker).position = .done ∨ crew.Waits worker := by
  cases here : crew.member worker with
  | mk position queue =>
      cases position with
      | testing =>
          have tested := test_eq here
          rw [show crew.test worker = none from stuck (.test worker) rfl] at tested
          cases tested
      | taking =>
          cases queue with
          | nil => exact .inr here
          | cons message queue =>
              have taken := take_eq stops here
              rw [show crew.take stops worker = none from stuck (.take worker) rfl] at taken
              cases taken
      | done => exact .inl rfl

/-! ### Who never waits -/

theorem step_leaves {action : CrewAction Worker}
    (stepped : crew.step stops action = some next) (leaves : crew.Leaves stops worker) :
    next.Leaves stops worker := by
  cases action with
  | test mover =>
      obtain ⟨queue, atTest, rfl⟩ := test_cases stepped
      unfold Leaves
      rw [stop_put]
      by_cases own : worker = mover
      · subst own
        rw [member_put_self]
        cases raised : crew.stop with
        | true => exact .inl rfl
        | false =>
            unfold Leaves at leaves
            rw [atTest, raised] at leaves
            rcases leaves with isDone | stopped | ⟨flag, _⟩
            · cases isDone
            · exact .inr (.inl stopped)
            · cases flag
      · rw [member_put_of_ne _ _ own]
        exact leaves
  | take mover =>
      obtain ⟨message, queue, behindTest, rfl⟩ := take_cases stepped
      unfold Leaves at leaves ⊢
      rw [stop_put]
      by_cases own : worker = mover
      · subst own
        rw [behindTest] at leaves
        rw [member_put_self]
        cases isStop : stops message with
        | true => exact .inl rfl
        | false =>
            rcases leaves with isDone | ⟨other, member, otherStops⟩ | ⟨flag, _⟩
            · cases isDone
            · rcases List.mem_cons.mp member with rfl | behind
              · rw [isStop] at otherStops
                cases otherStops
              · exact .inr (.inl ⟨other, behind, otherStops⟩)
            · refine .inr (.inr ⟨?_, .inl rfl⟩)
              rw [flag]
              rfl
      · rw [member_put_of_ne _ _ own]
        rcases leaves with isDone | stopped | ⟨flag, later⟩
        · exact .inl isDone
        · exact .inr (.inl stopped)
        · refine .inr (.inr ⟨?_, later⟩)
          rw [flag]
          rfl

theorem step_waits {action : CrewAction Worker} (stepped : crew.step stops action = some next)
    (waits : crew.Waits worker) : next.Waits worker := by
  have mover {other : Worker} {position : CrewPosition} {queue : List Message}
      (here : crew.member other = ⟨position, queue⟩) (goesOn : position = .taking → queue ≠ []) :
      worker ≠ other := by
    rintro rfl
    rw [waits] at here
    cases here
    exact goesOn rfl rfl
  cases action with
  | test other =>
      obtain ⟨queue, atTest, rfl⟩ := test_cases stepped
      exact (member_put_of_ne _ _ (mover atTest CrewPosition.noConfusion)).trans waits
  | take other =>
      obtain ⟨message, queue, behindTest, rfl⟩ := take_cases stepped
      have apart := mover behindTest fun _ => List.cons_ne_nil message queue
      exact (member_put_of_ne _ _ apart).trans waits

/-- A worker that nothing stops takes its whole queue, and then waits. -/
private theorem runs_dry {queue : List Message} (lowered : crew.stop = false)
    (works : (crew.member worker).position ≠ .done) (queued : (crew.member worker).queue = queue)
    (harmless : ∀ message ∈ queue, stops message = false) :
    ∃ actions, crew.run stops actions = some (crew.put worker ⟨.taking, []⟩) := by
  induction queue generalizing crew with
  | nil =>
      cases here : crew.member worker with
      | mk position held =>
          rw [here] at works queued
          cases queued
          cases position with
          | testing =>
              have tested := test_eq here
              rw [lowered] at tested
              exact ⟨[.test worker], partialRun_cons.mpr ⟨_, tested, rfl⟩⟩
          | taking =>
              refine ⟨[], congrArg some ?_⟩
              rw [← here, put_self]
          | done => exact absurd rfl works
  | cons message queue inductionHypothesis =>
      obtain ⟨isHarmless, others⟩ := List.forall_mem_cons.mp harmless
      obtain ⟨actions, ran⟩ := takes_first stops lowered works queued
      rw [isHarmless] at ran
      let later : Crew Worker Message := { crew with stop := false }.put worker ⟨.testing, queue⟩
      have here : later.member worker = ⟨.testing, queue⟩ := member_put_self ..
      obtain ⟨more, ranOn⟩ := @inductionHypothesis later rfl
        (by rw [here]; exact CrewPosition.noConfusion) (by rw [here]) others
      refine ⟨actions ++ more, partialRun_append.mpr ⟨later, ran, ?_⟩⟩
      exact ranOn.trans (congrArg some ((put_put _ worker _ _).trans (by rw [← lowered])))

theorem neverWaits_iff : crew.NeverWaits stops worker ↔ crew.Leaves stops worker := by
  constructor
  · intro neverWaits
    by_contra stays
    obtain ⟨works, unstopped, unseen⟩ : (crew.member worker).position ≠ .done ∧
        (∀ message ∈ (crew.member worker).queue, stops message = false) ∧
        ¬ (crew.stop = true ∧
          ((crew.member worker).position = .testing ∨ (crew.member worker).queue ≠ [])) := by
      simpa [Leaves] using stays
    cases flag : crew.stop with
    | true =>
        obtain ⟨behindTest, dry⟩ := not_or.mp fun later => unseen ⟨flag, later⟩
        apply neverWaits [] crew rfl
        cases here : crew.member worker with
        | mk position queue =>
            rw [here] at works behindTest dry
            obtain rfl := not_not.mp dry
            cases position with
            | testing => exact absurd rfl behindTest
            | taking => exact here
            | done => exact absurd rfl works
    | false =>
        obtain ⟨actions, ran⟩ := runs_dry flag works rfl unstopped
        exact neverWaits actions _ ran (member_put_self ..)
  · intro leaves actions final ran
    exact (partialRun_invariant (fun _ => True)
      (fun crew : Crew Worker Message => crew.Leaves stops worker)
      (fun _ _ _ _ stepped leaves => step_leaves stepped leaves) (fun _ _ => trivial) ran
      leaves).not_waits

end Crew

end Foundation
