import Mathlib.Data.List.Basic
import Mathlib.Logic.Function.Basic
import TrafficInspector.Foundation.PartialRun

/-!
Owns crews of workers that share one stop flag. Every worker has a queue of its own. It
tests the flag, takes a message, tests again; it leaves when it finds the flag raised, or
after a message that stops it, and such a message raises the flag for all. A crew drains
when a worker that has left never has more than one message in its queue.
-/

namespace Foundation

universe u v

/-- Where a worker of a crew is; `taking` is behind the test of the flag. -/
inductive CrewPosition where
  | testing
  | taking
  | done
deriving DecidableEq, Repr

/-- The length of a queue of which, from here, at most one message is left behind whatever
the other workers do. -/
def CrewPosition.reach : CrewPosition → Nat
  | testing => 1
  | taking => 2
  | done => 1

structure CrewMember (Message : Type u) where
  position : CrewPosition
  queue : List Message

structure Crew (Worker : Type v) (Message : Type u) where
  stop : Bool
  member : Worker → CrewMember Message

inductive CrewAction (Worker : Type v) where
  | test (worker : Worker)
  | take (worker : Worker)

namespace Crew

variable {Worker : Type v} {Message : Type u} [DecidableEq Worker]

def put (crew : Crew Worker Message) (worker : Worker) (member : CrewMember Message) :
    Crew Worker Message :=
  { crew with member := Function.update crew.member worker member }

@[simp] theorem stop_put (crew : Crew Worker Message) (worker : Worker)
    (member : CrewMember Message) : (crew.put worker member).stop = crew.stop :=
  rfl

@[simp] theorem member_put_self (crew : Crew Worker Message) (worker : Worker)
    (member : CrewMember Message) : (crew.put worker member).member worker = member :=
  Function.update_self ..

@[simp] theorem member_put_of_ne (crew : Crew Worker Message) {worker other : Worker}
    (member : CrewMember Message) (apart : other ≠ worker) :
    (crew.put worker member).member other = crew.member other :=
  Function.update_of_ne apart ..

@[simp] theorem put_put (crew : Crew Worker Message) (worker : Worker)
    (first second : CrewMember Message) :
    (crew.put worker first).put worker second = crew.put worker second :=
  congrArg (Crew.mk crew.stop) (Function.update_idem ..)

def test (crew : Crew Worker Message) (worker : Worker) : Option (Crew Worker Message) :=
  match crew.member worker with
  | ⟨.testing, queue⟩ =>
      some (crew.put worker ⟨if crew.stop then .done else .taking, queue⟩)
  | _ => none

def take (stops : Message → Bool) (crew : Crew Worker Message) (worker : Worker) :
    Option (Crew Worker Message) :=
  match crew.member worker with
  | ⟨.taking, message :: queue⟩ =>
      some ({ crew with stop := crew.stop || stops message }.put worker
        ⟨if stops message then .done else .testing, queue⟩)
  | _ => none

def step (stops : Message → Bool) (crew : Crew Worker Message) :
    CrewAction Worker → Option (Crew Worker Message)
  | .test worker => crew.test worker
  | .take worker => crew.take stops worker

def run (stops : Message → Bool) (crew : Crew Worker Message)
    (actions : List (CrewAction Worker)) : Option (Crew Worker Message) :=
  partialRun (step stops) crew actions

/-- In whatever order the workers take their steps. -/
def Drains (stops : Message → Bool) (crew : Crew Worker Message) : Prop :=
  ∀ actions final, crew.run stops actions = some final →
    ∀ worker, (final.member worker).position = .done → (final.member worker).queue.length ≤ 1

/-- Nobody but this worker can raise the flag, and nobody has. -/
structure Alone (crew : Crew Worker Message) (worker : Worker) : Prop where
  lowered : crew.stop = false
  working : (crew.member worker).position ≠ .done
  others : ∀ other, other ≠ worker → (crew.member other).position = .done

/-- A message that stops has more than one message behind it. -/
def StopsEarly (stops : Message → Bool) (queue : List Message) : Prop :=
  ∃ front message rest, queue = front ++ message :: rest ∧ stops message = true ∧ 2 ≤ rest.length

theorem stopsEarly_append_singleton (stops : Message → Bool) (content : List Message)
    (last : Message) :
    StopsEarly stops (content ++ [last]) ↔
      ∃ message ∈ content.dropLast, stops message = true := by
  constructor
  · rintro ⟨front, message, rest, split, isStop, long⟩
    obtain ⟨between, rfl⟩ : ∃ between, rest = between ++ [last] := by
      rcases List.eq_nil_or_concat' rest with rfl | ⟨between, other, rfl⟩
      · cases long
      · rw [← List.cons_append, ← List.append_assoc] at split
        exact ⟨between, by rw [List.append_inj_right' split rfl]⟩
    rw [← List.cons_append, ← List.append_assoc] at split
    have content : content = front ++ message :: between := List.append_cancel_right split
    refine ⟨message, ?_, isStop⟩
    have some : between ≠ [] := by
      rintro rfl
      simp at long
    rw [content, List.dropLast_append_of_ne_nil (List.cons_ne_nil _ _),
      List.dropLast_cons_of_ne_nil some]
    simp
  · rintro ⟨message, member, isStop⟩
    obtain ⟨front, between, split⟩ := List.append_of_mem member
    have nonempty : content ≠ [] := by
      rintro rfl
      cases member
    refine ⟨front, message, between ++ [content.getLast nonempty, last], ?_, isStop, ?_⟩
    · conv_lhs => rw [← List.dropLast_append_getLast nonempty, split]
      simp
    · simp

variable {stops : Message → Bool} {crew next : Crew Worker Message} {worker : Worker}

theorem test_eq {queue : List Message} (atTest : crew.member worker = ⟨.testing, queue⟩) :
    crew.test worker =
      some (crew.put worker ⟨if crew.stop then .done else .taking, queue⟩) := by
  unfold test
  rw [atTest]

theorem take_eq (stops : Message → Bool) {message : Message} {queue : List Message}
    (behindTest : crew.member worker = ⟨.taking, message :: queue⟩) :
    crew.take stops worker =
      some ({ crew with stop := crew.stop || stops message }.put worker
        ⟨if stops message then .done else .testing, queue⟩) := by
  unfold take
  rw [behindTest]

theorem test_cases (stepped : crew.test worker = some next) :
    ∃ queue, crew.member worker = ⟨.testing, queue⟩ ∧
      next = crew.put worker ⟨if crew.stop then .done else .taking, queue⟩ := by
  unfold test at stepped
  split at stepped
  · rename_i queue atTest
    exact ⟨queue, atTest, (Option.some.inj stepped).symm⟩
  · cases stepped

theorem take_cases (stepped : crew.take stops worker = some next) :
    ∃ message queue, crew.member worker = ⟨.taking, message :: queue⟩ ∧
      next = { crew with stop := crew.stop || stops message }.put worker
        ⟨if stops message then .done else .testing, queue⟩ := by
  unfold take at stepped
  split at stepped
  · rename_i message queue behindTest
    exact ⟨message, queue, behindTest, (Option.some.inj stepped).symm⟩
  · cases stepped

/-! ### What keeps a queue from being left behind -/

private theorem step_withinReach {action : CrewAction Worker}
    (stepped : crew.step stops action = some next)
    (short : (crew.member worker).queue.length ≤ (crew.member worker).position.reach) :
    (next.member worker).queue.length ≤ (next.member worker).position.reach := by
  cases action with
  | test mover =>
      obtain ⟨queue, atTest, rfl⟩ := test_cases stepped
      by_cases own : worker = mover
      · subst own
        rw [atTest] at short
        rw [member_put_self]
        split
        · exact short
        · exact Nat.le_succ_of_le short
      · rw [member_put_of_ne _ _ own]
        exact short
  | take mover =>
      obtain ⟨message, queue, behindTest, rfl⟩ := take_cases stepped
      by_cases own : worker = mover
      · subst own
        rw [behindTest] at short
        rw [member_put_self]
        split <;> exact Nat.le_of_succ_le_succ short
      · rw [member_put_of_ne _ _ own]
        exact short

/-- A worker without others: it goes on with the flag lowered, or it has left behind at most
one message. -/
private structure Undisturbed (stops : Message → Bool) (worker : Worker)
    (crew : Crew Worker Message) : Prop where
  others : ∀ other, other ≠ worker → (crew.member other).position = .done
  own : (crew.stop = false ∧ (crew.member worker).position ≠ .done ∧
      ¬ StopsEarly stops (crew.member worker).queue) ∨
    ((crew.member worker).position = .done ∧ (crew.member worker).queue.length ≤ 1)

omit [DecidableEq Worker] in
private theorem Undisturbed.mover (undisturbed : Undisturbed stops worker crew) {mover : Worker}
    {position : CrewPosition} {queue : List Message}
    (here : crew.member mover = ⟨position, queue⟩) (works : position ≠ .done) :
    mover = worker ∧ crew.stop = false ∧ ¬ StopsEarly stops queue := by
  have same : mover = worker :=
    not_imp_comm.mp (undisturbed.others mover) (by rwa [here])
  subst same
  have own := undisturbed.own
  rw [here] at own
  rcases own with ⟨lowered, _, late⟩ | ⟨isDone, _⟩
  · exact ⟨rfl, lowered, late⟩
  · exact absurd isDone works

private theorem step_undisturbed {action : CrewAction Worker}
    (stepped : crew.step stops action = some next)
    (undisturbed : Undisturbed stops worker crew) : Undisturbed stops worker next := by
  cases action with
  | test mover =>
      obtain ⟨queue, atTest, rfl⟩ := test_cases stepped
      obtain ⟨rfl, lowered, late⟩ := undisturbed.mover atTest (by decide)
      refine ⟨fun other apart => ?_, .inl ⟨lowered, ?_, ?_⟩⟩
      · rw [member_put_of_ne _ _ apart]
        exact undisturbed.others other apart
      · rw [member_put_self, lowered]
        exact CrewPosition.noConfusion
      · rw [member_put_self]
        exact late
  | take mover =>
      obtain ⟨message, queue, behindTest, rfl⟩ := take_cases stepped
      obtain ⟨rfl, lowered, late⟩ := undisturbed.mover behindTest (by decide)
      refine ⟨fun other apart => ?_, ?_⟩
      · rw [member_put_of_ne _ _ apart]
        exact undisturbed.others other apart
      rw [member_put_self, stop_put]
      cases isStop : stops message with
      | true =>
          refine .inr ⟨rfl, Nat.le_of_not_lt fun long => ?_⟩
          exact late ⟨[], message, queue, rfl, isStop, long⟩
      | false =>
          refine .inl ⟨?_, CrewPosition.noConfusion, ?_⟩
          · rw [lowered]
            rfl
          · rintro ⟨front, early, rest, split, earlyStops, long⟩
            exact late ⟨message :: front, early, rest, congrArg (message :: ·) split,
              earlyStops, long⟩

/-! ### How a queue is left behind -/

section

variable {queue : List Message}

/-- A worker that tests a raised flag leaves its whole queue. -/
private theorem leaves_at_test (raised : crew.stop = true)
    (atTest : crew.member worker = ⟨.testing, queue⟩) :
    crew.run stops [.test worker] = some (crew.put worker ⟨.done, queue⟩) := by
  have tested := test_eq atTest
  rw [raised] at tested
  exact partialRun_cons.mpr ⟨_, tested, rfl⟩

/-- A worker behind the test takes one message more, and then finds the flag raised. -/
private theorem leaves_after_take (stops : Message → Bool) {message : Message}
    (raised : crew.stop = true)
    (behindTest : crew.member worker = ⟨.taking, message :: queue⟩) :
    ∃ actions final, crew.run stops actions = some final ∧
      final.member worker = ⟨.done, queue⟩ := by
  have taken := take_eq stops behindTest
  cases isStop : stops message with
  | true =>
      rw [isStop] at taken
      exact ⟨[.take worker], _, partialRun_cons.mpr ⟨_, taken, rfl⟩, member_put_self ..⟩
  | false =>
      rw [isStop, Bool.or_false] at taken
      exact ⟨.take worker :: [.test worker], _,
        partialRun_cons.mpr ⟨_, taken, leaves_at_test raised (member_put_self ..)⟩,
        member_put_self ..⟩

/-- Beyond the reach of a worker, messages are left behind once the flag is raised. -/
private theorem leaves_of_raised (stops : Message → Bool) (raised : crew.stop = true)
    (long : (crew.member worker).position.reach < (crew.member worker).queue.length) :
    ∃ actions final, crew.run stops actions = some final ∧
      (final.member worker).position = .done ∧ 1 < (final.member worker).queue.length := by
  cases here : crew.member worker with
  | mk position queue =>
      rw [here] at long
      cases position with
      | testing =>
          refine ⟨_, _, leaves_at_test raised here, ?_⟩
          rw [member_put_self]
          exact ⟨rfl, long⟩
      | taking =>
          cases queue with
          | nil => cases long
          | cons message queue =>
              obtain ⟨actions, final, ran, left⟩ := leaves_after_take stops raised here
              refine ⟨actions, final, ran, ?_⟩
              rw [left]
              exact ⟨rfl, Nat.lt_of_succ_lt_succ long⟩
      | done =>
          refine ⟨[], crew, rfl, ?_⟩
          rw [here]
          exact ⟨rfl, long⟩

theorem takes_first (stops : Message → Bool) {message : Message}
    (lowered : crew.stop = false)
    (works : (crew.member worker).position ≠ .done)
    (queued : (crew.member worker).queue = message :: queue) :
    ∃ actions, crew.run stops actions =
      some ({ crew with stop := stops message }.put worker
        ⟨if stops message then .done else .testing, queue⟩) := by
  have takenFrom (crew : Crew Worker Message) (lowered : crew.stop = false)
      (behindTest : crew.member worker = ⟨.taking, message :: queue⟩) :
      crew.run stops [.take worker] = some ({ crew with stop := stops message }.put worker
        ⟨if stops message then .done else .testing, queue⟩) := by
    have taken := take_eq stops behindTest
    rw [lowered, Bool.false_or] at taken
    exact partialRun_cons.mpr ⟨_, taken, rfl⟩
  cases here : crew.member worker with
  | mk position held =>
      rw [here] at works queued
      subst queued
      cases position with
      | testing =>
          have tested := test_eq here
          rw [lowered] at tested
          refine ⟨.test worker :: [.take worker], partialRun_cons.mpr ⟨_, tested, ?_⟩⟩
          have taken := takenFrom (crew.put worker ⟨.taking, message :: queue⟩) lowered
            (member_put_self ..)
          exact taken.trans (congrArg some (put_put { crew with stop := stops message } ..))
      | taking => exact ⟨[.take worker], takenFrom crew lowered here⟩
      | done => exact absurd rfl works

/-- A worker left to itself reaches a message that stops it, this one at the latest. -/
private theorem runs_to_stop (front : List Message) {message : Message} {rest : List Message}
    (lowered : crew.stop = false) (works : (crew.member worker).position ≠ .done)
    (queued : (crew.member worker).queue = front ++ message :: rest)
    (isStop : stops message = true) :
    ∃ actions left, crew.run stops actions =
        some ({ crew with stop := true }.put worker ⟨.done, left⟩) ∧
      rest.length ≤ left.length := by
  induction front generalizing crew with
  | nil =>
      obtain ⟨actions, ran⟩ := takes_first stops lowered works queued
      rw [isStop] at ran
      exact ⟨actions, rest, ran, Nat.le_refl _⟩
  | cons first front inductionHypothesis =>
      obtain ⟨actions, ran⟩ := takes_first stops lowered works queued
      cases firstStops : stops first with
      | true =>
          rw [firstStops] at ran
          refine ⟨actions, front ++ message :: rest, ran, ?_⟩
          rw [List.length_append, List.length_cons]
          omega
      | false =>
          rw [firstStops] at ran
          let later : Crew Worker Message :=
            { crew with stop := false }.put worker ⟨.testing, front ++ message :: rest⟩
          have here : later.member worker = ⟨.testing, front ++ message :: rest⟩ :=
            member_put_self ..
          obtain ⟨others, left, ranOn, behind⟩ := @inductionHypothesis later rfl
            (by rw [here]; exact CrewPosition.noConfusion) (by rw [here])
          refine ⟨actions ++ others, left, partialRun_append.mpr ⟨later, ran, ?_⟩, behind⟩
          exact ranOn.trans (congrArg some (put_put { crew with stop := true } ..))

end

/-- Which crews drain, when every worker has a message that stops it: those in which nobody's
queue is beyond his reach, unless he is alone and not stopped early. -/
theorem drains_iff (stoppable : ∀ worker, (crew.member worker).position ≠ .done →
      ∃ message ∈ (crew.member worker).queue, stops message = true) :
    crew.Drains stops ↔ ∀ worker,
      (crew.member worker).queue.length ≤ (crew.member worker).position.reach ∨
        (crew.Alone worker ∧ ¬ StopsEarly stops (crew.member worker).queue) := by
  constructor
  · intro drains worker
    by_contra leaves
    obtain ⟨long, unprotected⟩ := not_or.mp leaves
    have beyond := Nat.lt_of_not_le long
    have breaks (actions : List (CrewAction Worker)) {middle : Crew Worker Message}
        (ran : crew.run stops actions = some middle) (raised : middle.stop = true)
        (same : middle.member worker = crew.member worker) : False := by
      obtain ⟨more, final, ranOn, isDone, behind⟩ :=
        leaves_of_raised stops raised (same ▸ beyond)
      exact Nat.not_lt_of_le (drains (actions ++ more) final
        (partialRun_append.mpr ⟨middle, ran, ranOn⟩) worker isDone) behind
    have lowered : crew.stop = false := by
      by_contra raised
      exact breaks [] rfl (eq_true_of_ne_false raised) rfl
    have works : (crew.member worker).position ≠ .done := by
      intro isDone
      rw [isDone] at beyond
      exact Nat.not_lt_of_le (drains [] crew rfl worker isDone) beyond
    have others : ∀ other, other ≠ worker → (crew.member other).position = .done := by
      intro other apart
      by_contra otherWorks
      obtain ⟨message, member, isStop⟩ := stoppable other otherWorks
      obtain ⟨front, rest, queued⟩ := List.append_of_mem member
      obtain ⟨actions, left, ran, _⟩ := runs_to_stop front lowered otherWorks queued isStop
      exact breaks actions ran rfl (member_put_of_ne _ _ apart.symm)
    obtain ⟨front, message, rest, queued, isStop, early⟩ :=
      not_not.mp (not_and.mp unprotected ⟨lowered, works, others⟩)
    obtain ⟨actions, left, ran, behind⟩ := runs_to_stop front lowered works queued isStop
    have atMost := drains actions _ ran worker (by rw [member_put_self])
    rw [member_put_self] at atMost
    exact Nat.not_lt_of_le atMost (Nat.lt_of_lt_of_le early behind)
  · intro holds actions final ran worker isDone
    rcases holds worker with short | ⟨alone, late⟩
    · have kept := partialRun_invariant (fun _ => True)
        (fun crew => (crew.member worker).queue.length ≤ (crew.member worker).position.reach)
        (fun _ _ _ _ stepped short => step_withinReach stepped short) (fun _ _ => trivial) ran
        short
      rw [isDone] at kept
      exact kept
    · have kept := partialRun_invariant (fun _ => True) (Undisturbed stops worker)
        (fun _ _ _ _ stepped undisturbed => step_undisturbed stepped undisturbed)
        (fun _ _ => trivial) ran ⟨alone.others, .inl ⟨alone.lowered, alone.working, late⟩⟩
      rcases kept.own with ⟨_, works, _⟩ | ⟨_, atMost⟩
      · exact absurd isDone works
      · exact atMost

end Crew

end Foundation
