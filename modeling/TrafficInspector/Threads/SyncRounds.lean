import Mathlib.Algebra.BigOperators.Group.List.Basic
import TrafficInspector.Foundation.PartialRun
import TrafficInspector.SyncThread

/-!
Owns `syncThread`, which is the same text in `PacketDispatcher` and in `PacketRouter` but for the
call that sends the message: the thread waits for the timer and broadcasts once for each reading
of it, however many expirations this reports. Its waiting is bounded, so that `deinitialize`
returns, behind one broadcast at most, and leaves the members as it would in one step.
-/

namespace TrafficInspector

open Foundation

/-- Where `syncThread` is. -/
inductive SyncPlace where
  /-- In front of `while(!m_stopFlag)`. -/
  | testing
  | polling
  | reading
  /-- In front of the broadcast. -/
  | broadcasting
  | finished
deriving DecidableEq, Repr

/-- What `poll` returns: `0`, `-1`, or the number of descriptors that are ready. -/
inductive PollResult where
  | elapsed
  | failed
  | ready
deriving DecidableEq, Repr

/-- The members with the thread, and whether a `deinitialize` waits for it. -/
structure SyncLife where
  members : SyncThread := {}
  place : Option SyncPlace := none
  joining : Bool := false

/-- A call, or a step of the thread with what the system call in it yields. -/
inductive SyncAction where
  | initializes (sessionTimeoutSeconds : SizeT) (calls : SystemCalls)
  | deinitializes
  | joins
  | tests
  | polls (ret : PollResult)
  /-- `none` where the bytes of `expirations` are not all read. -/
  | reads (expirations : Option UInt64)
  | broadcasts
deriving DecidableEq, Repr

namespace SyncLife

/-- `initialize`, which starts the thread where it charges the timer. -/
def initializeLife (owner : SyncOwner) (sessionTimeoutSeconds : SizeT) (calls : SystemCalls)
    (life : SyncLife) : Option SyncLife :=
  if life.joining then none
  else
    let members := (owner.initializeSync sessionTimeoutSeconds calls life.members).2
    some { life with
      members
      place := if members.joinable && !life.members.joinable then some .testing else life.place }

/-- `deinitialize`, up to the `join`. -/
def deinitializeLife (life : SyncLife) : Option SyncLife :=
  if life.joining then none
  else
    some { life with
      members := { life.members with stopFlag := true }
      joining := life.members.joinable }

/-- `m_syncronizerThread.join()`. -/
def join (owner : SyncOwner) (life : SyncLife) : Option SyncLife :=
  if life.joining ∧ life.place = some .finished then
    some { members := owner.deinitializeSync life.members, place := none, joining := false }
  else none

/-- `while(!m_stopFlag)`. -/
def testStop (life : SyncLife) : Option SyncLife :=
  if life.place = some .testing then
    some { life with place := some (if life.members.stopFlag then .finished else .polling) }
  else none

/-- `poll(&fd, 1, pollTimeout)`; where nothing is ready the loop is continued. -/
def poll (ret : PollResult) (life : SyncLife) : Option SyncLife :=
  if life.place = some .polling then
    some { life with
      place := some (match ret with
        | .elapsed | .failed => .testing
        | .ready => .reading) }
  else none

/-- `read(m_timerHandler, &expirations, sizeof(expirations))`. -/
def read (expirations : Option UInt64) (life : SyncLife) : Option SyncLife :=
  if life.place = some .reading then
    some { life with place := some (if expirations.isSome then .broadcasting else .testing) }
  else none

/-- `dispatchBroadcast(SYNC_TIMEOUT)` or `route(SYNC_TIMEOUT)`. -/
def broadcast (life : SyncLife) : Option SyncLife :=
  if life.place = some .broadcasting then some { life with place := some .testing } else none

def step (owner : SyncOwner) (life : SyncLife) : SyncAction → Option SyncLife
  | .initializes sessionTimeoutSeconds calls =>
      life.initializeLife owner sessionTimeoutSeconds calls
  | .deinitializes => life.deinitializeLife
  | .joins => life.join owner
  | .tests => life.testStop
  | .polls ret => life.poll ret
  | .reads expirations => life.read expirations
  | .broadcasts => life.broadcast

def run (owner : SyncOwner) (life : SyncLife) (actions : List SyncAction) : Option SyncLife :=
  partialRun (step owner) life actions

end SyncLife

namespace SyncAction

/-- A reading of the timer that comes through. -/
def isRead : SyncAction → Bool
  | reads expirations => expirations.isSome
  | _ => false

def isBroadcast : SyncAction → Bool
  | broadcasts => true
  | _ => false

/-- Steps of the thread, and the one that waits for it. -/
def IsOwn : SyncAction → Prop
  | joins | tests | polls _ | reads _ | broadcasts => True
  | initializes .. | deinitializes => False

end SyncAction

namespace SyncLife

variable {owner : SyncOwner} {life next : SyncLife}

/-! ### What each step does -/

/-- Behind its timer a thread is started once. -/
theorem initialize_cases {sessionTimeoutSeconds : SizeT} {calls : SystemCalls}
    (stepped : life.initializeLife owner sessionTimeoutSeconds calls = some next) :
    life.joining = false ∧ ∃ members : SyncThread, members.stopFlag = life.members.stopFlag ∧
      ((members.joinable = life.members.joinable ∧ next = { life with members }) ∨
        (life.members.joinable = false ∧ members.joinable = true ∧
          next = { life with members, place := some .testing })) := by
  unfold initializeLife at stepped
  split at stepped
  · cases stepped
  · rename_i free
    cases stepped
    refine ⟨Bool.eq_false_iff.mpr free,
      (owner.initializeSync sessionTimeoutSeconds calls life.members).2, ?_, ?_⟩
    · rw [SyncOwner.initializeSync_eq]
      exact SyncThread.initializeSync_stopFlag
    · cases started : life.members.joinable with
      | true =>
          have held : owner.initializeSync sessionTimeoutSeconds calls life.members =
              (true, life.members) := by
            rw [SyncOwner.initializeSync_eq]
            exact SyncThread.initializeSync_held (life.members.startedBehindTimer started)
          rw [held]
          exact .inl ⟨started, by rw [Bool.not_true, Bool.and_false, if_neg Bool.false_ne_true]⟩
      | false =>
          cases starts : (owner.initializeSync sessionTimeoutSeconds calls
              life.members).2.joinable with
          | true => exact .inr ⟨rfl, rfl, rfl⟩
          | false => exact .inl ⟨rfl, rfl⟩

theorem deinitialize_cases (stepped : life.deinitializeLife = some next) :
    life.joining = false ∧ next = { life with
      members := { life.members with stopFlag := true }
      joining := life.members.joinable } := by
  unfold deinitializeLife at stepped
  split at stepped
  · cases stepped
  · rename_i free
    exact ⟨Bool.eq_false_iff.mpr free, (Option.some.inj stepped).symm⟩

theorem join_cases (stepped : life.join owner = some next) :
    life.joining = true ∧ life.place = some .finished ∧
      next = ⟨owner.deinitializeSync life.members, none, false⟩ := by
  obtain ⟨⟨joining, finished⟩, same⟩ := Option.ite_none_right_eq_some.mp stepped
  cases same
  exact ⟨joining, finished, rfl⟩

theorem testStop_cases (stepped : life.testStop = some next) :
    life.place = some .testing ∧ next = { life with
      place := some (if life.members.stopFlag then .finished else .polling) } := by
  obtain ⟨here, same⟩ := Option.ite_none_right_eq_some.mp stepped
  cases same
  exact ⟨here, rfl⟩

theorem poll_cases {ret : PollResult} (stepped : life.poll ret = some next) :
    life.place = some .polling ∧
      (next = { life with place := some .testing } ∨
        next = { life with place := some .reading }) := by
  obtain ⟨here, same⟩ := Option.ite_none_right_eq_some.mp stepped
  cases same
  cases ret with
  | elapsed => exact ⟨here, .inl rfl⟩
  | failed => exact ⟨here, .inl rfl⟩
  | ready => exact ⟨here, .inr rfl⟩

theorem read_cases {expirations : Option UInt64} (stepped : life.read expirations = some next) :
    life.place = some .reading ∧ next = { life with
      place := some (if expirations.isSome then .broadcasting else .testing) } := by
  obtain ⟨here, same⟩ := Option.ite_none_right_eq_some.mp stepped
  cases same
  exact ⟨here, rfl⟩

theorem broadcast_cases (stepped : life.broadcast = some next) :
    life.place = some .broadcasting ∧ next = { life with place := some .testing } := by
  obtain ⟨here, same⟩ := Option.ite_none_right_eq_some.mp stepped
  cases same
  exact ⟨here, rfl⟩

/-! ### Rounds -/

/-- There is a thread as long as it is joinable; it ends, and is waited for, behind a raised flag
only. -/
structure Sound (life : SyncLife) : Prop where
  present : life.place.isSome = life.members.joinable
  ended : life.place = some .finished → life.members.stopFlag = true
  left : life.joining = true → life.members.stopFlag = true ∧ life.members.joinable = true

private theorem Sound.moved (sound : life.Sound) {old new : SyncPlace}
    (here : life.place = some old)
    (ended : new = .finished → life.members.stopFlag = true) :
    Sound { life with place := some new } :=
  ⟨by rw [← sound.present, here]; rfl, fun finished => ended (Option.some.inj finished),
    sound.left⟩

theorem step_sound {action : SyncAction} (stepped : life.step owner action = some next)
    (sound : life.Sound) : next.Sound := by
  cases action with
  | initializes sessionTimeoutSeconds calls =>
      obtain ⟨free, members, flag, ⟨joinable, rfl⟩ | ⟨_, joinable, rfl⟩⟩ := initialize_cases stepped
      · refine ⟨sound.present.trans joinable.symm, fun finished => ?_, fun joining => ?_⟩
        · exact flag.trans (sound.ended finished)
        · rw [free] at joining
          cases joining
      · refine ⟨joinable.symm, fun finished => (nomatch finished), fun joining => ?_⟩
        rw [free] at joining
        cases joining
  | deinitializes =>
      obtain ⟨free, rfl⟩ := deinitialize_cases stepped
      exact ⟨sound.present, fun _ => rfl, fun joinable => ⟨rfl, joinable⟩⟩
  | joins =>
      obtain ⟨joining, finished, rfl⟩ := join_cases stepped
      rw [SyncOwner.deinitializeSync_eq]
      exact ⟨rfl, fun finished => (nomatch finished), fun joining => (nomatch joining)⟩
  | tests =>
      obtain ⟨here, rfl⟩ := testStop_cases stepped
      refine sound.moved here fun finished => ?_
      cases raised : life.members.stopFlag with
      | true => rfl
      | false =>
          rw [raised] at finished
          cases finished
  | polls ret =>
      obtain ⟨here, rfl | rfl⟩ := poll_cases stepped
      · exact sound.moved here fun finished => nomatch finished
      · exact sound.moved here fun finished => nomatch finished
  | reads expirations =>
      obtain ⟨here, rfl⟩ := read_cases stepped
      refine sound.moved here fun finished => ?_
      split at finished <;> cases finished
  | broadcasts =>
      obtain ⟨here, rfl⟩ := broadcast_cases stepped
      exact sound.moved here fun finished => nomatch finished

private theorem run_sound {actions : List SyncAction} (ran : life.run owner actions = some next)
    (sound : life.Sound) : next.Sound :=
  partialRun_invariant (fun _ => True) Sound (fun _ _ _ _ stepped sound => step_sound stepped sound)
    (fun _ _ => trivial) ran sound

theorem start_sound : Sound {} :=
  ⟨rfl, fun finished => (nomatch finished), fun joining => (nomatch joining)⟩

/-- The broadcasts for which the timer has been read. -/
def owed (life : SyncLife) : Nat :=
  if life.place = some .broadcasting then 1 else 0

private theorem owed_of_ne (elsewhere : life.place ≠ some .broadcasting) : life.owed = 0 :=
  if_neg elsewhere

theorem step_owed {action : SyncAction} (sound : life.Sound)
    (stepped : life.step owner action = some next) :
    action.isBroadcast.toNat + next.owed = life.owed + action.isRead.toNat := by
  cases action with
  | initializes sessionTimeoutSeconds calls =>
      obtain ⟨free, members, _, ⟨_, rfl⟩ | ⟨unstarted, _, rfl⟩⟩ := initialize_cases stepped
      · exact Nat.zero_add _
      · have absent : life.place = none := by
          have present := sound.present
          rw [unstarted] at present
          exact Option.not_isSome_iff_eq_none.mp (Bool.eq_false_iff.mp present)
        rw [@owed_of_ne life (by rw [absent]; exact fun same => nomatch same)]
        rfl
  | deinitializes =>
      obtain ⟨free, rfl⟩ := deinitialize_cases stepped
      exact Nat.zero_add _
  | joins =>
      obtain ⟨joining, finished, rfl⟩ := join_cases stepped
      unfold owed
      rw [finished]
      rfl
  | tests =>
      obtain ⟨here, rfl⟩ := testStop_cases stepped
      rw [owed, owed, here]
      cases life.members.stopFlag <;> rfl
  | polls ret =>
      obtain ⟨here, rfl | rfl⟩ := poll_cases stepped
      · rw [owed, owed, here]
        rfl
      · rw [owed, owed, here]
        rfl
  | reads expirations =>
      obtain ⟨here, rfl⟩ := read_cases stepped
      rw [owed, owed, here]
      cases expirations <;> rfl
  | broadcasts =>
      obtain ⟨here, rfl⟩ := broadcast_cases stepped
      rw [owed, owed, here]
      rfl

theorem run_owed {actions : List SyncAction} (sound : life.Sound)
    (ran : life.run owner actions = some next) :
    actions.countP SyncAction.isBroadcast + next.owed =
      life.owed + actions.countP SyncAction.isRead := by
  have kept (life : SyncLife) (action : SyncAction) (next : SyncLife) (_ : True)
      (stepped : life.step owner action = some next) (sound : life.Sound) :
      next.Sound ∧ action.isBroadcast.toNat + next.owed = life.owed + action.isRead.toNat :=
    ⟨step_sound stepped sound, step_owed sound stepped⟩
  exact partialRun_account (fun _ => True) Sound owed SyncAction.isBroadcast SyncAction.isRead kept
    (fun _ _ => trivial) ran sound

/-! ### The end -/

/-- The broadcasts to which a thread that is told to stop can still come. -/
def mayBroadcast (life : SyncLife) : Nat :=
  match life.place with
  | some .polling | some .reading | some .broadcasting => 1
  | some .testing | some .finished | none => 0

private theorem step_mayBroadcast {action : SyncAction} (stopped : life.members.stopFlag = true)
    (stepped : life.step owner action = some next) :
    next.members.stopFlag = true ∧
      next.mayBroadcast + action.isBroadcast.toNat ≤ life.mayBroadcast := by
  cases action with
  | initializes sessionTimeoutSeconds calls =>
      obtain ⟨_, members, flag, ⟨_, rfl⟩ | ⟨_, _, rfl⟩⟩ := initialize_cases stepped
      · exact ⟨flag.trans stopped, Nat.le_refl _⟩
      · exact ⟨flag.trans stopped, Nat.zero_le _⟩
  | deinitializes =>
      obtain ⟨_, rfl⟩ := deinitialize_cases stepped
      exact ⟨rfl, Nat.le_refl _⟩
  | joins =>
      obtain ⟨_, _, rfl⟩ := join_cases stepped
      rw [SyncOwner.deinitializeSync_eq]
      exact ⟨rfl, Nat.zero_le _⟩
  | tests =>
      obtain ⟨here, rfl⟩ := testStop_cases stepped
      refine ⟨stopped, ?_⟩
      rw [stopped]
      exact Nat.zero_le _
  | polls ret =>
      obtain ⟨here, rfl | rfl⟩ := poll_cases stepped
      · exact ⟨stopped, Nat.zero_le _⟩
      · rw [mayBroadcast, mayBroadcast, here]
        exact ⟨stopped, Nat.le_refl _⟩
  | reads expirations =>
      obtain ⟨here, rfl⟩ := read_cases stepped
      rw [mayBroadcast, mayBroadcast, here]
      refine ⟨stopped, ?_⟩
      cases expirations with
      | none => exact Nat.zero_le _
      | some count => exact Nat.le_refl _
  | broadcasts =>
      obtain ⟨here, rfl⟩ := broadcast_cases stepped
      rw [mayBroadcast, mayBroadcast, here]
      exact ⟨stopped, Nat.le_refl _⟩

private theorem run_mayBroadcast {actions : List SyncAction}
    (stopped : life.members.stopFlag = true) (ran : life.run owner actions = some next) :
    next.mayBroadcast + actions.countP SyncAction.isBroadcast ≤ life.mayBroadcast :=
  partialRun_countP (fun life => life.members.stopFlag = true) mayBroadcast SyncAction.isBroadcast
    (fun _ _ _ stepped stopped => step_mayBroadcast stopped stepped) ran stopped

/-- The steps left to a thread that is told to stop, and to the one that waits for it. -/
def stepsToEnd (life : SyncLife) : Nat :=
  match life.place with
  | some .polling => 5
  | some .reading => 4
  | some .broadcasting => 3
  | some .testing => 2
  | some .finished => 1
  | none => 0

/-- The caller is in the `join`, or it has left the members as `deinitialize` does in one step. -/
structure Leaving (owner : SyncOwner) (members : SyncThread) (life : SyncLife) : Prop where
  sound : life.Sound
  unchanged : (life.joining = true ∧ life.members = members) ∨
    (life.joining = false ∧ life.members = owner.deinitializeSync members)

private theorem Leaving.raised {members : SyncThread} (leaving : life.Leaving owner members) :
    life.members.stopFlag = true := by
  rcases leaving.unchanged with ⟨joining, _⟩ | ⟨_, left⟩
  · exact (leaving.sound.left joining).1
  · rw [left, SyncOwner.deinitializeSync_eq]
    rfl

private theorem step_leaving {members : SyncThread} {action : SyncAction} (own : action.IsOwn)
    (stepped : life.step owner action = some next) (leaving : life.Leaving owner members) :
    next.Leaving owner members ∧ next.stepsToEnd + 1 ≤ life.stepsToEnd := by
  have sound := step_sound stepped leaving.sound
  cases action with
  | initializes sessionTimeoutSeconds calls => cases own
  | deinitializes => cases own
  | joins =>
      obtain ⟨joining, finished, rfl⟩ := join_cases stepped
      unfold stepsToEnd
      rw [finished]
      refine ⟨⟨sound, .inr ⟨rfl, ?_⟩⟩, Nat.le_refl _⟩
      rcases leaving.unchanged with ⟨_, same⟩ | ⟨left, _⟩
      · exact congrArg owner.deinitializeSync same
      · rw [joining] at left
        cases left
  | tests =>
      obtain ⟨here, rfl⟩ := testStop_cases stepped
      refine ⟨⟨sound, leaving.unchanged⟩, ?_⟩
      unfold stepsToEnd
      rw [here, leaving.raised]
      exact Nat.le_refl _
  | polls ret =>
      refine ⟨?_, ?_⟩
      · obtain ⟨_, rfl | rfl⟩ := poll_cases stepped
        · exact ⟨sound, leaving.unchanged⟩
        · exact ⟨sound, leaving.unchanged⟩
      · unfold stepsToEnd
        obtain ⟨here, rfl | rfl⟩ := poll_cases stepped
        · rw [here]
          exact Nat.le_add_left 3 2
        · rw [here]
  | reads expirations =>
      obtain ⟨here, rfl⟩ := read_cases stepped
      refine ⟨⟨sound, leaving.unchanged⟩, ?_⟩
      unfold stepsToEnd
      rw [here]
      cases expirations with
      | none => exact Nat.le_add_left 3 1
      | some count => exact Nat.le_refl _
  | broadcasts =>
      obtain ⟨here, rfl⟩ := broadcast_cases stepped
      refine ⟨⟨sound, leaving.unchanged⟩, ?_⟩
      unfold stepsToEnd
      rw [here]

/-- A thread that has not ended, or is waited for, can go on. -/
private theorem stuck_cases (sound : life.Sound)
    (stuck : ∀ action, SyncAction.IsOwn action → life.step owner action = none) :
    life.joining = false := by
  by_contra waits
  have joining := Bool.eq_true_of_not_eq_false waits
  obtain ⟨place, here⟩ := Option.isSome_iff_exists.mp
    (sound.present.trans (sound.left joining).2)
  cases place with
  | testing =>
      have tests : life.testStop = none := stuck .tests trivial
      rw [testStop, if_pos here] at tests
      cases tests
  | polling =>
      have polls : life.poll .elapsed = none := stuck (.polls .elapsed) trivial
      rw [poll, if_pos here] at polls
      cases polls
  | reading =>
      have reads : life.read none = none := stuck (.reads none) trivial
      rw [read, if_pos here] at reads
      cases reads
  | broadcasting =>
      have broadcasts : life.broadcast = none := stuck .broadcasts trivial
      rw [broadcast, if_pos here] at broadcasts
      cases broadcasts
  | finished =>
      have joins : life.join owner = none := stuck .joins trivial
      rw [join, if_pos ⟨joining, here⟩] at joins
      cases joins

end SyncLife

open SyncLife

/-! ### Every run -/

/-- The thread broadcasts once for each reading of the timer, in every order of the calls. -/
theorem one_broadcast_for_each_reading (owner : SyncOwner) (actions : List SyncAction)
    (life : SyncLife) (reached : SyncLife.run owner {} actions = some life) :
    actions.countP SyncAction.isRead =
      actions.countP SyncAction.isBroadcast +
        if life.place = some .broadcasting then 1 else 0 := by
  have owed := run_owed start_sound reached
  have nothing : SyncLife.owed {} = 0 := rfl
  rw [nothing, Nat.zero_add] at owed
  exact owed.symm

/-- The timer is charged and read once; the second reading fails. -/
def failedReading : List SyncAction :=
  [.initializes 2 ⟨some 3, some ⟨100, 0⟩, true⟩, .tests, .polls .ready, .reads (some 3),
    .broadcasts, .tests, .polls .ready, .reads none]

theorem one_broadcast_for_each_reading_failed :
    ∃ life, SyncLife.run .packetDispatcher {} failedReading = some life ∧
      failedReading.countP SyncAction.isRead = failedReading.countP SyncAction.isBroadcast +
        if life.place = some .broadcasting then 1 else 0 :=
  ⟨_, rfl, one_broadcast_for_each_reading .packetDispatcher failedReading _ rfl⟩

/-- A `deinitialize` returns after five steps at most, of which one can be a broadcast, the last
for good, and leaves the members as in one step. -/
theorem sync_deinitialize_returns (owner : SyncOwner) (actions : List SyncAction)
    (life : SyncLife) (reached : SyncLife.run owner {} actions = some life)
    (called : life.joining = true) :
    ComesToWithin 5 (SyncLife.step owner) SyncAction.IsOwn
        (fun final => final.joining = false ∧
          final.members = owner.deinitializeSync life.members) life ∧
      ∀ later final, life.run owner later = some final →
        later.countP SyncAction.isBroadcast ≤ 1 := by
  have sound := run_sound reached start_sound
  have raised := (sound.left called).1
  constructor
  · have within : ComesToWithin life.stepsToEnd (SyncLife.step owner) SyncAction.IsOwn
        (fun final => final.joining = false ∧
          final.members = owner.deinitializeSync life.members) life := by
      refine comesTo_of_measure (Leaving owner life.members) stepsToEnd
        (fun _ _ _ own stepped leaving => step_leaving own stepped leaving)
        (fun final leaving stuck => ?_) ⟨sound, .inl ⟨called, rfl⟩⟩
      have left := stuck_cases leaving.sound stuck
      rcases leaving.unchanged with ⟨joining, _⟩ | outcome
      · rw [left] at joining
        cases joining
      · exact outcome
    intro later final own ran
    obtain ⟨short, ends⟩ := within later final own ran
    refine ⟨Nat.le_trans short ?_, ends⟩
    unfold stepsToEnd
    split <;> decide
  · intro later final ran
    have balance := run_mayBroadcast raised ran
    have few : life.mayBroadcast ≤ 1 := by
      unfold mayBroadcast
      split <;> decide
    omega

/-- The thread is told to stop when it is to read. -/
theorem sync_deinitialize_returns_reading :
    ∃ life, SyncLife.run .packetRouter {} (failedReading ++ [.tests, .polls .ready,
        .deinitializes]) = some life ∧
      ∀ later final, life.run .packetRouter later = some final →
        later.countP SyncAction.isBroadcast ≤ 1 :=
  ⟨_, rfl, (sync_deinitialize_returns .packetRouter (failedReading ++ [.tests, .polls .ready,
    .deinitializes]) _ rfl rfl).2⟩

end TrafficInspector
