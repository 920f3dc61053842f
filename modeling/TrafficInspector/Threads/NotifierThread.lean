import TrafficInspector.Foundation.PartialRun
import TrafficInspector.ResultNotifier

/-!
Owns the life of the `ResultNotifier`: the thread that logs what is provided, and the calls that
start and stop it, in every order in which they can come. What is provided is logged in that
order, once; a notifier that was stopped logs at most one notification more, however often it is
started again; and `deinitialize` waits for a thread that may wait for a notification.
-/

namespace TrafficInspector

open Foundation

/-- Where `notifierThread` is. -/
inductive NotifierPlace where
  /-- In front of `while(!m_stop)`. -/
  | testing
  /-- In `getObject`. -/
  | receiving
  | finished
deriving DecidableEq, Repr

/-- Where the thread is that calls `initialize` and `deinitialize`. -/
inductive NotifierOwner where
  | free
  /-- In the `join` of `deinitialize`. -/
  | joining
  /-- Out of it, with an exception. -/
  | thrown
deriving DecidableEq, Repr

/-- The object of `ResultNotifier::instance()`. It is static, so that `m_stop`, which no
constructor sets, starts as zero. There is no `place` while the thread is not joinable. -/
structure NotifierLife where
  notifier : ResultNotifier := ⟨[], ""⟩
  stop : Bool := false
  place : Option NotifierPlace := none
  owner : NotifierOwner := .free
  logged : List NotificationData := []

/-- A call of a worker, of the owner or of anybody, or a step of the thread. -/
inductive NotifierAction where
  | provides (timeMsec : SizeT) (resp req : RADIUSPacket)
  | initializes (sourceId : String)
  | setsStop
  | deinitializes
  | joins
  | tests
  | logs

namespace NotifierLife

/-- `initialize`. -/
def initializeNotifier (life : NotifierLife) (sourceId : String) : Option NotifierLife :=
  match life.owner with
  | .free =>
      some { life with
        notifier := { life.notifier with
          sourceId := if life.notifier.sourceId.isEmpty then sourceId else life.notifier.sourceId }
        place := if life.place.isNone then some .testing else life.place }
  | _ => none

def setStop (life : NotifierLife) : NotifierLife :=
  { life with stop := true }

/-- `deinitialize`, up to the `join`. -/
def deinitializeNotifier (life : NotifierLife) : Option NotifierLife :=
  match life.owner with
  | .free => some { life.setStop with owner := .joining }
  | _ => none

/-- `m_notifierThread.join()`, which throws where no thread is joinable. -/
def join (life : NotifierLife) : Option NotifierLife :=
  match life.owner, life.place with
  | .joining, none => some { life with owner := .thrown }
  | .joining, some .finished => some { life with owner := .free, place := none }
  | _, _ => none

/-- `while(!m_stop)`. -/
def testStop (life : NotifierLife) : Option NotifierLife :=
  match life.place with
  | some .testing =>
      some { life with place := some (if life.stop then .finished else .receiving) }
  | _ => none

/-- The body of the loop. What `getObject` has returned is not yet logged until the line is written;
only the thread itself looks into the queue, so that up to then it counts as queued. -/
def logNext (life : NotifierLife) : Option NotifierLife :=
  match life.place, ObjectQueue.getObject life.notifier.queue with
  | some .receiving, some (data, queue) =>
      some { life with
        notifier := { life.notifier with queue }
        place := some .testing
        logged := life.logged ++ [data] }
  | _, _ => none

/-- A call that does not return has no next state. -/
def step (life : NotifierLife) : NotifierAction → Option NotifierLife
  | .provides timeMsec resp req =>
      some { life with notifier := (life.notifier.provideDataForNotifier timeMsec resp req).1 }
  | .initializes sourceId => life.initializeNotifier sourceId
  | .setsStop => some life.setStop
  | .deinitializes => life.deinitializeNotifier
  | .joins => life.join
  | .tests => life.testStop
  | .logs => life.logNext

def run (life : NotifierLife) (actions : List NotifierAction) : Option NotifierLife :=
  partialRun step life actions

/-- What a call makes of the attributes it is given. -/
def provided (life : NotifierLife) : NotifierAction → List NotificationData
  | .provides timeMsec resp req =>
      [(NotificationData.create timeMsec life.notifier.sourceId resp.avps req.avps).1]
  | _ => []

/-- All that is provided in a run. -/
def allProvided (life : NotifierLife) (actions : List NotifierAction) : List NotificationData :=
  partialTrace provided step life actions

end NotifierLife

namespace NotifierAction

def sourceId : NotifierAction → Option String
  | initializes sourceId => some sourceId
  | _ => none

def isProvides : NotifierAction → Bool
  | provides .. => true
  | _ => false

/-- Steps of the thread, and the one that waits for it. -/
def IsOwn : NotifierAction → Prop
  | joins | tests | logs => True
  | provides .. | initializes _ | setsStop | deinitializes => False

end NotifierAction

/-- The first name that is given and not empty. -/
def firstName (actions : List NotifierAction) : String :=
  ((actions.filterMap NotifierAction.sourceId).find? fun sourceId => !sourceId.isEmpty).getD ""

theorem firstName_cons (action : NotifierAction) (rest : List NotifierAction) :
    firstName (action :: rest) = if (action.sourceId.getD "").isEmpty then firstName rest
      else action.sourceId.getD "" := by
  unfold firstName
  cases given : action.sourceId with
  | none =>
      rw [List.filterMap_cons_none given]
      rfl
  | some sourceId =>
      rw [List.filterMap_cons_some given, List.find?_cons]
      cases empty : sourceId.isEmpty with
      | true => rw [Option.getD_some, empty]; rfl
      | false => rw [Option.getD_some, empty]; rfl

namespace NotifierLife

variable {life next : NotifierLife}

/-! ### What each step does -/

theorem initialize_cases {sourceId : String}
    (stepped : life.initializeNotifier sourceId = some next) :
    life.owner = .free ∧ next = { life with
      notifier := { life.notifier with
        sourceId := if life.notifier.sourceId.isEmpty then sourceId else life.notifier.sourceId }
      place := if life.place.isNone then some .testing else life.place } := by
  unfold initializeNotifier at stepped
  split at stepped
  · rename_i free
    exact ⟨free, (Option.some.inj stepped).symm⟩
  · cases stepped

theorem deinitialize_cases (stepped : life.deinitializeNotifier = some next) :
    life.owner = .free ∧ next = { life with stop := true, owner := .joining } := by
  unfold deinitializeNotifier at stepped
  split at stepped
  · rename_i free
    exact ⟨free, (Option.some.inj stepped).symm⟩
  · cases stepped

theorem join_cases (stepped : life.join = some next) :
    life.owner = .joining ∧
      ((life.place = none ∧ next = { life with owner := .thrown }) ∨
        (life.place = some .finished ∧ next = { life with owner := .free, place := none })) := by
  unfold join at stepped
  split at stepped
  · rename_i joining absent
    exact ⟨joining, .inl ⟨absent, (Option.some.inj stepped).symm⟩⟩
  · rename_i joining finished
    exact ⟨joining, .inr ⟨finished, (Option.some.inj stepped).symm⟩⟩
  · cases stepped

theorem testStop_cases (stepped : life.testStop = some next) :
    life.place = some .testing ∧
      next = { life with place := some (if life.stop then .finished else .receiving) } := by
  unfold testStop at stepped
  split at stepped
  · rename_i testing
    exact ⟨testing, (Option.some.inj stepped).symm⟩
  · cases stepped

theorem logNext_cases (stepped : life.logNext = some next) :
    ∃ data queue, life.place = some .receiving ∧ life.notifier.queue = data :: queue ∧
      next = { life with
        notifier := { life.notifier with queue }
        place := some .testing
        logged := life.logged ++ [data] } := by
  unfold logNext at stepped
  split at stepped
  · rename_i data queue receiving taken
    exact ⟨data, queue, receiving, ObjectQueue.getObject_eq_some.mp taken,
      (Option.some.inj stepped).symm⟩
  · cases stepped

/-! ### What is logged -/

theorem step_inOrder {action : NotifierAction} (stepped : life.step action = some next) :
    next.logged ++ next.notifier.queue =
      life.logged ++ life.notifier.queue ++ life.provided action := by
  cases action with
  | provides timeMsec resp req =>
      cases stepped
      exact (List.append_assoc ..).symm
  | initializes sourceId =>
      obtain ⟨_, rfl⟩ := initialize_cases stepped
      exact (List.append_nil _).symm
  | setsStop =>
      cases stepped
      exact (List.append_nil _).symm
  | deinitializes =>
      obtain ⟨_, rfl⟩ := deinitialize_cases stepped
      exact (List.append_nil _).symm
  | joins =>
      obtain ⟨_, ⟨_, rfl⟩ | ⟨_, rfl⟩⟩ := join_cases stepped
      · exact (List.append_nil _).symm
      · exact (List.append_nil _).symm
  | tests =>
      obtain ⟨_, rfl⟩ := testStop_cases stepped
      exact (List.append_nil _).symm
  | logs =>
      obtain ⟨data, queue, _, queued, rfl⟩ := logNext_cases stepped
      rw [queued]
      exact (List.append_assoc ..).trans (List.append_nil _).symm

theorem step_name {action : NotifierAction} (stepped : life.step action = some next) :
    next.notifier.sourceId = if life.notifier.sourceId.isEmpty then action.sourceId.getD ""
      else life.notifier.sourceId := by
  have unchanged (same : next.notifier.sourceId = life.notifier.sourceId) :
      next.notifier.sourceId = if life.notifier.sourceId.isEmpty then "" else
        life.notifier.sourceId := by
    rw [same]
    split
    · rename_i empty
      exact String.isEmpty_iff.mp empty
    · rfl
  cases action with
  | provides timeMsec resp req =>
      cases stepped
      exact unchanged rfl
  | initializes sourceId =>
      obtain ⟨_, rfl⟩ := initialize_cases stepped
      rfl
  | setsStop =>
      cases stepped
      exact unchanged rfl
  | deinitializes =>
      obtain ⟨_, rfl⟩ := deinitialize_cases stepped
      exact unchanged rfl
  | joins =>
      obtain ⟨_, ⟨_, rfl⟩ | ⟨_, rfl⟩⟩ := join_cases stepped
      · exact unchanged rfl
      · exact unchanged rfl
  | tests =>
      obtain ⟨_, rfl⟩ := testStop_cases stepped
      exact unchanged rfl
  | logs =>
      obtain ⟨data, queue, _, _, rfl⟩ := logNext_cases stepped
      exact unchanged rfl

private theorem length_provided (life : NotifierLife) (action : NotifierAction) :
    (life.provided action).length = action.isProvides.toNat := by
  cases action <;> rfl

/-- A name that is given stays. -/
private theorem run_name {actions : List NotifierAction} (ran : life.run actions = some next) :
    next.notifier.sourceId = if life.notifier.sourceId.isEmpty then firstName actions
      else life.notifier.sourceId := by
  induction actions generalizing life with
  | nil =>
      cases ran
      split
      · rename_i empty
        exact String.isEmpty_iff.mp empty
      · rfl
  | cons action rest inductionHypothesis =>
      obtain ⟨middle, stepped, ran⟩ := partialRun_cons.mp ran
      rw [inductionHypothesis ran, step_name stepped]
      cases named : life.notifier.sourceId.isEmpty with
      | false => rw [if_neg Bool.false_ne_true, named, if_neg Bool.false_ne_true,
          if_neg Bool.false_ne_true]
      | true => rw [if_pos rfl, if_pos rfl, firstName_cons]

/-! ### What stops -/

/-- The thread ends, and the owner joins it, behind a raised flag only. -/
structure Sound (life : NotifierLife) : Prop where
  ended : life.place = some .finished → life.stop = true
  left : life.owner ≠ .free → life.stop = true

private theorem step_sound {action : NotifierAction} (stepped : life.step action = some next)
    (sound : life.Sound) : next.Sound := by
  cases action with
  | provides timeMsec resp req =>
      cases stepped
      exact ⟨sound.ended, sound.left⟩
  | initializes sourceId =>
      obtain ⟨free, rfl⟩ := initialize_cases stepped
      refine ⟨fun finished => ?_, fun called => absurd free called⟩
      cases place : life.place with
      | none =>
          rw [place] at finished
          cases finished
      | some old =>
          rw [place] at finished
          exact sound.ended (place.trans finished)
  | setsStop =>
      cases stepped
      exact ⟨fun _ => rfl, fun _ => rfl⟩
  | deinitializes =>
      obtain ⟨_, rfl⟩ := deinitialize_cases stepped
      exact ⟨fun _ => rfl, fun _ => rfl⟩
  | joins =>
      obtain ⟨joining, ⟨_, rfl⟩ | ⟨_, rfl⟩⟩ := join_cases stepped
      · exact ⟨sound.ended, fun _ => sound.left (by rw [joining]; exact NotifierOwner.noConfusion)⟩
      · exact ⟨fun finished => (nomatch finished), fun called => absurd rfl called⟩
  | tests =>
      obtain ⟨_, rfl⟩ := testStop_cases stepped
      refine ⟨fun finished => ?_, sound.left⟩
      cases raised : life.stop with
      | true => rfl
      | false =>
          rw [raised] at finished
          cases finished
  | logs =>
      obtain ⟨data, queue, _, _, rfl⟩ := logNext_cases stepped
      exact ⟨fun finished => (nomatch finished), sound.left⟩

/-- The flag is up, and at most one notification has been logged since `logged` was all, by a
thread that had passed the test. -/
structure Stopped (passed : Prop) (logged : List NotificationData) (life : NotifierLife) :
    Prop where
  raised : life.stop = true
  few : (life.logged = logged ∧ (life.place = some .receiving → passed)) ∨
    (passed ∧ life.place ≠ some .receiving ∧ ∃ data, life.logged = logged ++ [data])

private theorem Stopped.of_silent {passed : Prop} {logged : List NotificationData}
    (stopped : life.Stopped passed logged) (raised : next.stop = true)
    (same : next.logged = life.logged)
    (place : next.place = some .receiving → life.place = some .receiving) :
    next.Stopped passed logged := by
  refine ⟨raised, ?_⟩
  rcases stopped.few with ⟨nothing, isPassed⟩ | ⟨isPassed, behind, data, one⟩
  · exact .inl ⟨same.trans nothing, fun receiving => isPassed (place receiving)⟩
  · exact .inr ⟨isPassed, fun receiving => behind (place receiving), data, same.trans one⟩

private theorem step_stopped {passed : Prop} {logged : List NotificationData}
    {action : NotifierAction} (stepped : life.step action = some next)
    (stopped : life.Stopped passed logged) : next.Stopped passed logged := by
  cases action with
  | provides timeMsec resp req =>
      cases stepped
      exact stopped.of_silent stopped.raised rfl id
  | initializes sourceId =>
      obtain ⟨_, rfl⟩ := initialize_cases stepped
      refine stopped.of_silent stopped.raised rfl fun receiving => ?_
      cases place : life.place with
      | none =>
          rw [place] at receiving
          cases receiving
      | some old =>
          rw [place] at receiving
          exact receiving
  | setsStop =>
      cases stepped
      exact stopped.of_silent rfl rfl id
  | deinitializes =>
      obtain ⟨_, rfl⟩ := deinitialize_cases stepped
      exact stopped.of_silent rfl rfl id
  | joins =>
      obtain ⟨_, ⟨_, rfl⟩ | ⟨_, rfl⟩⟩ := join_cases stepped
      · exact stopped.of_silent stopped.raised rfl id
      · exact stopped.of_silent stopped.raised rfl fun receiving => nomatch receiving
  | tests =>
      obtain ⟨_, rfl⟩ := testStop_cases stepped
      refine stopped.of_silent stopped.raised rfl fun receiving => ?_
      rw [stopped.raised] at receiving
      cases receiving
  | logs =>
      obtain ⟨data, queue, receiving, _, rfl⟩ := logNext_cases stepped
      refine ⟨stopped.raised, .inr ?_⟩
      rcases stopped.few with ⟨nothing, isPassed⟩ | ⟨_, behind, _⟩
      · exact ⟨isPassed receiving, fun again => (nomatch again), data,
          congrArg (· ++ [data]) nothing⟩
      · exact absurd receiving behind

/-! ### What comes to its end -/

/-- In whatever order the thread and the owner take their steps, they come to an end, and then
it is so. -/
def ComesTo (life : NotifierLife) (Done : NotifierLife → Prop) : Prop :=
  Foundation.ComesTo step NotifierAction.IsOwn Done life

def stepsLeft (life : NotifierLife) : Nat :=
  (match life.place with
    | some .testing => 2 * life.notifier.queue.length + 1
    | some .receiving => 2 * life.notifier.queue.length
    | some .finished | none => 0) +
  if life.owner = .joining then 1 else 0

private theorem step_stepsLeft {action : NotifierAction} (own : action.IsOwn)
    (stepped : life.step action = some next) : next.stepsLeft + 1 ≤ life.stepsLeft := by
  cases action with
  | provides timeMsec resp req => cases own
  | initializes sourceId => cases own
  | setsStop => cases own
  | deinitializes => cases own
  | joins =>
      obtain ⟨joining, ⟨absent, rfl⟩ | ⟨finished, rfl⟩⟩ := join_cases stepped
      · simp [stepsLeft, joining, absent]
      · simp [stepsLeft, joining, finished]
  | tests =>
      obtain ⟨testing, rfl⟩ := testStop_cases stepped
      unfold stepsLeft
      rw [testing]
      cases life.stop with
      | true =>
          simp only [if_true]
          omega
      | false =>
          simp only [Bool.false_eq_true, if_false]
          omega
  | logs =>
      obtain ⟨data, queue, receiving, queued, rfl⟩ := logNext_cases stepped
      unfold stepsLeft
      rw [receiving, queued]
      simp
      omega

/-- What cannot go on: the owner is in no `join` that could return, and the thread, if there is
one, waits at the empty queue or has ended. -/
private theorem stuck_cases
    (stuck : ∀ action, NotifierAction.IsOwn action → life.step action = none) :
    (life.place = some .receiving ∧ life.notifier.queue = []) ∨
      (life.owner ≠ .joining ∧ (life.place = none ∨ life.place = some .finished)) := by
  have joins : life.join = none := stuck .joins trivial
  have tests : life.testStop = none := stuck .tests trivial
  have logs : life.logNext = none := stuck .logs trivial
  unfold join at joins
  unfold testStop at tests
  unfold logNext at logs
  cases place : life.place with
  | none =>
      refine .inr ⟨fun joining => ?_, .inl rfl⟩
      rw [joining, place] at joins
      cases joins
  | some at_ =>
      cases at_ with
      | testing =>
          rw [place] at tests
          cases tests
      | receiving =>
          refine .inl ⟨rfl, ?_⟩
          cases queued : life.notifier.queue with
          | nil => rfl
          | cons data queue =>
              rw [place, queued] at logs
              cases logs
      | finished =>
          refine .inr ⟨fun joining => ?_, .inr rfl⟩
          rw [joining, place] at joins
          cases joins

private theorem stuck_of_dry (receiving : life.place = some .receiving)
    (dry : life.notifier.queue = []) {action : NotifierAction} (own : action.IsOwn) :
    life.step action = none := by
  cases action with
  | provides timeMsec resp req => cases own
  | initializes sourceId => cases own
  | setsStop => cases own
  | deinitializes => cases own
  | joins =>
      show life.join = none
      unfold join
      rw [receiving]
      cases life.owner <;> rfl
  | tests =>
      show life.testStop = none
      unfold testStop
      rw [receiving]
  | logs =>
      show life.logNext = none
      unfold logNext
      rw [receiving, dry]
      rfl

private theorem stuck_of_thrown (absent : life.place = none) (thrown : life.owner = .thrown)
    {action : NotifierAction} (own : action.IsOwn) : life.step action = none := by
  cases action with
  | provides timeMsec resp req => cases own
  | initializes sourceId => cases own
  | setsStop => cases own
  | deinitializes => cases own
  | joins =>
      show life.join = none
      unfold join
      rw [absent, thrown]
  | tests =>
      show life.testStop = none
      unfold testStop
      rw [absent]
  | logs =>
      show life.logNext = none
      unfold logNext
      rw [absent]

/-- A started thread that has not been told to stop. -/
structure Running (life : NotifierLife) : Prop where
  lowered : life.stop = false
  started : life.place = some .testing ∨ life.place = some .receiving
  unjoined : life.owner ≠ .joining

private theorem step_running {action : NotifierAction} (own : action.IsOwn)
    (stepped : life.step action = some next) (running : life.Running) : next.Running := by
  cases action with
  | provides timeMsec resp req => cases own
  | initializes sourceId => cases own
  | setsStop => cases own
  | deinitializes => cases own
  | joins =>
      obtain ⟨joining, _⟩ := join_cases stepped
      exact absurd joining running.unjoined
  | tests =>
      obtain ⟨_, rfl⟩ := testStop_cases stepped
      exact ⟨running.lowered, .inr (by rw [running.lowered]; rfl), running.unjoined⟩
  | logs =>
      obtain ⟨data, queue, _, _, rfl⟩ := logNext_cases stepped
      exact ⟨running.lowered, .inl rfl, running.unjoined⟩

/-- The owner is in a `join` that will return, or it has returned. -/
structure Joinable (life : NotifierLife) : Prop where
  raised : life.stop = true
  ending : (life.owner = .joining ∧ life.place ≠ none ∧
      (life.place = some .receiving → life.notifier.queue ≠ [])) ∨
    (life.owner = .free ∧ life.place = none)

private theorem step_joinable {action : NotifierAction} (own : action.IsOwn)
    (stepped : life.step action = some next) (joinable : life.Joinable) : next.Joinable := by
  have raised := joinable.raised
  cases action with
  | provides timeMsec resp req => cases own
  | initializes sourceId => cases own
  | setsStop => cases own
  | deinitializes => cases own
  | joins =>
      obtain ⟨joining, ⟨absent, rfl⟩ | ⟨_, rfl⟩⟩ := join_cases stepped
      · rcases joinable.ending with ⟨_, started, _⟩ | ⟨free, _⟩
        · exact absurd absent started
        · rw [joining] at free
          cases free
      · exact ⟨raised, .inr ⟨rfl, rfl⟩⟩
  | tests =>
      obtain ⟨testing, rfl⟩ := testStop_cases stepped
      rcases joinable.ending with ⟨joining, _, _⟩ | ⟨_, absent⟩
      · rw [raised]
        exact ⟨rfl, .inl ⟨joining, Option.some_ne_none _, fun receiving => (nomatch receiving)⟩⟩
      · rw [testing] at absent
        cases absent
  | logs =>
      obtain ⟨data, queue, receiving, _, rfl⟩ := logNext_cases stepped
      rcases joinable.ending with ⟨joining, _, _⟩ | ⟨_, absent⟩
      · exact ⟨raised, .inl ⟨joining, Option.some_ne_none _, fun again => (nomatch again)⟩⟩
      · rw [receiving] at absent
        cases absent

private theorem start_sound : Sound {} :=
  ⟨fun finished => (nomatch finished), fun called => absurd rfl called⟩

private theorem run_sound {actions : List NotifierAction} (ran : life.run actions = some next)
    (sound : life.Sound) : next.Sound :=
  partialRun_invariant (fun _ => True) Sound (fun _ _ _ _ stepped sound => step_sound stepped sound)
    (fun _ _ => trivial) ran sound

/-- What was provided is logged or queued, in its order. -/
private theorem run_inOrder {actions : List NotifierAction}
    (ran : NotifierLife.run {} actions = some life) :
    life.logged ++ life.notifier.queue = NotifierLife.allProvided {} actions :=
  partialTrace_invariant
    (fun shown (life : NotifierLife) => life.logged ++ life.notifier.queue = shown)
    (fun _ _ _ _ stepped inOrder => by rw [step_inOrder stepped, inOrder]) ran rfl

/-- What is provided after some calls bears the first name these gave. -/
private theorem run_provides {front rest : List NotifierAction} {timeMsec : SizeT}
    {resp req : RADIUSPacket}
    (ran : NotifierLife.run {} (front ++ .provides timeMsec resp req :: rest) = some life) :
    (NotifierLife.allProvided {} (front ++ .provides timeMsec resp req :: rest))[
        front.countP NotifierAction.isProvides]? =
      some ⟨timeMsec, firstName front, resp.avps, req.avps⟩ := by
  obtain ⟨middle, ranFront, ran⟩ := partialRun_append.mp ran
  obtain ⟨next, stepped, _⟩ := partialRun_cons.mp ran
  have name : middle.notifier.sourceId = firstName front := run_name ranFront
  have before : (NotifierLife.allProvided {} front).length =
      front.countP NotifierAction.isProvides :=
    length_partialTrace _ length_provided ranFront
  unfold allProvided at before ⊢
  rw [partialTrace_append ranFront, partialTrace_cons stepped, ← before,
    List.getElem?_append_right (Nat.le_refl _), Nat.sub_self, ← name]
  rfl

private theorem provided_own {action : NotifierAction} (own : action.IsOwn) :
    life.provided action = [] := by
  cases action with
  | provides timeMsec resp req => cases own
  | _ => rfl

end NotifierLife

open NotifierLife

/-! ### Every run -/

/-- A notification comes before the name, one behind it, and the thread logs the first. -/
def early : List NotifierAction :=
  [.provides 3 (.ofControlMessageId .processing) (.ofControlMessageId .processing),
    .initializes "probe",
    .provides 5 (.ofControlMessageId .processing) (.ofControlMessageId .processing), .tests, .logs]

/-- What is provided is logged once and in its order, or waits in the queue, and bears the first
name that the calls before it gave, or none. -/
theorem notifications_logged_in_order (actions : List NotifierAction) (life : NotifierLife)
    (reached : NotifierLife.run {} actions = some life) :
    life.logged ++ life.notifier.queue = NotifierLife.allProvided {} actions ∧
      (life.logged ++ life.notifier.queue).length = actions.countP NotifierAction.isProvides ∧
      ∀ front timeMsec resp req rest, actions = front ++ .provides timeMsec resp req :: rest →
        (life.logged ++ life.notifier.queue)[front.countP NotifierAction.isProvides]? =
          some ⟨timeMsec, firstName front, resp.avps, req.avps⟩ := by
  have inOrder := run_inOrder reached
  refine ⟨inOrder, ?_, ?_⟩
  · rw [inOrder]
    exact length_partialTrace _ length_provided reached
  · rintro front timeMsec resp req rest rfl
    rw [inOrder]
    exact run_provides reached

/-- What is provided before the name is given is logged without it. -/
theorem notifications_logged_in_order_early :
    ∃ life, NotifierLife.run {} early = some life ∧
      life.logged ++ life.notifier.queue = NotifierLife.allProvided {} early ∧
      (life.logged ++ life.notifier.queue).length = 2 ∧
      (life.logged ++ life.notifier.queue)[0]? = some ⟨3, "", ∅, ∅⟩ ∧
      (life.logged ++ life.notifier.queue)[1]? = some ⟨5, "probe", ∅, ∅⟩ := by
  refine ⟨_, rfl, ?_⟩
  obtain ⟨inOrder, length, named⟩ := notifications_logged_in_order early _ rfl
  exact ⟨inOrder, length, named [] 3 _ _ _ rfl, named (early.take 2) 5 _ _ _ rfl⟩

/-- Behind a stop, whatever is called, at most one notification is logged, and only by a thread
that had passed the test. -/
theorem stopped_notifier_logs_at_most_one (life final : NotifierLife)
    (actions : List NotifierAction) (stopped : life.stop = true)
    (goesOn : life.run actions = some final) :
    final.logged = life.logged ∨
      (life.place = some .receiving ∧ ∃ data, final.logged = life.logged ++ [data]) := by
  have atEnd := partialRun_invariant (fun _ => True)
    (Stopped (life.place = some .receiving) life.logged)
    (fun _ _ _ _ stepped stopped => step_stopped stepped stopped) (fun _ _ => trivial) goesOn
    ⟨stopped, .inl ⟨rfl, id⟩⟩
  rcases atEnd.few with ⟨nothing, _⟩ | ⟨passed, _, one⟩
  · exact .inl nothing
  · exact .inr ⟨passed, one⟩

theorem stopped_notifier_logs_at_most_one_early :
    ∃ life final, NotifierLife.run {} (early ++ [.tests, .deinitializes]) = some life ∧
      life.run [.logs, .tests, .joins, .initializes "other", .tests] = some final ∧
      (final.logged = life.logged ∨
        (life.place = some .receiving ∧ ∃ data, final.logged = life.logged ++ [data])) :=
  ⟨_, _, rfl, rfl, stopped_notifier_logs_at_most_one _ _
    [.logs, .tests, .joins, .initializes "other", .tests] rfl rfl⟩

/-- A thread that runs logs everything that was provided. -/
theorem running_notifier_logs_all (actions : List NotifierAction) (life : NotifierLife)
    (reached : NotifierLife.run {} actions = some life) (lowered : life.stop = false)
    (started : life.place ≠ none) :
    life.ComesTo fun final => final.logged = NotifierLife.allProvided {} actions ∧
      final.notifier.queue = [] := by
  have sound := run_sound reached start_sound
  have running : life.Running := by
    refine ⟨lowered, ?_, fun joining => ?_⟩
    · cases place : life.place with
      | none => exact absurd place started
      | some at_ =>
          cases at_ with
          | testing => exact .inl rfl
          | receiving => exact .inr rfl
          | finished =>
              have raised := sound.ended place
              rw [lowered] at raised
              cases raised
    · have raised := sound.left (by rw [joining]; exact NotifierOwner.noConfusion)
      rw [lowered] at raised
      cases raised
  refine ⟨life.stepsLeft, comesTo_of_measure (fun life => life.Running ∧
    life.logged ++ life.notifier.queue = NotifierLife.allProvided {} actions) stepsLeft
    (fun life action next own stepped holds => ?_) (fun final holds stuck => ?_)
    ⟨running, run_inOrder reached⟩⟩
  · refine ⟨⟨step_running own stepped holds.1, ?_⟩, step_stepsLeft own stepped⟩
    rw [step_inOrder stepped, provided_own own, List.append_nil]
    exact holds.2
  · obtain ⟨still, inOrder⟩ := holds
    obtain ⟨_, dry⟩ : final.place = some .receiving ∧ final.notifier.queue = [] := by
      rcases stuck_cases stuck with waits | ⟨_, absent | finished⟩
      · exact waits
      · rcases still.started with place | place <;> rw [absent] at place <;> cases place
      · rcases still.started with place | place <;> rw [finished] at place <;> cases place
    rw [dry, List.append_nil] at inOrder
    exact ⟨inOrder, dry⟩

theorem running_notifier_logs_all_early :
    ∃ life, NotifierLife.run {} early = some life ∧
      life.ComesTo fun final => final.logged = NotifierLife.allProvided {} early ∧
        final.notifier.queue = [] :=
  ⟨_, rfl, running_notifier_logs_all early _ rfl rfl (Option.some_ne_none _)⟩

/-- With nothing more provided, `deinitialize` returns, in every schedule, exactly when there is a
thread and this does not wait at the empty queue. -/
theorem deinitialize_returns_iff (actions : List NotifierAction) (life : NotifierLife)
    (reached : NotifierLife.run {} actions = some life) (called : life.owner = .joining) :
    (life.ComesTo fun final => final.owner = .free) ↔
      life.place ≠ none ∧ (life.place = some .receiving → life.notifier.queue ≠ []) := by
  constructor
  · intro returns
    refine ⟨fun absent => ?_, fun receiving dry => ?_⟩
    · have thrown : life.run [.joins] = some { life with owner := .thrown } := by
        refine partialRun_cons.mpr ⟨_, ?_, rfl⟩
        show life.join = _
        unfold join
        rw [called, absent]
      have isOwn : ∀ action ∈ [NotifierAction.joins], action.IsOwn := fun action member => by
        rw [List.mem_singleton.mp member]
        trivial
      cases returns.of_stuck isOwn thrown fun action own =>
        @stuck_of_thrown { life with owner := .thrown } absent rfl action own
    · have free : life.owner = .free :=
        returns.of_stuck (fun action member => (List.not_mem_nil member).elim) rfl
          fun action own => stuck_of_dry receiving dry own
      rw [called] at free
      cases free
  · rintro ⟨started, supplied⟩
    refine ⟨life.stepsLeft, comesTo_of_measure Joinable stepsLeft
      (fun _ _ _ own stepped joinable =>
        ⟨step_joinable own stepped joinable, step_stepsLeft own stepped⟩)
      (fun final still stuck => ?_)
      ⟨(run_sound reached start_sound).left (by rw [called]; exact NotifierOwner.noConfusion),
        .inl ⟨called, started, supplied⟩⟩⟩
    rcases still.ending with ⟨joining, present, suppliedNow⟩ | ⟨free, _⟩
    · rcases stuck_cases stuck with ⟨receiving, dry⟩ | ⟨unjoined, _⟩
      · exact absurd dry (suppliedNow receiving)
      · exact absurd joining unjoined
    · exact free

/-- A thread that found nothing to log is joined in vain. -/
theorem deinitialize_returns_iff_idle :
    ∃ life, NotifierLife.run {} [.initializes "probe", .tests, .deinitializes] = some life ∧
      ¬ life.ComesTo fun final => final.owner = .free := by
  refine ⟨⟨⟨[], "probe"⟩, true, some .receiving, .joining, []⟩, rfl, fun returns => ?_⟩
  exact ((deinitialize_returns_iff [.initializes "probe", .tests, .deinitializes] _ rfl
    rfl).mp returns).2 rfl rfl

end TrafficInspector
