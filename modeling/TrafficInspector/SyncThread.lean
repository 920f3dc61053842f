import TrafficInspector.Foundation.SlotBank
import TrafficInspector.Packets.BasePacket
import Mathlib.Data.List.Induction

/-!
Owns `initialize` and `deinitialize` of `PacketDispatcher` and of `PacketRouter`,
which are the same text in both: the timer, the thread that waits for it, and the
flag that stops the thread. The guard of `initialize` asks only whether there is a
timer, and nothing takes the flag back.
-/

namespace TrafficInspector

open Foundation

/-- `struct timespec`, with `time_t` as the word it is. -/
structure TimeSpec where
  tvSec : SizeT
  tvNsec : SizeT
deriving DecidableEq, Repr

/-- `struct itimerspec`. -/
structure ITimerSpec where
  itInterval : TimeSpec
  itValue : TimeSpec
deriving DecidableEq, Repr

/-- What the system calls of one `initialize` yield: the new descriptor, the reading of
the clock, and whether the timer took its setting. `none` and `false` stand for `-1`. -/
structure SystemCalls where
  timerfdCreate : Option Nat
  clockGettime : Option TimeSpec
  timerfdSettime : Bool
deriving DecidableEq, Repr

/-- `new_value`, due on the absolute clock a session timeout after the reading. -/
def newValue (reading : TimeSpec) (sessionTimeoutSeconds : SizeT) : ITimerSpec where
  itInterval := ⟨sessionTimeoutSeconds, 0⟩
  itValue := { reading with tvSec := reading.tvSec + sessionTimeoutSeconds }

/-- The members behind the sync thread, with the setting of the timer that the handler
names. A thread has been started only behind a timer, so that the assignment in
`initialize` never meets one that is joinable. -/
structure SyncThread where
  timerHandler : Option Nat := none
  setting : Option ITimerSpec := none
  joinable : Bool := false
  stopFlag : Bool := false
  startedBehindTimer : joinable = true → timerHandler.isSome = true := by decide

namespace SyncThread

/-- `initialize`, with its answer. Lean keeps the word for itself. -/
def initializeSync (sessionTimeoutSeconds : SizeT) (calls : SystemCalls) (members : SyncThread) :
    Bool × SyncThread :=
  match members.timerHandler with
  | some _ => (true, members)
  | none =>
      match calls.timerfdCreate with
      | none => (false, members)
      | some handler =>
          let created : SyncThread :=
            { members with timerHandler := some handler, startedBehindTimer := fun _ => rfl }
          match calls.clockGettime with
          | none => (false, created)
          | some reading =>
              if calls.timerfdSettime then
                (true, { created with
                  setting := some (newValue reading sessionTimeoutSeconds), joinable := true
                  startedBehindTimer := fun _ => rfl })
              else
                (false, created)

/-- `deinitialize`; the thread that is joined has seen the flag. -/
def deinitializeSync (members : SyncThread) : SyncThread :=
  { members with
    stopFlag := true, joinable := false
    startedBehindTimer := fun started => nomatch started }

end SyncThread

/-! ### The two classes -/

namespace PacketDispatcher

def initializeSync (sessionTimeoutSeconds : SizeT) (calls : SystemCalls) (members : SyncThread) :
    Bool × SyncThread :=
  members.initializeSync sessionTimeoutSeconds calls

def deinitializeSync (members : SyncThread) : SyncThread := members.deinitializeSync

end PacketDispatcher

namespace PacketRouter

def initializeSync (sessionTimeoutSeconds : SizeT) (calls : SystemCalls) (members : SyncThread) :
    Bool × SyncThread :=
  members.initializeSync sessionTimeoutSeconds calls

def deinitializeSync (members : SyncThread) : SyncThread := members.deinitializeSync

end PacketRouter

inductive SyncOwner where
  | packetDispatcher
  | packetRouter
deriving DecidableEq, Repr

inductive SyncCall where
  | initializes (sessionTimeoutSeconds : SizeT) (calls : SystemCalls)
  | deinitializes
deriving DecidableEq, Repr

namespace SyncOwner

def initializeSync : SyncOwner → SizeT → SystemCalls → SyncThread → Bool × SyncThread
  | packetDispatcher => PacketDispatcher.initializeSync
  | packetRouter => PacketRouter.initializeSync

def deinitializeSync : SyncOwner → SyncThread → SyncThread
  | packetDispatcher => PacketDispatcher.deinitializeSync
  | packetRouter => PacketRouter.deinitializeSync

/-- An object of the class, which answers the calls it is given. -/
def machine (owner : SyncOwner) : Machine SyncThread SyncCall (Option Bool) where
  next
    | members, .initializes sessionTimeoutSeconds calls =>
        (owner.initializeSync sessionTimeoutSeconds calls members).2
    | members, .deinitializes => owner.deinitializeSync members
  output
    | members, .initializes sessionTimeoutSeconds calls =>
        some (owner.initializeSync sessionTimeoutSeconds calls members).1
    | _, .deinitializes => none

/-- A new object after the calls. -/
def after (owner : SyncOwner) (history : List SyncCall) : SyncThread :=
  owner.machine.run {} history

theorem initializeSync_eq (owner : SyncOwner) :
    owner.initializeSync = SyncThread.initializeSync := by
  cases owner <;> rfl

theorem deinitializeSync_eq (owner : SyncOwner) :
    owner.deinitializeSync = SyncThread.deinitializeSync := by
  cases owner <;> rfl

end SyncOwner

/-! ### What the calls promise -/

/-- The thread has been started and not joined, it is not told to stop, and its timer is
armed. What a setting must be for the kernel to keep a timer armed is left to `armed`. -/
structure SyncThread.Running (armed : ITimerSpec → Prop) (members : SyncThread) : Prop where
  started : members.joinable = true
  unstopped : members.stopFlag = false
  timer : ∃ setting, members.setting = some setting ∧ armed setting

/-- An `initialize` that answers `true` leaves the thread running, and one that answers
`false` leaves everything as it was. -/
structure SyncThread.KeepsPromise (armed : ITimerSpec → Prop) (members : SyncThread)
    (answered : Bool × SyncThread) : Prop where
  succeeded : answered.1 = true → answered.2.Running armed
  failed : answered.1 = false → answered.2 = members

/-- Every `initialize` in the history keeps its promise. -/
def SyncOwner.KeepsPromises (owner : SyncOwner) (armed : ITimerSpec → Prop)
    (history : List SyncCall) : Prop :=
  ∀ before sessionTimeoutSeconds calls rest,
    history = before ++ .initializes sessionTimeoutSeconds calls :: rest →
      (owner.after before).KeepsPromise armed
        (owner.initializeSync sessionTimeoutSeconds calls (owner.after before))

def SyncCall.createsTimer : SyncCall → Bool
  | initializes _ calls => calls.timerfdCreate.isSome
  | deinitializes => false

/-- The two calls behind `timerfd_create` succeed, and arm the timer. -/
def SystemCalls.Charge (armed : ITimerSpec → Prop) (sessionTimeoutSeconds : SizeT)
    (calls : SystemCalls) : Prop :=
  ∃ reading, calls.clockGettime = some reading ∧ calls.timerfdSettime = true ∧
    armed (newValue reading sessionTimeoutSeconds)

/-- The first `initialize` that creates a timer charges it, and neither it nor a later one
comes behind a `deinitialize`. -/
def ChargedOnceAndKept (armed : ITimerSpec → Prop) (history : List SyncCall) : Prop :=
  ∀ before sessionTimeoutSeconds calls rest,
    history = before ++ .initializes sessionTimeoutSeconds calls :: rest →
    (before.any SyncCall.createsTimer || calls.timerfdCreate.isSome) = true →
      SyncCall.deinitializes ∉ before ∧
        (before.any SyncCall.createsTimer = false → calls.Charge armed sessionTimeoutSeconds)

/-! ### One call -/

namespace SyncThread

section

variable (sessionTimeoutSeconds : SizeT) (calls : SystemCalls) (members : SyncThread)

/-- Everything that an `initialize` can do. -/
inductive InitializeTurn (answered : Bool × SyncThread) : Prop where
  | held (has : members.timerHandler.isSome = true) (result : answered = (true, members))
  | uncreated (free : members.timerHandler = none) (fails : calls.timerfdCreate = none)
      (result : answered = (false, members))
  | uncharged (handler : Nat) (free : members.timerHandler = none)
      (created : calls.timerfdCreate = some handler)
      (fails : ∀ reading, calls.clockGettime = some reading → calls.timerfdSettime = false)
      (result : answered = (false, ⟨some handler, members.setting, members.joinable,
        members.stopFlag, fun _ => rfl⟩))
  | charged (handler : Nat) (reading : TimeSpec) (free : members.timerHandler = none)
      (created : calls.timerfdCreate = some handler) (clock : calls.clockGettime = some reading)
      (set : calls.timerfdSettime = true)
      (result : answered = (true, ⟨some handler, some (newValue reading sessionTimeoutSeconds),
        true, members.stopFlag, fun _ => rfl⟩))

theorem initializeTurn :
    InitializeTurn sessionTimeoutSeconds calls members
      (members.initializeSync sessionTimeoutSeconds calls) := by
  unfold initializeSync
  cases has : members.timerHandler with
  | some handler => exact .held (Option.isSome_iff_exists.mpr ⟨handler, has⟩) rfl
  | none =>
      cases created : calls.timerfdCreate with
      | none => exact .uncreated has created rfl
      | some handler =>
          cases clock : calls.clockGettime with
          | none =>
              refine .uncharged handler has created (fun reading read => ?_) rfl
              rw [clock] at read
              cases read
          | some reading =>
              cases set : calls.timerfdSettime with
              | false => exact .uncharged handler has created (fun _ _ => set) rfl
              | true => exact .charged handler reading has created clock set rfl

end

variable {armed : ITimerSpec → Prop} {members : SyncThread} {sessionTimeoutSeconds : SizeT}
  {calls : SystemCalls}

theorem initializeSync_held (held : members.timerHandler.isSome = true) :
    members.initializeSync sessionTimeoutSeconds calls = (true, members) := by
  obtain ⟨handler, held⟩ := Option.isSome_iff_exists.mp held
  rw [initializeSync, held]

theorem initializeSync_timerHandler :
    (members.initializeSync sessionTimeoutSeconds calls).2.timerHandler.isSome =
      (members.timerHandler.isSome || calls.timerfdCreate.isSome) := by
  cases initializeTurn sessionTimeoutSeconds calls members with
  | held has result => rw [result, has, Bool.true_or]
  | uncreated free fails result => rw [result, fails, Option.isSome_none, Bool.or_false]
  | uncharged handler free created fails result => rw [result, free, created]; rfl
  | charged handler reading free created clock set result => rw [result, free, created]; rfl

theorem initializeSync_stopFlag :
    (members.initializeSync sessionTimeoutSeconds calls).2.stopFlag = members.stopFlag := by
  cases initializeTurn sessionTimeoutSeconds calls members with
  | held has result => rw [result]
  | uncreated free fails result => rw [result]
  | uncharged handler free created fails result => rw [result]
  | charged handler reading free created clock set result => rw [result]

/-- A call keeps its promise if there is no timer and it creates none, if it creates one and
goes all the way while the flag is down, or if the thread of an earlier one is running. -/
theorem keepsPromise_iff :
    members.KeepsPromise armed (members.initializeSync sessionTimeoutSeconds calls) ↔
      ((members.timerHandler.isSome || calls.timerfdCreate.isSome) = true →
        members.stopFlag = false ∧
          (members.timerHandler.isSome = false → calls.Charge armed sessionTimeoutSeconds) ∧
          (members.timerHandler.isSome = true → members.Running armed)) := by
  cases initializeTurn sessionTimeoutSeconds calls members with
  | held has result =>
      rw [result, has]
      constructor
      · intro keeps _
        have running := keeps.succeeded rfl
        exact ⟨running.unstopped, fun free => (nomatch free), fun _ => running⟩
      · intro allowed
        exact ⟨fun _ => (allowed rfl).2.2 rfl, fun failed => (nomatch failed)⟩
  | uncreated free fails result =>
      rw [result, free, fails]
      exact iff_of_true ⟨fun succeeded => (nomatch succeeded), fun _ => rfl⟩
        fun creates => nomatch creates
  | uncharged handler free created fails result =>
      rw [result, free, created]
      apply iff_of_false
      · intro keeps
        have same := congrArg timerHandler (keeps.failed rfl)
        rw [free] at same
        cases same
      · intro allowed
        obtain ⟨reading, clock, set, _⟩ := (allowed rfl).2.1 rfl
        rw [fails reading clock] at set
        cases set
  | charged handler reading free created clock set result =>
      rw [result, free, created]
      constructor
      · intro keeps _
        have running := keeps.succeeded rfl
        obtain ⟨setting, settingIs, isArmed⟩ := running.timer
        cases settingIs
        exact ⟨running.unstopped, fun _ => ⟨reading, clock, set, isArmed⟩,
          fun held => (nomatch held)⟩
      · intro allowed
        obtain ⟨unstopped, charge, _⟩ := allowed rfl
        obtain ⟨reading', clock', _, isArmed⟩ := charge rfl
        cases clock.symm.trans clock'
        exact ⟨fun _ => ⟨rfl, unstopped, _, rfl, isArmed⟩, fun failed => (nomatch failed)⟩

end SyncThread

/-! ### Every history -/

namespace SyncOwner

variable (owner : SyncOwner) {armed : ITimerSpec → Prop} {history : List SyncCall}

theorem after_concat (history : List SyncCall) (call : SyncCall) :
    owner.after (history ++ [call]) = owner.machine.next (owner.after history) call :=
  owner.machine.run_concat {} history call

theorem after_timerHandler (history : List SyncCall) :
    (owner.after history).timerHandler.isSome = history.any SyncCall.createsTimer := by
  induction history using List.reverseRecOn with
  | nil => rfl
  | append_singleton before call inductionHypothesis =>
      rw [after_concat, List.any_append, ← inductionHypothesis]
      cases call with
      | initializes sessionTimeoutSeconds calls =>
          show (owner.initializeSync _ _ _).2.timerHandler.isSome = _
          rw [initializeSync_eq, SyncThread.initializeSync_timerHandler, List.any_cons,
            List.any_nil, Bool.or_false]
          rfl
      | deinitializes =>
          show (owner.deinitializeSync _).timerHandler.isSome = _
          rw [deinitializeSync_eq]
          exact (Bool.or_false _).symm

theorem after_stopFlag (history : List SyncCall) :
    (owner.after history).stopFlag = true ↔ SyncCall.deinitializes ∈ history := by
  induction history using List.reverseRecOn with
  | nil => exact iff_of_false Bool.false_ne_true List.not_mem_nil
  | append_singleton before call inductionHypothesis =>
      rw [after_concat, List.mem_append, ← inductionHypothesis, List.mem_singleton]
      cases call with
      | initializes sessionTimeoutSeconds calls =>
          show (owner.initializeSync _ _ _).2.stopFlag = true ↔ _
          rw [initializeSync_eq, SyncThread.initializeSync_stopFlag]
          simp
      | deinitializes =>
          show (owner.deinitializeSync _).stopFlag = true ↔ _
          rw [deinitializeSync_eq]
          exact iff_of_true rfl (.inr rfl)

theorem after_unstopped {history : List SyncCall}
    (silent : SyncCall.deinitializes ∉ history) : (owner.after history).stopFlag = false :=
  Bool.eq_false_iff.mpr fun stopped => silent ((owner.after_stopFlag history).mp stopped)

end SyncOwner

theorem ChargedOnceAndKept.of_append {armed : ITimerSpec → Prop} {before rest : List SyncCall}
    (kept : ChargedOnceAndKept armed (before ++ rest)) : ChargedOnceAndKept armed before := by
  intro early sessionTimeoutSeconds calls late split
  apply kept early sessionTimeoutSeconds calls (late ++ rest)
  rw [split, List.append_assoc]
  rfl

namespace SyncOwner

variable (owner : SyncOwner) {armed : ITimerSpec → Prop}

/-- The next call keeps its promise, if the thread of an earlier one is still running. -/
theorem keepsPromise_of_charged {before : List SyncCall} {sessionTimeoutSeconds : SizeT}
    {calls : SystemCalls}
    (kept : ChargedOnceAndKept armed (before ++ [.initializes sessionTimeoutSeconds calls]))
    (running : before.any SyncCall.createsTimer = true → SyncCall.deinitializes ∉ before →
      (owner.after before).Running armed) :
    (owner.after before).KeepsPromise armed
      (owner.initializeSync sessionTimeoutSeconds calls (owner.after before)) := by
  rw [initializeSync_eq, SyncThread.keepsPromise_iff, after_timerHandler]
  intro creates
  obtain ⟨silent, charge⟩ := kept before sessionTimeoutSeconds calls [] rfl creates
  exact ⟨owner.after_unstopped silent, charge, fun created => running created silent⟩

/-- Once the timer has been charged, the thread is running until a `deinitialize`. -/
theorem running_of_charged {history : List SyncCall} (kept : ChargedOnceAndKept armed history)
    (created : history.any SyncCall.createsTimer = true)
    (silent : SyncCall.deinitializes ∉ history) : (owner.after history).Running armed := by
  induction history using List.reverseRecOn with
  | nil => cases created
  | append_singleton before call inductionHypothesis =>
      cases call with
      | deinitializes => exact absurd (List.mem_append_right before List.mem_cons_self) silent
      | initializes sessionTimeoutSeconds calls =>
          have keeps := owner.keepsPromise_of_charged kept fun created silent =>
            inductionHypothesis kept.of_append created silent
          have timer := (owner.after_timerHandler _).trans created
          rw [after_concat] at timer ⊢
          cases answer : (owner.initializeSync sessionTimeoutSeconds calls
              (owner.after before)).1 with
          | true => exact keeps.succeeded answer
          | false =>
              -- A call that changes nothing had the timer before it, and answers `true`.
              have same := keeps.failed answer
              have held : (owner.after before).timerHandler.isSome = true := by
                rw [← same]
                exact timer
              rw [initializeSync_eq, SyncThread.initializeSync_held held] at answer
              cases answer

end SyncOwner

/-- Every `initialize` in a history keeps its promise if and only if the first one that creates
a timer also gets through its other two calls, and no `initialize` on a timer comes behind a
`deinitialize`. -/
theorem keepsPromises_iff (owner : SyncOwner) (armed : ITimerSpec → Prop)
    (history : List SyncCall) :
    owner.KeepsPromises armed history ↔ ChargedOnceAndKept armed history := by
  constructor
  · intro keeps before sessionTimeoutSeconds calls rest split creates
    have promise := keeps before sessionTimeoutSeconds calls rest split
    rw [SyncOwner.initializeSync_eq, SyncThread.keepsPromise_iff,
      owner.after_timerHandler] at promise
    obtain ⟨unstopped, charge, _⟩ := promise creates
    refine ⟨fun member => ?_, charge⟩
    rw [(owner.after_stopFlag before).mpr member] at unstopped
    cases unstopped
  · intro kept before sessionTimeoutSeconds calls rest split
    have whole : ChargedOnceAndKept armed
        ((before ++ [.initializes sessionTimeoutSeconds calls]) ++ rest) := by
      rw [List.append_assoc]
      exact split ▸ kept
    have front := whole.of_append
    exact owner.keepsPromise_of_charged front fun created silent =>
      owner.running_of_charged front.of_append created silent

/-- The clock cannot be read the first time; the second `initialize` finds the timer of the
first and answers `true`, with no thread. Nor is there one after a `deinitialize`, whatever
counts as armed. -/
theorem answers_true_without_thread :
    ¬ SyncOwner.packetDispatcher.KeepsPromises (fun _ => True)
        [.initializes 5 ⟨some 3, none, true⟩, .initializes 5 ⟨some 4, some ⟨100, 0⟩, true⟩] ∧
      ¬ SyncOwner.packetRouter.KeepsPromises (fun _ => True)
        [.initializes 5 ⟨some 3, some ⟨100, 0⟩, true⟩, .deinitializes,
          .initializes 5 ⟨some 4, some ⟨200, 0⟩, true⟩] := by
  constructor
  · intro keeps
    exact absurd ((keeps [.initializes 5 ⟨some 3, none, true⟩] _ _ [] rfl).succeeded rfl).started
      Bool.false_ne_true
  · intro keeps
    exact absurd ((keeps [.initializes 5 ⟨some 3, some ⟨100, 0⟩, true⟩, .deinitializes] _ _ []
      rfl).succeeded rfl).started Bool.false_ne_true

end TrafficInspector
