import TrafficInspector.Foundation.SlotBank
import TrafficInspector.Packets.RADIUSDecoder
import TrafficInspector.RadiusWorker
import Mathlib.Data.List.Induction

/-!
Owns the sessions of the RADIUS worker. The worker is 256 slots, one for each
packet identifier, that know nothing of each other: an empty slot keeps the next
packet with its identifier, a full one joins it with the packet it holds, and a
SYNC empties the slots whose packet has waited too long.
-/

namespace TrafficInspector

open Foundation

/-- A packet the decoder has built from a frame. -/
structure DataPacket where
  frame : ETHPacket
  packet : RADIUSPacket
  built : RADIUSPacket.ofPoolItem (some frame) = .ok (packet, none)

namespace DataPacket

def identifier (data : DataPacket) : UInt8 :=
  RADIUSPacket.packetIdentifier data.frame.memory data.frame.radiusHeader

theorem getPacketSessionPair_eq (data : DataPacket) :
    data.packet.getPacketSessionPair = .ok ⟨data.identifier⟩ := by
  obtain ⟨_, avps, packetIs⟩ := ofPoolItem_ok data.built
  rw [packetIs]
  rfl

theorem ctrlMessageId_eq (data : DataPacket) : data.packet.ctrlMessageId = .processing := by
  obtain ⟨_, avps, packetIs⟩ := ofPoolItem_ok data.built
  rw [packetIs]
  rfl

end DataPacket

/-- What a worker is given: data packets and SYNCs, each with the clock reading made for it. -/
inductive WorkerInput where
  | data (packet : DataPacket) (monotonicMsec : SizeT)
  | syncTimeout (realtimeMsec : SizeT)

namespace WorkerInput

def item : WorkerInput → QueueItem
  | data packet monotonicMsec => ⟨packet.packet, monotonicMsec⟩
  | syncTimeout realtimeMsec => ⟨RADIUSPacket.ofControlMessageId .syncTimeout, realtimeMsec⟩

/-- SYNCs and the packets with the identifier. -/
def concerns (identifier : UInt8) : WorkerInput → Bool
  | data packet _ => packet.identifier == identifier
  | syncTimeout _ => true

end WorkerInput

/-! ### The slots -/

/-- The packet has waited for the timeout, as the clocks count modulo `2 ^ 64`. -/
def Expires (responseTimeoutMsec now : SizeT) (pending : DataPacket) : Prop :=
  responseTimeoutMsec.toNat ≤ (2 ^ 64 + now.toNat - pending.packet.timeStamp.toNat) % 2 ^ 64

instance (responseTimeoutMsec now : SizeT) (pending : DataPacket) :
    Decidable (Expires responseTimeoutMsec now pending) :=
  inferInstanceAs (Decidable (_ ≤ _))

/-- What a slot makes of one input: the notifications, and whether it gave up on a packet. -/
structure SlotOutput where
  notifications : List NotificationData := []
  expiries : Nat := 0

def joined (sourceId : String) (timeMsec : SizeT) (resp req : DataPacket) : NotificationData where
  timeMsec := timeMsec
  sourceId := sourceId
  respAvp := resp.packet.avps
  reqAvp := req.packet.avps

/-- The slot of one identifier, empty or holding a packet. -/
def sessionSlot (responseTimeoutMsec : SizeT) (sourceId : String) :
    Machine (Option DataPacket) WorkerInput SlotOutput where
  next
    | none, .data packet _ => some packet
    | some _, .data _ _ => none
    | none, .syncTimeout _ => none
    | some pending, .syncTimeout now =>
        if Expires responseTimeoutMsec now pending then none else some pending
  output
    | none, _ => {}
    | some pending, .data packet now =>
        { notifications := [joined sourceId now packet pending] }
    | some pending, .syncTimeout now =>
        if Expires responseTimeoutMsec now pending then { expiries := 1 } else {}

abbrev sessionBank (responseTimeoutMsec : SizeT) (sourceId : String) :=
  (sessionSlot responseTimeoutMsec sourceId).bank WorkerInput.concerns

/-! ### The worker carries the slots out -/

namespace RadiusWorker

/-- The notifications that a step of the worker puts on the notifier's queue. -/
def emitted (step : Step RadiusWorker WorkerInput) : List NotificationData :=
  step.after.resultNotifier.queue.drop step.before.resultNotifier.queue.length

/-- Whether a SYNC takes away the packet that waits under the identifier. -/
def expired (identifier : UInt8) (step : Step RadiusWorker WorkerInput) : Nat :=
  match step.input with
  | .data _ _ => 0
  | .syncTimeout _ =>
      if step.before.packetSessionsMap[(⟨identifier⟩ : RadSessionPair)]?.isSome &&
          step.after.packetSessionsMap[(⟨identifier⟩ : RadSessionPair)]?.isNone then 1 else 0

def observe (step : Step RadiusWorker WorkerInput) (identifier : UInt8) : Option SlotOutput :=
  if step.input.concerns identifier then
    some { notifications := emitted step, expiries := expired identifier step }
  else
    none

/-- The worker is running, and its map holds what the slots hold. -/
structure Represents (sourceId : String) (worker : RadiusWorker)
    (slots : UInt8 → Option DataPacket) : Prop where
  running : worker.stop = false
  source : worker.resultNotifier.sourceId = sourceId
  sessions : ∀ identifier : UInt8,
    worker.packetSessionsMap[(⟨identifier⟩ : RadSessionPair)]? =
      (slots identifier).map DataPacket.packet

def step (responseTimeoutMsec : SizeT) (worker : RadiusWorker) (input : WorkerInput) :
    Except Fault RadiusWorker :=
  worker.iteration responseTimeoutMsec input.item

variable {responseTimeoutMsec : SizeT} {sourceId : String} {worker : RadiusWorker}
  {slots : UInt8 → Option DataPacket}

theorem step_data (responseTimeoutMsec : SizeT) (running : worker.stop = false)
    (packet : DataPacket) (timeMsec : SizeT) :
    step responseTimeoutMsec worker (.data packet timeMsec) =
      worker.processPacket timeMsec packet.packet := by
  unfold step iteration processMessage
  rw [running, if_neg Bool.false_ne_true]
  simp only [WorkerInput.item, packet.ctrlMessageId_eq]

theorem step_syncTimeout (responseTimeoutMsec : SizeT) (running : worker.stop = false)
    (now : SizeT) :
    step responseTimeoutMsec worker (.syncTimeout now) =
      .ok (worker.processSync responseTimeoutMsec now) := by
  unfold step iteration
  rw [running, if_neg Bool.false_ne_true]
  rfl

theorem isTimedOut_eq (now : SizeT) (pending : DataPacket) :
    isTimedOut responseTimeoutMsec now pending.packet =
      decide (Expires responseTimeoutMsec now pending) := by
  have small := pending.packet.timeStamp.toNat_lt
  have delta : 2 ^ 64 - pending.packet.timeStamp.toNat + now.toNat =
      2 ^ 64 + now.toNat - pending.packet.timeStamp.toNat := by omega
  unfold isTimedOut Expires
  apply decide_eq_decide.mpr
  rw [ge_iff_le, UInt64.le_iff_toNat_le, UInt64.toNat_sub, delta]

private theorem pair_beq (first second : UInt8) :
    ((⟨first⟩ : RadSessionPair) == ⟨second⟩) = (first == second) := by
  by_cases same : first = second
  · subst same
    rw [beq_self_eq_true, beq_self_eq_true]
  · have apart : ¬ (⟨first⟩ : RadSessionPair) = ⟨second⟩ := by
      intro equal
      exact same (congrArg RadSessionPair.identifier equal)
    rw [beq_eq_false_iff_ne.mpr apart, beq_eq_false_iff_ne.mpr same]

/-- What a data packet does: to the slot of its identifier what the slot does, and
nothing to the others. -/
structure TakesData (responseTimeoutMsec : SizeT) (sourceId : String)
    (slots : UInt8 → Option DataPacket) (worker after : RadiusWorker) (packet : DataPacket)
    (timeMsec : SizeT) : Prop where
  stop : after.stop = worker.stop
  source : after.resultNotifier.sourceId = worker.resultNotifier.sourceId
  sessions : ∀ identifier : UInt8,
    after.packetSessionsMap[(⟨identifier⟩ : RadSessionPair)]? =
      if packet.identifier == identifier then
        ((sessionSlot responseTimeoutMsec sourceId).next (slots packet.identifier)
          (.data packet timeMsec)).map DataPacket.packet
      else worker.packetSessionsMap[(⟨identifier⟩ : RadSessionPair)]?
  queue : after.resultNotifier.queue = worker.resultNotifier.queue ++
    ((sessionSlot responseTimeoutMsec sourceId).output (slots packet.identifier)
      (.data packet timeMsec)).notifications

theorem step_takesData (responseTimeoutMsec : SizeT) (represents : Represents sourceId worker slots)
    (packet : DataPacket) (timeMsec : SizeT) :
    ∃ after, step responseTimeoutMsec worker (.data packet timeMsec) = .ok after ∧
      TakesData responseTimeoutMsec sourceId slots worker after packet timeMsec := by
  have own := packet.getPacketSessionPair_eq
  have held := represents.sessions packet.identifier
  have stepped := step_data responseTimeoutMsec represents.running packet timeMsec
  cases slot : slots packet.identifier with
  | none =>
      rw [slot] at held
      rw [processPacket_keeps own held] at stepped
      refine ⟨_, stepped, rfl, rfl, ?_, ?_⟩
      · intro identifier
        rw [slot, getElem?_kept held, pair_beq]
        rfl
      · rw [slot]
        exact (List.append_nil _).symm
  | some pending =>
      rw [slot] at held
      rw [processPacket_joins own held] at stepped
      refine ⟨_, stepped, rfl, rfl, ?_, ?_⟩
      · intro identifier
        rw [slot, Std.HashMap.getElem?_erase, pair_beq]
        rfl
      · rw [slot, represents.source]
        rfl

private theorem carriesOut_data (represents : Represents sourceId worker slots)
    {packet : DataPacket} {timeMsec : SizeT} {after : RadiusWorker}
    (takes : TakesData responseTimeoutMsec sourceId slots worker after packet timeMsec) :
    Represents sourceId after
        ((sessionBank responseTimeoutMsec sourceId).next slots (.data packet timeMsec)) ∧
      observe ⟨worker, .data packet timeMsec, after⟩ =
        (sessionBank responseTimeoutMsec sourceId).output slots (.data packet timeMsec) := by
  constructor
  · refine ⟨takes.stop.trans represents.running, takes.source.trans represents.source, ?_⟩
    intro identifier
    rw [takes.sessions]
    show _ = Option.map _ (if packet.identifier == identifier then _ else slots identifier)
    by_cases own : packet.identifier = identifier
    · subst own
      rw [if_pos (beq_self_eq_true _), if_pos (beq_self_eq_true _)]
    · have other : ¬ (packet.identifier == identifier) = true := fun same => own (eq_of_beq same)
      rw [if_neg other, if_neg other, represents.sessions]
  · have notified : emitted ⟨worker, .data packet timeMsec, after⟩ =
        ((sessionSlot responseTimeoutMsec sourceId).output (slots packet.identifier)
          (.data packet timeMsec)).notifications := by
      unfold emitted
      rw [takes.queue, List.drop_left]
    funext identifier
    show (if packet.identifier == identifier then _ else none) =
      if packet.identifier == identifier then some _ else none
    by_cases own : packet.identifier = identifier
    · subst own
      rw [if_pos (beq_self_eq_true _), if_pos (beq_self_eq_true _), notified]
      cases slots packet.identifier <;> rfl
    · have other : ¬ (packet.identifier == identifier) = true := fun same => own (eq_of_beq same)
      rw [if_neg other, if_neg other]

theorem emitted_syncTimeout (responseTimeoutMsec now : SizeT) (worker : RadiusWorker) :
    emitted ⟨worker, .syncTimeout now, worker.processSync responseTimeoutMsec now⟩ = [] := by
  unfold emitted
  rw [processSync_resultNotifier, List.drop_length]

private theorem filter_pending (responseTimeoutMsec now : SizeT) (pending : DataPacket) :
    (some pending.packet).filter (fun packet => !isTimedOut responseTimeoutMsec now packet) =
      if Expires responseTimeoutMsec now pending then none else some pending.packet := by
  rw [Option.filter_some, isTimedOut_eq]
  by_cases expires : Expires responseTimeoutMsec now pending
  · simp [expires]
  · simp [expires]

private theorem carriesOut_sync (represents : Represents sourceId worker slots) (now : SizeT) :
    Represents sourceId (worker.processSync responseTimeoutMsec now)
        ((sessionBank responseTimeoutMsec sourceId).next slots (.syncTimeout now)) ∧
      observe ⟨worker, .syncTimeout now, worker.processSync responseTimeoutMsec now⟩ =
        (sessionBank responseTimeoutMsec sourceId).output slots (.syncTimeout now) := by
  constructor
  · refine ⟨(processSync_stop ..).trans represents.running, ?_, ?_⟩
    · rw [processSync_resultNotifier, represents.source]
    · intro identifier
      rw [processSync_getElem?, represents.sessions]
      show _ = Option.map _ ((sessionSlot responseTimeoutMsec sourceId).next (slots identifier) _)
      cases slots identifier with
      | none => rfl
      | some pending =>
          show Option.filter _ (some pending.packet) =
            Option.map _ (if Expires responseTimeoutMsec now pending then none else some pending)
          rw [filter_pending]
          split <;> rfl
  · funext identifier
    show some _ = some ((sessionSlot responseTimeoutMsec sourceId).output (slots identifier) _)
    unfold expired
    rw [emitted_syncTimeout, processSync_getElem?, represents.sessions]
    cases slots identifier with
    | none => rfl
    | some pending =>
        show some (SlotOutput.mk [] (if _ && (Option.filter _ (some pending.packet)).isNone
          then 1 else 0)) =
          some (if Expires responseTimeoutMsec now pending then { expiries := 1 } else {})
        rw [filter_pending]
        split <;> rfl

/-- Every message does to the worker's map what it does to the slots. -/
theorem carriesOut (responseTimeoutMsec : SizeT) (sourceId : String) :
    CarriesOut (step responseTimeoutMsec) (sessionBank responseTimeoutMsec sourceId)
      (Represents sourceId) observe := by
  intro worker slots represents input
  cases input with
  | syncTimeout now =>
      exact ⟨_, step_syncTimeout responseTimeoutMsec represents.running now,
        carriesOut_sync represents now⟩
  | data packet timeMsec =>
      obtain ⟨after, stepped, takes⟩ :=
        step_takesData responseTimeoutMsec represents packet timeMsec
      exact ⟨after, stepped, carriesOut_data represents takes⟩

/-! ### Runs -/

def start (notifier : ResultNotifier) : RadiusWorker where
  resultNotifier := notifier

theorem represents_start (notifier : ResultNotifier) :
    Represents notifier.sourceId (start notifier) fun _ => none where
  running := rfl
  source := rfl
  sessions := fun _ => Std.HashMap.getElem?_empty

theorem processPacketsThreadImpl_eq (responseTimeoutMsec : SizeT) (worker : RadiusWorker)
    (inputs : List WorkerInput) :
    worker.processPacketsThreadImpl responseTimeoutMsec (inputs.map WorkerInput.item) =
      inputs.foldlM (step responseTimeoutMsec) worker :=
  List.foldlM_map

/-- A run over data packets and SYNCs comes to its end, and the slots end where the
worker's map does. -/
theorem run_represents (responseTimeoutMsec : SizeT) (notifier : ResultNotifier)
    (inputs : List WorkerInput) :
    ∃ final, (start notifier).processPacketsThreadImpl responseTimeoutMsec
        (inputs.map WorkerInput.item) = .ok final ∧
      Represents notifier.sourceId final
        ((sessionBank responseTimeoutMsec notifier.sourceId).run (fun _ => none) inputs) ∧
      (history (step responseTimeoutMsec) (start notifier) inputs).map observe =
        (sessionBank responseTimeoutMsec notifier.sourceId).outputs (fun _ => none) inputs := by
  rw [processPacketsThreadImpl_eq]
  exact (carriesOut responseTimeoutMsec notifier.sourceId).run (represents_start notifier) inputs

/-- Where a run has got to, each slot holds what it holds after its own inputs. -/
theorem represents_of_run {notifier : ResultNotifier} {inputs : List WorkerInput}
    (ran : (start notifier).processPacketsThreadImpl responseTimeoutMsec
      (inputs.map WorkerInput.item) = .ok worker) :
    Represents notifier.sourceId worker fun identifier =>
      (sessionSlot responseTimeoutMsec notifier.sourceId).run none
        (inputs.filter (WorkerInput.concerns identifier)) := by
  obtain ⟨reached, same, represents, _⟩ := run_represents responseTimeoutMsec notifier inputs
  rw [ran] at same
  cases same
  refine ⟨represents.running, represents.source, fun identifier => ?_⟩
  rw [represents.sessions, Machine.bank_run]

end RadiusWorker

structure SessionOutcome where
  pending : Option RADIUSPacket
  notifications : List NotificationData
  expiries : Nat

def SessionOutcome.of (pending : Option RADIUSPacket) (shown : List SlotOutput) :
    SessionOutcome where
  pending := pending
  notifications := shown.flatMap SlotOutput.notifications
  expiries := (shown.map SlotOutput.expiries).sum

/-- The outcome under the identifier when the worker is given the inputs. -/
def RadiusWorker.outcome (responseTimeoutMsec : SizeT) (worker : RadiusWorker)
    (identifier : UInt8) (inputs : List WorkerInput) : Except Fault SessionOutcome := do
  let final ← worker.processPacketsThreadImpl responseTimeoutMsec (inputs.map WorkerInput.item)
  return .of final.packetSessionsMap[(⟨identifier⟩ : RadSessionPair)]?
    ((history (step responseTimeoutMsec) worker inputs).filterMap fun taken =>
      observe taken identifier)

def slotOutcome (responseTimeoutMsec : SizeT) (sourceId : String) (inputs : List WorkerInput) :
    SessionOutcome :=
  .of (((sessionSlot responseTimeoutMsec sourceId).run none inputs).map DataPacket.packet)
    ((sessionSlot responseTimeoutMsec sourceId).outputs none inputs)

/-- What a packet completes, after the given inputs, in the slot of its identifier. -/
def completion (responseTimeoutMsec : SizeT) (sourceId : String) (before : List WorkerInput) :
    WorkerInput → List NotificationData
  | .syncTimeout _ => []
  | .data packet timeMsec =>
      let slot := (sessionSlot responseTimeoutMsec sourceId).run none
        (before.filter (WorkerInput.concerns packet.identifier))
      ((sessionSlot responseTimeoutMsec sourceId).output slot
        (.data packet timeMsec)).notifications

namespace RadiusWorker

theorem outcome_eq_slotOutcome (responseTimeoutMsec : SizeT) (notifier : ResultNotifier)
    (identifier : UInt8) (inputs : List WorkerInput) :
    (start notifier).outcome responseTimeoutMsec identifier inputs =
      .ok (slotOutcome responseTimeoutMsec notifier.sourceId
        (inputs.filter (WorkerInput.concerns identifier))) := by
  obtain ⟨final, ran, represents, observed⟩ :=
    run_represents responseTimeoutMsec notifier inputs
  have shown : (history (step responseTimeoutMsec) (start notifier) inputs).filterMap
        (fun taken => observe taken identifier) =
      (sessionSlot responseTimeoutMsec notifier.sourceId).outputs none
        (inputs.filter (WorkerInput.concerns identifier)) := by
    have alone : ((sessionBank responseTimeoutMsec notifier.sourceId).outputs (fun _ => none)
          inputs).filterMap (fun answers => answers identifier) =
        (sessionSlot responseTimeoutMsec notifier.sourceId).outputs none
          (inputs.filter (WorkerInput.concerns identifier)) :=
      Machine.bank_outputs (fun _ => none) inputs identifier
    rw [← alone, ← observed, List.filterMap_map]
    rfl
  unfold outcome
  rw [ran]
  show Except.ok (SessionOutcome.of _ _) = _
  rw [shown, represents.sessions, Machine.bank_run]
  rfl

private theorem step_queue {responseTimeoutMsec : SizeT} {sourceId : String}
    {before : List WorkerInput} {worker after : RadiusWorker} {input : WorkerInput}
    (represents : Represents sourceId worker
      ((sessionBank responseTimeoutMsec sourceId).run (fun _ => none) before))
    (stepped : step responseTimeoutMsec worker input = .ok after) :
    after.resultNotifier.queue = worker.resultNotifier.queue ++
      completion responseTimeoutMsec sourceId before input := by
  cases input with
  | syncTimeout now =>
      rw [step_syncTimeout responseTimeoutMsec represents.running] at stepped
      cases stepped
      rw [processSync_resultNotifier]
      exact (List.append_nil _).symm
  | data packet timeMsec =>
      obtain ⟨reached, same, takes⟩ :=
        step_takesData responseTimeoutMsec represents packet timeMsec
      rw [stepped] at same
      cases same
      rw [takes.queue, Machine.bank_run]
      rfl

/-- One more message: the run goes on, and the notifier's queue grows by what the message
completes. -/
theorem run_concat {responseTimeoutMsec : SizeT} {notifier : ResultNotifier}
    {before : List WorkerInput} {worker : RadiusWorker}
    (ran : (start notifier).processPacketsThreadImpl responseTimeoutMsec
      (before.map WorkerInput.item) = .ok worker) (input : WorkerInput) :
    ∃ after, step responseTimeoutMsec worker input = .ok after ∧
      (start notifier).processPacketsThreadImpl responseTimeoutMsec
        ((before ++ [input]).map WorkerInput.item) = .ok after ∧
      after.resultNotifier.queue = worker.resultNotifier.queue ++
        completion responseTimeoutMsec notifier.sourceId before input := by
  obtain ⟨again, same, represents, _⟩ := run_represents responseTimeoutMsec notifier before
  rw [ran] at same
  cases same
  obtain ⟨after, stepped, _⟩ := carriesOut responseTimeoutMsec notifier.sourceId worker _
    represents input
  refine ⟨after, stepped, ?_, step_queue represents stepped⟩
  rw [processPacketsThreadImpl_eq] at ran ⊢
  rw [List.foldlM_append, ran]
  show (step responseTimeoutMsec worker input >>= pure) = _
  rw [stepped]
  rfl

/-- The notifier's queue has grown by what the messages completed, in their order. -/
theorem run_queue (responseTimeoutMsec : SizeT) (notifier : ResultNotifier)
    (inputs : List WorkerInput) :
    ∃ final, (start notifier).processPacketsThreadImpl responseTimeoutMsec
        (inputs.map WorkerInput.item) = .ok final ∧
      final.resultNotifier.queue = notifier.queue ++
        inputs.zipIdx.flatMap fun taken =>
          completion responseTimeoutMsec notifier.sourceId (inputs.take taken.2) taken.1 := by
  induction inputs using List.reverseRecOn with
  | nil => exact ⟨start notifier, rfl, (List.append_nil _).symm⟩
  | append_singleton before input inductionHypothesis =>
      obtain ⟨worker, ran, queue⟩ := inductionHypothesis
      obtain ⟨after, _, ranOn, grown⟩ := run_concat ran input
      refine ⟨after, ranOn, ?_⟩
      rw [grown, queue, List.zipIdx_append, List.flatMap_append, List.append_assoc]
      congr 1
      have earlier : (before.zipIdx.flatMap fun taken => completion responseTimeoutMsec
            notifier.sourceId (before.take taken.2) taken.1) =
          before.zipIdx.flatMap fun taken => completion responseTimeoutMsec
            notifier.sourceId ((before ++ [input]).take taken.2) taken.1 := by
        apply List.flatMap_congr
        intro taken member
        have inside := (List.mem_zipIdx member).2.1
        rw [List.take_append_of_le_length (by omega)]
      rw [earlier]
      congr 1
      simp

end RadiusWorker

/-- The RADIUS worker is 256 slots. Under every identifier it ends with the pending
packet, the notifications and the number of expiries of one slot that is given only
the packets with this identifier and the SYNCs; notifications leave in the order in
which their second packets arrived; and how the packets of other identifiers are
mixed in does not matter. -/
theorem worker_refines_slots (responseTimeoutMsec : SizeT) (notifier : ResultNotifier)
    (inputs : List WorkerInput) :
    (∀ identifier : UInt8,
      (RadiusWorker.start notifier).outcome responseTimeoutMsec identifier inputs =
        .ok (slotOutcome responseTimeoutMsec notifier.sourceId
          (inputs.filter (WorkerInput.concerns identifier)))) ∧
    (∃ final, (RadiusWorker.start notifier).processPacketsThreadImpl responseTimeoutMsec
        (inputs.map WorkerInput.item) = .ok final ∧
      final.resultNotifier.queue = notifier.queue ++
        inputs.zipIdx.flatMap fun taken =>
          completion responseTimeoutMsec notifier.sourceId (inputs.take taken.2) taken.1) ∧
    (∀ (identifier : UInt8) (others : List WorkerInput),
      others.filter (WorkerInput.concerns identifier) =
          inputs.filter (WorkerInput.concerns identifier) →
        (RadiusWorker.start notifier).outcome responseTimeoutMsec identifier others =
          (RadiusWorker.start notifier).outcome responseTimeoutMsec identifier inputs) := by
  refine ⟨fun identifier => ?_, ?_, fun identifier others same => ?_⟩
  · exact RadiusWorker.outcome_eq_slotOutcome responseTimeoutMsec notifier identifier inputs
  · exact RadiusWorker.run_queue responseTimeoutMsec notifier inputs
  · rw [RadiusWorker.outcome_eq_slotOutcome, RadiusWorker.outcome_eq_slotOutcome, same]

end TrafficInspector
