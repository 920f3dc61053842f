import TrafficInspector.RadiusSessions
import TrafficInspector.WorkerPlacement

/-!
Owns which packets the RADIUS worker joins. A packet is joined with the last
packet of the same identifier, if that one still waits. Nothing else of the two
is compared, so they need not be the two directions of one exchange.
-/

namespace TrafficInspector

open Foundation
open Foundation.TypeLengthValue

/-- The message neither meets the packet nor makes a SYNC give up on it. -/
def LeavesWaiting (responseTimeoutMsec : SizeT) (req : DataPacket) : WorkerInput → Prop
  | .data packet _ => packet.identifier ≠ req.identifier
  | .syncTimeout now => ¬ Expires responseTimeoutMsec now req

/-- The packet was among the inputs, and every later one leaves it waiting. -/
def WaitsSince (responseTimeoutMsec : SizeT) (inputs : List WorkerInput) (req : DataPacket) :
    Prop :=
  ∃ early timeMsec between, inputs = early ++ .data req timeMsec :: between ∧
    ∀ input ∈ between, LeavesWaiting responseTimeoutMsec req input

private theorem slot_holds (responseTimeoutMsec : SizeT) (sourceId : String)
    (inputs : List WorkerInput) {pending : DataPacket}
    (holds : (sessionSlot responseTimeoutMsec sourceId).run none inputs = some pending) :
    ∃ early timeMsec between, inputs = early ++ .data pending timeMsec :: between ∧
      ∀ input ∈ between, ∃ now, input = .syncTimeout now ∧
        ¬ Expires responseTimeoutMsec now pending := by
  induction inputs using List.reverseRecOn with
  | nil => cases holds
  | append_singleton before input inductionHypothesis =>
      rw [Machine.run_concat] at holds
      cases held : (sessionSlot responseTimeoutMsec sourceId).run none before with
      | none =>
          rw [held] at holds
          cases input with
          | syncTimeout now => cases holds
          | data packet timeMsec =>
              cases holds
              exact ⟨before, timeMsec, [], rfl, fun _ member => nomatch member⟩
      | some waiting =>
          rw [held] at holds
          cases input with
          | data packet timeMsec => cases holds
          | syncTimeout now =>
              have kept : (if Expires responseTimeoutMsec now waiting then none
                else some waiting) = some pending := holds
              by_cases expires : Expires responseTimeoutMsec now waiting
              · rw [if_pos expires] at kept
                cases kept
              · rw [if_neg expires] at kept
                cases kept
                obtain ⟨early, timeMsec, between, split, silent⟩ := inductionHypothesis held
                refine ⟨early, timeMsec, between ++ [.syncTimeout now], ?_, ?_⟩
                · rw [split, List.append_assoc]
                  rfl
                · intro input member
                  rcases List.mem_append.mp member with inside | last
                  · exact silent input inside
                  · exact ⟨now, List.mem_singleton.mp last, expires⟩

theorem waitsSince_of_slot (responseTimeoutMsec : SizeT) (sourceId : String)
    (inputs : List WorkerInput) (identifier : UInt8) {pending : DataPacket}
    (holds : (sessionSlot responseTimeoutMsec sourceId).run none
      (inputs.filter (WorkerInput.concerns identifier)) = some pending) :
    pending.identifier = identifier ∧ WaitsSince responseTimeoutMsec inputs pending := by
  obtain ⟨early, timeMsec, between, split, silent⟩ :=
    slot_holds responseTimeoutMsec sourceId _ holds
  obtain ⟨first, rest, whole, _, tail⟩ := List.filter_eq_append_iff.mp split
  obtain ⟨skipped, last, restIs, _, concerned, lastIs⟩ := List.filter_eq_cons_iff.mp tail
  have own : pending.identifier = identifier := eq_of_beq concerned
  refine ⟨own, first ++ skipped, timeMsec, last, ?_, ?_⟩
  · rw [whole, restIs, List.append_assoc]
  · intro input member
    cases input with
    | syncTimeout now =>
        have seen : WorkerInput.syncTimeout now ∈ between := by
          rw [← lastIs]
          exact List.mem_filter.mpr ⟨member, rfl⟩
        obtain ⟨_, same, waits⟩ := silent _ seen
        cases same
        exact waits
    | data packet timeMsec =>
        intro same
        have seen : WorkerInput.data packet timeMsec ∈ between := by
          rw [← lastIs]
          exact List.mem_filter.mpr ⟨member, beq_iff_eq.mpr (same.trans own)⟩
        obtain ⟨_, isSync, _⟩ := silent _ seen
        cases isSync

/-! ### Joining -/

/-- A step that notifies joins the packet with one it answers, and a packet that does
not answer the waiting one leaves it where it is. -/
structure JoinsExchange (worker after : RadiusWorker) (resp : DataPacket) : Prop where
  notified : after.resultNotifier.queue ≠ worker.resultNotifier.queue →
    ∃ req : DataPacket, worker.findSession ⟨resp.identifier⟩ =
        some (⟨resp.identifier⟩, req.packet) ∧ resp.frame.IsReplyTo req.frame
  kept : ∀ req : DataPacket, ¬ resp.frame.IsReplyTo req.frame →
    worker.findSession ⟨resp.identifier⟩ = some (⟨resp.identifier⟩, req.packet) →
      after.findSession ⟨resp.identifier⟩ = some (⟨resp.identifier⟩, req.packet)

def JoinsExchanges (responseTimeoutMsec : SizeT) (notifier : ResultNotifier)
    (inputs : List WorkerInput) : Prop :=
  ∀ before resp timeMsec rest, inputs = before ++ .data resp timeMsec :: rest →
    ∀ worker after, (RadiusWorker.start notifier).processPacketsThreadImpl responseTimeoutMsec
        (before.map WorkerInput.item) = .ok worker →
      worker.step responseTimeoutMsec (.data resp timeMsec) = .ok after →
        JoinsExchange worker after resp

/-- Whatever the run so far, a message notifies exactly when it is a data packet under
whose identifier another waits. The notification carries the attributes of these two,
the waiting packet is the last one with this identifier, and it waits no longer; the
addresses and ports of the two play no part. -/
theorem notifications_join_same_identifier (responseTimeoutMsec : SizeT)
    (notifier : ResultNotifier) (before : List WorkerInput) (input : WorkerInput) :
    ∃ worker after, (RadiusWorker.start notifier).processPacketsThreadImpl responseTimeoutMsec
        (before.map WorkerInput.item) = .ok worker ∧
      worker.step responseTimeoutMsec input = .ok after ∧
      ((after.resultNotifier.queue = worker.resultNotifier.queue ∧
          ∀ resp timeMsec, input = .data resp timeMsec →
            worker.findSession ⟨resp.identifier⟩ = none ∧
            after.findSession ⟨resp.identifier⟩ = some (⟨resp.identifier⟩, resp.packet)) ∨
        ∃ resp timeMsec req, input = .data resp timeMsec ∧ req.identifier = resp.identifier ∧
          WaitsSince responseTimeoutMsec before req ∧
          worker.findSession ⟨resp.identifier⟩ = some (⟨resp.identifier⟩, req.packet) ∧
          after.resultNotifier.queue = worker.resultNotifier.queue ++
            [joined notifier.sourceId timeMsec resp req] ∧
          after.findSession ⟨resp.identifier⟩ = none) := by
  obtain ⟨worker, ran, represents, _⟩ :=
    RadiusWorker.run_represents responseTimeoutMsec notifier before
  cases input with
  | syncTimeout now =>
      refine ⟨worker, _, ran,
        RadiusWorker.step_syncTimeout responseTimeoutMsec represents.running now, .inl ⟨?_, ?_⟩⟩
      · rw [RadiusWorker.processSync_resultNotifier]
      · intro resp timeMsec isData
        cases isData
  | data resp timeMsec =>
      have held := represents.sessions resp.identifier
      obtain ⟨after, stepped, takes⟩ :=
        RadiusWorker.step_takesData responseTimeoutMsec represents resp timeMsec
      have left := takes.sessions resp.identifier
      have queue := takes.queue
      rw [if_pos (beq_self_eq_true _), Machine.bank_run] at left
      rw [Machine.bank_run] at held queue
      cases slot : (sessionSlot responseTimeoutMsec notifier.sourceId).run none
          (before.filter (WorkerInput.concerns resp.identifier)) with
      | none =>
          rw [slot] at held left queue
          refine ⟨worker, after, ran, stepped, .inl ⟨queue.trans (List.append_nil _), ?_⟩⟩
          intro resp' timeMsec' same
          cases same
          rw [RadiusWorker.findSession_eq, RadiusWorker.findSession_eq, held, left]
          exact ⟨rfl, rfl⟩
      | some req =>
          rw [slot] at held left queue
          obtain ⟨same, waits⟩ := waitsSince_of_slot responseTimeoutMsec notifier.sourceId before
            resp.identifier slot
          refine ⟨worker, after, ran, stepped,
            .inr ⟨resp, timeMsec, req, rfl, same, waits, ?_, queue, ?_⟩⟩
          · rw [RadiusWorker.findSession_eq, held]
            rfl
          · rw [RadiusWorker.findSession_eq, left]
            rfl

/-- A request without attributes, as the worker is given it. -/
def bareRequest : DataPacket where
  frame := (receivedFresh (accessRequest []).bytes).val
  packet := (receivedFresh (accessRequest []).bytes).val.decoderPacket
  built := by
    have carries : (receivedFresh (accessRequest []).bytes).val.Carries [] :=
      receivePacket_carries _ (accessRequest []) [] 0 rfl (by decide)
    rw [carries.ofPoolItem (by decide) endsEmpty_nil]
    rfl

/-- A second copy of a request is joined with the first. -/
theorem retransmission_is_joined :
    ¬ JoinsExchanges 1000 ⟨[], "probe"⟩ [.data bareRequest 0, .data bareRequest 0] := by
  intro joins
  obtain ⟨worker, ran, represents, _⟩ :=
    RadiusWorker.run_represents 1000 ⟨[], "probe"⟩ [.data bareRequest 0]
  have held : worker.packetSessionsMap[(⟨bareRequest.identifier⟩ : RadSessionPair)]? =
      some bareRequest.packet := represents.sessions bareRequest.identifier
  have found : worker.findSession ⟨bareRequest.identifier⟩ =
      some (⟨bareRequest.identifier⟩, bareRequest.packet) := by
    rw [RadiusWorker.findSession_eq, held]
    rfl
  have stepped := (RadiusWorker.step_data 1000 represents.running bareRequest 0).trans
    (RadiusWorker.processPacket_joins bareRequest.getPacketSessionPair_eq held 0)
  have apart : ¬ bareRequest.frame.IsReplyTo bareRequest.frame := fun isReply =>
    absurd isReply.source (by decide)
  have stays := (joins [.data bareRequest 0] bareRequest 0 [] rfl worker _ ran stepped).kept
    bareRequest apart found
  rw [RadiusWorker.findSession_eq, Std.HashMap.getElem?_erase_self] at stays
  cases stays

end TrafficInspector
