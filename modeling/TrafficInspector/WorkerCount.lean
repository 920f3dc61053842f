import Mathlib.Data.FinEnum
import Mathlib.Algebra.Order.Group.Multiset
import TrafficInspector.Foundation.Pairing
import TrafficInspector.RadiusPairing

/-!
Owns what the number of workers changes. Workers that are dealt the packets of one
sequence join what a single worker would have joined, if packets with the same
identifier go to the same worker. Sending a frame and its reply to the same worker
is not enough for that: the session key is coarser than the exchange.
-/

namespace TrafficInspector

open Foundation
open Foundation.TypeLengthValue

def WorkerInput.dataPacket : WorkerInput → Option DataPacket
  | data packet _ => some packet
  | syncTimeout _ => none

/-- The data packets of a worker's inputs, in their order. -/
def dataPackets (inputs : List WorkerInput) : List DataPacket :=
  inputs.filterMap WorkerInput.dataPacket

/-- The request and the response of a notification, by their attributes. -/
def NotificationData.pair (notification : NotificationData) : AVPStorage × AVPStorage :=
  (notification.reqAvp, notification.respAvp)

def attributePair (exchange : DataPacket × DataPacket) : AVPStorage × AVPStorage :=
  (exchange.1.packet.avps, exchange.2.packet.avps)

section

variable (responseTimeoutMsec : SizeT) (sourceId : String)

/-- The pairs that a worker has notified when it has been given the inputs. -/
def notifiedPairs (inputs : List WorkerInput) :
    Except Fault (Multiset (AVPStorage × AVPStorage)) := do
  let final ← (RadiusWorker.start ⟨[], sourceId⟩).processPacketsThreadImpl responseTimeoutMsec
    (inputs.map WorkerInput.item)
  return (final.resultNotifier.queue.map NotificationData.pair : Multiset _)

/-- No SYNC of the run gives up on a packet. -/
def NoSessionExpires (inputs : List WorkerInput) : Prop :=
  ∀ identifier outcome, (RadiusWorker.start ⟨[], sourceId⟩).outcome responseTimeoutMsec identifier
    inputs = .ok outcome → outcome.expiries = 0

/-- A sequence of packets, each with the worker it is assigned to, as a single worker and as
`n` workers are given it. SYNCs may come anywhere, but no session expires. -/
structure Dealt {n : Nat} (traffic : List (Fin n × DataPacket)) (single : List WorkerInput)
    (own : Fin n → List WorkerInput) : Prop where
  whole : dataPackets single = traffic.map Prod.snd
  dealt : ∀ workerId, dataPackets (own workerId) =
    (traffic.filter fun assigned => assigned.1 = workerId).map Prod.snd
  singleKeeps : NoSessionExpires responseTimeoutMsec sourceId single
  ownKeep : ∀ workerId, NoSessionExpires responseTimeoutMsec sourceId (own workerId)

/-- The workers notify together what the single one notifies. -/
def NotifyAlike {n : Nat} (single : List WorkerInput) (own : Fin n → List WorkerInput) : Prop :=
  ∃ (shares : Fin n → Multiset (AVPStorage × AVPStorage)) (total : Multiset _),
    (∀ workerId, notifiedPairs responseTimeoutMsec sourceId (own workerId) =
      .ok (shares workerId)) ∧
    notifiedPairs responseTimeoutMsec sourceId single = .ok total ∧
    ∑ workerId, shares workerId = total

end

/-- A frame and its reply go to the same worker. -/
def KeepsExchanges {n : Nat} (traffic : List (Fin n × DataPacket)) : Prop :=
  ∀ first ∈ traffic, ∀ second ∈ traffic, second.2.frame.IsReplyTo first.2.frame →
    first.1 = second.1

/-- Packets with the same identifier go to the same worker. -/
def KeepsIdentifiers {n : Nat} (traffic : List (Fin n × DataPacket)) : Prop :=
  ∀ first ∈ traffic, ∀ second ∈ traffic, first.2.identifier = second.2.identifier →
    first.1 = second.1

/-! ### A worker's notifications, identifier by identifier -/

section

variable (responseTimeoutMsec : SizeT) (sourceId : String)

theorem slotOutcome_data (before : List WorkerInput) (packet : DataPacket) (timeMsec : SizeT)
    (identifier : UInt8) :
    (slotOutcome responseTimeoutMsec sourceId ((before ++ [WorkerInput.data packet timeMsec]).filter
        (WorkerInput.concerns identifier))).notifications =
      (slotOutcome responseTimeoutMsec sourceId
        (before.filter (WorkerInput.concerns identifier))).notifications ++
        if identifier = packet.identifier then
          completion responseTimeoutMsec sourceId before (.data packet timeMsec)
        else [] := by
  rw [List.filter_append]
  by_cases own : identifier = packet.identifier
  · subst own
    have concerned : WorkerInput.concerns packet.identifier (.data packet timeMsec) = true :=
      beq_self_eq_true _
    rw [List.filter_cons_of_pos concerned, List.filter_nil, if_pos rfl]
    unfold slotOutcome SessionOutcome.of completion
    simp [Machine.outputs_concat]
  · have other : ¬ WorkerInput.concerns identifier (.data packet timeMsec) = true :=
      fun same => own (eq_of_beq same).symm
    rw [List.filter_cons_of_neg other, List.filter_nil, List.append_nil, if_neg own,
      List.append_nil]

theorem slotOutcome_syncTimeout (before : List WorkerInput) (now : SizeT) (identifier : UInt8) :
    (slotOutcome responseTimeoutMsec sourceId ((before ++ [WorkerInput.syncTimeout now]).filter
        (WorkerInput.concerns identifier))).notifications =
      (slotOutcome responseTimeoutMsec sourceId
        (before.filter (WorkerInput.concerns identifier))).notifications := by
  have silent (slot : Option DataPacket) : ((sessionSlot responseTimeoutMsec sourceId).output slot
      (.syncTimeout now)).notifications = [] := by
    cases slot with
    | none => rfl
    | some pending =>
        show (if _ then ({ expiries := 1 } : SlotOutput) else {}).notifications = []
        split <;> rfl
  have concerned : WorkerInput.concerns identifier (.syncTimeout now) = true := rfl
  rw [List.filter_append, List.filter_cons_of_pos concerned, List.filter_nil]
  unfold slotOutcome SessionOutcome.of
  simp [Machine.outputs_concat, silent]

/-- The notifier's queue holds what the slots have notified. -/
theorem queue_slots (inputs : List WorkerInput) :
    ∃ final, (RadiusWorker.start ⟨[], sourceId⟩).processPacketsThreadImpl responseTimeoutMsec
        (inputs.map WorkerInput.item) = .ok final ∧
      (final.resultNotifier.queue : Multiset NotificationData) =
        ∑ identifier, ((slotOutcome responseTimeoutMsec sourceId
          (inputs.filter (WorkerInput.concerns identifier))).notifications :
            Multiset NotificationData) := by
  induction inputs using List.reverseRecOn with
  | nil => exact ⟨_, rfl, Finset.sum_const_zero.symm⟩
  | append_singleton before input inductionHypothesis =>
      obtain ⟨worker, ran, queue⟩ := inductionHypothesis
      obtain ⟨final, _, ranOn, grown⟩ := RadiusWorker.run_concat ran input
      refine ⟨final, ranOn, ?_⟩
      rw [grown, ← Multiset.coe_add, queue]
      cases input with
      | syncTimeout now =>
          simp only [slotOutcome_syncTimeout, completion]
          exact add_zero _
      | data packet timeMsec =>
          have own : ∑ identifier, ((if identifier = packet.identifier then
                completion responseTimeoutMsec sourceId before (.data packet timeMsec)
              else [] : List NotificationData) : Multiset NotificationData) =
              completion responseTimeoutMsec sourceId before (.data packet timeMsec) := by
            rw [Finset.sum_eq_single packet.identifier]
            · rw [if_pos rfl]
            · intro other _ apart
              rw [if_neg apart]
              rfl
            · intro absent
              exact absurd (Finset.mem_univ _) absent
          simp only [slotOutcome_data, ← Multiset.coe_add, Finset.sum_add_distrib, own]

/-! ### Without expiry -/

/-- A slot that gives up on nothing pairs up the packets it is given. -/
theorem slot_pairs (slot : Option DataPacket) (inputs : List WorkerInput)
    (keeps : (((sessionSlot responseTimeoutMsec sourceId).outputs slot inputs).map
      SlotOutput.expiries).sum = 0) :
    (((sessionSlot responseTimeoutMsec sourceId).outputs slot inputs).flatMap
        SlotOutput.notifications).map NotificationData.pair =
      (pairUp slot (dataPackets inputs)).map attributePair := by
  induction inputs generalizing slot with
  | nil => cases slot <;> rfl
  | cons input rest inductionHypothesis =>
      rw [Machine.outputs, List.map_cons, List.sum_cons, Nat.add_eq_zero_iff] at keeps
      rw [Machine.outputs, List.flatMap_cons, List.map_append, inductionHypothesis _ keeps.2]
      cases input with
      | data packet timeMsec => cases slot <;> rfl
      | syncTimeout now =>
          cases slot with
          | none => rfl
          | some pending =>
              have stays : ¬ Expires responseTimeoutMsec now pending := by
                intro expires
                have counted : (if Expires responseTimeoutMsec now pending then
                  ({ expiries := 1 } : SlotOutput) else {}).expiries = 0 := keeps.1
                rw [if_pos expires] at counted
                cases counted
              have next : (sessionSlot responseTimeoutMsec sourceId).next (some pending)
                  (.syncTimeout now) = some pending := if_neg stays
              have output : (sessionSlot responseTimeoutMsec sourceId).output (some pending)
                  (.syncTimeout now) = {} := if_neg stays
              rw [next, output]
              rfl

theorem dataPackets_concerns (inputs : List WorkerInput) (identifier : UInt8) :
    dataPackets (inputs.filter (WorkerInput.concerns identifier)) =
      (dataPackets inputs).filter fun packet => packet.identifier = identifier := by
  induction inputs with
  | nil => rfl
  | cons input rest inductionHypothesis =>
      unfold dataPackets at inductionHypothesis ⊢
      cases input with
      | syncTimeout now => exact inductionHypothesis
      | data packet timeMsec =>
          by_cases own : packet.identifier = identifier
          · simpa [WorkerInput.concerns, WorkerInput.dataPacket, own] using inductionHypothesis
          · simpa [WorkerInput.concerns, WorkerInput.dataPacket, own] using inductionHypothesis

/-- A worker in which no session expires pairs up its packets under their identifiers. -/
theorem notifiedPairs_eq {inputs : List WorkerInput}
    (keeps : NoSessionExpires responseTimeoutMsec sourceId inputs) :
    notifiedPairs responseTimeoutMsec sourceId inputs =
      .ok ((pairUpByKey DataPacket.identifier (dataPackets inputs)).map attributePair) := by
  obtain ⟨final, ran, queue⟩ := queue_slots responseTimeoutMsec sourceId inputs
  unfold notifiedPairs
  rw [ran]
  show Except.ok (Multiset.map NotificationData.pair
    (final.resultNotifier.queue : Multiset NotificationData)) = _
  rw [queue, pairUpByKey, ← Multiset.coe_mapAddMonoidHom, ← Multiset.coe_mapAddMonoidHom,
    map_sum, map_sum]
  apply congrArg Except.ok
  apply Finset.sum_congr rfl
  intro identifier _
  have expired := keeps identifier _ (RadiusWorker.outcome_eq_slotOutcome responseTimeoutMsec
    ⟨[], sourceId⟩ identifier inputs)
  have pairs := slot_pairs responseTimeoutMsec sourceId none _ expired
  rw [dataPackets_concerns] at pairs
  exact congrArg _ pairs

end

/-- The number of workers does not change what is notified, when packets with the same
identifier go to the same worker and no session expires. -/
theorem workers_notify_alike {n : Nat} (responseTimeoutMsec : SizeT) (sourceId : String)
    (traffic : List (Fin n × DataPacket)) (single : List WorkerInput)
    (own : Fin n → List WorkerInput)
    (dealt : Dealt responseTimeoutMsec sourceId traffic single own)
    (together : KeepsIdentifiers traffic) :
    NotifyAlike responseTimeoutMsec sourceId single own := by
  refine ⟨_, _, fun workerId => notifiedPairs_eq _ _ (dealt.ownKeep workerId),
    notifiedPairs_eq _ _ dealt.singleKeeps, ?_⟩
  simp only [dealt.dealt, dealt.whole, ← Multiset.coe_mapAddMonoidHom]
  rw [← map_sum, sum_pairUpByKey DataPacket.identifier traffic together]

/-! ### Traffic without SYNCs -/

def arriving (packets : List DataPacket) : List WorkerInput :=
  packets.map fun packet => .data packet 0

theorem dataPackets_arriving (packets : List DataPacket) :
    dataPackets (arriving packets) = packets := by
  unfold dataPackets arriving
  rw [List.filterMap_map]
  exact List.filterMap_some

section

variable (responseTimeoutMsec : SizeT) (sourceId : String)

private theorem expiries_arriving (slot : Option DataPacket) (packets : List DataPacket) :
    (((sessionSlot responseTimeoutMsec sourceId).outputs slot (arriving packets)).map
      SlotOutput.expiries).sum = 0 := by
  induction packets generalizing slot with
  | nil => rfl
  | cons packet rest inductionHypothesis =>
      have silent : ((sessionSlot responseTimeoutMsec sourceId).output slot
          (.data packet 0)).expiries = 0 := by
        cases slot <;> rfl
      show (SlotOutput.expiries _ :: List.map _ (Machine.outputs _ _ (arriving rest))).sum = 0
      rw [List.sum_cons, silent, inductionHypothesis]

theorem noSessionExpires_arriving (packets : List DataPacket) :
    NoSessionExpires responseTimeoutMsec sourceId (arriving packets) := by
  intro identifier outcome came
  rw [RadiusWorker.outcome_eq_slotOutcome] at came
  cases came
  have concerned : (arriving packets).filter (WorkerInput.concerns identifier) =
      arriving (packets.filter fun packet => packet.identifier == identifier) := by
    unfold arriving
    rw [List.filter_map]
    rfl
  rw [concerned]
  exact expiries_arriving responseTimeoutMsec sourceId none _

theorem dealt_arriving {n : Nat} (traffic : List (Fin n × DataPacket)) :
    Dealt responseTimeoutMsec sourceId traffic (arriving (traffic.map Prod.snd)) fun workerId =>
      arriving ((traffic.filter fun assigned => assigned.1 = workerId).map Prod.snd) where
  whole := dataPackets_arriving _
  dealt := fun _ => dataPackets_arriving _
  singleKeeps := noSessionExpires_arriving responseTimeoutMsec sourceId _
  ownKeep := fun _ => noSessionExpires_arriving responseTimeoutMsec sourceId _

end

/-! ### Assignment by the packet's hash -/

def assignedByHash (n : Nat) [NeZero n] (packets : List DataPacket) :
    List (Fin n × DataPacket) :=
  packets.map fun packet =>
    (Fin.ofNat n (SpecificPacket.radius.frameHash packet.frame).toNat, packet)

theorem assignedByHash_keepsExchanges (n : Nat) [NeZero n] (packets : List DataPacket) :
    KeepsExchanges (assignedByHash n packets) := by
  intro first firstMember second secondMember isReply
  obtain ⟨frame, _, rfl⟩ := List.mem_map.mp firstMember
  obtain ⟨reply, _, rfl⟩ := List.mem_map.mp secondMember
  show Fin.ofNat n _ = Fin.ofNat n _
  rw [frameHash_reply .radius isReply]

/-- A request under the same identifier as `bareRequest`, from another port. -/
def otherClient : RADIUSMessage :=
  { accessRequest [] with source := ⟨⟨10, 0, 0, 1⟩, 40256⟩ }

def otherClientsRequest : DataPacket where
  frame := (receivedFresh otherClient.bytes).val
  packet := (receivedFresh otherClient.bytes).val.decoderPacket
  built := by
    have carries : (receivedFresh otherClient.bytes).val.Carries [] :=
      receivePacket_carries _ otherClient [] 0 rfl (by decide)
    rw [carries.ofPoolItem (by decide) endsEmpty_nil]
    rfl

private theorem twoClients_assigned :
    assignedByHash 2 [bareRequest, otherClientsRequest] =
      [(0, bareRequest), (1, otherClientsRequest)] :=
  rfl

/-- Two workers, and two clients' requests under one identifier: the hash sends each frame
where it sends its replies, and the two requests to different workers. A single worker joins
them, and the two workers notify nothing. -/
theorem clients_notified_unlike :
    KeepsExchanges (assignedByHash 2 [bareRequest, otherClientsRequest]) ∧
      Dealt 1000 "probe" (assignedByHash 2 [bareRequest, otherClientsRequest])
        (arriving [bareRequest, otherClientsRequest])
        (fun workerId => arriving (((assignedByHash 2 [bareRequest, otherClientsRequest]).filter
          fun assigned => assigned.1 = workerId).map Prod.snd)) ∧
      ¬ NotifyAlike 1000 "probe" (arriving [bareRequest, otherClientsRequest])
        (fun workerId => arriving (((assignedByHash 2 [bareRequest, otherClientsRequest]).filter
          fun assigned => assigned.1 = workerId).map Prod.snd)) := by
  refine ⟨assignedByHash_keepsExchanges 2 _, dealt_arriving 1000 "probe" _, ?_⟩
  rintro ⟨shares, total, notified, whole, sum⟩
  have alone (workerId : Fin 2) : shares workerId = 0 := by
    have pairs := notified workerId
    rw [notifiedPairs_eq 1000 "probe" (noSessionExpires_arriving 1000 "probe" _),
      dataPackets_arriving, twoClients_assigned] at pairs
    obtain first | second : workerId = 0 ∨ workerId = 1 := by omega
    · have share : ([((0 : Fin 2), bareRequest), (1, otherClientsRequest)].filter fun assigned =>
          assigned.1 = workerId).map Prod.snd = [bareRequest] := by
        rw [first]
        rfl
      rw [share, pairUpByKey_singleton] at pairs
      exact (Except.ok.inj pairs).symm
    · have share : ([((0 : Fin 2), bareRequest), (1, otherClientsRequest)].filter fun assigned =>
          assigned.1 = workerId).map Prod.snd = [otherClientsRequest] := by
        rw [second]
        rfl
      rw [share, pairUpByKey_singleton] at pairs
      exact (Except.ok.inj pairs).symm
  have oneKey : ∀ packet ∈ [bareRequest, otherClientsRequest], packet.identifier = 7 := by
    intro packet member
    rcases List.mem_cons.mp member with rfl | last
    · rfl
    · rw [List.mem_singleton.mp last]
      rfl
  rw [notifiedPairs_eq 1000 "probe" (noSessionExpires_arriving 1000 "probe" _),
    dataPackets_arriving, pairUpByKey_of_one_key DataPacket.identifier oneKey] at whole
  have totalIs := congrArg Multiset.card (Except.ok.inj whole)
  rw [← sum, Finset.sum_eq_zero fun workerId _ => alone workerId] at totalIs
  cases totalIs

/-- The same two requests, both sent to the second of two workers. -/
theorem clients_notified_alike :
    NotifyAlike 1000 "probe" (arriving [bareRequest, otherClientsRequest])
      (fun workerId => arriving
        (([((1 : Fin 2), bareRequest), (1, otherClientsRequest)].filter fun assigned =>
          assigned.1 = workerId).map Prod.snd)) := by
  have oneWorker : ∀ assigned ∈ [((1 : Fin 2), bareRequest), (1, otherClientsRequest)],
      assigned.1 = 1 := by
    intro assigned member
    rcases List.mem_cons.mp member with rfl | last
    · rfl
    · rw [List.mem_singleton.mp last]
  apply workers_notify_alike 1000 "probe" [((1 : Fin 2), bareRequest), (1, otherClientsRequest)]
  · exact dealt_arriving 1000 "probe" _
  · intro first firstMember second secondMember _
    rw [oneWorker first firstMember, oneWorker second secondMember]

end TrafficInspector
