import TrafficInspector.ResponseTimeout
import TrafficInspector.Threads.BufferConservation

/-!
Owns which packets a SYNC gives up on when the clock may have been set back. The age
of a packet is a difference of two readings in `size_t`: a packet whose timestamp
lies ahead of the clock is almost `2 ^ 64` milliseconds old.
-/

namespace TrafficInspector

/-- A SYNC takes away the packets that have reached their timeout and no others, and
adds their number to the total. -/
structure ExpiresExactly (responseTimeoutMsec now : SizeT) (worker after : RadiusWorker) :
    Prop where
  removed : ∀ (sp : RadSessionPair) (packet : RADIUSPacket),
    worker.packetSessionsMap[sp]? = some packet →
    ¬ WithinTimeout responseTimeoutMsec now packet → after.packetSessionsMap[sp]? = none
  kept : ∀ (sp : RadSessionPair) (packet : RADIUSPacket),
    worker.packetSessionsMap[sp]? = some packet →
    WithinTimeout responseTimeoutMsec now packet → after.packetSessionsMap[sp]? = some packet
  added : ∀ sp : RadSessionPair, worker.packetSessionsMap[sp]? = none →
    after.packetSessionsMap[sp]? = none
  counted : (after.totalPacketsTimeoutCounter - worker.totalPacketsTimeoutCounter).toNat +
    after.packetSessionsMap.size = worker.packetSessionsMap.size

/-- The worker processes a SYNC, and it expires exactly. -/
def RadiusWorker.SyncExpiresExactly (worker : RadiusWorker) (responseTimeoutMsec now : SizeT) :
    Prop :=
  ∃ after, worker.processMessage responseTimeoutMsec (WorkerInput.syncTimeout now).item =
      .ok after ∧
    ExpiresExactly responseTimeoutMsec now worker after

/-- The clock has not been set back behind the timestamp of a waiting packet, or the
timeout is longer than even the age that has gone round. -/
def RadiusWorker.NoneAhead (worker : RadiusWorker) (responseTimeoutMsec now : SizeT) : Prop :=
  ∀ (sp : RadSessionPair) (packet : RADIUSPacket), worker.packetSessionsMap[sp]? = some packet →
    packet.timeStamp ≤ now ∨
      2 ^ 64 + now.toNat < packet.timeStamp.toNat + responseTimeoutMsec.toNat

section

variable {worker : RadiusWorker} {responseTimeoutMsec now : SizeT}

/-- Away from the region where the age goes round, the worker's test is the timeout's. -/
theorem RadiusWorker.NoneAhead.timedOut_iff (notAhead : worker.NoneAhead responseTimeoutMsec now)
    {sp : RadSessionPair} {packet : RADIUSPacket}
    (held : worker.packetSessionsMap[sp]? = some packet) :
    isTimedOut responseTimeoutMsec now packet = true ↔
      ¬ WithinTimeout responseTimeoutMsec now packet := by
  unfold WithinTimeout
  rw [isTimedOut_iff, Nat.not_lt]
  apply (notAhead sp packet held).elim
  · intro stamped
    rw [if_pos stamped]
  · intro beyond
    by_cases stamped : packet.timeStamp ≤ now
    · rw [if_pos stamped]
    · rw [if_neg stamped]
      omega

/-- Whatever the clock says, a SYNC counts the packets it takes away. A map has one entry
for each identifier at most, so their number is exact. -/
theorem RadiusWorker.processSync_counted (worker : RadiusWorker)
    (responseTimeoutMsec now : SizeT) :
    let after := worker.processSync responseTimeoutMsec now
    (after.totalPacketsTimeoutCounter - worker.totalPacketsTimeoutCounter).toNat +
      after.packetSessionsMap.size = worker.packetSessionsMap.size := by
  have size := worker.processSync_size responseTimeoutMsec now
  have keys := Foundation.size_le_card worker.packetSessionsMap
  rw [card_radSessionPair] at keys
  have few : (worker.timedOut responseTimeoutMsec now).length < UInt64.size :=
    Nat.lt_of_le_of_lt (by omega) (show 256 < UInt64.size by decide)
  intro after
  show ((worker.processSync responseTimeoutMsec now).totalPacketsTimeoutCounter -
    worker.totalPacketsTimeoutCounter).toNat + _ = _
  rw [processSync_total, UInt64.add_comm, UInt64.add_sub_cancel, UInt64.toNat_ofNat_of_lt' few,
    Nat.add_comm]
  exact size

theorem RadiusWorker.NoneAhead.expiresExactly
    (notAhead : worker.NoneAhead responseTimeoutMsec now) :
    ExpiresExactly responseTimeoutMsec now worker
      (worker.processSync responseTimeoutMsec now) := by
  constructor
  · intro sp packet held reached
    have timedOut := (notAhead.timedOut_iff held).mpr reached
    rw [processSync_waiting _ _ _ held, if_pos timedOut]
  · intro sp packet held within
    have spared : ¬ isTimedOut responseTimeoutMsec now packet = true := fun timedOut =>
      (notAhead.timedOut_iff held).mp timedOut within
    rw [processSync_waiting _ _ _ held, if_neg spared]
  · intro sp free
    simp [processSync_getElem?, free]
  · exact worker.processSync_counted responseTimeoutMsec now

/-- A packet ahead of the clock is within every timeout, and a SYNC gives up on it. -/
theorem RadiusWorker.noneAhead_of_expiresExactly
    (exact : ExpiresExactly responseTimeoutMsec now worker
      (worker.processSync responseTimeoutMsec now)) :
    worker.NoneAhead responseTimeoutMsec now := by
  intro sp packet held
  by_cases stamped : packet.timeStamp ≤ now
  · exact .inl stamped
  · right
    apply Nat.lt_of_not_le
    intro roundAge
    have timedOut : isTimedOut responseTimeoutMsec now packet = true := by
      rw [isTimedOut_iff, if_neg stamped]
      exact roundAge
    have within : WithinTimeout responseTimeoutMsec now packet := by
      unfold WithinTimeout
      rw [UInt64.le_iff_toNat_le] at stamped
      omega
    have kept := exact.kept sp packet held within
    rw [processSync_waiting _ _ _ held, if_pos timedOut] at kept
    cases kept

end

/-- A SYNC expires exactly if and only if the timestamp of no waiting packet is ahead of the
clock by an age that, gone round, reaches the timeout. -/
theorem sync_expires_exactly_iff (worker : RadiusWorker) (responseTimeoutMsec now : SizeT) :
    worker.SyncExpiresExactly responseTimeoutMsec now ↔
      worker.NoneAhead responseTimeoutMsec now := by
  constructor
  · rintro ⟨after, processed, exact⟩
    cases processed
    exact RadiusWorker.noneAhead_of_expiresExactly exact
  · intro notAhead
    exact ⟨_, rfl, notAhead.expiresExactly⟩

/-- A request without attributes that came in at the given time. -/
def requestAt (now : SizeT) : DataPacket where
  frame := (NIC.receivePacket (ETHPacket.create 0 fun _ => 0)
    (some (accessRequest []).bytes) now).val
  packet := (NIC.receivePacket (ETHPacket.create 0 fun _ => 0)
    (some (accessRequest []).bytes) now).val.decoderPacket
  built := by
    have carries := receivePacket_carries (ETHPacket.create 0 fun _ => 0) (accessRequest []) []
      now rfl (by decide)
    rw [carries.ofPoolItem (by decide) Foundation.TypeLengthValue.endsEmpty_nil]
    rfl

/-- A request that came in at 5000 ms is given up on, with a timeout of a second, when the
clock has been set back by a millisecond. -/
theorem clock_set_back_expires :
    ∃ worker, (RadiusWorker.start ⟨[], "probe"⟩).processPacketsThreadImpl 1000
        [(WorkerInput.data (requestAt 5000) 0).item] = .ok worker ∧
      ¬ worker.SyncExpiresExactly 1000 4999 := by
  obtain ⟨worker, ran, represents, _⟩ :=
    RadiusWorker.run_represents 1000 ⟨[], "probe"⟩ [.data (requestAt 5000) 0]
  refine ⟨worker, ran, ?_⟩
  rintro ⟨after, processed, exact⟩
  cases processed
  have held : worker.packetSessionsMap[(⟨(requestAt 5000).identifier⟩ : RadSessionPair)]? =
      some (requestAt 5000).packet := represents.sessions (requestAt 5000).identifier
  rcases RadiusWorker.noneAhead_of_expiresExactly exact _ _ held with stamped | beyond
  · exact absurd stamped (by decide)
  · exact absurd beyond (by decide)

end TrafficInspector
