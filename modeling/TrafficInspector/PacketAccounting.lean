import TrafficInspector.RadiusPairing

/-!
Owns the accounting of the RADIUS worker. Every data packet it has taken is one
half of a notification, was given up on by a SYNC, or still waits.
-/

namespace TrafficInspector

open Foundation

def WorkerInput.isData : WorkerInput → Bool
  | data _ _ => true
  | syncTimeout _ => false

namespace RadiusWorker

/-- How many packets a step gives up on. -/
def givenUp (responseTimeoutMsec : SizeT) (step : Step RadiusWorker WorkerInput) : Nat :=
  match step.input with
  | .data _ _ => 0
  | .syncTimeout now => (step.before.timedOut responseTimeoutMsec now).length

/-- What a step reports: the total as it leaves it, and its own count. -/
def reported (responseTimeoutMsec : SizeT) (step : Step RadiusWorker WorkerInput) :
    List SyncReport :=
  match step.input with
  | .data _ _ => []
  | .syncTimeout _ =>
      [⟨step.after.totalPacketsTimeoutCounter, UInt64.ofNat (givenUp responseTimeoutMsec step)⟩]

/-- One step moves no packet out of sight: what comes in or was waiting is notified in
pairs, given up on, or waits. -/
structure StepAccounts (responseTimeoutMsec : SizeT) (step : Step RadiusWorker WorkerInput) :
    Prop where
  running : step.after.stop = false
  packets : [step.input].countP WorkerInput.isData + step.before.packetSessionsMap.size =
    2 * (emitted step).length + givenUp responseTimeoutMsec step +
      step.after.packetSessionsMap.size
  queue : step.after.resultNotifier.queue = step.before.resultNotifier.queue ++ emitted step
  total : step.after.totalPacketsTimeoutCounter =
    step.before.totalPacketsTimeoutCounter + UInt64.ofNat (givenUp responseTimeoutMsec step)
  interval : step.after.intervalPacketsTimeoutCounter = 0
  reports : step.after.syncReports = step.before.syncReports ++ reported responseTimeoutMsec step

section

variable (responseTimeoutMsec : SizeT) {worker : RadiusWorker}

private theorem data_accounts (running : worker.stop = false)
    (reset : worker.intervalPacketsTimeoutCounter = 0) (packet : DataPacket) (timeMsec : SizeT) :
    ∃ after, step responseTimeoutMsec worker (.data packet timeMsec) = .ok after ∧
      StepAccounts responseTimeoutMsec ⟨worker, .data packet timeMsec, after⟩ := by
  have own := packet.getPacketSessionPair_eq
  rw [step_data responseTimeoutMsec running]
  cases held : worker.packetSessionsMap[(⟨packet.identifier⟩ : RadSessionPair)]? with
  | none =>
      have absent := not_mem_of_getElem? held
      refine ⟨_, processPacket_keeps own held timeMsec, running, ?_, ?_, ?_, reset, ?_⟩
      · simp [emitted, Std.HashMap.size_insertIfNew, absent, WorkerInput.isData, givenUp,
          Nat.add_comm]
      · simp [emitted]
      · exact (UInt64.add_zero _).symm
      · exact (List.append_nil _).symm
  | some req =>
      have present := mem_of_getElem? held
      have nonempty := size_pos_of_mem present
      refine ⟨_, processPacket_joins own held timeMsec, running, ?_, ?_, ?_, reset, ?_⟩
      · simp [emitted, Std.HashMap.size_erase, present, WorkerInput.isData, givenUp]
        omega
      · simp [emitted]
      · exact (UInt64.add_zero _).symm
      · exact (List.append_nil _).symm

private theorem sync_accounts (running : worker.stop = false)
    (reset : worker.intervalPacketsTimeoutCounter = 0) (now : SizeT) :
    StepAccounts responseTimeoutMsec
      ⟨worker, .syncTimeout now, worker.processSync responseTimeoutMsec now⟩ := by
  obtain ⟨total, interval, reports⟩ := processSync_counters responseTimeoutMsec now worker reset
  refine ⟨(processSync_stop ..).trans running, ?_, ?_, total, interval, reports⟩
  · have size := processSync_size responseTimeoutMsec now worker
    rw [emitted_syncTimeout]
    simp [WorkerInput.isData, givenUp]
    omega
  · rw [emitted_syncTimeout, List.append_nil, processSync_resultNotifier]

theorem step_accounts (running : worker.stop = false)
    (reset : worker.intervalPacketsTimeoutCounter = 0) (input : WorkerInput) :
    ∃ after, step responseTimeoutMsec worker input = .ok after ∧
      StepAccounts responseTimeoutMsec ⟨worker, input, after⟩ := by
  cases input with
  | data packet timeMsec => exact data_accounts responseTimeoutMsec running reset packet timeMsec
  | syncTimeout now =>
      exact ⟨_, step_syncTimeout responseTimeoutMsec running now,
        sync_accounts responseTimeoutMsec running reset now⟩

/-- What the steps of a run account for, added up. -/
structure RunAccounts (worker final : RadiusWorker) (inputs : List WorkerInput)
    (steps : List (Step RadiusWorker WorkerInput)) : Prop where
  packets : inputs.countP WorkerInput.isData + worker.packetSessionsMap.size =
    2 * (steps.flatMap emitted).length + (steps.map (givenUp responseTimeoutMsec)).sum +
      final.packetSessionsMap.size
  queue : final.resultNotifier.queue = worker.resultNotifier.queue ++ steps.flatMap emitted
  total : final.totalPacketsTimeoutCounter = worker.totalPacketsTimeoutCounter +
    UInt64.ofNat (steps.map (givenUp responseTimeoutMsec)).sum
  reports : final.syncReports = worker.syncReports ++ steps.flatMap (reported responseTimeoutMsec)

theorem run_accounts (worker : RadiusWorker) (running : worker.stop = false)
    (reset : worker.intervalPacketsTimeoutCounter = 0) (inputs : List WorkerInput) :
    ∃ final, inputs.foldlM (step responseTimeoutMsec) worker = .ok final ∧
      RunAccounts responseTimeoutMsec worker final inputs
        (history (step responseTimeoutMsec) worker inputs) := by
  induction inputs generalizing worker with
  | nil =>
      refine ⟨worker, rfl, ?_, (List.append_nil _).symm, (UInt64.add_zero _).symm,
        (List.append_nil _).symm⟩
      simp [history]
  | cons input rest inductionHypothesis =>
      obtain ⟨after, stepped, accounts⟩ :=
        step_accounts responseTimeoutMsec running reset input
      obtain ⟨final, ran, later⟩ := inductionHypothesis after accounts.running accounts.interval
      refine ⟨final, ?_, ?_⟩
      · rw [List.foldlM_cons, stepped]
        exact ran
      · have split : history (step responseTimeoutMsec) worker (input :: rest) =
            ⟨worker, input, after⟩ :: history (step responseTimeoutMsec) after rest := by
          rw [history, stepped]
        rw [split]
        constructor
        · have first := accounts.packets
          dsimp only at first
          have others := later.packets
          have consumed : (input :: rest).countP WorkerInput.isData =
              [input].countP WorkerInput.isData + rest.countP WorkerInput.isData := by
            rw [← List.countP_append]
            rfl
          rw [List.flatMap_cons, List.length_append, List.map_cons, List.sum_cons, consumed]
          omega
        · rw [later.queue, accounts.queue, List.append_assoc, List.flatMap_cons]
        · rw [later.total, accounts.total, List.map_cons, List.sum_cons, UInt64.ofNat_add,
            UInt64.add_assoc]
        · rw [later.reports, accounts.reports, List.append_assoc, List.flatMap_cons]

/-- No more packets are given up on than were taken. -/
theorem givenUp_le (worker : RadiusWorker) (running : worker.stop = false)
    (reset : worker.intervalPacketsTimeoutCounter = 0) (inputs : List WorkerInput) :
    ((history (step responseTimeoutMsec) worker inputs).map (givenUp responseTimeoutMsec)).sum ≤
      inputs.countP WorkerInput.isData + worker.packetSessionsMap.size := by
  obtain ⟨final, _, accounts⟩ := run_accounts responseTimeoutMsec worker running reset inputs
  have packets := accounts.packets
  omega

private theorem sum_reported (steps : List (Step RadiusWorker WorkerInput))
    (counters : (steps.map (givenUp responseTimeoutMsec)).sum < 2 ^ 64) :
    ((steps.flatMap (reported responseTimeoutMsec)).map fun report =>
        report.interval.toNat).sum =
      (steps.map (givenUp responseTimeoutMsec)).sum := by
  induction steps with
  | nil => rfl
  | cons first rest inductionHypothesis =>
      rw [List.map_cons, List.sum_cons] at counters
      rw [List.flatMap_cons, List.map_append, List.sum_append,
        inductionHypothesis (by omega), List.map_cons, List.sum_cons]
      congr 1
      rcases first with ⟨before, input, after⟩
      cases input with
      | data packet timeMsec => rfl
      | syncTimeout now =>
          have fits : givenUp responseTimeoutMsec ⟨before, .syncTimeout now, after⟩ < 2 ^ 64 := by
            omega
          simp only [reported, List.map_cons, List.map_nil, List.sum_cons, List.sum_nil,
            Nat.add_zero]
          exact UInt64.toNat_ofNat_of_lt' fits

end

end RadiusWorker

/-- Packet accounting, after any run: as long as fewer than `2 ^ 64` packets have been
given up on, the data packets taken are two for each notification, the ones counted as
unresponded and the ones in the session map; and the total is the sum of the interval
counts that the SYNCs reported. -/
theorem packets_accounted (responseTimeoutMsec : SizeT) (notifier : ResultNotifier)
    (inputs : List WorkerInput)
    (counters : ((history (RadiusWorker.step responseTimeoutMsec) (RadiusWorker.start notifier)
      inputs).map (RadiusWorker.givenUp responseTimeoutMsec)).sum < 2 ^ 64) :
    ∃ final notified, (RadiusWorker.start notifier).processPacketsThreadImpl responseTimeoutMsec
        (inputs.map WorkerInput.item) = .ok final ∧
      final.resultNotifier.queue = notifier.queue ++ notified ∧
      inputs.countP WorkerInput.isData = 2 * notified.length +
        final.totalPacketsTimeoutCounter.toNat + final.packetSessionsMap.size ∧
      final.totalPacketsTimeoutCounter.toNat =
        (final.syncReports.map fun report => report.interval.toNat).sum := by
  obtain ⟨final, ran, accounts⟩ := RadiusWorker.run_accounts responseTimeoutMsec
    (RadiusWorker.start notifier) rfl rfl inputs
  have total : final.totalPacketsTimeoutCounter.toNat = ((history
      (RadiusWorker.step responseTimeoutMsec) (RadiusWorker.start notifier) inputs).map
        (RadiusWorker.givenUp responseTimeoutMsec)).sum := by
    rw [accounts.total]
    show (0 + UInt64.ofNat _).toNat = _
    rw [UInt64.zero_add, UInt64.toNat_ofNat_of_lt' counters]
  refine ⟨final, _, ?_, accounts.queue, ?_, ?_⟩
  · rw [RadiusWorker.processPacketsThreadImpl_eq]
    exact ran
  · rw [total]
    exact accounts.packets
  · rw [total, accounts.reports]
    exact (RadiusWorker.sum_reported responseTimeoutMsec _ counters).symm

/-- Two requests with one identifier, a third, and a SYNC two seconds later. -/
theorem packets_accounted_of_three :
    ∃ final notified, (RadiusWorker.start ⟨[], "probe"⟩).processPacketsThreadImpl 1000
        ([.data bareRequest 1, .data bareRequest 2, .data bareRequest 3,
          .syncTimeout 2000].map WorkerInput.item) = .ok final ∧
      final.resultNotifier.queue = [] ++ notified ∧
      3 = 2 * notified.length + final.totalPacketsTimeoutCounter.toNat +
        final.packetSessionsMap.size ∧
      final.totalPacketsTimeoutCounter.toNat =
        (final.syncReports.map fun report => report.interval.toNat).sum := by
  apply packets_accounted 1000 ⟨[], "probe"⟩
    [.data bareRequest 1, .data bareRequest 2, .data bareRequest 3, .syncTimeout 2000]
  have bound := RadiusWorker.givenUp_le 1000 (RadiusWorker.start ⟨[], "probe"⟩) rfl rfl
    [.data bareRequest 1, .data bareRequest 2, .data bareRequest 3, .syncTimeout 2000]
  exact Nat.lt_of_le_of_lt bound (by decide)

end TrafficInspector
