import TrafficInspector.RadiusPairing

/-!
Owns how long a request may wait for its response. The constructor takes a
response timeout and does not keep it: the workers go by the member's default of
one second, whatever they were configured with.
-/

namespace TrafficInspector

open Foundation

/-- Every packet got its timestamp before a SYNC behind it reads the clock. -/
def ClocksForward (inputs : List WorkerInput) : Prop :=
  ∀ before now rest, inputs = before ++ .syncTimeout now :: rest →
    ∀ packet timeMsec, .data packet timeMsec ∈ before → packet.packet.timeStamp ≤ now

/-- The reading is less than the timeout after the packet's timestamp. -/
def WithinTimeout (responseTimeoutMsec now : SizeT) (packet : RADIUSPacket) : Prop :=
  now.toNat < packet.timeStamp.toNat + responseTimeoutMsec.toNat

/-- A SYNC leaves every packet waiting that is within its timeout, and it counts no
other packets than those it takes away. -/
structure SparesWithinTimeout (responseTimeoutMsec now : SizeT) (worker after : RadiusWorker) :
    Prop where
  kept : ∀ (sp : RadSessionPair) (packet : RADIUSPacket),
    worker.packetSessionsMap[sp]? = some packet →
    WithinTimeout responseTimeoutMsec now packet → after.packetSessionsMap[sp]? = some packet
  counted : after.totalPacketsTimeoutCounter = worker.totalPacketsTimeoutCounter +
    UInt64.ofNat (worker.packetSessionsMap.size - after.packetSessionsMap.size)

/-- Between a request and its response: other identifiers, and SYNCs within the timeout. -/
def LeavesTime (responseTimeoutMsec : SizeT) (req : DataPacket) : WorkerInput → Prop
  | .data packet _ => packet.identifier ≠ req.identifier
  | .syncTimeout now => WithinTimeout responseTimeoutMsec now req.packet

section

variable (processor : PacketProcessor .radius) (responseTimeoutMsec : SizeT)
  (notifier : ResultNotifier)

/-- A worker of the processor, started and given the inputs. -/
def PacketProcessor.ranOn (inputs : List WorkerInput) : Except Fault RadiusWorker :=
  (RadiusWorker.start notifier).processPacketsThreadImpl processor.responseTimeoutMsec
    (inputs.map WorkerInput.item)

/-- In a run of the processor's worker, every SYNC spares what is within the timeout; and a
request that waits from when it comes in is joined with the next packet of its identifier,
if all SYNCs before that one are within its timeout. -/
structure HonoursTimeout (inputs : List WorkerInput) : Prop where
  spares : ∀ before now rest worker after, inputs = before ++ .syncTimeout now :: rest →
    processor.ranOn notifier before = .ok worker →
    worker.step processor.responseTimeoutMsec (.syncTimeout now) = .ok after →
      SparesWithinTimeout responseTimeoutMsec now worker after
  answered : ∀ early req reqMsec between resp respMsec rest worker,
    inputs = early ++ .data req reqMsec :: (between ++ .data resp respMsec :: rest) →
    processor.ranOn notifier early = .ok worker →
    worker.findSession ⟨req.identifier⟩ = none →
    (∀ input ∈ between, LeavesTime responseTimeoutMsec req input) →
    resp.identifier = req.identifier →
      ∃ before after,
        processor.ranOn notifier (early ++ .data req reqMsec :: between) = .ok before ∧
        before.step processor.responseTimeoutMsec (.data resp respMsec) = .ok after ∧
        after.resultNotifier.queue = before.resultNotifier.queue ++
          [joined notifier.sourceId respMsec resp req]

/-- No SYNC comes a second or more after the timestamp of a packet that waits for it, and
within the timeout. -/
def NoSyncInGap (inputs : List WorkerInput) : Prop :=
  ∀ before now rest worker (sp : RadSessionPair) (packet : RADIUSPacket),
    inputs = before ++ .syncTimeout now :: rest →
    processor.ranOn notifier before = .ok worker →
    worker.packetSessionsMap[sp]? = some packet →
    packet.timeStamp.toNat + 1000 ≤ now.toNat →
      ¬ WithinTimeout responseTimeoutMsec now packet

end

/-! ### One SYNC -/

private theorem isTimedOut_of_stamped {responseTimeoutMsec now : SizeT} {packet : RADIUSPacket}
    (stamped : packet.timeStamp ≤ now) :
    RadiusWorker.isTimedOut responseTimeoutMsec now packet = true ↔
      packet.timeStamp.toNat + responseTimeoutMsec.toNat ≤ now.toNat := by
  rw [RadiusWorker.isTimedOut_iff, if_pos stamped]

section

variable {processor : PacketProcessor .radius} {responseTimeoutMsec : SizeT}
  {notifier : ResultNotifier} {inputs : List WorkerInput}

/-- A waiting packet is one of those taken. -/
theorem pending_taken {before : List WorkerInput} {worker : RadiusWorker}
    (ran : processor.ranOn notifier before = .ok worker) {sp : RadSessionPair}
    {packet : RADIUSPacket} (pending : worker.packetSessionsMap[sp]? = some packet) :
    ∃ req timeMsec, packet = req.packet ∧ .data req timeMsec ∈ before := by
  have represents := RadiusWorker.represents_of_run ran
  rw [represents.sessions sp.identifier] at pending
  obtain ⟨req, holds, packetIs⟩ := Option.map_eq_some_iff.mp pending
  obtain ⟨_, early, timeMsec, between, split, _⟩ :=
    waitsSince_of_slot _ _ before sp.identifier holds
  refine ⟨req, timeMsec, packetIs.symm, ?_⟩
  rw [split]
  exact List.mem_append_right early List.mem_cons_self

theorem pending_stamped (forward : ClocksForward inputs) {before rest : List WorkerInput}
    {now : SizeT} (split : inputs = before ++ .syncTimeout now :: rest) {worker : RadiusWorker}
    (ran : processor.ranOn notifier before = .ok worker) {sp : RadSessionPair}
    {packet : RADIUSPacket} (pending : worker.packetSessionsMap[sp]? = some packet) :
    packet.timeStamp ≤ now := by
  obtain ⟨req, timeMsec, rfl, member⟩ := pending_taken ran pending
  exact forward before now rest split req timeMsec member

/-- Where no SYNC falls in the gap, one within the timeout is within the second. -/
private theorem not_timedOut (forward : ClocksForward inputs)
    (second : processor.responseTimeoutMsec = 1000)
    (gap : NoSyncInGap processor responseTimeoutMsec notifier inputs)
    {before rest : List WorkerInput} {now : SizeT}
    (split : inputs = before ++ .syncTimeout now :: rest) {worker : RadiusWorker}
    (ran : processor.ranOn notifier before = .ok worker) {sp : RadSessionPair}
    {packet : RADIUSPacket} (pending : worker.packetSessionsMap[sp]? = some packet)
    (within : WithinTimeout responseTimeoutMsec now packet) :
    RadiusWorker.isTimedOut processor.responseTimeoutMsec now packet = false := by
  apply Bool.eq_false_iff.mpr
  intro timedOut
  rw [second, isTimedOut_of_stamped (pending_stamped forward split ran pending)] at timedOut
  exact gap before now rest worker sp packet split ran pending timedOut within

private theorem spares_of_gap (forward : ClocksForward inputs)
    (second : processor.responseTimeoutMsec = 1000)
    (gap : NoSyncInGap processor responseTimeoutMsec notifier inputs)
    {before rest : List WorkerInput} {now : SizeT}
    (split : inputs = before ++ .syncTimeout now :: rest) {worker after : RadiusWorker}
    (ran : processor.ranOn notifier before = .ok worker)
    (stepped : worker.step processor.responseTimeoutMsec (.syncTimeout now) = .ok after) :
    SparesWithinTimeout responseTimeoutMsec now worker after := by
  have running := (RadiusWorker.represents_of_run ran).running
  rw [RadiusWorker.step_syncTimeout _ running] at stepped
  cases stepped
  constructor
  · intro sp packet pending within
    have spared := not_timedOut forward second gap split ran pending within
    rw [RadiusWorker.processSync_waiting _ _ _ pending, spared, if_neg Bool.false_ne_true]
  · have size := RadiusWorker.processSync_size processor.responseTimeoutMsec now worker
    have taken : worker.packetSessionsMap.size -
          (worker.processSync processor.responseTimeoutMsec now).packetSessionsMap.size =
        (worker.timedOut processor.responseTimeoutMsec now).length := by
      omega
    rw [taken]
    exact RadiusWorker.processSync_total processor.responseTimeoutMsec now worker

/-! ### From a request to its response -/

/-- A request that found its slot free is still there when nothing but other identifiers
and SYNCs within its timeout came since. -/
theorem request_waits (forward : ClocksForward inputs)
    (second : processor.responseTimeoutMsec = 1000)
    (gap : NoSyncInGap processor responseTimeoutMsec notifier inputs)
    {early : List WorkerInput} {req : DataPacket} (reqMsec : SizeT)
    (free : (sessionSlot processor.responseTimeoutMsec notifier.sourceId).run none
      (early.filter (WorkerInput.concerns req.identifier)) = none)
    (between : List WorkerInput) :
    ∀ rest, inputs = early ++ .data req reqMsec :: (between ++ rest) →
      (∀ input ∈ between, LeavesTime responseTimeoutMsec req input) →
        (sessionSlot processor.responseTimeoutMsec notifier.sourceId).run none
          ((early ++ .data req reqMsec :: between).filter
            (WorkerInput.concerns req.identifier)) = some req := by
  induction between using List.reverseRecOn with
  | nil =>
      intro rest split leaves
      have own : WorkerInput.concerns req.identifier (.data req reqMsec) = true :=
        beq_self_eq_true _
      rw [List.filter_append, List.filter_cons_of_pos own, List.filter_nil, Machine.run_concat,
        free]
      rfl
  | append_singleton between input inductionHypothesis =>
      intro rest split leaves
      rw [List.append_assoc] at split
      have waits := inductionHypothesis ([input] ++ rest) split fun other member =>
        leaves other (List.mem_append_left _ member)
      have last := leaves input (List.mem_append_right between (List.mem_singleton_self input))
      have longer : early ++ .data req reqMsec :: (between ++ [input]) =
          (early ++ .data req reqMsec :: between) ++ [input] := by
        rw [List.append_assoc]
        rfl
      rw [longer, List.filter_append]
      cases input with
      | data packet timeMsec =>
          have other : ¬ WorkerInput.concerns req.identifier (.data packet timeMsec) = true :=
            fun same => last (eq_of_beq same)
          rw [List.filter_cons_of_neg other, List.filter_nil, List.append_nil]
          exact waits
      | syncTimeout now =>
          have concerned : WorkerInput.concerns req.identifier (.syncTimeout now) = true := rfl
          obtain ⟨worker, ran, _⟩ := RadiusWorker.run_represents processor.responseTimeoutMsec
            notifier (early ++ .data req reqMsec :: between)
          have pending : worker.packetSessionsMap[(⟨req.identifier⟩ : RadSessionPair)]? =
              some req.packet := by
            rw [(RadiusWorker.represents_of_run ran).sessions, waits]
            rfl
          have whole : inputs = (early ++ .data req reqMsec :: between) ++
              .syncTimeout now :: rest := by
            rw [split, List.append_assoc]
            rfl
          have spared := not_timedOut forward second gap whole ran pending last
          rw [RadiusWorker.isTimedOut_eq, decide_eq_false_iff_not] at spared
          rw [List.filter_cons_of_pos concerned, List.filter_nil, Machine.run_concat, waits]
          exact if_neg spared

theorem honours_of_gap (forward : ClocksForward inputs)
    (second : processor.responseTimeoutMsec = 1000)
    (gap : NoSyncInGap processor responseTimeoutMsec notifier inputs) :
    HonoursTimeout processor responseTimeoutMsec notifier inputs := by
  constructor
  · intro before now rest worker after split ran stepped
    exact spares_of_gap forward second gap split ran stepped
  · intro early req reqMsec between resp respMsec rest worker split ran absent leaves same
    have free := (RadiusWorker.represents_of_run ran).sessions req.identifier
    rw [RadiusWorker.findSession_eq, Option.map_eq_none_iff] at absent
    rw [absent] at free
    have waits := request_waits forward second gap reqMsec
      (Option.map_eq_none_iff.mp free.symm) between _ split leaves
    obtain ⟨before, ranOn, _⟩ := RadiusWorker.run_represents processor.responseTimeoutMsec
      notifier (early ++ .data req reqMsec :: between)
    have represents := RadiusWorker.represents_of_run ranOn
    obtain ⟨after, stepped, takes⟩ := RadiusWorker.step_takesData processor.responseTimeoutMsec
      represents resp respMsec
    refine ⟨before, after, ranOn, stepped, ?_⟩
    rw [takes.queue, same, waits]
    rfl

theorem gap_of_honours (forward : ClocksForward inputs)
    (second : processor.responseTimeoutMsec = 1000)
    (honours : HonoursTimeout processor responseTimeoutMsec notifier inputs) :
    NoSyncInGap processor responseTimeoutMsec notifier inputs := by
  intro before now rest worker sp packet split ran pending late within
  have running := (RadiusWorker.represents_of_run ran).running
  have kept := (honours.spares before now rest worker _ split ran
    (RadiusWorker.step_syncTimeout _ running now)).kept sp packet pending within
  have timedOut : RadiusWorker.isTimedOut 1000 now packet = true :=
    (isTimedOut_of_stamped (pending_stamped forward split ran pending)).mpr late
  rw [RadiusWorker.processSync_waiting _ _ _ pending, second, if_pos timedOut] at kept
  cases kept

end

/-! ### The timeouts that are honoured -/

theorem bareRequest_pending (processor : PacketProcessor .radius) (notifier : ResultNotifier) :
    ∃ worker, processor.ranOn notifier [.data bareRequest 0] = .ok worker ∧
      worker.packetSessionsMap[(⟨bareRequest.identifier⟩ : RadSessionPair)]? =
        some bareRequest.packet := by
  obtain ⟨worker, ran, represents, _⟩ := RadiusWorker.run_represents
    processor.responseTimeoutMsec notifier [.data bareRequest 0]
  exact ⟨worker, ran, represents.sessions bareRequest.identifier⟩

/-- A request that came in at time zero, and a SYNC a second later. -/
def syncAfterOneSecond : List WorkerInput := [.data bareRequest 0, .syncTimeout 1000]

theorem syncAfterOneSecond_forward : ClocksForward syncAfterOneSecond := by
  intro before now rest split packet timeMsec member
  have taken : WorkerInput.data packet timeMsec ∈ syncAfterOneSecond := by
    rw [split]
    exact List.mem_append_left _ member
  have isRequest : packet = bareRequest := by
    simp only [syncAfterOneSecond, List.mem_cons, WorkerInput.data.injEq, reduceCtorEq,
      List.not_mem_nil, or_false] at taken
    exact taken.1
  rw [isRequest, UInt64.le_iff_toNat_le]
  exact Nat.zero_le _

/-- A timeout above the member's default is not honoured when a SYNC comes after one second. -/
theorem not_honoured_above_default (processor : PacketProcessor .radius)
    (second : processor.responseTimeoutMsec = 1000) {responseTimeoutMsec : SizeT}
    (above : 1000 < responseTimeoutMsec.toNat) (notifier : ResultNotifier) :
    ¬ HonoursTimeout processor responseTimeoutMsec notifier syncAfterOneSecond := by
  intro honours
  obtain ⟨worker, ran, pending⟩ := bareRequest_pending processor notifier
  apply gap_of_honours syncAfterOneSecond_forward second honours [.data bareRequest 0] 1000 []
    worker _ _ rfl ran pending (by decide)
  show 1000 < 0 + responseTimeoutMsec.toNat
  omega

/-- In a run in which the clocks do not go backwards, the configured timeout is honoured
exactly when no SYNC falls between the member's second and the timeout. So it is honoured in
every such run exactly when it is at most a second. -/
theorem honoursTimeout_iff (instancesCount : Nat) (responseTimeoutMsec : SizeT)
    (notifier : ResultNotifier) :
    (∀ inputs, ClocksForward inputs →
      (HonoursTimeout (.create .radius instancesCount responseTimeoutMsec) responseTimeoutMsec
          notifier inputs ↔
        NoSyncInGap (.create .radius instancesCount responseTimeoutMsec) responseTimeoutMsec
          notifier inputs)) ∧
    ((∀ inputs, ClocksForward inputs →
        HonoursTimeout (.create .radius instancesCount responseTimeoutMsec) responseTimeoutMsec
          notifier inputs) ↔
      responseTimeoutMsec.toNat ≤ 1000) := by
  refine ⟨fun inputs forward => ⟨gap_of_honours forward rfl, honours_of_gap forward rfl⟩, ?_⟩
  constructor
  · intro honours
    apply Nat.le_of_not_lt
    intro above
    exact not_honoured_above_default _ rfl above notifier
      (honours syncAfterOneSecond syncAfterOneSecond_forward)
  · intro small inputs forward
    apply honours_of_gap forward rfl
    intro before now rest worker sp packet split ran pending late within
    unfold WithinTimeout at within
    omega

/-- The documented default of two seconds. -/
theorem two_seconds_not_honoured :
    ClocksForward syncAfterOneSecond ∧
      ¬ HonoursTimeout (.create .radius 1 2000) 2000 ⟨[], "probe"⟩ syncAfterOneSecond :=
  ⟨syncAfterOneSecond_forward,
    not_honoured_above_default (.create .radius 1 2000) rfl (by decide) ⟨[], "probe"⟩⟩

end TrafficInspector
