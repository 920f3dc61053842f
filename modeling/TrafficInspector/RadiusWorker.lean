import TrafficInspector.Foundation.ErasingSweep
import TrafficInspector.ResultNotifier

/-!
Owns `PacketProcessor<RADIUSPacket>::processPacketsThreadImpl`: the map of
packets that wait for the other half of their session, the joining of a packet
with the one that waits under its session pair, and the SYNC that gives up on
packets that have waited too long.
-/

namespace TrafficInspector

/-- A message as the worker takes it from its queue, with the one clock reading that
processing it can make, in milliseconds: `CLOCK_REALTIME` for a SYNC,
`CLOCK_MONOTONIC` for a packet that is notified. -/
structure QueueItem where
  packet : RADIUSPacket
  clockMsec : SizeT

structure SyncReport where
  total : SizeT
  interval : SizeT
deriving DecidableEq, Repr

/-- The thread's variables, the stop flag it was given, the lines its SYNCs
logged and the notifier it shares. -/
structure RadiusWorker where
  packetSessionsMap : Std.HashMap RadSessionPair RADIUSPacket := ∅
  totalPacketsTimeoutCounter : SizeT := 0
  intervalPacketsTimeoutCounter : SizeT := 0
  syncReports : List SyncReport := []
  stop : Bool := false
  resultNotifier : ResultNotifier

namespace RadiusWorker

/-- `delta >= m_responseTimeoutMsec`, with the subtraction of `delta` in `size_t`. -/
def isTimedOut (responseTimeoutMsec timeStamp : SizeT) (packet : RADIUSPacket) : Bool :=
  let delta := timeStamp - packet.timeStamp
  decide (delta ≥ responseTimeoutMsec)

/-- The body of the SYNC's loop at one entry. -/
def syncEntry (responseTimeoutMsec timeStamp : SizeT) (worker : RadiusWorker)
    (entry : RadSessionPair × RADIUSPacket) : RadiusWorker :=
  if isTimedOut responseTimeoutMsec timeStamp entry.2 then
    { worker with
      intervalPacketsTimeoutCounter := worker.intervalPacketsTimeoutCounter + 1
      totalPacketsTimeoutCounter := worker.totalPacketsTimeoutCounter + 1
      packetSessionsMap := worker.packetSessionsMap.erase entry.1 }
  else
    worker

/-- The SYNC branch. The loop meets every entry that is there when it starts;
erasing the one it stands on does not take it past another. -/
def processSync (responseTimeoutMsec timeStamp : SizeT) (worker : RadiusWorker) : RadiusWorker :=
  let swept :=
    worker.packetSessionsMap.toList.foldl (syncEntry responseTimeoutMsec timeStamp) worker
  { swept with
    syncReports := swept.syncReports ++
      [⟨swept.totalPacketsTimeoutCounter, swept.intervalPacketsTimeoutCounter⟩]
    intervalPacketsTimeoutCounter := 0 }

def equalRange (worker : RadiusWorker) (sp : RadSessionPair) :
    List (RadSessionPair × RADIUSPacket) :=
  worker.packetSessionsMap.toList.filter fun entry => entry.1 == sp

def findSession (worker : RadiusWorker) (sp : RadSessionPair) :
    Option (RadSessionPair × RADIUSPacket) :=
  (worker.equalRange sp).find? fun entry => entry.1 == sp

/-- The branch of any other packet: joined with the entry found, which is then
erased, or kept under its session pair. -/
def processPacket (timeMsec : SizeT) (packet : RADIUSPacket) (worker : RadiusWorker) :
    Except Fault RadiusWorker := do
  let sp ← packet.getPacketSessionPair
  match worker.findSession sp with
  | some it =>
      let (resultNotifier, _, _) :=
        worker.resultNotifier.provideDataForNotifier timeMsec packet it.2
      return { worker with
        resultNotifier, packetSessionsMap := worker.packetSessionsMap.erase it.1 }
  | none =>
      return { worker with packetSessionsMap := worker.packetSessionsMap.insertIfNew sp packet }

/-- The loop's body behind `getObject`. -/
def processMessage (responseTimeoutMsec : SizeT) (worker : RadiusWorker) (item : QueueItem) :
    Except Fault RadiusWorker :=
  match item.packet.ctrlMessageId with
  | .shutdown => .ok { worker with stop := true }
  | .syncTimeout => .ok (worker.processSync responseTimeoutMsec item.clockMsec)
  | .processing | .maxControlMessageId => worker.processPacket item.clockMsec item.packet

def iteration (responseTimeoutMsec : SizeT) (worker : RadiusWorker) (item : QueueItem) :
    Except Fault RadiusWorker :=
  if worker.stop then .ok worker else worker.processMessage responseTimeoutMsec item

/-- `processPacketsThreadImpl` until it waits for more than the given messages. -/
def processPacketsThreadImpl (responseTimeoutMsec : SizeT) (worker : RadiusWorker)
    (recvQueue : List QueueItem) : Except Fault RadiusWorker :=
  recvQueue.foldlM (iteration responseTimeoutMsec) worker

/-! ### What one message does -/

/-- Over the integers: behind the timestamp the age is what it says, and before it the
subtraction has gone round. -/
theorem isTimedOut_iff (responseTimeoutMsec timeStamp : SizeT) (packet : RADIUSPacket) :
    isTimedOut responseTimeoutMsec timeStamp packet = true ↔
      packet.timeStamp.toNat + responseTimeoutMsec.toNat ≤
        if packet.timeStamp ≤ timeStamp then timeStamp.toNat else 2 ^ 64 + timeStamp.toNat := by
  have small := packet.timeStamp.toNat_lt
  have small' := timeStamp.toNat_lt
  unfold isTimedOut
  rw [decide_eq_true_iff, ge_iff_le, UInt64.le_iff_toNat_le, UInt64.toNat_sub]
  by_cases stamped : packet.timeStamp ≤ timeStamp
  · rw [if_pos stamped]
    rw [UInt64.le_iff_toNat_le] at stamped
    omega
  · rw [if_neg stamped]
    rw [UInt64.le_iff_toNat_le] at stamped
    omega

theorem findSession_eq (worker : RadiusWorker) (sp : RadSessionPair) :
    worker.findSession sp = worker.packetSessionsMap[sp]?.map (Prod.mk sp) := by
  rw [findSession, equalRange, List.find?_filter]
  simp only [and_self, Bool.decide_eq_true]
  cases held : worker.packetSessionsMap[sp]? with
  | none =>
      apply Std.HashMap.find?_toList_eq_none_iff_not_mem.mpr
      exact Foundation.not_mem_of_getElem? held
  | some packet =>
      apply Std.HashMap.find?_toList_eq_some_iff_getKey?_eq_some_and_getElem?_eq_some.mpr
      refine ⟨?_, held⟩
      apply Std.HashMap.getKey?_eq_some
      exact Foundation.mem_of_getElem? held

section

variable {worker : RadiusWorker} {packet : RADIUSPacket} {sp : RadSessionPair}

/-- A packet under whose session pair another waits is joined with it. -/
theorem processPacket_joins (own : packet.getPacketSessionPair = .ok sp) {req : RADIUSPacket}
    (held : worker.packetSessionsMap[sp]? = some req) (timeMsec : SizeT) :
    worker.processPacket timeMsec packet =
      .ok { worker with
        resultNotifier := { worker.resultNotifier with
          queue := worker.resultNotifier.queue ++
            [⟨timeMsec, worker.resultNotifier.sourceId, packet.avps, req.avps⟩] }
        packetSessionsMap := worker.packetSessionsMap.erase sp } := by
  unfold processPacket
  simp only [own, findSession_eq, held, Option.map_some, bind, Except.bind]
  rfl

theorem processPacket_keeps (own : packet.getPacketSessionPair = .ok sp)
    (free : worker.packetSessionsMap[sp]? = none) (timeMsec : SizeT) :
    worker.processPacket timeMsec packet =
      .ok { worker with
        packetSessionsMap := worker.packetSessionsMap.insertIfNew sp packet } := by
  unfold processPacket
  simp only [own, findSession_eq, free, Option.map_none, bind, Except.bind]
  rfl

theorem processPacket_cases {timeMsec : SizeT} {after : RadiusWorker}
    (processed : worker.processPacket timeMsec packet = .ok after) :
    ∃ sp, packet.getPacketSessionPair = .ok sp ∧
      ((∃ req, worker.packetSessionsMap[sp]? = some req ∧
          after = { worker with
            resultNotifier := { worker.resultNotifier with
              queue := worker.resultNotifier.queue ++
                [⟨timeMsec, worker.resultNotifier.sourceId, packet.avps, req.avps⟩] }
            packetSessionsMap := worker.packetSessionsMap.erase sp }) ∨
        (worker.packetSessionsMap[sp]? = none ∧
          after = { worker with
            packetSessionsMap := worker.packetSessionsMap.insertIfNew sp packet })) := by
  cases own : packet.getPacketSessionPair with
  | error fault =>
      unfold processPacket at processed
      rw [own] at processed
      cases processed
  | ok sp =>
      refine ⟨sp, rfl, ?_⟩
      cases held : worker.packetSessionsMap[sp]? with
      | some req =>
          rw [processPacket_joins own held] at processed
          exact .inl ⟨req, rfl, (Except.ok.inj processed).symm⟩
      | none =>
          rw [processPacket_keeps own held] at processed
          exact .inr ⟨rfl, (Except.ok.inj processed).symm⟩

theorem getElem?_kept {sessions : Std.HashMap RadSessionPair RADIUSPacket}
    (free : sessions[sp]? = none) (other : RadSessionPair) :
    (sessions.insertIfNew sp packet)[other]? =
      if sp == other then some packet else sessions[other]? := by
  have absent := Foundation.not_mem_of_getElem? free
  rw [Std.HashMap.getElem?_insertIfNew]
  simp only [absent, not_false_eq_true, and_true]

end

section

variable (responseTimeoutMsec timeStamp : SizeT) (worker : RadiusWorker)

private theorem foldl_syncEntry_sessions (entries : List (RadSessionPair × RADIUSPacket)) :
    (entries.foldl (syncEntry responseTimeoutMsec timeStamp) worker).packetSessionsMap =
      entries.foldl (Foundation.eraseIf (isTimedOut responseTimeoutMsec timeStamp))
        worker.packetSessionsMap := by
  induction entries generalizing worker with
  | nil => rfl
  | cons entry rest inductionHypothesis =>
      rw [List.foldl_cons, List.foldl_cons, inductionHypothesis]
      congr 1
      unfold syncEntry Foundation.eraseIf
      split <;> rfl

private theorem foldl_syncEntry_frame (entries : List (RadSessionPair × RADIUSPacket)) :
    let swept := entries.foldl (syncEntry responseTimeoutMsec timeStamp) worker
    swept.resultNotifier = worker.resultNotifier ∧ swept.stop = worker.stop := by
  induction entries generalizing worker with
  | nil => exact ⟨rfl, rfl⟩
  | cons entry rest inductionHypothesis =>
      have entryFrame : (syncEntry responseTimeoutMsec timeStamp worker entry).resultNotifier =
          worker.resultNotifier ∧
          (syncEntry responseTimeoutMsec timeStamp worker entry).stop = worker.stop := by
        unfold syncEntry
        split <;> exact ⟨rfl, rfl⟩
      obtain ⟨notifier, stop⟩ := inductionHypothesis
        (syncEntry responseTimeoutMsec timeStamp worker entry)
      exact ⟨notifier.trans entryFrame.1, stop.trans entryFrame.2⟩

/-- The packets that a SYNC gives up on. -/
def timedOut : List (RadSessionPair × RADIUSPacket) :=
  worker.packetSessionsMap.toList.filter fun entry =>
    isTimedOut responseTimeoutMsec timeStamp entry.2

private theorem foldl_syncEntry_counters (entries : List (RadSessionPair × RADIUSPacket)) :
    let swept := entries.foldl (syncEntry responseTimeoutMsec timeStamp) worker
    let count := UInt64.ofNat
      (entries.countP fun entry => isTimedOut responseTimeoutMsec timeStamp entry.2)
    swept.totalPacketsTimeoutCounter = worker.totalPacketsTimeoutCounter + count ∧
      swept.intervalPacketsTimeoutCounter = worker.intervalPacketsTimeoutCounter + count ∧
      swept.syncReports = worker.syncReports := by
  induction entries generalizing worker with
  | nil => exact ⟨(UInt64.add_zero _).symm, (UInt64.add_zero _).symm, rfl⟩
  | cons entry rest inductionHypothesis =>
      have counted := inductionHypothesis (syncEntry responseTimeoutMsec timeStamp worker entry)
      rw [List.foldl_cons, List.countP_cons]
      cases met : isTimedOut responseTimeoutMsec timeStamp entry.2 with
      | false =>
          have kept : syncEntry responseTimeoutMsec timeStamp worker entry = worker := by
            simp [syncEntry, met]
          rw [kept] at counted ⊢
          exact counted
      | true =>
          have one (counter : SizeT) (count : Nat) :
              counter + UInt64.ofNat (count + 1) = counter + 1 + UInt64.ofNat count := by
            rw [UInt64.ofNat_add, UInt64.add_comm (UInt64.ofNat count), ← UInt64.add_assoc]
            rfl
          simp only [if_true, one]
          simpa [syncEntry, met] using counted

/-- A SYNC takes away exactly the packets that are timed out. -/
theorem processSync_getElem? (sp : RadSessionPair) :
    (worker.processSync responseTimeoutMsec timeStamp).packetSessionsMap[sp]? =
      worker.packetSessionsMap[sp]?.filter
        fun packet => !isTimedOut responseTimeoutMsec timeStamp packet := by
  rw [← Foundation.sweep_getElem?, ← foldl_syncEntry_sessions]
  rfl

theorem processSync_waiting {sp : RadSessionPair} {packet : RADIUSPacket}
    (held : worker.packetSessionsMap[sp]? = some packet) :
    (worker.processSync responseTimeoutMsec timeStamp).packetSessionsMap[sp]? =
      if isTimedOut responseTimeoutMsec timeStamp packet then none else some packet := by
  rw [processSync_getElem?, held, Option.filter_some]
  cases isTimedOut responseTimeoutMsec timeStamp packet <;> rfl

theorem processSync_size :
    (worker.processSync responseTimeoutMsec timeStamp).packetSessionsMap.size +
        (worker.timedOut responseTimeoutMsec timeStamp).length =
      worker.packetSessionsMap.size := by
  rw [timedOut, ← List.countP_eq_length_filter, ← Foundation.sweep_size
    (isTimedOut responseTimeoutMsec timeStamp) worker.packetSessionsMap,
    ← foldl_syncEntry_sessions]
  rfl

theorem processSync_total :
    (worker.processSync responseTimeoutMsec timeStamp).totalPacketsTimeoutCounter =
      worker.totalPacketsTimeoutCounter +
        UInt64.ofNat (worker.timedOut responseTimeoutMsec timeStamp).length := by
  rw [timedOut, ← List.countP_eq_length_filter]
  exact (foldl_syncEntry_counters responseTimeoutMsec timeStamp worker _).1

/-- A SYNC counts the packets it gives up on, reports their number and starts a new interval. -/
theorem processSync_counters (reset : worker.intervalPacketsTimeoutCounter = 0) :
    let synced := worker.processSync responseTimeoutMsec timeStamp
    let count := UInt64.ofNat (worker.timedOut responseTimeoutMsec timeStamp).length
    synced.totalPacketsTimeoutCounter = worker.totalPacketsTimeoutCounter + count ∧
      synced.intervalPacketsTimeoutCounter = 0 ∧
      synced.syncReports = worker.syncReports ++ [⟨synced.totalPacketsTimeoutCounter, count⟩] := by
  obtain ⟨_, interval, reports⟩ := foldl_syncEntry_counters responseTimeoutMsec timeStamp
    worker worker.packetSessionsMap.toList
  rw [List.countP_eq_length_filter, reset, UInt64.zero_add] at interval
  refine ⟨processSync_total responseTimeoutMsec timeStamp worker, rfl, ?_⟩
  show _ ++ [(⟨_, _⟩ : SyncReport)] = _
  rw [interval, reports]
  rfl

theorem processSync_resultNotifier :
    (worker.processSync responseTimeoutMsec timeStamp).resultNotifier = worker.resultNotifier :=
  (foldl_syncEntry_frame responseTimeoutMsec timeStamp worker _).1

theorem processSync_stop :
    (worker.processSync responseTimeoutMsec timeStamp).stop = worker.stop :=
  (foldl_syncEntry_frame responseTimeoutMsec timeStamp worker _).2

end

/-- Only a `SHUTDOWN` raises the flag. -/
theorem processMessage_stop {responseTimeoutMsec : SizeT} {worker after : RadiusWorker}
    {item : QueueItem} (processed : worker.processMessage responseTimeoutMsec item = .ok after) :
    after.stop = (worker.stop || decide (item.packet.ctrlMessageId = .shutdown)) := by
  have packetStop (processed : worker.processPacket item.clockMsec item.packet = .ok after) :
      after.stop = worker.stop := by
    obtain ⟨sp, _, ⟨req, _, rfl⟩ | ⟨_, rfl⟩⟩ := processPacket_cases processed
    · rfl
    · rfl
  unfold processMessage at processed
  cases kind : item.packet.ctrlMessageId with
  | shutdown =>
      rw [kind] at processed
      cases processed
      exact (Bool.or_true worker.stop).symm
  | syncTimeout =>
      rw [kind] at processed
      cases processed
      exact (processSync_stop ..).trans (Bool.or_false worker.stop).symm
  | processing =>
      rw [kind] at processed
      exact (packetStop processed).trans (Bool.or_false worker.stop).symm
  | maxControlMessageId =>
      rw [kind] at processed
      exact (packetStop processed).trans (Bool.or_false worker.stop).symm

end RadiusWorker

end TrafficInspector
