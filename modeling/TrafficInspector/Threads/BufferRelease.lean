import TrafficInspector.RadiusWorker
import TrafficInspector.Utils.CommonObjectPool

/-!
Owns what a worker's loop does to the pool while it changes the session map: which packets
an iteration destroys, and in which order. The objects a worker gives back, those in its
map and the one it has taken from its queue are always the same together.
-/

namespace TrafficInspector

open Foundation

namespace RadiusWorker

/-- The body of the SYNC's loop: `erase` destroys the packet of the entry. -/
def syncEntryPool (responseTimeoutMsec timeStamp : SizeT) (pool : ObjectPool)
    (entry : RadSessionPair × RADIUSPacket) : ObjectPool :=
  if isTimedOut responseTimeoutMsec timeStamp entry.2 then entry.2.destroy pool else pool

def processSyncPool (responseTimeoutMsec timeStamp : SizeT) (worker : RadiusWorker)
    (pool : ObjectPool) : ObjectPool :=
  worker.packetSessionsMap.toList.foldl (syncEntryPool responseTimeoutMsec timeStamp) pool

/-- The branch of any other packet. On a match, `erase` destroys the packet found and the
end of the iteration the one taken; otherwise the map has taken it over. -/
def processPacketPool (packet : RADIUSPacket) (worker : RadiusWorker) (pool : ObjectPool) :
    Except Fault ObjectPool := do
  let sp ← packet.getPacketSessionPair
  match worker.findSession sp with
  | some it => return packet.destroy (it.2.destroy pool)
  | none => return pool

/-- The loop's body behind `getObject`, up to the end of the iteration. -/
def processMessagePool (responseTimeoutMsec : SizeT) (worker : RadiusWorker) (item : QueueItem)
    (pool : ObjectPool) : Except Fault ObjectPool :=
  match item.packet.ctrlMessageId with
  | .shutdown => .ok (item.packet.destroy pool)
  | .syncTimeout =>
      .ok (item.packet.destroy (worker.processSyncPool responseTimeoutMsec item.clockMsec pool))
  | .processing | .maxControlMessageId => worker.processPacketPool item.packet pool

/-- The end of the thread's function destroys the map. -/
def exitPool (worker : RadiusWorker) (pool : ObjectPool) : ObjectPool :=
  worker.packetSessionsMap.toList.foldl (fun pool entry => entry.2.destroy pool) pool

theorem processPacket_returns (worker : RadiusWorker) {packet : RADIUSPacket}
    {sp : RadSessionPair} (own : packet.getPacketSessionPair = .ok sp) (timeMsec : SizeT)
    (pool : ObjectPool) :
    ∃ after released, worker.processPacket timeMsec packet = .ok after ∧
      worker.processPacketPool packet pool = .ok released := by
  unfold processPacketPool
  simp only [own, findSession_eq, bind, Except.bind]
  cases held : worker.packetSessionsMap[sp]? with
  | some req => exact ⟨_, _, processPacket_joins own held timeMsec, rfl⟩
  | none => exact ⟨_, _, processPacket_keeps own held timeMsec, rfl⟩

/-! ### Where the objects go -/

/-- The objects in the session map. -/
def objects (worker : RadiusWorker) : Multiset Nat :=
  mapHolds RADIUSPacket.objects worker.packetSessionsMap

private theorem foldl_destroy_objects (entries : List (RadSessionPair × RADIUSPacket))
    (pool : ObjectPool) :
    (entries.foldl (fun pool entry => entry.2.destroy pool) pool).objects =
      pool.objects + listHolds (fun entry => entry.2.objects) entries := by
  induction entries generalizing pool with
  | nil => exact (add_zero _).symm
  | cons entry rest inductionHypothesis =>
      rw [List.foldl_cons, inductionHypothesis, RADIUSPacket.objects_destroy, listHolds_cons,
        add_assoc]

private theorem foldl_syncEntryPool_objects (responseTimeoutMsec timeStamp : SizeT)
    (entries : List (RadSessionPair × RADIUSPacket)) (pool : ObjectPool) :
    (entries.foldl (syncEntryPool responseTimeoutMsec timeStamp) pool).objects =
      pool.objects + listHolds (fun entry => entry.2.objects)
        (entries.filter fun entry => isTimedOut responseTimeoutMsec timeStamp entry.2) := by
  induction entries generalizing pool with
  | nil => exact (add_zero _).symm
  | cons entry rest inductionHypothesis =>
      rw [List.foldl_cons, inductionHypothesis, List.filter_cons, syncEntryPool]
      split
      · rw [RADIUSPacket.objects_destroy, listHolds_cons, add_assoc]
      · rfl

variable {responseTimeoutMsec : SizeT} {worker after : RadiusWorker}

theorem exitPool_objects (worker : RadiusWorker) (pool : ObjectPool) :
    (worker.exitPool pool).objects = pool.objects + worker.objects :=
  foldl_destroy_objects _ pool

private theorem processSync_objects (responseTimeoutMsec timeStamp : SizeT)
    (worker : RadiusWorker) (pool : ObjectPool) :
    (worker.processSyncPool responseTimeoutMsec timeStamp pool).objects +
        (worker.processSync responseTimeoutMsec timeStamp).objects =
      pool.objects + worker.objects := by
  have swept : (worker.processSync responseTimeoutMsec timeStamp).objects =
      mapHolds RADIUSPacket.objects (worker.packetSessionsMap.toList.foldl
        (eraseIf (isTimedOut responseTimeoutMsec timeStamp)) worker.packetSessionsMap) := by
    apply mapHolds_congr
    intro sp
    rw [processSync_getElem?, sweep_getElem?]
  have before := mapHolds_sweep RADIUSPacket.objects (isTimedOut responseTimeoutMsec timeStamp)
    worker.packetSessionsMap
  rw [processSyncPool, foldl_syncEntryPool_objects, swept, objects, before, add_assoc]
  exact congrArg _ (add_comm _ _)

private theorem processPacket_objects {timeMsec : SizeT} {packet : RADIUSPacket}
    {pool released : ObjectPool} (processed : worker.processPacket timeMsec packet = .ok after)
    (destroys : worker.processPacketPool packet pool = .ok released) :
    released.objects + after.objects = pool.objects + worker.objects + packet.objects := by
  obtain ⟨sp, own, ⟨req, held, rfl⟩ | ⟨free, rfl⟩⟩ := processPacket_cases processed
  · unfold processPacketPool at destroys
    simp only [own, findSession_eq, held, Option.map_some, bind, Except.bind] at destroys
    cases destroys
    rw [RADIUSPacket.objects_destroy, RADIUSPacket.objects_destroy, objects, objects,
      mapHolds_erase RADIUSPacket.objects held]
    abel
  · unfold processPacketPool at destroys
    simp only [own, findSession_eq, free, Option.map_none, bind, Except.bind] at destroys
    cases destroys
    rw [objects, objects, mapHolds_insertIfNew RADIUSPacket.objects free]
    abel

/-- An iteration loses no object and makes none. -/
theorem processMessage_objects {item : QueueItem} {pool released : ObjectPool}
    (processed : worker.processMessage responseTimeoutMsec item = .ok after)
    (destroys : worker.processMessagePool responseTimeoutMsec item pool = .ok released) :
    released.objects + after.objects =
      pool.objects + worker.objects + item.packet.objects := by
  unfold processMessage at processed
  unfold processMessagePool at destroys
  cases kind : item.packet.ctrlMessageId with
  | shutdown =>
      rw [kind] at processed destroys
      cases processed
      cases destroys
      rw [RADIUSPacket.objects_destroy, objects, objects]
      abel
  | syncTimeout =>
      rw [kind] at processed destroys
      cases processed
      cases destroys
      rw [RADIUSPacket.objects_destroy, ← processSync_objects responseTimeoutMsec item.clockMsec]
      abel
  | processing =>
      rw [kind] at processed destroys
      exact processPacket_objects processed destroys
  | maxControlMessageId =>
      rw [kind] at processed destroys
      exact processPacket_objects processed destroys

end RadiusWorker

end TrafficInspector
