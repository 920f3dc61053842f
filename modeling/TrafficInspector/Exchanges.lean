import TrafficInspector.Foundation.Holdings
import TrafficInspector.Packets.TypeTests
import TrafficInspector.Packets.WireFormat
import TrafficInspector.RadiusSessions

/-!
Owns what the monitor is for: the exchanges between RADIUS clients and servers, from the frames
on the wire to the notifier. A ledger is kept of the traffic itself. As long as no two requests in
flight bear one identifier and nothing is answered that is not awaited, the worker notifies what
the ledger counts as exchanged and gives up on what the ledger counts as given up.
-/

namespace TrafficInspector

open Foundation
open Foundation.TypeLengthValue

/-! ### On the wire -/

/-- A RADIUS packet as its sender writes it: to or from a port of the service, with attributes
that a length byte can announce, and in a frame that a buffer can hold. -/
structure SentPacket where
  message : RADIUSMessage
  attributes : List Attribute
  written : message.area = encode attributes
  encodable : EncodableValues attributes
  fits : 62 + (encode attributes).length ≤ maxPacketSize
  service : RADIUSPacket.isRadiusPort message.source.port = true ∨
    RADIUSPacket.isRadiusPort message.destination.port = true

/-- A packet, the pool object that it is received into, and the clocks when it is received and
when the worker takes it. -/
structure Arrival where
  sent : SentPacket
  pack : ETHPacket
  receivedMsec : SizeT
  takenMsec : SizeT

namespace Arrival

variable (arrival : Arrival)

def identifier : UInt8 := arrival.sent.message.identifier

def frame : ReceivedPacket :=
  NIC.receivePacket arrival.pack (some arrival.sent.message.bytes) arrival.receivedMsec

theorem bytes_length :
    arrival.sent.message.bytes.length = 62 + (encode arrival.sent.attributes).length := by
  rw [← arrival.sent.written]
  exact List.length_append

theorem frame_carries : arrival.frame.val.Carries arrival.sent.attributes :=
  receivePacket_carries arrival.pack arrival.sent.message arrival.sent.attributes
    arrival.receivedMsec arrival.sent.written arrival.sent.fits

/-- A header byte is in the frame as it was sent. -/
theorem frame_header {offset : Nat} (inHeaders : offset < 62) :
    arrival.frame.val.memory offset = arrival.sent.message.headers[offset] := by
  have total := arrival.bytes_length
  have fits := arrival.sent.fits
  have received := NIC.receivePacket_memory arrival.pack arrival.sent.message.bytes
    arrival.receivedMsec (by omega) offset (by omega)
  exact received.trans (List.getElem_append_left inHeaders)

/-- What the decoder makes of the frame. -/
def data : DataPacket where
  frame := arrival.frame.val
  packet := { arrival.frame.val.decoderPacket with avps := bindFirst arrival.sent.attributes ∅ }
  built := arrival.frame_carries.ofPoolItem arrival.sent.encodable.announceable
    arrival.sent.encodable.not_endsEmpty

private theorem isRadiusPort_bytes {port : UInt16}
    (service : RADIUSPacket.isRadiusPort port = true) :
    highByte port = 7 ∧ (lowByte port = 20 ∨ lowByte port = 21) := by
  rw [RADIUSPacket.isRadiusPort, Bool.or_eq_true, beq_iff_eq, beq_iff_eq] at service
  rcases service with rfl | rfl
  · decide
  · decide

/-- The type test of the RADIUS packets takes the frame. -/
theorem frame_accepted : (RADIUSPacket.isDispatchableTypeImpl arrival.frame.val).isSome := by
  rw [radius_accepts_iff, EtherTypeIP, RadiusPortAt, RadiusPortAt]
  rw [arrival.frame_header (show 12 < 62 by decide), arrival.frame_header (show 13 < 62 by decide),
    arrival.frame_header (show 23 < 62 by decide), arrival.frame_header (show 34 < 62 by decide),
    arrival.frame_header (show 34 + 1 < 62 by decide),
    arrival.frame_header (show 36 < 62 by decide),
    arrival.frame_header (show 36 + 1 < 62 by decide)]
  refine ⟨⟨⟨rfl, rfl⟩, rfl⟩, ?_⟩
  exact arrival.sent.service.imp isRadiusPort_bytes isRadiusPort_bytes

/-- The request has waited for the timeout, on a clock that has not gone back. -/
def isOverdue (responseTimeoutMsec now : SizeT) : Bool :=
  decide (arrival.receivedMsec.toNat + responseTimeoutMsec.toNat ≤ now.toNat)

end Arrival

/-! ### The ledger -/

/-- What passes the monitor: packets, and the SYNCs of its own timer. -/
inductive Observed where
  | packet (arrival : Arrival)
  | syncTimeout (realtimeMsec : SizeT)

structure Exchange where
  request : Arrival
  response : Arrival

/-- The requests that wait for an answer, the exchanges in the order of their answers, and the
requests given up on at each SYNC. -/
structure Ledger where
  inFlight : List Arrival := []
  exchanges : List Exchange := []
  givenUp : List (List Arrival) := []

def Ledger.synced (ledger : Ledger) (responseTimeoutMsec now : SizeT) : Ledger :=
  { ledger with
    inFlight := ledger.inFlight.filter fun request => !request.isOverdue responseTimeoutMsec now
    givenUp := ledger.givenUp ++
      [ledger.inFlight.filter fun request => request.isOverdue responseTimeoutMsec now] }

/-- Traffic in which clients use identifiers that are free, servers answer what is awaited, and
the clock does not go back, with the ledger it leaves. -/
inductive Keeps (responseTimeoutMsec : SizeT) : List Observed → Ledger → Prop
  | quiet : Keeps responseTimeoutMsec [] {}
  | asks {observed : List Observed} {ledger : Ledger}
      (kept : Keeps responseTimeoutMsec observed ledger) (request : Arrival)
      (unused : ∀ other ∈ ledger.inFlight, other.identifier ≠ request.identifier) :
      Keeps responseTimeoutMsec (observed ++ [.packet request])
        { ledger with inFlight := ledger.inFlight ++ [request] }
  | answers {observed : List Observed} {ledger : Ledger}
      (kept : Keeps responseTimeoutMsec observed ledger)
      {before after : List Arrival} {request : Arrival}
      (awaited : ledger.inFlight = before ++ request :: after) (response : Arrival) {code : UInt8}
      (isReply : response.sent.message =
        request.sent.message.reply code (encode response.sent.attributes)) :
      Keeps responseTimeoutMsec (observed ++ [.packet response])
        { ledger with
          inFlight := before ++ after
          exchanges := ledger.exchanges ++ [⟨request, response⟩] }
  | syncs {observed : List Observed} {ledger : Ledger}
      (kept : Keeps responseTimeoutMsec observed ledger) (now : SizeT)
      (forward : ∀ request ∈ ledger.inFlight, request.receivedMsec ≤ now) :
      Keeps responseTimeoutMsec (observed ++ [.syncTimeout now])
        (ledger.synced responseTimeoutMsec now)

/-! ### The worker keeps the ledger -/

/-- What is notified of an exchange: all attributes of both packets, the first of each type. -/
def Exchange.notification (sourceId : String) (exchange : Exchange) : NotificationData where
  timeMsec := exchange.response.takenMsec
  sourceId := sourceId
  respAvp := bindFirst exchange.response.sent.attributes ∅
  reqAvp := bindFirst exchange.request.sent.attributes ∅

/-- The entry that a request in flight has in the session map. -/
def Arrival.session (request : Arrival) : RadSessionPair × RADIUSPacket :=
  (⟨request.identifier⟩, request.data.packet)

namespace Observed

def input : Observed → WorkerInput
  | packet arrival => .data arrival.data arrival.takenMsec
  | syncTimeout realtimeMsec => .syncTimeout realtimeMsec

/-- What is put on the worker's queue: the packet that the decoder builds from the frame. -/
def item : Observed → Except Fault QueueItem
  | packet arrival => do
      let (built, _) ← RADIUSPacket.ofPoolItem (some arrival.frame.val)
      return ⟨built, arrival.takenMsec⟩
  | syncTimeout realtimeMsec =>
      return ⟨RADIUSPacket.ofControlMessageId .syncTimeout, realtimeMsec⟩

end Observed

/-- The worker's map, counters and notifications are what the ledger says. -/
structure Reflects (notifier : ResultNotifier) (worker : RadiusWorker) (ledger : Ledger) :
    Prop where
  running : worker.stop = false
  source : worker.resultNotifier.sourceId = notifier.sourceId
  queue : worker.resultNotifier.queue =
    notifier.queue ++ ledger.exchanges.map (Exchange.notification notifier.sourceId)
  sessions : worker.packetSessionsMap.toList.Perm (ledger.inFlight.map Arrival.session)
  interval : worker.intervalPacketsTimeoutCounter = 0
  reports : worker.syncReports.map SyncReport.interval =
    ledger.givenUp.map fun lost => UInt64.ofNat lost.length
  total : worker.totalPacketsTimeoutCounter = UInt64.ofNat ledger.givenUp.flatten.length

section

variable {responseTimeoutMsec : SizeT} {notifier : ResultNotifier} {worker : RadiusWorker}
  {ledger : Ledger}

theorem Reflects.held (reflects : Reflects notifier worker ledger) {request : Arrival}
    (inFlight : request ∈ ledger.inFlight) :
    worker.packetSessionsMap[(⟨request.identifier⟩ : RadSessionPair)]? =
      some request.data.packet := by
  apply Std.HashMap.mem_toList_iff_getElem?_eq_some.mp
  exact reflects.sessions.mem_iff.mpr (List.mem_map_of_mem inFlight)

theorem Reflects.free (reflects : Reflects notifier worker ledger) {identifier : UInt8}
    (unused : ∀ other ∈ ledger.inFlight, other.identifier ≠ identifier) :
    worker.packetSessionsMap[(⟨identifier⟩ : RadSessionPair)]? = none := by
  cases held : worker.packetSessionsMap[(⟨identifier⟩ : RadSessionPair)]? with
  | none => rfl
  | some packet =>
      have entry := Std.HashMap.mem_toList_iff_getElem?_eq_some.mpr held
      obtain ⟨other, inFlight, same⟩ := List.mem_map.mp (reflects.sessions.mem_iff.mp entry)
      exact absurd (congrArg (fun entry => entry.1.identifier) same) (unused other inFlight)

end

private theorem ranOn {responseTimeoutMsec : SizeT} {notifier : ResultNotifier}
    {earlier : List Observed} {reached after : RadiusWorker} {last : Observed}
    (ran : (earlier.map Observed.input).foldlM (RadiusWorker.step responseTimeoutMsec)
      (RadiusWorker.start notifier) = .ok reached)
    (stepped : reached.step responseTimeoutMsec last.input = .ok after) :
    ((earlier ++ [last]).map Observed.input).foldlM (RadiusWorker.step responseTimeoutMsec)
      (RadiusWorker.start notifier) = .ok after := by
  rw [List.map_append, List.foldlM_append, ran]
  show (RadiusWorker.step responseTimeoutMsec reached last.input >>= pure) = _
  rw [stepped]
  rfl

end TrafficInspector
