import TrafficInspector.Packets.RADIUSPacket
import TrafficInspector.Utils.ObjectQueue

/-!
Owns `ResultNotifier` as the workers see it: a queue of the attributes of joined
packets. Making a notification takes the attributes out of both packets.
-/

namespace TrafficInspector

structure NotificationData where
  timeMsec : SizeT
  sourceId : String
  respAvp : AVPStorage
  reqAvp : AVPStorage

/-- `NotificationData(source, resp, req)` when `CLOCK_MONOTONIC` reads `timeMsec`, and what
the swaps leave in `resp` and `req`. -/
def NotificationData.create (timeMsec : SizeT) (source : String) (resp req : AVPStorage) :
    NotificationData × AVPStorage × AVPStorage :=
  ({ timeMsec, sourceId := source, respAvp := resp, reqAvp := req }, ∅, ∅)

structure ResultNotifier where
  queue : ObjectQueue NotificationData
  sourceId : String

/-- `provideDataForNotifier(resp, req)`, with what it leaves of the two packets. -/
def ResultNotifier.provideDataForNotifier (notifier : ResultNotifier) (timeMsec : SizeT)
    (resp req : RADIUSPacket) : ResultNotifier × RADIUSPacket × RADIUSPacket :=
  let (data, respAvps, reqAvps) :=
    NotificationData.create timeMsec notifier.sourceId resp.avps req.avps
  ({ notifier with queue := ObjectQueue.putObject notifier.queue data },
    { resp with avps := respAvps }, { req with avps := reqAvps })

end TrafficInspector
