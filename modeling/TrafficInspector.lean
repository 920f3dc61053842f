import TrafficInspector.Dispatcher.RouterRefinement
import TrafficInspector.Main
import TrafficInspector.Dispatcher.ExactlyOnce
import TrafficInspector.WorkerPlacement
import TrafficInspector.RadiusPairing
import TrafficInspector.Safety.HostileFrames
import TrafficInspector.Safety.StaleBytes
import TrafficInspector.PacketAccounting
import TrafficInspector.ResponseTimeout
import TrafficInspector.WorkerCount
import TrafficInspector.Dispatcher.Broadcast
import TrafficInspector.IPHeaderLength
import TrafficInspector.Packets.DecodeSoundness
import TrafficInspector.Packets.PositionIndependence
import TrafficInspector.Packets.DecoderAgreement
import TrafficInspector.Threads.BufferConservation
import TrafficInspector.Threads.ShutdownDrain
import TrafficInspector.SyncExpiry
import TrafficInspector.PacketLayers
import TrafficInspector.SyncThread
import TrafficInspector.PacketMoves
import TrafficInspector.Utils.PoolDestruction
import TrafficInspector.Safety.LoopProgress
import TrafficInspector.Utils.QueueLinearization
import TrafficInspector.Utils.QueueProgress
import TrafficInspector.Threads.ProcessorDestruction
import TrafficInspector.Threads.Inspector
import TrafficInspector.Threads.WorkersAtRest
import TrafficInspector.Threads.PoolStarvation
import TrafficInspector.Threads.SystemAccounting
import TrafficInspector.Threads.Application
import TrafficInspector.Texts.NotificationText
import TrafficInspector.Texts.DispatcherText
import TrafficInspector.Packets.BufferOwnership
import TrafficInspector.Exchanges
