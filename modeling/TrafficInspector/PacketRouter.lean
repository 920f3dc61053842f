import TrafficInspector.Dispatcher.IDispatcher

/-!
Owns `PacketRouter::route`, the flat predecessor of the dispatcher tree: one
pass over the registered processors asks their type tests until one accepts, and
a second pass dispatches the packet to the processors whose answer was `true`.
-/

namespace TrafficInspector

namespace Dispatching

variable {Class Leaf Packet World : Type} (env : Dispatching Class Leaf Packet World)

/-- The array `convResult`, under the flag `needInterrupt`. -/
def convResult : List Leaf → Option Packet → OutInfo → Bool → Except Fault (List Bool × OutInfo)
  | [], _, payload, _ => return ([], payload)
  | x :: rest, packet, payload, needInterrupt => do
      if needInterrupt then
        let (results, payload) ← convResult rest packet payload needInterrupt
        return (false :: results, payload)
      else
        let inst ← deref packet
        let (accepted, payload) ← env.isDispatchableType (env.processorPacket x) inst payload
        let (results, payload) ← convResult rest packet payload accepted
        return (accepted :: results, payload)

/-- The array expression that pushes the packet to the processors that accepted it. -/
def dispatchConverted : List (Bool × Leaf) → Option Packet → Program Leaf World (Option Packet)
  | [], packet => return packet
  | (accepted, x) :: rest, packet =>
      if accepted then do
        let (_, packet) ← env.dispatchLeaf x packet
        dispatchConverted rest packet
      else
        dispatchConverted rest packet

/-- `route`, with what it leaves in `packet`. -/
def route (currentProcessors : List Leaf) (packet : Option Packet) :
    Program Leaf World (Option Packet) := do
  let (results, _) ← env.convResult currentProcessors packet none false
  env.dispatchConverted (results.zip currentProcessors) packet

end Dispatching

end TrafficInspector
