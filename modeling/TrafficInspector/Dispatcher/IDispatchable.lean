import TrafficInspector.Dispatcher.IDispatcher
import TrafficInspector.Packets.TypeTests

/-!
Owns the call chain behind `isDispatchableType`. The call goes from
`IDispatchable` to `BasePacket`, and from there to the name
`isDispatchableTypeImpl` looked up in the concrete class: the class's own
function if it declares one, and otherwise the inherited one, which is
`BasePacket`'s again. Each call takes a stack frame.
-/

namespace TrafficInspector

inductive PacketClass where
  | eth
  | ip
  | udp
  | tcp
  | radius
deriving DecidableEq, Repr

/-- The `isDispatchableTypeImpl` functions that a packet class declares itself. -/
inductive OwnTest where
  | ip
  | udp
  | tcp
  | radius
deriving DecidableEq, Repr

def PacketClass.ownTest : PacketClass → Option OwnTest
  | eth => none
  | ip => some .ip
  | udp => some .udp
  | tcp => some .tcp
  | radius => some .radius

/-- The functions on the chain. -/
inductive TypeTest where
  /-- `IDispatchable<BasePacket<..., packetClass>>::isDispatchableType`. -/
  | isDispatchableType (packetClass : PacketClass)
  /-- `BasePacket<..., packetClass>::isDispatchableTypeImpl`. -/
  | basePacketImpl (packetClass : PacketClass)
  /-- An `isDispatchableTypeImpl` of a class's own. -/
  | own (test : OwnTest)
deriving DecidableEq, Repr

/-- What `ConcretePacket::isDispatchableTypeImpl` names. -/
def PacketClass.concreteImpl (packetClass : PacketClass) : TypeTest :=
  match packetClass.ownTest with
  | some test => .own test
  | none => .basePacketImpl packetClass

/-- Run a function of the chain on a stack with room for `depth` frames. -/
def TypeTest.invoke : Nat → TypeTest → ETHPacket → Except Fault (Option Pointer)
  | 0, _, _ => .error .stackExhausted
  | depth + 1, .isDispatchableType packetClass, src =>
      invoke depth (.basePacketImpl packetClass) src
  | depth + 1, .basePacketImpl packetClass, src => invoke depth packetClass.concreteImpl src
  | _ + 1, .own .ip, src => .ok (IPPacket.isDispatchableTypeImpl src)
  | depth + 1, .own .udp, src => do
      let ipAnswer ← invoke depth (.own .ip) src
      return UDPPacket.testOn src ipAnswer
  -- `TCPPacket` asks `IPPacket::isDispatchableType`, not the `Impl`.
  | depth + 1, .own .tcp, src => do
      let ipAnswer ← invoke depth (.isDispatchableType .ip) src
      return TCPPacket.testOn src ipAnswer
  | depth + 1, .own .radius, src => do
      let udpAnswer ← invoke depth (.own .udp) src
      return RADIUSPacket.testOn src udpAnswer

/-- `packetClass::isDispatchableType(src, outInfo)`: an accepting test stores
through `outInfo`. -/
def PacketClass.isDispatchableType (depth : Nat) (packetClass : PacketClass) (src : ETHPacket)
    (outInfo : OutInfo) : Except Fault (Bool × OutInfo) := do
  match ← TypeTest.invoke depth (.isDispatchableType packetClass) src with
  | some stored => return (true, some stored)
  | none => return (false, outInfo)

/-! ### Where the chain ends -/

/-- `ETHPacket`'s chain comes back to `BasePacket` until the stack is used up. -/
theorem basePacketImpl_eth (depth : Nat) (src : ETHPacket) :
    TypeTest.invoke depth (.basePacketImpl .eth) src = .error .stackExhausted := by
  induction depth with
  | zero => rfl
  | succ depth inductionHypothesis => exact inductionHypothesis

theorem isDispatchableType_eth (depth : Nat) (src : ETHPacket) (outInfo : OutInfo) :
    PacketClass.eth.isDispatchableType depth src outInfo = .error .stackExhausted := by
  unfold PacketClass.isDispatchableType
  cases depth with
  | zero => rfl
  | succ depth =>
      show (TypeTest.invoke depth (.basePacketImpl .eth) src >>= _) = _
      rw [basePacketImpl_eth]
      rfl

def OwnTest.answer (src : ETHPacket) : OwnTest → Option Pointer
  | ip => IPPacket.isDispatchableTypeImpl src
  | udp => UDPPacket.isDispatchableTypeImpl src
  | tcp => TCPPacket.isDispatchableTypeImpl src
  | radius => RADIUSPacket.isDispatchableTypeImpl src

theorem invoke_own (depth : Nat) (test : OwnTest) (src : ETHPacket) :
    TypeTest.invoke (depth + 4) (.own test) src = .ok (test.answer src) := by
  cases test <;> rfl

theorem isDispatchableType_own (depth : Nat) {packetClass : PacketClass} {test : OwnTest}
    (declared : packetClass.ownTest = some test) (src : ETHPacket) (outInfo : OutInfo) :
    packetClass.isDispatchableType (depth + 6) src outInfo =
      .ok ((test.answer src).isSome, (test.answer src).or outInfo) := by
  have resolved : packetClass.concreteImpl = .own test := by
    rw [PacketClass.concreteImpl, declared]
  unfold PacketClass.isDispatchableType
  show (TypeTest.invoke (depth + 4) packetClass.concreteImpl src >>= _) = _
  rw [resolved, invoke_own]
  cases test.answer src <;> rfl

end TrafficInspector
