import LightingNet.Address.Socket
import LightingNet.Fault
import LightingNet.Wire.PollReply
/-!
# Settings

Settings of the channel, of discovery and of the requester, with their usual values and the checks
they must pass. Times are in milliseconds.
-/
namespace LightingNet

inductive BindMode where
  | wildcard
  | perInterface
  deriving DecidableEq, Repr

inductive TodMode where
  | flush
  | request
  deriving DecidableEq, Repr

structure ChannelSettings where
  ports : List UInt16
  bindMode : BindMode
  sendBuffers : Nat
  bufferSize : Nat
  selectTimeout : Nat
  deriving DecidableEq, Repr

namespace ChannelSettings

def usual : ChannelSettings := ⟨[6454], .wildcard, 32, 1500, 100⟩

/-- Checks that there is a port to listen on and a buffer to send from. -/
def validate (s : ChannelSettings) : Except Fault Unit :=
  if s.ports.isEmpty then .error (.setting .noPorts)
  else if s.sendBuffers = 0 then .error (.setting .emptyPool)
  else .ok ()

end ChannelSettings

structure DiscoverySettings where
  /-- Where to poll. Without any, every interface is polled. -/
  targets : List Socket
  port : UInt16
  pollReplyWait : Nat
  todDataWait : Nat
  rdmDiscovery : Bool
  todMode : TodMode
  tick : Nat
  pollFlags : UInt8
  deriving DecidableEq, Repr

namespace DiscoverySettings

def usual : DiscoverySettings := ⟨[], 6454, 3000, 4000, true, .flush, 50, 0⟩

/-- The longest that a cycle takes unless the wait for tables is extended. -/
def cycleBudget (s : DiscoverySettings) : Nat :=
  if s.rdmDiscovery then s.pollReplyWait + s.todDataWait else s.pollReplyWait

def validate (s : DiscoverySettings) : Except Fault Unit :=
  if s.tick = 0 then .error (.setting .zeroTick) else .ok ()

end DiscoverySettings

structure RequesterSettings where
  sourceUid : Rdm.Uid
  timeout : Nat
  /-- Where requests go that have no address of their own. -/
  broadcast : Socket
  deriving DecidableEq, Repr

namespace RequesterSettings

def usual : RequesterSettings := ⟨⟨0x7ff0, 1⟩, 4000, .v4 ⟨.broadcast, 6454⟩⟩

end RequesterSettings

end LightingNet
