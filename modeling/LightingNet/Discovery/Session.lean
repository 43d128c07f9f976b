import LightingNet.Discovery.Orchestrator
import LightingNet.Transport.Bus
import LightingNet.Transport.Channel
/-!
# Discovery sessions

Discovery over a bus. For the time of a cycle a receiver queues the replies and blocks that the bus
delivers, at most 1024; the orchestrator takes them in order until its deadline, here a number of
messages, and what it sends may bring in more.
-/
namespace LightingNet

def DiscoverySettings.pollTargets (s : DiscoverySettings) (interfaces : List Interface) :
    List Socket :=
  if s.targets.isEmpty then broadcastTargets interfaces s.port else s.targets

/-- The network of a host on which nobody answers: each datagram is remembered, with whether the
socket took it. -/
def silentNetwork (socket : SocketBehaviour) : Network (List Sent) := fun log target contents =>
  match socket target contents with
  | .failed => (log ++ [⟨target, contents, false⟩], none)
  | .wrote _ | .wouldBlock => (log ++ [⟨target, contents, true⟩], some [])

structure Session (σ : Type) where
  settings : DiscoverySettings
  targets : List Socket
  orchestrator : Orchestrator
  bus : Bus σ

namespace Session

/-- Discovery over a bus that stays open between the cycles. -/
def overBus {σ : Type} (s : DiscoverySettings) (interfaces : List Interface) (bus : Bus σ) :
    Except Fault (Session σ) := do
  s.validate
  return ⟨s, s.pollTargets interfaces, .fresh, bus⟩

/-- Discovery that opens a channel of its own for each cycle. -/
def overChannel {σ : Type} (s : DiscoverySettings) (channel : ChannelSettings)
    (interfaces : List Interface) (bus : Bus σ) : Except Fault (Session σ) := do
  channel.validate
  overBus s interfaces bus

/-- The fault of opening a channel for a cycle. One without sockets is of no use. -/
def channelFault (channel : ChannelSettings) (interfaces : List Interface)
    (canBind : Ipv4Socket → Bool) : Option Fault :=
  match Channel.bind channel interfaces canBind with
  | .ok c => if c.isEmpty then some .noSockets else none
  | .error e => some e

def queueDepth : Nat := 1024

def wants : Call → Bool
  | .message (.pollReply _) _ => true
  | .message (.todData _) _ => true
  | _ => false

def forwarder : Receiver := ⟨wants, some queueDepth, []⟩

def transmit {σ : Type} (bus : Bus σ) (out : List Outgoing) : Bus σ :=
  out.foldl (fun bus o => (bus.send o.message o.target).1) bus

def advance {σ : Type} (d : Session σ) (e : DiscoveryEvent) : Session σ :=
  let (orchestrator, out) := d.orchestrator.step d.settings d.targets e
  { d with orchestrator, bus := transmit d.bus out }

/-- Takes the calls that the receiver of a cycle holds, at most `budget` of them. -/
def collect {σ : Type} (id : Nat) : Nat → Session σ → Session σ
  | 0, d => d
  | budget + 1, d =>
    match d.bus.held id with
    | [] => d
    | call :: _ =>
      let d := { d with bus := d.bus.dropOldest id }
      match call with
      | .message m source => collect id budget (d.advance (.inbound m source 0))
      | _ => collect id budget d

def runCycle {σ : Type} (d : Session σ) (budget : Nat) : Session σ :=
  let (bus, id) := d.bus.add forwarder
  let d := advance { d with bus } (.refresh none)
  let d := advance (collect id budget d) (.deadline 0)
  { d with bus := d.bus.remove id }

/-- Runs a cycle and gives its result. Without a transport the cycle fails at once. -/
def refresh {σ : Type} (d : Session σ) (fault : Option Fault) (budget : Nat) :
    Except Fault Snapshot × Session σ :=
  if d.orchestrator.running then
    let d := match fault with
      | none => d.runCycle budget
      | some e => d.advance (.refresh (some e))
    let (result, orchestrator) := d.orchestrator.result
    (result, { d with orchestrator })
  else (.error .shutDown, d)

def shutDown {σ : Type} (d : Session σ) : Session σ := d.advance .shutdown

def deliver {σ : Type} (d : Session σ) (datagram : Datagram) : Session σ :=
  { d with bus := d.bus.deliver datagram }

end Session

end LightingNet
