import LightingNet.Address.Interface
import LightingNet.Settings.Basic
import LightingNet.Transport.Receivers
/-!
# Channels

A channel sends from several sockets that never block its callers. A send takes a buffer from a
fixed pool and goes straight to the socket when nothing waits there; else, or when the socket takes
nothing, it waits in the socket's queue with its buffer. Counters account for every datagram.
-/
namespace LightingNet

inductive SendOutcome where
  | wrote (count : Nat)
  | wouldBlock
  | failed
  deriving DecidableEq, Repr

/-- What a socket does with each datagram, by target and contents. -/
abbrev SocketBehaviour := Socket → Bytes → SendOutcome

structure Outbound where
  buffer : Bytes
  target : Socket
  deriving DecidableEq, Repr

structure Endpoint where
  interface : Option Interface
  receiveOnly : Bool
  queue : List Outbound
  deriving DecidableEq, Repr

/-- The counters of a channel. They count without bound: 64-bit counters show the same values until
one of them has counted 2^64 times. -/
structure ChannelStats where
  received : Nat
  malformed : Nat
  sent : Nat
  queued : Nat
  sendErrors : Nat
  poolExhausted : Nat
  deriving DecidableEq, Repr

structure Channel where
  endpoints : List Endpoint
  free : List Bytes
  poolSize : Nat
  registry : Registry
  stats : ChannelStats
  running : Bool

structure BindPlan where
  socket : Ipv4Socket
  interface : Option Interface
  receiveOnly : Bool
  deriving DecidableEq, Repr

namespace BindPlan

def wildcard (port : UInt16) : BindPlan := ⟨⟨.unspecified, port⟩, none, false⟩

/-- The two sockets of an interface: one on its address, and one on its broadcast address that only
receives. -/
def ofInterface (port : UInt16) (i : Interface) : List BindPlan :=
  [⟨⟨i.ip, port⟩, some i, false⟩, ⟨⟨i.broadcast, port⟩, some i, true⟩]

def ofSettings (s : ChannelSettings) (interfaces : List Interface) : List BindPlan :=
  match s.bindMode with
  | .wildcard => s.ports.map wildcard
  | .perInterface =>
    if interfaces.isEmpty then s.ports.map wildcard
    else s.ports.flatMap fun port => interfaces.flatMap (ofInterface port)

end BindPlan

namespace Channel

/-- Opens a channel. Sockets that cannot be bound are left out. -/
def bind (s : ChannelSettings) (interfaces : List Interface) (canBind : Ipv4Socket → Bool) :
    Except Fault Channel := do
  s.validate
  let bound := (BindPlan.ofSettings s interfaces).filter fun plan => canBind plan.socket
  return {
    endpoints := bound.map fun plan => ⟨plan.interface, plan.receiveOnly, []⟩
    free := List.replicate (max s.sendBuffers 1) []
    poolSize := max s.sendBuffers 1
    registry := .empty
    stats := ⟨0, 0, 0, 0, 0, 0⟩
    running := true }

def isEmpty (c : Channel) : Bool := c.endpoints.isEmpty

/-- The socket to send from: one on the target's network if there is one, else the first that
sends. -/
def select? (c : Channel) (target : Socket) : Option Nat :=
  match target.ipv4? with
  | none => none
  | some ip =>
    let local? := c.endpoints.findIdx? fun e =>
      !e.receiveOnly && (match e.interface with
        | some i => i.contains ip
        | none => false)
    match local? with
    | some index => some index
    | none => c.endpoints.findIdx? fun e => !e.receiveOnly

/-- Takes a buffer from the pool, or counts that there was none. -/
def acquire (c : Channel) : Option Bytes × Channel :=
  match c.free with
  | buffer :: rest => (some buffer, { c with free := rest })
  | [] => (none, { c with stats := { c.stats with poolExhausted := c.stats.poolExhausted + 1 } })

/-- Gives an emptied buffer back to the pool; one that is too many is dropped. -/
def release (c : Channel) : Channel :=
  if c.free.length < c.poolSize then { c with free := c.free ++ [[]] } else c

def queueOf (c : Channel) (index : Nat) : List Outbound :=
  match c.endpoints[index]? with
  | some e => e.queue
  | none => []

def setQueue (c : Channel) (index : Nat) (queue : List Outbound) : Channel :=
  { c with endpoints := c.endpoints.modify index fun e => { e with queue } }

def countSent (c : Channel) : Channel := { c with stats := { c.stats with sent := c.stats.sent + 1 } }

def countError (c : Channel) : Channel :=
  { c with stats := { c.stats with sendErrors := c.stats.sendErrors + 1 } }

def enqueue (c : Channel) (index : Nat) (buffer : Bytes) (target : Socket) : Channel :=
  let c := c.setQueue index (c.queueOf index ++ [⟨buffer, target⟩])
  { c with stats := { c.stats with queued := c.stats.queued + 1 } }

/-- Sends a filled buffer or lets it wait. Tells whether it was sent or waits. -/
def submit (c : Channel) (socket : SocketBehaviour) (buffer : Bytes) (target : Socket) :
    Channel × Bool :=
  match c.select? target with
  | none => (c.release, false)
  | some index =>
    if (c.queueOf index).isEmpty then
      match socket target buffer with
      | .wrote (_ + 1) => (c.countSent.release, true)
      | .failed => (c.countError.release, false)
      | .wrote 0 | .wouldBlock => (c.enqueue index buffer target, true)
    else (c.enqueue index buffer target, true)

/-- A buffer made to hold `size` bytes; new ones are zero. -/
def resize (buffer : Bytes) (size : Nat) : Bytes :=
  buffer.take size ++ List.replicate (size - buffer.length) 0

def send (c : Channel) (socket : SocketBehaviour) (m : Message) (target : Socket) :
    Channel × Bool :=
  match c.acquire with
  | (none, c) => (c, false)
  | (some buffer, c) =>
    match m.encode (resize buffer m.encodedLength) with
    | .ok (written, filled) => c.submit socket (filled.take written) target
    | .error _ => (c.release, false)

def sendRaw (c : Channel) (socket : SocketBehaviour) (contents : Bytes) (target : Socket) :
    Channel × Bool :=
  match c.acquire with
  | (none, c) => (c, false)
  | (some buffer, c) => c.submit socket (buffer ++ contents) target

/-- Sends what waits for a socket until it blocks or takes nothing. -/
def flushQueue (socket : SocketBehaviour) : List Outbound → Channel → List Outbound × Channel
  | [], c => ([], c)
  | first :: rest, c =>
    match socket first.target first.buffer with
    | .wrote (_ + 1) => flushQueue socket rest c.countSent.release
    | .failed => flushQueue socket rest c.countError.release
    | .wrote 0 | .wouldBlock => (first :: rest, c)

def flush (c : Channel) (socket : SocketBehaviour) (index : Nat) : Channel :=
  let (queue, c) := flushQueue socket (c.queueOf index) c
  c.setQueue index queue

def maxReceived : Nat := 4096

def readable (d : Datagram) : Datagram := { d with contents := d.contents.take maxReceived }

def countReceived (c : Channel) (d : Datagram) : Channel :=
  let malformed := if d.call?.isNone then 1 else 0
  { c with stats := { c.stats with
      received := c.stats.received + 1
      malformed := c.stats.malformed + malformed } }

/-- Reads a datagram and calls the receivers. A closed channel reads nothing. -/
def arrive (c : Channel) (d : Datagram) : Channel :=
  if c.running then
    let d := readable d
    let c := c.countReceived d
    { c with registry := c.registry.dispatch d }
  else c

def calls (c : Channel) (d : Datagram) : List (Nat × Call) :=
  if c.running then c.registry.calls (readable d) else []

/-- Stops reading. Sending goes on. -/
def close (c : Channel) : Channel := { c with running := false }

end Channel

end LightingNet
