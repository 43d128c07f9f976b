import LightingNet.Transport.Channel
/-!
# Listeners

A listener has one socket that blocks its callers, and no queue. A send succeeds when the socket
takes all of the datagram.
-/
namespace LightingNet

structure Listener where
  registry : Registry
  running : Bool

namespace Listener

def bind (taken : Bool) : Except Fault Listener :=
  if taken then .error .socketTaken else .ok ⟨.empty, true⟩

/-- Sends bytes as they are. Tells whether all of them were taken. -/
def sendRaw (_ : Listener) (socket : SocketBehaviour) (contents : Bytes) (target : Socket) : Bool :=
  match socket target contents with
  | .wrote count => count == contents.length
  | _ => false

def send (l : Listener) (socket : SocketBehaviour) (m : Message) (target : Socket) : Bool :=
  l.sendRaw socket m.toBytes target

/-- Reads a datagram and calls the receivers. A closed listener reads nothing. -/
def arrive (l : Listener) (d : Datagram) : Listener :=
  if l.running then { l with registry := l.registry.dispatch (Channel.readable d) } else l

def calls (l : Listener) (d : Datagram) : List (Nat × Call) :=
  if l.running then l.registry.calls (Channel.readable d) else []

def close (l : Listener) : Listener := { l with running := false }

end Listener

end LightingNet
