import LightingNet.Address.Socket
import LightingNet.Wire.Message
/-!
# Receivers

Receivers register with a transport and are called for its datagrams in the order in which they
registered. A datagram is decoded once; one that has the identifier and does not decode calls nobody.
A receiver keeps the calls that it wants until its queue is full.
-/
namespace LightingNet

structure Datagram where
  source : Socket
  contents : Bytes
  deriving DecidableEq, Repr

inductive Call where
  | message (message : Message) (source : Socket)
  | unsupported (opcode : OpCode) (contents : Bytes) (source : Socket)
  | raw (contents : Bytes) (source : Socket)
  deriving DecidableEq, Repr

/-- What a datagram calls receivers with. A malformed one calls nobody. -/
def Datagram.call? (d : Datagram) : Option Call :=
  match Message.decode d.contents with
  | .ok (.unsupported op contents) => some (.unsupported op contents d.source)
  | .ok m => some (.message m d.source)
  | .error .missingIdentifier => some (.raw d.contents d.source)
  | .error _ => none

def Call.isMessage : Call → Bool
  | message _ _ => true
  | _ => false

/-- A receiver: which calls it wants, how many it can hold and which it holds. -/
structure Receiver where
  wants : Call → Bool
  depth : Option Nat
  queue : List Call

namespace Receiver

def ofEverything : Receiver := ⟨fun _ => true, none, []⟩

def ofMessages : Receiver := ⟨Call.isMessage, none, []⟩

def hasRoom (r : Receiver) : Bool :=
  match r.depth with
  | some depth => r.queue.length < depth
  | none => true

def take (c : Call) (r : Receiver) : Receiver :=
  if r.wants c && r.hasRoom then { r with queue := r.queue ++ [c] } else r

end Receiver

structure Registration where
  id : Nat
  receiver : Receiver

/-- The receivers of a transport, in the order of registration. Identifiers count without bound: a
64-bit counter gives the same ones for the first 2^64 registrations. -/
structure Registry where
  nextId : Nat
  entries : List Registration

namespace Registry

def empty : Registry := ⟨1, []⟩

def add (r : Registry) (receiver : Receiver) : Registry × Nat :=
  (⟨r.nextId + 1, r.entries ++ [⟨r.nextId, receiver⟩]⟩, r.nextId)

/-- Removes the receiver of an identifier. Tells whether there was one. -/
def remove (r : Registry) (id : Nat) : Registry × Bool :=
  let kept := r.entries.filter fun e => e.id != id
  ({ r with entries := kept }, kept.length != r.entries.length)

def ids (r : Registry) : List Nat := r.entries.map Registration.id

def receiver? (r : Registry) (id : Nat) : Option Receiver :=
  (r.entries.find? fun e => e.id == id).map Registration.receiver

def modify (r : Registry) (id : Nat) (change : Receiver → Receiver) : Registry :=
  { r with entries := r.entries.map fun e =>
      if e.id = id then { e with receiver := change e.receiver } else e }

def calls (r : Registry) (d : Datagram) : List (Nat × Call) :=
  match d.call? with
  | some c => r.entries.map fun e => (e.id, c)
  | none => []

def dispatch (r : Registry) (d : Datagram) : Registry :=
  match d.call? with
  | some c => { r with entries := r.entries.map fun e => { e with receiver := e.receiver.take c } }
  | none => r

end Registry

end LightingNet
