import LightingNet.Transport.Receivers
/-!
# Buses

A bus is a transport over a network that is described by what it does with each datagram: refuse
it, or take it and deliver some others before the send returns. The network may remember anything.
-/
namespace LightingNet

/-- What a network in some state does with a datagram for a socket: its next state and, unless it
refuses, the datagrams it delivers. -/
abbrev Network (σ : Type) := σ → Socket → Bytes → σ × Option (List Datagram)

structure Bus (σ : Type) where
  network : Network σ
  state : σ
  registry : Registry

namespace Bus

def ofNetwork {σ : Type} (network : Network σ) (state : σ) : Bus σ := ⟨network, state, .empty⟩

def deliver {σ : Type} (bus : Bus σ) (d : Datagram) : Bus σ :=
  { bus with registry := bus.registry.dispatch d }

/-- Sends a message. Tells whether the network took it. -/
def send {σ : Type} (bus : Bus σ) (m : Message) (target : Socket) : Bus σ × Bool :=
  match bus.network bus.state target m.toBytes with
  | (state, none) => ({ bus with state }, false)
  | (state, some delivered) => (delivered.foldl deliver { bus with state }, true)

def add {σ : Type} (bus : Bus σ) (receiver : Receiver) : Bus σ × Nat :=
  let (registry, id) := bus.registry.add receiver
  ({ bus with registry }, id)

def remove {σ : Type} (bus : Bus σ) (id : Nat) : Bus σ :=
  { bus with registry := (bus.registry.remove id).1 }

def held {σ : Type} (bus : Bus σ) (id : Nat) : List Call :=
  match bus.registry.receiver? id with
  | some r => r.queue
  | none => []

def dropOldest {σ : Type} (bus : Bus σ) (id : Nat) : Bus σ :=
  { bus with registry := bus.registry.modify id fun r => { r with queue := r.queue.drop 1 } }

end Bus

structure Sent where
  target : Socket
  contents : Bytes
  taken : Bool
  deriving DecidableEq, Repr

/-- A network that follows a script: the sends in `refused` fail and the others are answered with
the datagrams listed for them. The sends are counted from zero. -/
structure Script where
  refused : List Nat
  replies : List (List Datagram)

/-- The network of a script. Its state is the list of what was sent, the oldest first. -/
def Script.network (s : Script) : Network (List Sent) := fun log target contents =>
  if s.refused.contains log.length then (log ++ [⟨target, contents, false⟩], none)
  else (log ++ [⟨target, contents, true⟩], some (s.replies[log.length]?.getD []))

end LightingNet
