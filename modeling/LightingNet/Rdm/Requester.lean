import LightingNet.Rdm.Target
import LightingNet.Settings.Basic
import LightingNet.Transport.Bus
/-!
# Requesters

A requester sends one request at a time and waits for its answer. While it waits, a receiver collects
the answers to this request and nothing else, at most four; the first of them counts. Requests are
numbered from zero, modulo 256, whether they are answered or not.
-/
namespace LightingNet.Rdm

structure Requester where
  settings : RequesterSettings
  nextTransaction : UInt8
  deriving DecidableEq, Repr

/-- What is asked of a device: a parameter's value, or to set it. -/
structure Question where
  target : Target
  uid : Uid
  isSet : Bool
  parameter : UInt16
  data : Bytes
  deriving DecidableEq, Repr

/-- Asks questions; `none` stands for no answer. -/
abbrev Asker (σ : Type) := Question → StateM σ (Option Packet)

structure Line (σ : Type) where
  requester : Requester
  bus : Bus σ

namespace Requester

def ofSettings (s : RequesterSettings) : Requester := ⟨s, 0⟩

def request (r : Requester) (q : Question) : Packet :=
  Packet.request q.uid r.settings.sourceUid r.nextTransaction (if q.isSet then .set else .get)
    q.parameter q.data

/-- The most answers that are kept while a request waits. -/
def replyDepth : Nat := 4

def packetOf? : Call → Option Packet
  | .message (.rdm e) _ => some e.packet
  | _ => none

/-- A receiver of the answers to a request. -/
def collector (request : Packet) : Receiver where
  wants c := match packetOf? c with
    | some candidate => candidate.answers request
    | none => false
  depth := some replyDepth
  queue := []

def destination (r : Requester) (q : Question) : Socket :=
  match q.target.address with
  | some socket => socket
  | none => r.settings.broadcast

end Requester

namespace Line

def ask {σ : Type} : Asker (Line σ) := fun q line =>
  let request := line.requester.request q
  let requester := { line.requester with nextTransaction := line.requester.nextTransaction + 1 }
  let (bus, id) := line.bus.add (Requester.collector request)
  let envelope := Message.rdm (Envelope.ofPort q.target.port request)
  match bus.send envelope (line.requester.destination q) with
  | (bus, false) => (none, ⟨requester, bus.remove id⟩)
  | (bus, true) =>
    let answer := (bus.held id).head?.bind Requester.packetOf?
    (answer, ⟨requester, bus.remove id⟩)

end Line

end LightingNet.Rdm
