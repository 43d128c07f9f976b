import LightingNet.Address.Interface
import LightingNet.Discovery.Cycle
/-!
# Orchestrators

An orchestrator runs one discovery cycle at a time and keeps the last snapshot. Outside a cycle only
a refresh or a shutdown matters; a running cycle takes messages until its deadline and then publishes,
also when a shutdown came meanwhile.
-/
namespace LightingNet

inductive Phase where
  | idle
  | polling
  | collectingTod
  | done
  deriving DecidableEq, Repr

def Phase.name : Phase → String
  | idle => "Idle"
  | polling => "Polling"
  | collectingTod => "CollectingTod"
  | done => "Done"

inductive DiscoveryEvent where
  /-- A refresh, with the fault of opening the transport if there is one. -/
  | refresh (fault : Option Fault)
  | inbound (message : Message) (source : Socket) (elapsed : Nat)
  | deadline (elapsed : Nat)
  | shutdown
  deriving DecidableEq, Repr

/-- An orchestrator: what it has published, and the cycle that is running. -/
structure Orchestrator where
  phase : Phase
  /-- The number of cycles that are over. It counts without bound, as a 64-bit counter does for the
  first 2^64 cycles. -/
  generation : Nat
  snapshot : Snapshot
  /-- The fault of the last cycle, until it is taken. -/
  fault : Option Fault
  running : Bool
  stopping : Bool
  cycle : Option Cycle
  deriving DecidableEq, Repr

namespace Orchestrator

def fresh : Orchestrator := ⟨.idle, 0, .empty, none, true, false, none⟩

def polls (s : DiscoverySettings) (targets : List Socket) : List Outgoing :=
  targets.map fun target => ⟨.poll (Poll.untargeted s.pollFlags), target⟩

def publish (o : Orchestrator) : Except Fault Snapshot → Orchestrator
  | .ok snapshot =>
    { o with snapshot, fault := none, phase := .done, generation := o.generation + 1, cycle := none }
  | .error e =>
    { o with fault := some e, phase := .done, generation := o.generation + 1, cycle := none }

def stepIdle (s : DiscoverySettings) (targets : List Socket) (o : Orchestrator) :
    DiscoveryEvent → Orchestrator × List Outgoing
  | .refresh none => ({ o with phase := .polling, cycle := some .empty }, polls s targets)
  | .refresh (some e) => (o.publish (.error e), [])
  | .shutdown => ({ o with running := false }, [])
  | .inbound _ _ _ | .deadline _ => (o, [])

def stepCycle (s : DiscoverySettings) (o : Orchestrator) (c : Cycle) :
    DiscoveryEvent → Orchestrator × List Outgoing
  | .inbound m source elapsed =>
    let (c, requests) := c.handle s m source elapsed
    let phase := if requests.isEmpty then o.phase else .collectingTod
    ({ o with phase, cycle := some c }, requests)
  | .deadline elapsed =>
    ({ o.publish (.ok (c.snapshot elapsed)) with running := !o.stopping }, [])
  | .shutdown => ({ o with stopping := true }, [])
  | .refresh _ => (o, [])

def step (s : DiscoverySettings) (targets : List Socket) (o : Orchestrator)
    (e : DiscoveryEvent) : Orchestrator × List Outgoing :=
  if o.running then
    match o.cycle with
    | none => o.stepIdle s targets e
    | some c => o.stepCycle s c e
  else (o, [])

/-- The result of the last cycle. A fault is told once. -/
def result (o : Orchestrator) : Except Fault Snapshot × Orchestrator :=
  match o.fault with
  | some e => (.error e, { o with fault := none })
  | none => (.ok o.snapshot, o)

end Orchestrator

end LightingNet
