import LightingNet.Node.Merged
import LightingNet.Rdm.Target
/-!
# Snapshots

What one discovery cycle found: the nodes, the devices they make, the universes with the nodes that
put them out, and the table of devices of each output.
-/
namespace LightingNet

/-- The devices found on one output, ascending. -/
structure DeviceTable where
  output : OutputAddress
  uids : List Rdm.Uid
  deriving DecidableEq, Repr

namespace DeviceTable

def rank (t : DeviceTable) : Nat := t.output.rank

def add (uids : List Rdm.Uid) (t : DeviceTable) : DeviceTable :=
  { t with uids := uids.foldl (fun kept u => Ranked.insert Rdm.Uid.rank u kept) t.uids }

end DeviceTable

/-- Adds devices to the table of an output, which is made when there is none. -/
def fileUids (output : OutputAddress) (uids : List Rdm.Uid) (tables : List DeviceTable) :
    List DeviceTable :=
  Ranked.upsert DeviceTable.rank ⟨output, []⟩ (DeviceTable.add uids) tables

/-- A universe with the nodes that put it out. -/
structure PortOwners where
  port : PortAddress
  owners : List NodeAddress
  deriving DecidableEq, Repr

namespace PortOwners

def rank (p : PortOwners) : Nat := p.port.rank

def add (owner : NodeAddress) (p : PortOwners) : PortOwners :=
  if p.owners.any owner.same then p else { p with owners := p.owners ++ [owner] }

def file (table : List PortOwners) (port : NodePort) : List PortOwners :=
  match port.output with
  | some o => Ranked.upsert rank ⟨o.port, []⟩ (add port.node) table
  | none => table

end PortOwners

structure Snapshot where
  nodes : List Node
  merged : List MergedNode
  portOwners : List PortOwners
  tables : List DeviceTable
  /-- Milliseconds that the cycle took. -/
  duration : Nat
  deriving DecidableEq, Repr

namespace Snapshot

/-- The snapshot of some replies and tables. Of several replies of one node the first counts. -/
def build (replies : List Node) (tables : List DeviceTable) (duration : Nat) : Snapshot :=
  let nodes := Ranked.ofList Node.rank replies
  let merged := mergeNodes nodes
  ⟨nodes, merged, (merged.flatMap MergedNode.outputPorts).foldl PortOwners.file [], tables,
    duration⟩

def empty : Snapshot := build [] [] 0

def isEmpty (s : Snapshot) : Bool := s.nodes.isEmpty

def ports (s : Snapshot) : List PortAddress := s.portOwners.map PortOwners.port

def nodesForPort (s : Snapshot) (p : PortAddress) : List NodeAddress :=
  match Ranked.find? PortOwners.rank p.rank s.portOwners with
  | some found => found.owners
  | none => []

def uidsOn (s : Snapshot) (o : OutputAddress) : Option (List Rdm.Uid) :=
  (Ranked.find? DeviceTable.rank o.rank s.tables).map DeviceTable.uids

def allUids (s : Snapshot) : List Rdm.Uid :=
  Ranked.ofList Rdm.Uid.rank (s.tables.flatMap DeviceTable.uids)

def locate (s : Snapshot) (u : Rdm.Uid) : Option OutputAddress :=
  (s.tables.find? fun t => t.uids.contains u).map DeviceTable.output

def rdmTarget (s : Snapshot) (u : Rdm.Uid) : Option Rdm.Target :=
  (s.locate u).map Rdm.Target.ofOutput

def node? (s : Snapshot) (a : NodeAddress) : Option Node := Ranked.search? Node.rank a.rank s.nodes

end Snapshot

end LightingNet
