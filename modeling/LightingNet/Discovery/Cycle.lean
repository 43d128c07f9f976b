import LightingNet.Settings.Basic
import LightingNet.Snapshot
import LightingNet.Wire.Message
/-!
# Cycles

What a discovery cycle collects. The first reply of a node asks for the table of devices of each of
its outputs; the blocks that come back are filed under the node that sent them. A block is known by
the socket and bind index it comes from, else by a node at that socket or address with its universe.
-/
namespace LightingNet

structure Outgoing where
  message : Message
  target : Socket
  deriving DecidableEq, Repr

structure SenderEntry where
  socket : Socket
  bindIndex : UInt8
  node : NodeAddress
  deriving DecidableEq, Repr

/-- The node of a socket and a bind index, the first one noted. -/
def senderOf? (senders : List SenderEntry) (socket : Socket) (bindIndex : UInt8) :
    Option NodeAddress :=
  (senders.find? fun e => e.socket == socket && e.bindIndex == bindIndex).map SenderEntry.node

def noteSender (senders : List SenderEntry) (socket : Socket) (node : NodeAddress) :
    List SenderEntry :=
  match senderOf? senders socket node.bindIndex with
  | some _ => senders
  | none => senders ++ [⟨socket, node.bindIndex, node⟩]

/-- What a cycle has collected: the replies in order of arrival, who sent them, and the tables. -/
structure Cycle where
  nodes : List Node
  senders : List SenderEntry
  tables : List DeviceTable
  deriving DecidableEq, Repr

namespace Cycle

def empty : Cycle := ⟨[], [], []⟩

def tableRequests (mode : TodMode) (outputs : List PortAddress) : List Message :=
  match mode with
  | .flush => outputs.map fun p => .todControl (TodControl.flush p)
  | .request =>
    (Ranked.ofList UInt8.toNat (outputs.map PortAddress.net)).map fun net =>
      .todRequest (TodRequest.forPorts net outputs)

/-- Takes a reply, and asks for tables when it is the first of a node with outputs. -/
def onReply (s : DiscoverySettings) (c : Cycle) (reply : PollReply) (source : Socket)
    (elapsed : Nat) : Cycle × List Outgoing :=
  let node := Node.ofReply reply source elapsed
  let reached := Socket.v4 node.address.socket
  let senders := noteSender (noteSender c.senders source node.address) reached node.address
  let known := c.nodes.any fun n => n.address.same node.address
  let requests :=
    if s.rdmDiscovery && !known then
      (tableRequests s.todMode node.outputs).map fun m => ⟨m, reached⟩
    else []
  ({ c with nodes := c.nodes ++ [node], senders }, requests)

/-- Whether a node sent from a socket or is reached at it. -/
def isAt (socket : Socket) (n : Node) : Bool :=
  n.sender == socket || Socket.v4 n.address.socket == socket

def hasAddress (ip : Ipv4) (n : Node) : Bool := n.address.root == ip || n.address.socket.ip == ip

def owner? (c : Cycle) (data : TodData) (source : Socket) : Option NodeAddress :=
  let outputsIt := fun n : Node => n.outputs.contains data.universeOf
  match senderOf? c.senders source (max data.bindIndex 1) with
  | some node => some node
  | none =>
    match c.nodes.find? fun n => isAt source n && outputsIt n with
    | some n => some n.address
    | none =>
      match source.ipv4? with
      | some ip => (c.nodes.find? fun n => hasAddress ip n && outputsIt n).map Node.address
      | none => none

/-- Takes a block of a table. A refusal and a block of nobody known change nothing. -/
def onTodData (c : Cycle) (data : TodData) (source : Socket) : Cycle :=
  match c.owner? data source with
  | none => c
  | some node =>
    match data.response with
    | .nak => c
    | _ => { c with tables := fileUids ⟨node, data.universeOf⟩ data.uids c.tables }

def handle (s : DiscoverySettings) (c : Cycle) (m : Message) (source : Socket) (elapsed : Nat) :
    Cycle × List Outgoing :=
  match m with
  | .pollReply reply => c.onReply s reply source elapsed
  | .todData data => (c.onTodData data source, [])
  | _ => (c, [])

def snapshot (c : Cycle) (duration : Nat) : Snapshot := Snapshot.build c.nodes c.tables duration

end Cycle

end LightingNet
