import LightingNet.Node.Basic
import LightingNet.Ranked
/-!
# Merged nodes

All replies from one socket make one device. Its members stand by address, its ports by number; of
several replies of one node, and of several ports of one number, the first one counts.
-/
namespace LightingNet

/-- A device: the nodes reached at one socket. -/
structure MergedNode where
  socket : Ipv4Socket
  nodes : List Node
  ports : List NodePort
  deriving DecidableEq, Repr

namespace MergedNode

def ofMembers (socket : Ipv4Socket) (members : List Node) : MergedNode :=
  ⟨socket, members, Ranked.ofList NodePort.number (members.flatMap Node.ports)⟩

/-- The first member, which names the device. -/
def primary? (m : MergedNode) : Option Node := m.nodes.head?

def named {α : Type} (m : MergedNode) (property : PollReply → α) : α :=
  property ((m.primary?.map Node.reply).getD .blank)

def rdmCapable (m : MergedNode) : Bool := m.nodes.any fun n => n.reply.rdmCapable

def outputPorts (m : MergedNode) : List NodePort := m.ports.filter fun p => p.output.isSome

def text (m : MergedNode) : String :=
  m.named PollReply.shortName ++ " at " ++ m.socket.text ++ " ("
    ++ Numeral.decimal m.ports.length ++ " ports)"

end MergedNode

structure Group where
  socket : Ipv4Socket
  members : List Node

/-- Puts a node into the group of its socket, unless it is there already. -/
def groupNode (groups : List Group) (n : Node) : List Group :=
  Ranked.upsert (fun g => g.socket.rank) ⟨n.address.socket, []⟩
    (fun g => { g with members := Ranked.insert Node.rank n g.members }) groups

def mergeNodes (nodes : List Node) : List MergedNode :=
  (nodes.foldl groupNode []).map fun g => MergedNode.ofMembers g.socket g.members

end LightingNet
