import LightingNet.Address.Socket
import LightingNet.Wire.PollReply
/-!
# Node addresses

A logical node is known by its root address and its bind index; the socket it is reached at goes
along and takes no part in its identity. One universe of a node is an output address.
-/
namespace LightingNet

/-- The identity of a logical node with the socket it is reached at. -/
structure NodeAddress where
  root : Ipv4
  bindIndex : UInt8
  socket : Ipv4Socket
  deriving DecidableEq, Repr

namespace NodeAddress

/-- The address with the given parts. Bind index 0 stands for 1. -/
def make (root : Ipv4) (bindIndex : UInt8) (socket : Ipv4Socket) : NodeAddress :=
  ⟨root, max bindIndex 1, socket⟩

theorem max_one_eq_self {b : UInt8} (h : 1 ≤ b) : max b 1 = b := by
  have hmax : max b 1 = if b ≤ 1 then 1 else b := rfl
  rw [hmax]
  split
  · exact UInt8.le_antisymm h ‹_›
  · rfl

/-- The IPv4 socket of a sender, 0.0.0.0 when it has no IPv4 address. -/
def senderSocket : Socket → Ipv4Socket
  | .v4 s => s
  | .v6 ip port _ => ⟨ip.mapped?.getD .unspecified, port⟩

/-- The address of the node that sent a reply. A reply without an address of its own stands for the
sender's; without a bind address the reachable address is the root. -/
def ofReply (reply : PollReply) (sender : Socket) : NodeAddress :=
  let socket :=
    if reply.ip = .unspecified then senderSocket sender
    else ⟨reply.ip, if reply.port = 0 then PollReply.defaultPort else reply.port⟩
  let root := if reply.bindIp = .unspecified then socket.ip else reply.bindIp
  make root reply.bindIndex socket

/-- Nodes are told apart and ordered by root address, then bind index. -/
def rank (a : NodeAddress) : Nat := a.root.rank * 256 + a.bindIndex.toNat

def same (a b : NodeAddress) : Bool := a.rank == b.rank

def text (a : NodeAddress) : String := a.root.text ++ "#" ++ Numeral.decimal a.bindIndex.toNat

end NodeAddress

/-- One universe of a node: what a table of devices belongs to. -/
structure OutputAddress where
  node : NodeAddress
  port : PortAddress
  deriving DecidableEq, Repr

namespace OutputAddress

def rank (o : OutputAddress) : Nat := o.node.rank * 16777216 + o.port.rank

def text (o : OutputAddress) : String := o.node.text ++ "/" ++ o.port.text

end OutputAddress

end LightingNet
