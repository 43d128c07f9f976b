import LightingNet.Node.Address
/-!
# Nodes

A node is one poll reply with its sender. Its ports are numbered across all replies of a device:
bind index 1 has the ports 1 to 4, bind index 2 the ports 5 to 8, and so on.
-/
namespace LightingNet

/-- One logical node, as a reply described it. -/
structure Node where
  address : NodeAddress
  reply : PollReply
  sender : Socket
  /-- Milliseconds from the poll to the reply. -/
  roundTrip : Nat
  deriving DecidableEq, Repr

structure OutputPort where
  port : PortAddress
  mergeMode : MergeMode
  rdm : Bool
  deriving DecidableEq, Repr

structure NodePort where
  number : Nat
  node : NodeAddress
  slot : Nat
  input : Option PortAddress
  output : Option OutputPort
  deriving DecidableEq, Repr

def NodePort.outputAddress? (p : NodePort) : Option OutputAddress :=
  p.output.map fun o => ⟨p.node, o.port⟩

namespace Node

def ofReply (reply : PollReply) (sender : Socket) (roundTrip : Nat) : Node :=
  ⟨NodeAddress.ofReply reply sender, reply, sender, roundTrip⟩

def rank (n : Node) : Nat := n.address.rank

def outputs (n : Node) : List PortAddress := n.reply.outputs

/-- The number of the port in a slot. -/
def portNumber (n : Node) (slot : Nat) : Nat := (n.address.bindIndex.toNat - 1) * 4 + slot + 1

def outputPort? (n : Node) (slot : Nat) : Option OutputPort :=
  (n.reply.output? slot).map fun port => ⟨port, n.reply.mergeMode slot, n.reply.outputRdm slot⟩

def port? (n : Node) (slot : Nat) : Option NodePort :=
  let input := n.reply.input? slot
  let output := n.outputPort? slot
  if input.isNone && output.isNone then none
  else some ⟨n.portNumber slot, n.address, slot, input, output⟩

def ports (n : Node) : List NodePort := (List.range n.reply.portCount).filterMap n.port?

def text (n : Node) : String := n.address.text ++ " (" ++ n.reply.shortName ++ ")"

end Node

end LightingNet
