import LightingNet.Node.Address
/-!
# Targets

Where an RDM request goes: to one node, or to all of them, on one universe.
-/
namespace LightingNet.Rdm

/-- Where an RDM request goes. Without an address it is broadcast. -/
structure Target where
  address : Option Socket
  port : PortAddress
  deriving DecidableEq, Repr

namespace Target

def ofOutput (o : OutputAddress) : Target := ⟨some (.v4 o.node.socket), o.port⟩

def everyNode (port : PortAddress) : Target := ⟨none, port⟩

end Target

end LightingNet.Rdm
