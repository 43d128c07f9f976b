import LightingNet.Address.Socket
import LightingNet.Ranked
/-!
# Interfaces

A local IPv4 interface spans the addresses that agree with its own under the mask. Polls go to the
broadcast address of every interface, or to the limited broadcast when there is none.
-/
namespace LightingNet

structure Interface where
  ip : Ipv4
  netmask : Ipv4
  deriving DecidableEq, Repr

namespace Interface

def broadcast (i : Interface) : Ipv4 := ⟨i.ip.bits ||| ~~~i.netmask.bits⟩

/-- Whether an address belongs to the interface's network, its broadcast address included. -/
def contains (i : Interface) (ip : Ipv4) : Bool :=
  i.ip.bits &&& i.netmask.bits == ip.bits &&& i.netmask.bits

end Interface

/-- The sockets to poll from a host with the given interfaces, ascending and without repeats. -/
def broadcastTargets (interfaces : List Interface) (port : UInt16) : List Socket :=
  match Ranked.ofList Ipv4Socket.rank (interfaces.map fun i => ⟨i.broadcast, port⟩) with
  | [] => [.v4 ⟨.broadcast, port⟩]
  | sockets => sockets.map .v4

end LightingNet
