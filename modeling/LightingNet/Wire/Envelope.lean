import LightingNet.Address.Port
import LightingNet.Rdm.Packet
/-!
# RDM envelopes

An RDM message on its way to or from the universe of a node.
-/
namespace LightingNet

structure Envelope where
  rdmVersion : UInt8
  net : UInt8
  command : UInt8
  address : UInt8
  packet : Rdm.Packet
  deriving DecidableEq, Repr

namespace Envelope

def ofPort (p : PortAddress) (packet : Rdm.Packet) : Envelope := ⟨1, p.net, 0, p.short, packet⟩

def universeOf (e : Envelope) : PortAddress := PortAddress.ofShort e.net e.address

def body (e : Envelope) : Bytes :=
  [e.rdmVersion] ++ List.replicate 8 0 ++ [e.net &&& 0x7f, e.command, e.address]
    ++ e.packet.toBytes

/-- Reads the fields behind the version, the RDM message still as bytes. -/
def fields : Reader (UInt8 × UInt8 × UInt8 × UInt8 × Bytes) := do
  let rdmVersion ← Reader.byte
  Reader.skip 8
  let net ← Reader.byte
  let command ← Reader.byte
  let address ← Reader.byte
  let packet ← Reader.remaining
  return (rdmVersion, net &&& 0x7f, command, address, packet)

end Envelope

end LightingNet
