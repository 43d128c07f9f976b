import LightingNet.Address.Port
import LightingNet.Bytes.Reader
/-!
# Polls

A controller polls to learn which nodes there are. Old controllers send only the first two fields;
the rest then reads as zero.
-/
namespace LightingNet

structure Poll where
  flags : UInt8
  diagPriority : UInt8
  targetTop : UInt16
  targetBottom : UInt16
  estaManufacturer : UInt16
  oem : UInt16
  deriving DecidableEq, Repr, Inhabited

namespace Poll

def untargeted (flags : UInt8) : Poll := ⟨flags, 0, 0, 0, 0, 0⟩

/-- A poll of the nodes with a port between two port-addresses. -/
def targeted (bottom top : PortAddress) : Poll := ⟨0x20, 0, top.packed, bottom.packed, 0, 0⟩

def body (p : Poll) : Bytes :=
  [p.flags, p.diagPriority] ++ be16 p.targetTop ++ be16 p.targetBottom
    ++ be16 p.estaManufacturer ++ be16 p.oem

def read : Reader Poll := do
  let flags ← Reader.byte
  let diagPriority ← Reader.byte
  let targetTop ← Reader.beWordOrZero
  let targetBottom ← Reader.beWordOrZero
  let estaManufacturer ← Reader.beWordOrZero
  let oem ← Reader.beWordOrZero
  return ⟨flags, diagPriority, targetTop, targetBottom, estaManufacturer, oem⟩

end Poll

end LightingNet
