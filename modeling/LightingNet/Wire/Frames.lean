import LightingNet.Address.Port
import LightingNet.Text.Field
/-!
# Frames, diagnostics and node programming

A frame carries the levels of one universe, at most 512. A diagnostic carries a text of at most 512
bytes with its terminator. Node programming carries new names and switches for a node.
-/
namespace LightingNet

structure DmxFrame where
  sequence : UInt8
  physical : UInt8
  port : PortAddress
  levels : Bytes
  deriving DecidableEq, Repr

namespace DmxFrame

def carried (f : DmxFrame) : Bytes := f.levels.take 512

def body (f : DmxFrame) : Bytes :=
  [f.sequence, f.physical, f.port.short, f.port.net] ++ be16 (UInt16.ofNat f.carried.length)
    ++ f.carried

def read : Reader DmxFrame := do
  let sequence ← Reader.byte
  let physical ← Reader.byte
  let short ← Reader.byte
  let net ← Reader.byte
  let declared ← Reader.beWord
  let levels ← Reader.remaining
  return ⟨sequence, physical, PortAddress.ofShort net short, levels.take (min declared.toNat 512)⟩

end DmxFrame

structure Diagnostic where
  priority : UInt8
  logicalPort : UInt8
  text : String
  deriving DecidableEq, Repr

namespace Diagnostic

def carried (d : Diagnostic) : Bytes := wireText 511 d.text

def body (d : Diagnostic) : Bytes :=
  [0, d.priority, d.logicalPort, 0] ++ be16 (UInt16.ofNat (d.carried.length + 1)) ++ d.carried
    ++ [0]

def read : Reader Diagnostic := do
  Reader.skip 1
  let priority ← Reader.byte
  let logicalPort ← Reader.byte
  Reader.skip 1
  let declared ← Reader.beWord
  let text ← Reader.remaining
  return ⟨priority, logicalPort, fieldText (text.take (min declared.toNat 512))⟩

end Diagnostic

/-- New names and switches for a node. What is zero or empty stays as it is. -/
structure NodeProgramming where
  netSwitch : UInt8
  bindIndex : UInt8
  shortName : String
  longName : String
  swIn : Octets 4
  swOut : Octets 4
  subSwitch : UInt8
  acnPriority : UInt8
  command : UInt8
  deriving DecidableEq, Repr

namespace NodeProgramming

def rename (bindIndex : UInt8) (shortName longName : String) : NodeProgramming :=
  ⟨0, bindIndex, shortName, longName, Octets.zero 4, Octets.zero 4, 0, 0, 0⟩

def body (p : NodeProgramming) : Bytes :=
  [p.netSwitch, p.bindIndex] ++ textField 18 p.shortName ++ textField 64 p.longName
    ++ p.swIn.toList ++ p.swOut.toList ++ [p.subSwitch, p.acnPriority, p.command]

def read : Reader NodeProgramming := do
  let netSwitch ← Reader.byte
  let bindIndex ← Reader.byte
  let shortName ← Reader.text 18
  let longName ← Reader.text 64
  let swIn ← Reader.octets 4
  let swOut ← Reader.octets 4
  let subSwitch ← Reader.byte
  let acnPriority ← Reader.byte
  let command ← Reader.byte
  return ⟨netSwitch, bindIndex, shortName, longName, swIn, swOut, subSwitch, acnPriority, command⟩

end NodeProgramming

end LightingNet
