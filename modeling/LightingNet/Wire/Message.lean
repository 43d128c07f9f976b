import LightingNet.Wire.Envelope
import LightingNet.Wire.Error
import LightingNet.Wire.Frames
import LightingNet.Wire.OpCode
import LightingNet.Wire.Poll
import LightingNet.Wire.PollReply
import LightingNet.Wire.Tod
/-!
# Messages

A datagram opens with an identifier and an operation code; all but poll replies then carry a
version. A datagram of an operation that has no layout here is kept whole. Encoding writes into a
window of a buffer and leaves the rest alone.
-/
namespace LightingNet

inductive Message where
  | poll (poll : Poll)
  | pollReply (reply : PollReply)
  | diagnostic (diagnostic : Diagnostic)
  | dmx (frame : DmxFrame)
  | sync
  | programming (programming : NodeProgramming)
  | todRequest (request : TodRequest)
  | todData (data : TodData)
  | todControl (control : TodControl)
  | rdm (envelope : Envelope)
  | unsupported (opcode : OpCode) (datagram : Bytes)
  deriving DecidableEq, Repr

/-- The operations that have a layout. -/
inductive Layout where
  | poll
  | pollReply
  | diagnostic
  | dmx
  | sync
  | programming
  | todRequest
  | todData
  | todControl
  | rdm
  deriving DecidableEq, Repr

namespace Layout

def opcode : Layout → OpCode
  | poll => .poll
  | pollReply => .pollReply
  | diagnostic => .diagData
  | dmx => .dmx
  | sync => .sync
  | programming => .address
  | todRequest => .todRequest
  | todData => .todData
  | todControl => .todControl
  | rdm => .rdm

def ofOpCode? : OpCode → Option Layout
  | .poll => some poll
  | .pollReply => some pollReply
  | .diagData => some diagnostic
  | .dmx => some dmx
  | .sync => some sync
  | .address => some programming
  | .todRequest => some todRequest
  | .todData => some todData
  | .todControl => some todControl
  | .rdm => some rdm
  | _ => none

def minSize : Layout → Nat
  | poll => 14
  | pollReply => 207
  | diagnostic => 18
  | dmx => 18
  | sync => 14
  | programming => 107
  | todRequest => 24
  | todData => 28
  | todControl => 24
  | rdm => 24

def headerSize (l : Layout) : Nat := if l.opcode.hasVersion then 12 else 10

end Layout

def identifier : Bytes := [0x41, 0x72, 0x74, 0x2d, 0x4e, 0x65, 0x74, 0]

/-- The version that is written, and the oldest that is read. -/
def protocolVersion : UInt16 := 14

def peekOpCode (b : Bytes) : Except CodecError OpCode :=
  if b.take 8 ≠ identifier then .error .missingIdentifier
  else match Reader.leWord (b.drop 8) with
    | some (code, _) => .ok (OpCode.ofCode code)
    | none => .error (.tooShort 10 b.length)

namespace Message

def opcode : Message → OpCode
  | poll _ => .poll
  | pollReply _ => .pollReply
  | diagnostic _ => .diagData
  | dmx _ => .dmx
  | sync => .sync
  | programming _ => .address
  | todRequest _ => .todRequest
  | todData _ => .todData
  | todControl _ => .todControl
  | rdm _ => .rdm
  | unsupported op _ => op

/-- Reads the fields of a layout. The outcome is `none` when they reach past the end. -/
def readFields (l : Layout) (b : Bytes) : Option (Except CodecError Message) :=
  match l with
  | .poll => (Poll.read b).map fun r => .ok (poll r.1)
  | .pollReply => (PollReply.read b).map fun r => .ok (pollReply r.1)
  | .diagnostic => (Diagnostic.read b).map fun r => .ok (diagnostic r.1)
  | .dmx => (DmxFrame.read b).map fun r => .ok (dmx r.1)
  | .sync => some (.ok sync)
  | .programming => (NodeProgramming.read b).map fun r => .ok (programming r.1)
  | .todRequest => (TodRequest.read b).map fun r => .ok (todRequest r.1)
  | .todData => (TodData.read b).map fun r => .ok (todData r.1)
  | .todControl => (TodControl.read b).map fun r => .ok (todControl r.1)
  | .rdm => (Envelope.fields b).map fun r =>
    match r.1 with
    | (rdmVersion, net, command, address, packet) =>
      match Rdm.Packet.decode packet with
      | .ok p => .ok (rdm ⟨rdmVersion, net, command, address, p⟩)
      | .error e => .error e

def checkVersion (l : Layout) (b : Bytes) : Except CodecError Unit :=
  if l.opcode.hasVersion then
    match Reader.beWord (b.drop 10) with
    | some (version, _) => if version < protocolVersion then .error (.oldVersion version) else .ok ()
    | none => .error (.tooShort l.minSize b.length)
  else .ok ()

/-- Reads a datagram by a layout, whatever its identifier and operation code say. -/
def decodeAs (l : Layout) (b : Bytes) : Except CodecError Message := do
  ensureLength b l.minSize
  checkVersion l b
  match readFields l (b.drop l.headerSize) with
  | some result => result
  | none => .error (.tooShort l.minSize b.length)

def decode (b : Bytes) : Except CodecError Message := do
  let op ← peekOpCode b
  match Layout.ofOpCode? op with
  | some l => decodeAs l b
  | none => .ok (unsupported op b)

def header (op : OpCode) : Bytes :=
  identifier ++ le16 op.code ++ if op.hasVersion then be16 protocolVersion else []

/-- The bytes that a message occupies in a buffer. -/
def image : Message → Bytes
  | poll p => header .poll ++ p.body
  | pollReply r => header .pollReply ++ r.body
  | diagnostic d => header .diagData ++ d.body
  | dmx f => header .dmx ++ f.body
  | sync => header .sync ++ [0, 0]
  | programming p => header .address ++ p.body
  | todRequest r => header .todRequest ++ r.body
  | todData d => header .todData ++ d.body
  | todControl c => header .todControl ++ c.body
  | rdm e => header .rdm ++ e.body
  | unsupported _ datagram => datagram

def encodedLength : Message → Nat
  | poll _ => 22
  | pollReply _ => 239
  | diagnostic d => 18 + min (Utf8.ofString d.text).length 511 + 1
  | dmx f => 18 + min f.levels.length 512
  | sync => 14
  | programming _ => 107
  | todRequest r => 24 + min r.addresses.length TodRequest.maxAddresses
  | todData d => 28 + min d.uids.length TodData.maxUids * 6
  | todControl _ => 24
  | rdm e => 24 + e.packet.encodedLength
  | unsupported _ datagram => datagram.length

/-- Writes a message over the front of a buffer. Gives the number of bytes written and the buffer. -/
def encode (m : Message) (buffer : Bytes) : Except CodecError (Nat × Bytes) :=
  if buffer.length < m.encodedLength then .error (.bufferTooSmall m.encodedLength buffer.length)
  else .ok (m.encodedLength, m.image ++ buffer.drop m.encodedLength)

/-- Writes a message into a buffer at an offset. Gives the offset behind the message and the
buffer. -/
def encodeAt (m : Message) (buffer : Bytes) (offset : Nat) : Except CodecError (Nat × Bytes) :=
  if buffer.length < offset then
    .error (.bufferTooSmall (offset + m.encodedLength) buffer.length)
  else match m.encode (buffer.drop offset) with
    | .ok (written, window) => .ok (offset + written, buffer.take offset ++ window)
    | .error e => .error e

def toBytes (m : Message) : Bytes :=
  match m.encode (List.replicate m.encodedLength 0) with
  | .ok (written, buffer) => buffer.take written
  | .error _ => []

end Message

end LightingNet
