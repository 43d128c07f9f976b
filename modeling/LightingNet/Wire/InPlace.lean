import LightingNet.Wire.Message
/-!
# Writing into a buffer

A message is written into its part of a buffer field by field, each field at its place and each write
checked; the part is cleared first, since the fields leave gaps. A buffer that is too short is left as
it is.
-/
namespace LightingNet

namespace Places

/-- A buffer with some bytes written over it from a place on, if they fit. -/
def put? (b : Bytes) (i : Nat) (xs : Bytes) : Option Bytes :=
  if i + xs.length ≤ b.length then some (b.take i ++ xs ++ b.drop (i + xs.length)) else none

def putAll? : Bytes → List (Nat × Bytes) → Option Bytes
  | b, [] => some b
  | b, (i, xs) :: fields => (put? b i xs).bind fun b => putAll? b fields

def tail? (b : Bytes) (i : Nat) : Option Bytes := if i ≤ b.length then some (b.drop i) else none

/-- A call that writes into a buffer: its outcome, and what the buffer holds then. It is `none` when
an access is out of range. -/
abbrev Overwrite := Bytes → Option (Except CodecError Nat × Bytes)

def overwrite? (length : Nat) (fill? : Bytes → Option Bytes) : Overwrite := fun buffer =>
  if buffer.length < length then some (.error (.bufferTooSmall length buffer.length), buffer)
  else do
    let window ← fill? (buffer.take length)
    return (.ok length, window ++ buffer.drop length)

def overwriteAt? (length : Nat) (fill? : Bytes → Option Bytes) (offset : Nat) : Overwrite :=
  fun buffer =>
    match tail? buffer offset with
    | none => some (.error (.bufferTooSmall (offset + length) buffer.length), buffer)
    | some tail => do
      let (outcome, tail) ← overwrite? length fill? tail
      return (outcome.map (offset + ·), buffer.take offset ++ tail)

end Places

open Places

namespace Rdm.Packet

/-- The fields of a message with the places where a writer puts them. -/
def fields (p : Packet) : List (Nat × Bytes) := [
  (0, [1]),
  (1, [UInt8.ofNat (24 + p.carried.length)]),
  (2, p.destination.bytes),
  (8, p.source.bytes),
  (14, [p.transaction]),
  (15, [p.portOrResponse]),
  (16, [p.messageCount]),
  (17, be16 p.subDevice),
  (19, [p.command.code]),
  (20, be16 p.parameter),
  (22, [UInt8.ofNat p.carried.length]),
  (23, p.carried)]

/-- Writes a message into a buffer, field by field. The checksum is taken over what stands in the
buffer by then. -/
def fill? (p : Packet) (buffer : Bytes) : Option Bytes := do
  let stop := 23 + p.carried.length
  let written ← putAll? buffer p.fields
  put? written stop (be16 (checksum (written.take stop)))

def overwrite? (p : Packet) : Overwrite := Places.overwrite? p.encodedLength p.fill?

end Rdm.Packet

def Poll.writes (p : Poll) : List (Nat × Bytes) := [
  (12, [p.flags]),
  (13, [p.diagPriority]),
  (14, be16 p.targetTop),
  (16, be16 p.targetBottom),
  (18, be16 p.estaManufacturer),
  (20, be16 p.oem)]

def PollReply.writes (r : PollReply) : List (Nat × Bytes) := [
  (10, r.ip.numbers),
  (14, le16 r.port),
  (16, be16 r.firmwareVersion),
  (18, [r.netSwitch &&& 0x7f]),
  (19, [r.subSwitch &&& 0x0f]),
  (20, be16 r.oem),
  (22, [r.ubeaVersion]),
  (23, [r.status1]),
  (24, le16 r.estaManufacturer),
  (26, textField 18 r.shortName),
  (44, textField 64 r.longName),
  (108, textField 64 r.nodeReport),
  (172, be16 r.numPorts),
  (174, r.portTypes.toList),
  (178, r.goodInput.toList),
  (182, r.goodOutputA.toList),
  (186, r.swIn.toList),
  (190, r.swOut.toList),
  (194, [r.acnPriority]),
  (195, [r.swMacro]),
  (196, [r.swRemote]),
  (200, [r.style]),
  (201, r.mac.toList),
  (207, r.bindIp.numbers),
  (211, [r.bindIndex]),
  (212, [r.status2]),
  (213, r.goodOutputB.toList),
  (217, [r.status3]),
  (218, r.defaultResponder.bytes),
  (224, be16 r.user),
  (226, be16 r.refreshRate)]

def Diagnostic.writes (d : Diagnostic) : List (Nat × Bytes) := [
  (13, [d.priority]),
  (14, [d.logicalPort]),
  (16, be16 (UInt16.ofNat (d.carried.length + 1))),
  (18, d.carried)]

def DmxFrame.writes (f : DmxFrame) : List (Nat × Bytes) := [
  (12, [f.sequence]),
  (13, [f.physical]),
  (14, [f.port.short]),
  (15, [f.port.net]),
  (16, be16 (UInt16.ofNat f.carried.length)),
  (18, f.carried)]

def NodeProgramming.writes (p : NodeProgramming) : List (Nat × Bytes) := [
  (12, [p.netSwitch]),
  (13, [p.bindIndex]),
  (14, textField 18 p.shortName),
  (32, textField 64 p.longName),
  (96, p.swIn.toList),
  (100, p.swOut.toList),
  (104, [p.subSwitch]),
  (105, [p.acnPriority]),
  (106, [p.command])]

def TodRequest.writes (r : TodRequest) : List (Nat × Bytes) := [
  (21, [r.net &&& 0x7f]),
  (22, [r.command]),
  (23, [UInt8.ofNat r.carried.length]),
  (24, r.carried)]

def Rdm.Uid.slots (i : Nat) : List Uid → List (Nat × Bytes)
  | [] => []
  | u :: us => (i, u.bytes) :: slots (i + 6) us

def TodData.writes (d : TodData) : List (Nat × Bytes) := [
  (12, [d.rdmVersion]),
  (13, [d.port]),
  (20, [d.bindIndex]),
  (21, [d.net &&& 0x7f]),
  (22, [d.response.code]),
  (23, [d.address]),
  (24, be16 d.uidTotal),
  (26, [d.blockCount]),
  (27, [UInt8.ofNat d.carried.length])] ++ Rdm.Uid.slots 28 d.carried

def TodControl.writes (c : TodControl) : List (Nat × Bytes) := [
  (21, [c.net &&& 0x7f]),
  (22, [c.command.code]),
  (23, [c.address])]

def Envelope.writes (e : Envelope) : List (Nat × Bytes) := [
  (12, [e.rdmVersion]),
  (21, [e.net &&& 0x7f]),
  (22, [e.command]),
  (23, [e.address])]

namespace Message

def headerWrites (op : OpCode) : List (Nat × Bytes) :=
  (0, identifier) :: (8, le16 op.code) :: if op.hasVersion then [(10, be16 protocolVersion)] else []

/-- Clears a buffer and writes the header of a layout and some fields into it. -/
def fillFields? (l : Layout) (fields : List (Nat × Bytes)) (buffer : Bytes) : Option Bytes :=
  putAll? (List.replicate buffer.length 0) (headerWrites l.opcode ++ fields)

/-- Writes a message into a buffer of its length. The outcome is `none` when a write reaches past
the end. -/
def fill? (buffer : Bytes) : Message → Option Bytes
  | poll p => fillFields? .poll p.writes buffer
  | pollReply r => fillFields? .pollReply r.writes buffer
  | diagnostic d => fillFields? .diagnostic d.writes buffer
  | dmx f => fillFields? .dmx f.writes buffer
  | sync => fillFields? .sync [] buffer
  | programming p => fillFields? .programming p.writes buffer
  | todRequest r => fillFields? .todRequest r.writes buffer
  | todData d => fillFields? .todData d.writes buffer
  | todControl c => fillFields? .todControl c.writes buffer
  | rdm e => do
    let written ← fillFields? .rdm e.writes buffer
    let rest ← tail? written 24
    let packet ← e.packet.fill? rest
    return written.take 24 ++ packet
  | unsupported _ datagram => put? buffer 0 datagram

def overwriteAt? (m : Message) (offset : Nat) : Overwrite :=
  Places.overwriteAt? m.encodedLength (m.fill? ·) offset

end Message

end LightingNet
