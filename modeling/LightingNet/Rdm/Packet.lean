import LightingNet.Rdm.Command
import LightingNet.Rdm.ParameterId
import LightingNet.Rdm.Uid
import LightingNet.Wire.Error
/-!
# RDM messages

A request or an answer of at most 231 bytes of parameter data. The network carries it without its
start code, which the checksum still counts; the bytes behind the checksum belong to nobody.
-/
namespace LightingNet.Rdm

structure Packet where
  destination : Uid
  source : Uid
  transaction : UInt8
  /-- The port in requests, the kind of the answer in answers. -/
  portOrResponse : UInt8
  messageCount : UInt8
  subDevice : UInt16
  command : CommandClass
  parameter : UInt16
  data : Bytes
  deriving DecidableEq, Repr

/-- The sum of some bytes and the start code, modulo 2^16. -/
def checksum (b : Bytes) : UInt16 := b.foldl (fun sum x => sum + x.toUInt16) 0xcc

namespace Packet

def maxData : Nat := 231

def request (destination source : Uid) (transaction : UInt8) (command : CommandClass)
    (parameter : UInt16) (data : Bytes) : Packet :=
  ⟨destination, source, transaction, 1, 0, 0, command, parameter, data⟩

/-- The answer to a request: the two ends swapped, the class its answering one, and the transaction,
the parameter and the sub-device kept. -/
def reply (p : Packet) (response : ResponseType) (data : Bytes) : Packet :=
  ⟨p.source, p.destination, p.transaction, response.code, 0, p.subDevice,
    p.command.response?.getD p.command, p.parameter, data⟩

def pid (p : Packet) : ParameterId := ParameterId.ofCode p.parameter

def isResponse (p : Packet) : Bool := p.command.isResponse

def responseType? (p : Packet) : Option ResponseType :=
  if p.isResponse then some (ResponseType.ofCode p.portOrResponse) else none

def leadingWord (p : Packet) : UInt16 :=
  match Reader.beWord p.data with
  | some (w, _) => w
  | none => 0

def nackReason? (p : Packet) : Option NackReason :=
  if p.responseType? = some .nackReason then some (NackReason.ofCode p.leadingWord) else none

/-- How long an answer asks to wait, in milliseconds. -/
def ackTimer? (p : Packet) : Option Nat :=
  if p.responseType? = some .ackTimer then some (p.leadingWord.toNat * 100) else none

def carried (p : Packet) : Bytes := p.data.take maxData

def encodedLength (p : Packet) : Nat := 25 + min p.data.length maxData

def covered (p : Packet) : Bytes :=
  [1, UInt8.ofNat (24 + p.carried.length)] ++ p.destination.bytes ++ p.source.bytes
    ++ [p.transaction, p.portOrResponse, p.messageCount] ++ be16 p.subDevice ++ [p.command.code]
    ++ be16 p.parameter ++ [UInt8.ofNat p.carried.length] ++ p.carried

def toBytes (p : Packet) : Bytes := p.covered ++ be16 (checksum p.covered)

/-- Writes a message over the front of a buffer. Gives the number of bytes written and the buffer. -/
def encode (p : Packet) (buffer : Bytes) : Except CodecError (Nat × Bytes) :=
  if buffer.length < p.encodedLength then .error (.bufferTooSmall p.encodedLength buffer.length)
  else .ok (p.encodedLength, p.toBytes ++ buffer.drop p.encodedLength)

/-- What stands in front of the parameter data: sub-start code, message length, the fields and the
length of the data. -/
structure Heading where
  subStart : UInt8
  messageLength : UInt8
  packet : Packet
  dataLength : UInt8

def heading : Reader Heading := do
  let subStart ← Reader.byte
  let messageLength ← Reader.byte
  let destination ← Reader.uid
  let source ← Reader.uid
  let transaction ← Reader.byte
  let portOrResponse ← Reader.byte
  let messageCount ← Reader.byte
  let subDevice ← Reader.beWord
  let command ← Reader.byte
  let parameter ← Reader.beWord
  let dataLength ← Reader.byte
  return ⟨subStart, messageLength, ⟨destination, source, transaction, portOrResponse, messageCount,
    subDevice, CommandClass.ofCode command, parameter, []⟩, dataLength⟩

def checked (b : Bytes) (h : Heading) (rest : Bytes) : Except CodecError Packet :=
  let size := h.dataLength.toNat
  match Reader.beWord (rest.drop size) with
  | none => .error (.tooShort (25 + size) b.length)
  | some (found, _) =>
    let computed := checksum (b.take (23 + size))
    if computed = found then .ok { h.packet with data := rest.take size }
    else .error (.checksumMismatch computed found)

def decode (b : Bytes) : Except CodecError Packet := do
  ensureLength b 25
  match heading b with
  | none => .error (.tooShort 25 b.length)
  | some (h, rest) =>
    if h.subStart ≠ 1 then .error .badSubStartCode
    else if h.messageLength.toNat ≠ 24 + h.dataLength.toNat then .error .badMessageLength
    else do
      ensureLength b (25 + h.dataLength.toNat)
      checked b h rest

/-- Whether a message answers a request: an answer of the class that belongs to the request, with
its transaction, from the device it was sent to. -/
def answers (candidate request : Packet) : Bool :=
  candidate.isResponse && request.command.response? == some candidate.command
    && candidate.transaction == request.transaction && candidate.source == request.destination

end Packet

end LightingNet.Rdm
