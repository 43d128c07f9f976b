import LightingNet.Address.Port
import LightingNet.Ranked
import LightingNet.Rdm.Uid
/-!
# Tables of devices

A controller asks nodes for the table of devices of some universes, or tells a node to build a table
again; a node answers with blocks of at most 200 identifiers.
-/
namespace LightingNet

structure TodRequest where
  net : UInt8
  command : UInt8
  /-- The short forms of the universes. -/
  addresses : Bytes
  deriving DecidableEq, Repr

namespace TodRequest

def maxAddresses : Nat := 32

/-- The request for those of the given universes that are on the net, each once and ascending. -/
def forPorts (net : UInt8) (ports : List PortAddress) : TodRequest :=
  let shorts := (ports.filter fun p => p.net == net).map PortAddress.short
  ⟨net, 0, (Ranked.ofList UInt8.toNat shorts).take maxAddresses⟩

def ports (r : TodRequest) : List PortAddress := r.addresses.map (PortAddress.ofShort r.net)

def carried (r : TodRequest) : Bytes := r.addresses.take maxAddresses

def body (r : TodRequest) : Bytes :=
  List.replicate 9 0 ++ [r.net &&& 0x7f, r.command, UInt8.ofNat r.carried.length] ++ r.carried

def read : Reader TodRequest := do
  Reader.skip 9
  let net ← Reader.byte
  let command ← Reader.byte
  let count ← Reader.byte
  let addresses ← Reader.remaining
  return ⟨net &&& 0x7f, command, addresses.take (min count.toNat maxAddresses)⟩

end TodRequest

inductive TodResponse where
  | full
  | nak
  | other (code : UInt8)
  deriving DecidableEq, Repr

namespace TodResponse

def code : TodResponse → UInt8
  | full => 0
  | nak => 0xff
  | other c => c

def ofCode (c : UInt8) : TodResponse := if c = 0 then full else if c = 0xff then nak else other c

def name : TodResponse → String
  | full => "Full"
  | nak => "Nak"
  | other c => "Other(" ++ Numeral.decimal c.toNat ++ ")"

end TodResponse

structure TodData where
  rdmVersion : UInt8
  port : UInt8
  bindIndex : UInt8
  net : UInt8
  response : TodResponse
  address : UInt8
  uidTotal : UInt16
  blockCount : UInt8
  uids : List Rdm.Uid
  deriving DecidableEq, Repr

namespace TodData

def maxUids : Nat := 200

def universeOf (d : TodData) : PortAddress := PortAddress.ofShort d.net d.address

def carried (d : TodData) : List Rdm.Uid := d.uids.take maxUids

def body (d : TodData) : Bytes :=
  [d.rdmVersion, d.port, 0, 0, 0, 0, 0, 0, d.bindIndex, d.net &&& 0x7f, d.response.code, d.address]
    ++ be16 d.uidTotal ++ [d.blockCount, UInt8.ofNat d.carried.length]
    ++ d.carried.flatMap Rdm.Uid.bytes

/-- Reads whole identifiers, at most `count` of them. -/
def uidsFrom : Nat → Bytes → List Rdm.Uid
  | 0, _ => []
  | count + 1, b =>
    match Reader.uid b with
    | some (u, rest) => u :: uidsFrom count rest
    | none => []

def read : Reader TodData := do
  let rdmVersion ← Reader.byte
  let port ← Reader.byte
  Reader.skip 6
  let bindIndex ← Reader.byte
  let net ← Reader.byte
  let response ← Reader.byte
  let address ← Reader.byte
  let uidTotal ← Reader.beWord
  let blockCount ← Reader.byte
  let count ← Reader.byte
  let uids ← Reader.remaining
  return ⟨rdmVersion, port, bindIndex, net &&& 0x7f, TodResponse.ofCode response, address, uidTotal,
    blockCount, uidsFrom count.toNat uids⟩

end TodData

inductive TodCommand where
  | none
  | flush
  | finish
  | incrementalOn
  | incrementalOff
  | other (code : UInt8)
  deriving DecidableEq, Repr

namespace TodCommand

def code : TodCommand → UInt8
  | none => 0
  | flush => 1
  | finish => 2
  | incrementalOn => 3
  | incrementalOff => 4
  | other c => c

def ofCode (c : UInt8) : TodCommand :=
  if c = 0 then none
  else if c = 1 then flush
  else if c = 2 then finish
  else if c = 3 then incrementalOn
  else if c = 4 then incrementalOff
  else other c

def name : TodCommand → String
  | none => "None"
  | flush => "Flush"
  | finish => "End"
  | incrementalOn => "IncrementalOn"
  | incrementalOff => "IncrementalOff"
  | other c => "Other(" ++ Numeral.decimal c.toNat ++ ")"

end TodCommand

structure TodControl where
  net : UInt8
  command : TodCommand
  address : UInt8
  deriving DecidableEq, Repr

namespace TodControl

def ofPort (p : PortAddress) (command : TodCommand) : TodControl := ⟨p.net, command, p.short⟩

/-- Tells a node to find the devices of a universe again. -/
def flush (p : PortAddress) : TodControl := ofPort p .flush

def universeOf (c : TodControl) : PortAddress := PortAddress.ofShort c.net c.address

def body (c : TodControl) : Bytes :=
  List.replicate 9 0 ++ [c.net &&& 0x7f, c.command.code, c.address]

def read : Reader TodControl := do
  Reader.skip 9
  let net ← Reader.byte
  let command ← Reader.byte
  let address ← Reader.byte
  return ⟨net &&& 0x7f, TodCommand.ofCode command, address⟩

end TodControl

end LightingNet
