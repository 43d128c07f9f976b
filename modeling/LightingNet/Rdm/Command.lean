import LightingNet.Text.Numeral
/-!
# Commands and answers

The command class of an RDM message, the kind of an answer and the reason of a refusal, each with
its code on the wire. A code that is not listed is kept as it is.
-/
namespace LightingNet.Rdm

inductive CommandClass where
  | discovery
  | discoveryResponse
  | get
  | getResponse
  | set
  | setResponse
  | unknown (code : UInt8)
  deriving DecidableEq, Repr

namespace CommandClass

def code : CommandClass → UInt8
  | discovery => 0x10
  | discoveryResponse => 0x11
  | get => 0x20
  | getResponse => 0x21
  | set => 0x30
  | setResponse => 0x31
  | unknown c => c

def ofCode (c : UInt8) : CommandClass :=
  if c = 0x10 then discovery
  else if c = 0x11 then discoveryResponse
  else if c = 0x20 then get
  else if c = 0x21 then getResponse
  else if c = 0x30 then set
  else if c = 0x31 then setResponse
  else unknown c

def name : CommandClass → String
  | discovery => "Discovery"
  | discoveryResponse => "DiscoveryResponse"
  | get => "Get"
  | getResponse => "GetResponse"
  | set => "Set"
  | setResponse => "SetResponse"
  | unknown c => "Unknown(" ++ Numeral.decimal c.toNat ++ ")"

def isResponse : CommandClass → Bool
  | discoveryResponse | getResponse | setResponse => true
  | _ => false

/-- The class that answers a request class. -/
def response? : CommandClass → Option CommandClass
  | discovery => some discoveryResponse
  | get => some getResponse
  | set => some setResponse
  | _ => none

end CommandClass

inductive ResponseType where
  | ack
  | ackTimer
  | nackReason
  | ackOverflow
  | unknown (code : UInt8)
  deriving DecidableEq, Repr

namespace ResponseType

def code : ResponseType → UInt8
  | ack => 0
  | ackTimer => 1
  | nackReason => 2
  | ackOverflow => 3
  | unknown c => c

def ofCode (c : UInt8) : ResponseType :=
  if c = 0 then ack
  else if c = 1 then ackTimer
  else if c = 2 then nackReason
  else if c = 3 then ackOverflow
  else unknown c

def name : ResponseType → String
  | ack => "Ack"
  | ackTimer => "AckTimer"
  | nackReason => "NackReason"
  | ackOverflow => "AckOverflow"
  | unknown c => "Unknown(" ++ Numeral.decimal c.toNat ++ ")"

end ResponseType

inductive NackReason where
  | unknownPid
  | formatError
  | hardwareFault
  | proxyReject
  | writeProtect
  | unsupportedCommandClass
  | dataOutOfRange
  | bufferFull
  | packetSizeUnsupported
  | subDeviceOutOfRange
  | proxyBufferFull
  | other (code : UInt16)
  deriving DecidableEq, Repr

namespace NackReason

/-- A row of the table: a reason, its name and its text. The place in the table is the code. -/
structure Row where
  reason : NackReason
  name : String
  text : String

def table : List Row := [
  ⟨unknownPid, "UnknownPid", "unknown PID"⟩,
  ⟨formatError, "FormatError", "format error"⟩,
  ⟨hardwareFault, "HardwareFault", "hardware fault"⟩,
  ⟨proxyReject, "ProxyReject", "proxy reject"⟩,
  ⟨writeProtect, "WriteProtect", "write protected"⟩,
  ⟨unsupportedCommandClass, "UnsupportedCommandClass", "unsupported command class"⟩,
  ⟨dataOutOfRange, "DataOutOfRange", "data out of range"⟩,
  ⟨bufferFull, "BufferFull", "buffer full"⟩,
  ⟨packetSizeUnsupported, "PacketSizeUnsupported", "packet size unsupported"⟩,
  ⟨subDeviceOutOfRange, "SubDeviceOutOfRange", "sub-device out of range"⟩,
  ⟨proxyBufferFull, "ProxyBufferFull", "proxy buffer full"⟩]

def code : NackReason → UInt16
  | other c => c
  | reason => UInt16.ofNat (table.findIdx fun row => row.reason == reason)

def ofCode (c : UInt16) : NackReason :=
  match table[c.toNat]? with
  | some row => row.reason
  | none => other c

def name : NackReason → String
  | other c => "Other(" ++ Numeral.decimal c.toNat ++ ")"
  | reason => ((table.find? fun row => row.reason == reason).map Row.name).getD ""

def text : NackReason → String
  | other c => "reason " ++ Numeral.hexCode c
  | reason => ((table.find? fun row => row.reason == reason).map Row.text).getD ""

end NackReason

end LightingNet.Rdm
