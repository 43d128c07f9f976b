import LightingNet.Address.Ipv4
import LightingNet.Address.Port
import LightingNet.Rdm.Uid
import LightingNet.Text.Field
/-!
# Poll replies

A node tells its names, addresses and up to four ports. A node with more ports sends one reply for
each bind index. Old nodes stop behind the hardware address; the rest then reads as zero.
-/
namespace LightingNet

/-- How an output combines two controllers on one universe. -/
inductive MergeMode where
  | htp
  | ltp
  deriving DecidableEq, Repr

def MergeMode.name : MergeMode → String
  | htp => "Htp"
  | ltp => "Ltp"

structure PollReply where
  ip : Ipv4
  port : UInt16
  firmwareVersion : UInt16
  netSwitch : UInt8
  subSwitch : UInt8
  oem : UInt16
  ubeaVersion : UInt8
  status1 : UInt8
  estaManufacturer : UInt16
  shortName : String
  longName : String
  nodeReport : String
  numPorts : UInt16
  portTypes : Octets 4
  goodInput : Octets 4
  goodOutputA : Octets 4
  swIn : Octets 4
  swOut : Octets 4
  acnPriority : UInt8
  swMacro : UInt8
  swRemote : UInt8
  style : UInt8
  mac : Octets 6
  bindIp : Ipv4
  bindIndex : UInt8
  status2 : UInt8
  goodOutputB : Octets 4
  status3 : UInt8
  defaultResponder : Rdm.Uid
  user : UInt16
  refreshRate : UInt16
  deriving DecidableEq, Repr

namespace PollReply

/-- The UDP port that nodes listen on unless they say otherwise. -/
def defaultPort : UInt16 := 6454

def blank : PollReply where
  ip := .unspecified
  port := defaultPort
  firmwareVersion := 0
  netSwitch := 0
  subSwitch := 0
  oem := 0
  ubeaVersion := 0
  status1 := 0
  estaManufacturer := 0
  shortName := ""
  longName := ""
  nodeReport := ""
  numPorts := 0
  portTypes := Octets.zero 4
  goodInput := Octets.zero 4
  goodOutputA := Octets.zero 4
  swIn := Octets.zero 4
  swOut := Octets.zero 4
  acnPriority := 0
  swMacro := 0
  swRemote := 0
  style := 0
  mac := Octets.zero 6
  bindIp := .unspecified
  bindIndex := 0
  status2 := 0
  goodOutputB := Octets.zero 4
  status3 := 0
  defaultResponder := Rdm.Uid.zero
  user := 0
  refreshRate := 0

instance : Inhabited PollReply := ⟨blank⟩

def portCount (r : PollReply) : Nat := min r.numPorts.toNat 4

def rdmCapable (r : PollReply) : Bool := bitSet r.status1 1

/-- The byte of a slot, zero outside the four slots. -/
def slotByte (bytes : Octets 4) (slot : Nat) : UInt8 := bytes[slot]?.getD 0

/-- The universe that the switches and a slot's own switch name. -/
def universeOf (r : PollReply) (switches : Octets 4) (slot : Nat) : PortAddress :=
  PortAddress.masked r.netSwitch r.subSwitch (slotByte switches slot)

def output? (r : PollReply) (slot : Nat) : Option PortAddress :=
  if slot < r.portCount && bitSet (slotByte r.portTypes slot) 7 then some (r.universeOf r.swOut slot)
  else none

def input? (r : PollReply) (slot : Nat) : Option PortAddress :=
  if slot < r.portCount && bitSet (slotByte r.portTypes slot) 6 then some (r.universeOf r.swIn slot)
  else none

def mergeMode (r : PollReply) (slot : Nat) : MergeMode :=
  if bitSet (slotByte r.goodOutputA slot) 1 then .ltp else .htp

def outputRdm (r : PollReply) (slot : Nat) : Bool :=
  r.rdmCapable && !bitSet (slotByte r.goodOutputB slot) 7

def outputActive (r : PollReply) (slot : Nat) : Bool := bitSet (slotByte r.goodOutputA slot) 7

def outputs (r : PollReply) : List PortAddress := (List.range r.portCount).filterMap r.output?

def body (r : PollReply) : Bytes :=
  r.ip.numbers ++ le16 r.port ++ be16 r.firmwareVersion
    ++ [r.netSwitch &&& 0x7f, r.subSwitch &&& 0x0f] ++ be16 r.oem ++ [r.ubeaVersion, r.status1]
    ++ le16 r.estaManufacturer ++ textField 18 r.shortName ++ textField 64 r.longName
    ++ textField 64 r.nodeReport ++ be16 r.numPorts ++ r.portTypes.toList ++ r.goodInput.toList
    ++ r.goodOutputA.toList ++ r.swIn.toList ++ r.swOut.toList
    ++ [r.acnPriority, r.swMacro, r.swRemote, 0, 0, 0, r.style] ++ r.mac.toList
    ++ r.bindIp.numbers ++ [r.bindIndex, r.status2] ++ r.goodOutputB.toList ++ [r.status3]
    ++ r.defaultResponder.bytes ++ be16 r.user ++ be16 r.refreshRate ++ List.replicate 11 0

def read : Reader PollReply := do
  let ip ← Reader.ipv4
  let port ← Reader.leWord
  let firmwareVersion ← Reader.beWord
  let netSwitch ← Reader.byte
  let subSwitch ← Reader.byte
  let oem ← Reader.beWord
  let ubeaVersion ← Reader.byte
  let status1 ← Reader.byte
  let estaManufacturer ← Reader.leWord
  let shortName ← Reader.text 18
  let longName ← Reader.text 64
  let nodeReport ← Reader.text 64
  let numPorts ← Reader.beWord
  let portTypes ← Reader.octets 4
  let goodInput ← Reader.octets 4
  let goodOutputA ← Reader.octets 4
  let swIn ← Reader.octets 4
  let swOut ← Reader.octets 4
  let acnPriority ← Reader.byte
  let swMacro ← Reader.byte
  let swRemote ← Reader.byte
  Reader.skip 3
  let style ← Reader.byte
  let mac ← Reader.octets 6
  let bindIp ← Reader.ipv4OrZero
  let bindIndex ← Reader.byteOrZero
  let status2 ← Reader.byteOrZero
  let goodOutputB ← Reader.octetsOrZero 4
  let status3 ← Reader.byteOrZero
  let defaultResponder ← Reader.uidOrZero
  let user ← Reader.beWordOrZero
  let refreshRate ← Reader.beWordOrZero
  return {
    ip, port, firmwareVersion, netSwitch := netSwitch &&& 0x7f, subSwitch := subSwitch &&& 0x0f,
    oem, ubeaVersion, status1, estaManufacturer, shortName, longName, nodeReport, numPorts,
    portTypes, goodInput, goodOutputA, swIn, swOut, acnPriority, swMacro, swRemote, style, mac,
    bindIp, bindIndex, status2, goodOutputB, status3, defaultResponder, user, refreshRate }

end PollReply

end LightingNet
