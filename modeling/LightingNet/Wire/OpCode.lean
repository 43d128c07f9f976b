import LightingNet.Text.Numeral
/-!
# Operation codes

The code of a datagram says what it carries. The table lists the known codes in the order of the
standard; a code outside it is kept as it is.
-/
namespace LightingNet

inductive OpCode where
  | poll
  | pollReply
  | diagData
  | command
  | dataRequest
  | dataReply
  | dmx
  | nzs
  | sync
  | address
  | input
  | todRequest
  | todData
  | todControl
  | rdm
  | rdmSub
  | media
  | mediaPatch
  | mediaControl
  | mediaControlReply
  | timeCode
  | timeSync
  | trigger
  | directory
  | directoryReply
  | videoSetup
  | videoPalette
  | videoData
  | macMaster
  | macSlave
  | firmwareMaster
  | firmwareReply
  | fileTnMaster
  | fileFnMaster
  | fileFnReply
  | ipProg
  | ipProgReply
  | unknown (code : UInt16)
  deriving DecidableEq, Repr

namespace OpCode

def table : List (OpCode × UInt16 × String) := [
  (.poll, 0x2000, "Poll"),
  (.pollReply, 0x2100, "PollReply"),
  (.diagData, 0x2300, "DiagData"),
  (.command, 0x2400, "Command"),
  (.dataRequest, 0x2700, "DataRequest"),
  (.dataReply, 0x2800, "DataReply"),
  (.dmx, 0x5000, "Dmx"),
  (.nzs, 0x5100, "Nzs"),
  (.sync, 0x5200, "Sync"),
  (.address, 0x6000, "Address"),
  (.input, 0x7000, "Input"),
  (.todRequest, 0x8000, "TodRequest"),
  (.todData, 0x8100, "TodData"),
  (.todControl, 0x8200, "TodControl"),
  (.rdm, 0x8300, "Rdm"),
  (.rdmSub, 0x8400, "RdmSub"),
  (.media, 0x9000, "Media"),
  (.mediaPatch, 0x9100, "MediaPatch"),
  (.mediaControl, 0x9200, "MediaControl"),
  (.mediaControlReply, 0x9300, "MediaControlReply"),
  (.timeCode, 0x9700, "TimeCode"),
  (.timeSync, 0x9800, "TimeSync"),
  (.trigger, 0x9900, "Trigger"),
  (.directory, 0x9a00, "Directory"),
  (.directoryReply, 0x9b00, "DirectoryReply"),
  (.videoSetup, 0xa010, "VideoSetup"),
  (.videoPalette, 0xa020, "VideoPalette"),
  (.videoData, 0xa040, "VideoData"),
  (.macMaster, 0xf000, "MacMaster"),
  (.macSlave, 0xf100, "MacSlave"),
  (.firmwareMaster, 0xf200, "FirmwareMaster"),
  (.firmwareReply, 0xf300, "FirmwareReply"),
  (.fileTnMaster, 0xf400, "FileTnMaster"),
  (.fileFnMaster, 0xf500, "FileFnMaster"),
  (.fileFnReply, 0xf600, "FileFnReply"),
  (.ipProg, 0xf800, "IpProg"),
  (.ipProgReply, 0xf900, "IpProgReply")]

def row? (op : OpCode) : Option (OpCode × UInt16 × String) := table.find? fun row => row.1 == op

def code : OpCode → UInt16
  | unknown c => c
  | op => match op.row? with
    | some row => row.2.1
    | none => 0

def ofCode (c : UInt16) : OpCode :=
  match table.find? fun row => row.2.1 == c with
  | some row => row.1
  | none => unknown c

def name : OpCode → String
  | unknown c => "Unknown(" ++ Numeral.decimal c.toNat ++ ")"
  | op => match op.row? with
    | some row => row.2.2
    | none => ""

def text : OpCode → String
  | unknown c => "OpUnknown(" ++ Numeral.hexCode c ++ ")"
  | op => "Op" ++ op.name

/-- Known operations come in the order of the table, unknown ones behind them by code. -/
def rank : OpCode → Nat
  | unknown c => table.length + c.toNat
  | op => table.findIdx fun row => row.1 == op

/-- Whether a version follows the code in a datagram. Only poll replies go without one. -/
def hasVersion (op : OpCode) : Bool := op != pollReply

end OpCode

end LightingNet
