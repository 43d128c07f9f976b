import LightingNet.Report.Packet
import LightingNet.Wire.Message
/-!
# Reports of messages

The fields of every kind of message as a record, and what a poll reply and other messages mean. A record
names its kind in the field "type".
-/
namespace LightingNet

open Report (Field Format Record)

namespace PollReply

def record : Record PollReply where
  fields := [
    .of "ip" .ipv4 ip fun r v => { r with ip := v },
    .of "port" .word port fun r v => { r with port := v },
    .of "firmware_version" .word firmwareVersion fun r v => { r with firmwareVersion := v },
    .of "net_switch" .byte netSwitch fun r v => { r with netSwitch := v },
    .of "sub_switch" .byte subSwitch fun r v => { r with subSwitch := v },
    .of "oem" .word oem fun r v => { r with oem := v },
    .of "ubea_version" .byte ubeaVersion fun r v => { r with ubeaVersion := v },
    .of "status1" .byte status1 fun r v => { r with status1 := v },
    .of "esta_manufacturer" .word estaManufacturer fun r v => { r with estaManufacturer := v },
    .of "short_name" .text shortName fun r v => { r with shortName := v },
    .of "long_name" .text longName fun r v => { r with longName := v },
    .of "node_report" .text nodeReport fun r v => { r with nodeReport := v },
    .of "num_ports" .word numPorts fun r v => { r with numPorts := v },
    .of "port_types" (.octets 4) portTypes fun r v => { r with portTypes := v },
    .of "good_input" (.octets 4) goodInput fun r v => { r with goodInput := v },
    .of "good_output_a" (.octets 4) goodOutputA fun r v => { r with goodOutputA := v },
    .of "sw_in" (.octets 4) swIn fun r v => { r with swIn := v },
    .of "sw_out" (.octets 4) swOut fun r v => { r with swOut := v },
    .of "acn_priority" .byte acnPriority fun r v => { r with acnPriority := v },
    .of "sw_macro" .byte swMacro fun r v => { r with swMacro := v },
    .of "sw_remote" .byte swRemote fun r v => { r with swRemote := v },
    .of "style" .byte style fun r v => { r with style := v },
    .of "mac" (.octets 6) mac fun r v => { r with mac := v },
    .of "bind_ip" .ipv4 bindIp fun r v => { r with bindIp := v },
    .of "bind_index" .byte bindIndex fun r v => { r with bindIndex := v },
    .of "status2" .byte status2 fun r v => { r with status2 := v },
    .of "good_output_b" (.octets 4) goodOutputB fun r v => { r with goodOutputB := v },
    .of "status3" .byte status3 fun r v => { r with status3 := v },
    .of "default_responder" .uid defaultResponder fun r v => { r with defaultResponder := v },
    .of "user" .word user fun r v => { r with user := v },
    .of "refresh_rate" .word refreshRate fun r v => { r with refreshRate := v }]
  missing := blank

def slotSummary (r : PollReply) (slot : Nat) : Json := .object [
  ("output", .orNull .port (r.output? slot)),
  ("input", .orNull .port (r.input? slot)),
  ("merge", .text (r.mergeMode slot).name),
  ("rdm", .bool (r.outputRdm slot)),
  ("active", .bool (r.outputActive slot))]

/-- What a reply means: its slots, with one past the last, and its outputs. -/
def summary (r : PollReply) : Json := .object [
  ("port_count", .nat r.portCount),
  ("rdm_capable", .bool r.rdmCapable),
  ("slots", .list r.slotSummary (List.range 5)),
  ("output_ports", .list Json.port r.outputs)]

end PollReply

namespace Poll

def record : Record Poll where
  fields := [
    .of "flags" .byte flags fun p v => { p with flags := v },
    .of "diag_priority" .byte diagPriority fun p v => { p with diagPriority := v },
    .of "target_top" .word targetTop fun p v => { p with targetTop := v },
    .of "target_bottom" .word targetBottom fun p v => { p with targetBottom := v },
    .of "esta_manufacturer" .word estaManufacturer fun p v => { p with estaManufacturer := v },
    .of "oem" .word oem fun p v => { p with oem := v }]
  missing := .untargeted 0

end Poll

namespace Diagnostic

def record : Record Diagnostic where
  fields := [
    .of "priority" .byte priority fun d v => { d with priority := v },
    .of "logical_port" .byte logicalPort fun d v => { d with logicalPort := v },
    .of "text" .text text fun d v => { d with text := v }]
  missing := ⟨0, 0, ""⟩

end Diagnostic

namespace NodeProgramming

def record : Record NodeProgramming where
  fields := [
    .of "net_switch" .byte netSwitch fun p v => { p with netSwitch := v },
    .of "bind_index" .byte bindIndex fun p v => { p with bindIndex := v },
    .of "short_name" .text shortName fun p v => { p with shortName := v },
    .of "long_name" .text longName fun p v => { p with longName := v },
    .of "sw_in" (.octets 4) swIn fun p v => { p with swIn := v },
    .of "sw_out" (.octets 4) swOut fun p v => { p with swOut := v },
    .of "sub_switch" .byte subSwitch fun p v => { p with subSwitch := v },
    .of "acn_priority" .byte acnPriority fun p v => { p with acnPriority := v },
    .of "command" .byte command fun p v => { p with command := v }]
  missing := .rename 0 "" ""

end NodeProgramming

namespace TodRequest

def record : Record TodRequest where
  fields := [
    .of "net" .byte net fun r v => { r with net := v },
    .of "command" .byte command fun r v => { r with command := v },
    .of "addresses" .bytes addresses fun r v => { r with addresses := v }]
  missing := ⟨0, 0, []⟩

end TodRequest

namespace DmxFrame

def record : Record DmxFrame where
  fields := [
    .of "sequence" .byte sequence fun f v => { f with sequence := v },
    .of "physical" .byte physical fun f v => { f with physical := v },
    .of "port" .portParts port fun f v => { f with port := v },
    .of "data" .bytes levels fun f v => { f with levels := v }]
  missing := ⟨0, 0, .zero, []⟩

end DmxFrame

namespace TodData

def record : Record TodData where
  fields := [
    .of "rdm_version" .byte rdmVersion fun d v => { d with rdmVersion := v },
    .of "port" .byte port fun d v => { d with port := v },
    .of "bind_index" .byte bindIndex fun d v => { d with bindIndex := v },
    .of "net" .byte net fun d v => { d with net := v },
    .of "response" (.coded .byte TodResponse.code .ofCode) response
      fun d v => { d with response := v },
    .of "address" .byte address fun d v => { d with address := v },
    .of "uid_total" .word uidTotal fun d v => { d with uidTotal := v },
    .of "block_count" .byte blockCount fun d v => { d with blockCount := v },
    .of "uids" (.list .uid) uids fun d v => { d with uids := v }]
  missing := ⟨1, 1, 1, 0, .full, 0, 0, 0, []⟩

end TodData

namespace TodControl

def record : Record TodControl where
  fields := [
    .of "net" .byte net fun c v => { c with net := v },
    .of "command" (.coded .byte TodCommand.code .ofCode) command fun c v => { c with command := v },
    .of "address" .byte address fun c v => { c with address := v }]
  missing := ⟨0, .none, 0⟩

end TodControl

namespace Envelope

def record : Record Envelope where
  fields := [
    .of "rdm_version" .byte rdmVersion fun e v => { e with rdmVersion := v },
    .of "net" .byte net fun e v => { e with net := v },
    .of "command" .byte command fun e v => { e with command := v },
    .of "address" .byte address fun e v => { e with address := v },
    .needing "packet" Rdm.Packet.record.format packet fun e v => { e with packet := v }]
  missing := ⟨1, 0, 0, 0, Rdm.Packet.record.missing⟩

end Envelope

namespace Layout

def all : List Layout :=
  [poll, pollReply, diagnostic, dmx, sync, programming, todRequest, todData, todControl, rdm]

def ofName? (name : String) : Option Layout := all.find? fun l => l.opcode.name == name

end Layout

namespace Message

/-- The operation and the bytes of a datagram that has no layout. -/
def unsupportedRecord : Record (OpCode × Bytes) where
  fields := [
    .of "opcode" (.coded .word OpCode.code .ofCode) Prod.fst fun r v => (v, r.2),
    .of "data" .bytes Prod.snd fun r v => (r.1, v)]
  missing := (.ofCode 0, [])

def ofFields? (l : Layout) (j : Json) : Option Message :=
  match l with
  | .poll => (Poll.record.read j).map poll
  | .pollReply => (PollReply.record.read j).map pollReply
  | .diagnostic => (Diagnostic.record.read j).map diagnostic
  | .dmx => (DmxFrame.record.read j).map dmx
  | .sync => some sync
  | .programming => (NodeProgramming.record.read j).map programming
  | .todRequest => (TodRequest.record.read j).map todRequest
  | .todData => (TodData.record.read j).map todData
  | .todControl => (TodControl.record.read j).map todControl
  | .rdm => (Envelope.record.read j).map rdm

def ofReport? (j : Json) : Option Message := do
  match ← Json.textAt "type" j with
  | "Unsupported" => (unsupportedRecord.read j).map fun r => unsupported r.1 r.2
  | name => ofFields? (← Layout.ofName? name) j

def reportFields : Message → List (String × Json)
  | poll p => Poll.record.write p
  | pollReply r => PollReply.record.write r
  | diagnostic d => Diagnostic.record.write d
  | dmx f => DmxFrame.record.write f
  | sync => []
  | programming p => NodeProgramming.record.write p
  | todRequest r => TodRequest.record.write r
  | todData d => TodData.record.write d
  | todControl c => TodControl.record.write c
  | rdm e => Envelope.record.write e
  | unsupported op datagram => unsupportedRecord.write (op, datagram)

def kind : Message → String
  | unsupported _ _ => "Unsupported"
  | m => m.opcode.name

def report (m : Message) : Json := .object (("type", .text m.kind) :: m.reportFields)

def summary : Message → List (String × Json)
  | pollReply r => [("info", r.summary)]
  | rdm e => [("info", e.packet.summary), ("universe", .port e.universeOf)]
  | todData d => [("universe", .port d.universeOf)]
  | todControl c => [("universe", .port c.universeOf)]
  | todRequest r => [("ports", .list Json.port r.ports)]
  | _ => []

end Message

end LightingNet
