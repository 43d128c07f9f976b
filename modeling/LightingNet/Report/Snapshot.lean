import LightingNet.Report.Message
import LightingNet.Snapshot
/-!
# Reports of nodes and snapshots

Nodes, devices and snapshots as records, and reading the addresses and replies that make a snapshot.
-/
namespace LightingNet

open Report (Field Format Record)

namespace NodeAddress

def record : Record NodeAddress where
  fields := [
    .of "root" .ipv4 root fun a v => { a with root := v },
    .of "bind_index" .byte bindIndex fun a v => { a with bindIndex := v },
    .needing "socket" .ipv4Socket socket fun a v => { a with socket := v }]
  missing := ⟨.unspecified, 0, ⟨.unspecified, 0⟩⟩

def ofReport? (j : Json) : Option NodeAddress :=
  (record.read j).map fun a => make a.root a.bindIndex a.socket

def report (a : NodeAddress) : Json :=
  .object (record.write a ++ [
    ("display", .text a.text),
    ("socket_addr", .text (Socket.v4 a.socket).text)])

end NodeAddress

namespace OutputAddress

def ofReport? (j : Json) : Option OutputAddress := do
  return ⟨← NodeAddress.ofReport? j, ← Json.portAt "port" j⟩

end OutputAddress

def OutputPort.report (o : OutputPort) : Json := .object [
  ("port", .port o.port),
  ("merge", .text o.mergeMode.name),
  ("rdm", .bool o.rdm)]

def NodePort.report (p : NodePort) : Json := .object [
  ("number", .nat p.number),
  ("node", .text p.node.text),
  ("slot", .nat p.slot),
  ("input", .orNull .port p.input),
  ("output", .orNull OutputPort.report p.output),
  ("output_addr", .orNull (fun o => .text o.text) p.outputAddress?)]

namespace Node

def ofReport? (j : Json) : Option Node := do
  return ofReply (← Json.required PollReply.record.read "reply" j)
    (← Json.required Json.socket? "sender" j) (← Json.natAt "rtt_ms" j)

def reportFields (n : Node) : List (String × Json) := [
  ("display", .text n.text),
  ("addr", n.address.report),
  ("sender", .text n.sender.text),
  ("short_name", .text n.reply.shortName),
  ("long_name", .text n.reply.longName),
  ("node_report", .text n.reply.nodeReport),
  ("firmware_version", .word n.reply.firmwareVersion),
  ("esta_manufacturer", .word n.reply.estaManufacturer),
  ("rdm_capable", .bool n.reply.rdmCapable),
  ("oem", .word n.reply.oem),
  ("output_ports", .list Json.port n.outputs),
  ("ports", .list NodePort.report n.ports)]

def report (n : Node) : Json := .object n.reportFields

end Node

def MergedNode.report (m : MergedNode) : Json := .object [
  ("display", .text m.text),
  ("socket", .text m.socket.text),
  ("nodes", .list (fun n => .text n.text) m.nodes),
  ("primary", .orNull (fun n => .text n.address.text) m.primary?),
  ("short_name", .text (m.named PollReply.shortName)),
  ("long_name", .text (m.named PollReply.longName)),
  ("node_report", .text (m.named PollReply.nodeReport)),
  ("firmware_version", .word (m.named PollReply.firmwareVersion)),
  ("esta_manufacturer", .word (m.named PollReply.estaManufacturer)),
  ("rdm_capable", .bool m.rdmCapable),
  ("ports", .list NodePort.report m.ports),
  ("output_numbers", .list (fun p => .nat p.number) m.outputPorts)]

def PortOwners.report (p : PortOwners) : Json :=
  .array [.port p.port, .list (fun a => .text a.text) p.owners]

namespace DeviceTable

def ofReport? (j : Json) : Option DeviceTable := do
  return ⟨← OutputAddress.ofReport? j, ← Json.listAt Json.uid? "uids" j⟩

def report (t : DeviceTable) : Json := .array [.text t.output.text, .list Json.uid t.uids]

end DeviceTable

namespace Snapshot

def ofReport? (duration : Nat) (j : Json) : Option Snapshot := do
  let replies ← Json.listAt Node.ofReport? "nodes" j
  let tables ← Json.listAt DeviceTable.ofReport? "uids" j
  return build replies (tables.foldl (fun kept t => fileUids t.output t.uids kept) []) duration

def report (s : Snapshot) : Json := .object [
  ("empty", .bool s.isEmpty),
  ("nodes", .list Node.report s.nodes),
  ("unique_nodes", .list MergedNode.report s.merged),
  ("ports", .list Json.port s.ports),
  ("node_ports", .list PortOwners.report s.portOwners),
  ("uids", .list DeviceTable.report s.tables),
  ("all_uids", .list Json.uid s.allUids)]

def answer? (s : Snapshot) (j : Json) : Option Json := do
  match ← Json.textAt "q" j with
  | "locate" =>
    return .orNull (fun o => .object [("at", .text o.text), ("socket", .text o.node.socket.text)])
      (s.locate (← Json.uidAt "uid" j))
  | "rdm_target" =>
    return .orNull (fun t => .object [("address", .orNull (fun a => .text a.text) t.address),
      ("port", .port t.port)]) (s.rdmTarget (← Json.uidAt "uid" j))
  | "nodes_for_port" =>
    return .list (fun a => .text a.text) (s.nodesForPort (← Json.portAt "port" j))
  | "uids_on" => return .orNull (Json.list Json.uid) (s.uidsOn (← OutputAddress.ofReport? j))
  | "node" => return .orNull (fun n => .text n.text) (s.node? (← NodeAddress.ofReport? j))
  | _ => none

end Snapshot

end LightingNet
