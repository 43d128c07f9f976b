import LightingNet.Json
import LightingNet.Node.Address
import LightingNet.Settings.Basic
/-!
# Settings as JSON

The JSON form of identifiers, addresses and settings. An identifier is an array of its six bytes,
a time a number of milliseconds; addresses are written as their texts. Values are taken as they
stand: parts of a port-address are not masked and a bind index of 0 stays 0.
-/
namespace LightingNet

namespace Rdm.Uid

def ofJson? (j : Json) : Option Uid := do ofBytes? (← j.listOf? Json.byte?)

def toJson (u : Uid) : Json := .array (u.bytes.map fun b => .nat b.toNat)

end Rdm.Uid

namespace Ipv4

def ofJson? (j : Json) : Option Ipv4 := do parse? (← j.text?)

end Ipv4

namespace Ipv4Socket

def ofJson? (j : Json) : Option Ipv4Socket := do parse? (← j.text?)

end Ipv4Socket

namespace Socket

def ofJson? (j : Json) : Option Socket := do parse? (← j.text?)

end Socket

namespace PortAddress

def ofJson? (j : Json) : Option PortAddress :=
  match j.record? ["net", "subnet", "universe"] with
  | some [net, subnet, uni] => do return ⟨← net.byte?, ← subnet.byte?, ← uni.byte?⟩
  | _ => none

def toJson (p : PortAddress) : Json :=
  .object [("net", .nat p.net.toNat), ("subnet", .nat p.subnet.toNat),
    ("universe", .nat p.uni.toNat)]

end PortAddress

namespace NodeAddress

def ofJson? (j : Json) : Option NodeAddress :=
  match j.record? ["root", "bind_index", "socket"] with
  | some [root, bindIndex, socket] => do
    return ⟨← Ipv4.ofJson? root, ← bindIndex.byte?, ← Ipv4Socket.ofJson? socket⟩
  | _ => none

def toJson (a : NodeAddress) : Json :=
  .object [("root", .text a.root.text), ("bind_index", .nat a.bindIndex.toNat),
    ("socket", .text a.socket.text)]

end NodeAddress

namespace OutputAddress

def ofJson? (j : Json) : Option OutputAddress :=
  match j.record? ["node", "port"] with
  | some [node, port] => do return ⟨← NodeAddress.ofJson? node, ← PortAddress.ofJson? port⟩
  | _ => none

def toJson (o : OutputAddress) : Json :=
  .object [("node", o.node.toJson), ("port", o.port.toJson)]

end OutputAddress

namespace BindMode

def ofJson? (j : Json) : Option BindMode :=
  j.choice? [("Wildcard", wildcard), ("PerInterface", perInterface)]

def toJson : BindMode → Json
  | wildcard => .text "Wildcard"
  | perInterface => .text "PerInterface"

end BindMode

namespace TodMode

def ofJson? (j : Json) : Option TodMode := j.choice? [("Flush", flush), ("Request", request)]

def toJson : TodMode → Json
  | flush => .text "Flush"
  | request => .text "Request"

end TodMode

namespace MergeMode

def ofJson? (j : Json) : Option MergeMode := j.choice? [("Htp", htp), ("Ltp", ltp)]

def toJson (m : MergeMode) : Json := .text m.name

end MergeMode

namespace ChannelSettings

def ofJson? (j : Json) : Option ChannelSettings :=
  match j.record? ["ports", "bind_mode", "send_buffers", "buffer_size", "select_timeout"] with
  | some [ports, bindMode, sendBuffers, bufferSize, selectTimeout] => do
    return ⟨← ports.listOf? Json.word?, ← BindMode.ofJson? bindMode, ← sendBuffers.quad?,
      ← bufferSize.quad?, ← selectTimeout.quad?⟩
  | _ => none

def toJson (s : ChannelSettings) : Json :=
  .object [("ports", .array (s.ports.map fun p => .nat p.toNat)), ("bind_mode", s.bindMode.toJson),
    ("send_buffers", .nat s.sendBuffers), ("buffer_size", .nat s.bufferSize),
    ("select_timeout", .nat s.selectTimeout)]

end ChannelSettings

namespace DiscoverySettings

def ofJson? (j : Json) : Option DiscoverySettings :=
  match j.record? ["targets", "port", "poll_reply_wait", "tod_data_wait", "rdm_discovery",
    "tod_mode", "tick", "poll_flags"] with
  | some [targets, port, pollReplyWait, todDataWait, rdmDiscovery, todMode, tick, pollFlags] => do
    return ⟨← targets.listOf? Socket.ofJson?, ← port.word?, ← pollReplyWait.quad?,
      ← todDataWait.quad?, ← rdmDiscovery.bool?, ← TodMode.ofJson? todMode, ← tick.quad?,
      ← pollFlags.byte?⟩
  | _ => none

def toJson (s : DiscoverySettings) : Json :=
  .object [("targets", .array (s.targets.map fun t => .text t.text)), ("port", .nat s.port.toNat),
    ("poll_reply_wait", .nat s.pollReplyWait), ("tod_data_wait", .nat s.todDataWait),
    ("rdm_discovery", .bool s.rdmDiscovery), ("tod_mode", s.todMode.toJson),
    ("tick", .nat s.tick), ("poll_flags", .nat s.pollFlags.toNat)]

end DiscoverySettings

namespace RequesterSettings

def ofJson? (j : Json) : Option RequesterSettings :=
  match j.record? ["source_uid", "timeout", "broadcast"] with
  | some [sourceUid, timeout, broadcast] => do
    return ⟨← Rdm.Uid.ofJson? sourceUid, ← timeout.quad?, ← Socket.ofJson? broadcast⟩
  | _ => none

def toJson (s : RequesterSettings) : Json :=
  .object [("source_uid", s.sourceUid.toJson), ("timeout", .nat s.timeout),
    ("broadcast", .text s.broadcast.text)]

end RequesterSettings

end LightingNet
