import LightingNet.Proofs.Address.Ranges
import LightingNet.Proofs.Discovery.Universes
/-!
# How a node is asked for its tables

A node is asked for all its outputs and for nothing else: universe by universe in the order of its
slots, or with one request for each net. What arrives names the very universes that were meant.
-/
namespace LightingNet

namespace PollReply

private theorem inRange_of_mem_outputs {r : PollReply} {p : PortAddress} (h : p ∈ r.outputs) :
    p.InRange := by
  obtain ⟨slot, -, hslot⟩ := List.mem_filterMap.mp h
  exact inRange_output? hslot

private theorem length_outputs_le (r : PollReply) : r.outputs.length ≤ 4 := by
  have hfilter := List.length_filterMap_le r.output? (List.range r.portCount)
  have hcount : r.portCount ≤ 4 := Nat.min_le_right _ _
  rw [List.length_range] at hfilter
  exact Nat.le_trans hfilter hcount

end PollReply

namespace Cycle

def asks (mode : TodMode) (n : Node) : List Outgoing :=
  (tableRequests mode n.outputs).map fun m => ⟨m, .v4 n.address.socket⟩

/-- The messages that ask a node for all its tables, and for nothing else. -/
structure Asked (mode : TodMode) (n : Node) (sent : List Outgoing) : Prop where
  target : ∀ out ∈ sent, out.target = .v4 n.address.socket
  arrives : ∀ out ∈ sent, Message.decode out.message.toBytes = .ok out.message
  flush : mode = .flush → ∃ controls : List TodControl,
    sent.map Outgoing.message = controls.map .todControl ∧ (∀ c ∈ controls, c.command = .flush) ∧
      controls.map TodControl.universeOf = n.outputs
  request : mode = .request → ∃ requests : List TodRequest,
    sent.map Outgoing.message = requests.map .todRequest ∧
      Ranked.Ascending (fun r => r.net.toNat) requests ∧
      (∀ r ∈ requests, r.command = 0 ∧ r.ports ≠ [] ∧ ∀ p ∈ r.ports, p.net = r.net) ∧
      (requests.flatMap TodRequest.ports).Nodup ∧
      ∀ p, p ∈ requests.flatMap TodRequest.ports ↔ p ∈ n.outputs

private theorem asks_messages (mode : TodMode) (n : Node) :
    (asks mode n).map Outgoing.message = tableRequests mode n.outputs := by
  rw [asks, List.map_map]
  exact List.map_id _

section Outputs

variable {outputs : List PortAddress} (hrange : ∀ p ∈ outputs, p.InRange)

include hrange

private theorem flushes_outputs :
    (outputs.map TodControl.flush).map TodControl.universeOf = outputs := by
  have hback : ∀ p ∈ outputs, (TodControl.universeOf ∘ TodControl.flush) p = id p :=
    fun p hp => PortAddress.ofShort_short (hrange p hp)
  rw [List.map_map, List.map_congr_left hback, List.map_id]

variable (hlength : outputs.length ≤ TodRequest.maxAddresses)

include hlength

private theorem requests_outputs :
    Ranked.Ascending (fun r => r.net.toNat) (requestsByNet outputs) ∧
      (∀ r ∈ requestsByNet outputs,
        r.command = 0 ∧ r.ports ≠ [] ∧ ∀ p ∈ r.ports, p.net = r.net) ∧
      ((requestsByNet outputs).flatMap TodRequest.ports).Nodup ∧
      ∀ p, p ∈ (requestsByNet outputs).flatMap TodRequest.ports ↔ p ∈ outputs := by
  have hfew (net : UInt8) : TodRequest.Few net outputs := TodRequest.few_of_length_le hlength net
  rw [ports_requestsByNet hrange hfew]
  refine ⟨List.pairwise_map.mpr (Ranked.ascending_ofList _), ?_,
    (PortAddress.ascending_distinct outputs).nodup, fun p => PortAddress.mem_distinct⟩
  intro r hr
  obtain ⟨net, hnet, rfl⟩ := List.mem_map.mp hr
  rw [TodRequest.forPorts_onNet]
  have hports {p : PortAddress} :
      p ∈ (TodRequest.forPorts net outputs).ports ↔ p ∈ outputs ∧ p.net = net :=
    TodRequest.mem_ports_forPorts (fun q hq => hrange q (PortAddress.mem_onNet.mp hq).1) (hfew net)
  refine ⟨rfl, ?_, fun p hp => (hports.mp hp).2⟩
  obtain ⟨p, hp, hpnet⟩ := mem_nets.mp hnet
  exact List.ne_nil_of_mem (hports.mpr ⟨hp, hpnet⟩)

end Outputs

private theorem decode_of_mem_tableRequests {outputs : List PortAddress}
    (hrange : ∀ p ∈ outputs, p.InRange) {mode : TodMode} {m : Message}
    (hm : m ∈ tableRequests mode outputs) : Message.decode m.toBytes = .ok m := by
  have hread (hwell : m.WellFormed) (hfits : m.Fits) : Message.decode m.toBytes = .ok m := by
    have hkept := Message.decode_toBytes hwell []
    rwa [m.kept_eq_self_iff.mpr hfits, List.append_nil] at hkept
  cases mode with
  | flush =>
    obtain ⟨p, hp, rfl⟩ := List.mem_map.mp hm
    exact hread trivial ⟨(hrange p hp).1, trivial⟩
  | request =>
    obtain ⟨net, hnet, rfl⟩ := List.mem_map.mp hm
    obtain ⟨p, hp, rfl⟩ := mem_nets.mp hnet
    exact hread trivial ⟨(hrange p hp).1, List.length_take_le _ _⟩

theorem asked_asks (mode : TodMode) (n : Node) : Asked mode n (asks mode n) := by
  have hrange : ∀ p ∈ n.outputs, p.InRange := fun p hp => PollReply.inRange_of_mem_outputs hp
  have hlength : n.outputs.length ≤ TodRequest.maxAddresses :=
    Nat.le_trans n.reply.length_outputs_le (by decide)
  refine ⟨?_, ?_, ?_, ?_⟩
  · intro out hout
    obtain ⟨m, -, rfl⟩ := List.mem_map.mp hout
    rfl
  · intro out hout
    obtain ⟨m, hm, rfl⟩ := List.mem_map.mp hout
    exact decode_of_mem_tableRequests hrange hm
  · rintro rfl
    refine ⟨n.outputs.map TodControl.flush, ?_, ?_, flushes_outputs hrange⟩
    · rw [asks_messages, List.map_map]
      rfl
    · intro c hc
      obtain ⟨p, -, rfl⟩ := List.mem_map.mp hc
      rfl
  · rintro rfl
    refine ⟨_, ?_, requests_outputs hrange hlength⟩
    rw [asks_messages, tableRequests_request]

end Cycle

end LightingNet
