import LightingNet.Discovery.Cycle
import LightingNet.Proofs.Node.Identity
import LightingNet.Proofs.Ranked
import LightingNet.Proofs.Wire.RoundTrip
import LightingNet.Settings.Json
/-!
# The universes that table requests name

A request for tables has room for 32 universes of one net, in their short forms. Of universes within
their ranges it names each that is wanted on its net once, ascending, and no other; where no net has too
many of them, one request for each net names all that are wanted.
-/
namespace LightingNet

namespace PortAddress

def onNet (net : UInt8) (ports : List PortAddress) : List PortAddress :=
  ports.filter fun p => p.net == net

def distinct (ports : List PortAddress) : List PortAddress := Ranked.sort rank ports.dedup

variable {net : UInt8} {ports : List PortAddress} {p q : PortAddress}

@[simp] theorem mem_onNet : p ∈ onNet net ports ↔ p ∈ ports ∧ p.net = net := by simp [onNet]

private theorem length_dedup_onNet_le (net : UInt8) (ports : List PortAddress) :
    (onNet net ports).dedup.length ≤ ports.length :=
  ((List.dedup_sublist _).trans List.filter_sublist).length_le

private theorem distinct_eq_ofList (ports : List PortAddress) :
    distinct ports = Ranked.ofList rank ports :=
  (Ranked.ofList_eq_sort_dedup rank_injective ports).symm

theorem ascending_distinct (ports : List PortAddress) : Ranked.Ascending rank (distinct ports) := by
  rw [distinct_eq_ofList]
  exact Ranked.ascending_ofList ports

@[simp] theorem mem_distinct : p ∈ distinct ports ↔ p ∈ ports := by
  rw [distinct_eq_ofList, Ranked.mem_ofList_of_injective rank_injective]

private theorem rank_lt_of_net_lt (h : p.net < q.net) : p.rank < q.rank := by
  have hsubnet := p.subnet.toNat_lt
  have huni := p.uni.toNat_lt
  rw [UInt8.lt_iff_toNat_lt] at h
  simp only [rank]
  omega

private theorem rank_ofShort (net short : UInt8) :
    (ofShort net short).rank =
      (net &&& 0x7f).toNat * 65536 + short.toNat / 16 * 256 + short.toNat % 16 := by
  have hlt := short.toNat_lt
  have hhigh : (short >>> 4).toNat = short.toNat / 16 := by
    rw [UInt8.toNat_shiftRight, Nat.shiftRight_eq_div_pow]
    rfl
  simp only [ofShort, masked, rank, toNat_and_four_bits, hhigh]
  omega

private theorem rank_ofShort_lt {net short short' : UInt8} (h : short.toNat < short'.toNat) :
    (ofShort net short).rank < (ofShort net short').rank := by
  rw [rank_ofShort, rank_ofShort]
  omega

end PortAddress

namespace TodRequest

open PortAddress (onNet mem_onNet distinct)

variable {net short : UInt8} {ports : List PortAddress}

theorem forPorts_onNet (net : UInt8) (ports : List PortAddress) :
    forPorts net (onNet net ports) = forPorts net ports := by
  simp [forPorts, onNet]

private theorem ascending_addresses_forPorts (net : UInt8) (ports : List PortAddress) :
    Ranked.Ascending UInt8.toNat (forPorts net ports).addresses :=
  (Ranked.ascending_ofList _).sublist (List.take_sublist _ _)

private theorem ascending_ports_forPorts (net : UInt8) (ports : List PortAddress) :
    Ranked.Ascending PortAddress.rank (forPorts net ports).ports :=
  List.pairwise_map.mpr ((ascending_addresses_forPorts net ports).imp PortAddress.rank_ofShort_lt)

private theorem exists_of_mem_addresses (h : short ∈ (forPorts net ports).addresses) :
    ∃ p ∈ ports, p.net = net ∧ p.short = short := by
  have hshort := Ranked.mem_of_mem_ofList (List.mem_of_mem_take h)
  simpa [and_assoc] using hshort

/-- Universes of a net that one request has room for. -/
def Few (net : UInt8) (ports : List PortAddress) : Prop :=
  (onNet net ports).dedup.length ≤ maxAddresses

theorem few_of_length_le (h : ports.length ≤ maxAddresses) (net : UInt8) : Few net ports :=
  Nat.le_trans (PortAddress.length_dedup_onNet_le net ports) h

theorem mem_addresses_forPorts (hfew : Few net ports) :
    short ∈ (forPorts net ports).addresses ↔ ∃ p ∈ ports, p.net = net ∧ p.short = short := by
  have hinjective : Function.Injective UInt8.toNat := fun _ _ => UInt8.toNat_inj.mp
  let shorts := (onNet net ports).map PortAddress.short
  have hsubset : shorts ⊆ (onNet net ports).dedup.map PortAddress.short := by
    intro s hs
    simpa [shorts] using hs
  have hlength : (Ranked.ofList UInt8.toNat shorts).length ≤ maxAddresses := by
    apply Nat.le_trans (Ranked.length_ofList_le hsubset)
    rw [List.length_map]
    exact hfew
  have hwhole : (forPorts net ports).addresses = Ranked.ofList UInt8.toNat shorts :=
    List.take_of_length_le hlength
  rw [hwhole, Ranked.mem_ofList_of_injective hinjective]
  simp [shorts, and_assoc]

private theorem exists_of_mem_ports {q : PortAddress} (h : q ∈ (forPorts net ports).ports) :
    ∃ p ∈ ports, p.net = net ∧ q = PortAddress.ofShort net p.short := by
  obtain ⟨short, hshort, rfl⟩ := List.mem_map.mp h
  obtain ⟨p, hp, hnet, rfl⟩ := exists_of_mem_addresses hshort
  exact ⟨p, hp, hnet, rfl⟩

private theorem net_of_mem_ports (hnet : net ≤ 0x7f) {q : PortAddress}
    (h : q ∈ (forPorts net ports).ports) : q.net = net := by
  obtain ⟨p, -, -, rfl⟩ := exists_of_mem_ports h
  exact (and_seven_bits_iff net).mpr hnet

section InRange

variable (hrange : ∀ p ∈ onNet net ports, p.InRange)

include hrange

private theorem mem_of_mem_ports {q : PortAddress} (h : q ∈ (forPorts net ports).ports) :
    q ∈ ports ∧ q.net = net := by
  obtain ⟨p, hp, rfl, rfl⟩ := exists_of_mem_ports h
  rw [PortAddress.ofShort_short (hrange p (mem_onNet.mpr ⟨hp, rfl⟩))]
  exact ⟨hp, rfl⟩

theorem mem_ports_forPorts (hfew : Few net ports) {q : PortAddress} :
    q ∈ (forPorts net ports).ports ↔ q ∈ ports ∧ q.net = net := by
  constructor
  · exact mem_of_mem_ports hrange
  · rintro ⟨hq, rfl⟩
    have hshort := (mem_addresses_forPorts hfew).mpr ⟨q, hq, rfl, rfl⟩
    have hback := PortAddress.ofShort_short (hrange q (mem_onNet.mpr ⟨hq, rfl⟩))
    exact List.mem_map.mpr ⟨q.short, hshort, hback⟩

private theorem ports_forPorts (hfew : Few net ports) :
    (forPorts net ports).ports = distinct (onNet net ports) := by
  apply (ascending_ports_forPorts net ports).eq_of_mem_iff (PortAddress.ascending_distinct _)
  intro p
  rw [mem_ports_forPorts hrange hfew, PortAddress.mem_distinct, mem_onNet]

end InRange

private theorem decode_forPorts (net : UInt8) (ports : List PortAddress) :
    Message.decode (Message.todRequest (forPorts net ports)).toBytes =
      .ok (.todRequest { forPorts net ports with net := net &&& 0x7f }) := by
  have hroom : (forPorts net ports).addresses.length ≤ 32 := List.length_take_le 32 _
  have hkept : (Message.todRequest (forPorts net ports)).kept =
      .todRequest { forPorts net ports with net := net &&& 0x7f } := by
    rw [Message.kept, kept, List.take_of_length_le hroom]
    rfl
  have hread := Message.decode_toBytes (m := .todRequest (forPorts net ports)) trivial []
  rwa [List.append_nil, hkept] at hread

private theorem ports_mask_net (r : TodRequest) :
    TodRequest.ports { r with net := r.net &&& 0x7f } = r.ports := by
  refine List.map_congr_left fun short _ => ?_
  rw [PortAddress.ofShort, PortAddress.masked, and_mask_idem]
  rfl

/-- A request that names the universes of a net once. Those in their ranges are named as they are; one
that is not goes by the universe of its short form. -/
structure NamesOnce (net : UInt8) (wanted : List PortAddress) (r : TodRequest) : Prop where
  asked : r.net = net
  ascending : r.addresses.Pairwise (· < ·)
  addresses : r.addresses =
    (((onNet net wanted).map PortAddress.short).dedup.mergeSort fun a b => a ≤ b).take 32
  arrives : ∃ received, Message.decode (Message.todRequest r).toBytes = .ok (.todRequest received) ∧
    received.addresses = r.addresses ∧ received.ports = r.ports
  origin : ∀ q ∈ r.ports, ∃ p ∈ wanted, p.net = net ∧ q = .ofShort net p.short
  /-- No universe of another net is named. -/
  ofNet : net ≤ 0x7f → ∀ q ∈ r.ports, q.net = net
  own : (∀ p ∈ onNet net wanted, p.InRange) → ∀ p ∈ r.ports, p ∈ wanted ∧ p.net = net
  whole : (∀ p ∈ onNet net wanted, p.InRange) → Few net wanted →
    r.ports = distinct (onNet net wanted)

private theorem namesOnce_forPorts (net : UInt8) (ports : List PortAddress) :
    NamesOnce net ports (forPorts net ports) where
  asked := rfl
  ascending := ascending_addresses_forPorts net ports
  addresses := by
    have hinjective : Function.Injective UInt8.toNat := fun _ _ => UInt8.toNat_inj.mp
    exact congrArg (List.take 32) (Ranked.ofList_eq_sort_dedup hinjective _)
  arrives := ⟨_, decode_forPorts net ports, rfl, ports_mask_net (forPorts net ports)⟩
  origin := fun _ hq => exists_of_mem_ports hq
  ofNet := fun hnet _ hq => net_of_mem_ports hnet hq
  own := fun hrange _ hp => mem_of_mem_ports hrange hp
  whole := fun hrange hfew => ports_forPorts hrange hfew

end TodRequest

namespace Cycle

open PortAddress (onNet mem_onNet distinct)

def nets (outputs : List PortAddress) : Bytes :=
  Ranked.ofList UInt8.toNat (outputs.map PortAddress.net)

theorem mem_nets {outputs : List PortAddress} {net : UInt8} :
    net ∈ nets outputs ↔ ∃ p ∈ outputs, p.net = net := by
  rw [nets, Ranked.mem_ofList_of_injective fun _ _ => UInt8.toNat_inj.mp]
  exact List.mem_map

/-- The requests for some universes, one for each net with those that are on it. -/
def requestsByNet (outputs : List PortAddress) : List TodRequest :=
  (nets outputs).map fun net => TodRequest.forPorts net (onNet net outputs)

theorem tableRequests_request (outputs : List PortAddress) :
    tableRequests .request outputs = (requestsByNet outputs).map .todRequest := by
  simp only [requestsByNet, List.map_map, TodRequest.forPorts_onNet]
  rfl

theorem ports_requestsByNet {outputs : List PortAddress} (hrange : ∀ p ∈ outputs, p.InRange)
    (hfew : ∀ net, TodRequest.Few net outputs) :
    (requestsByNet outputs).flatMap TodRequest.ports = distinct outputs := by
  have hports (net : UInt8) {p : PortAddress} :
      p ∈ (TodRequest.forPorts net outputs).ports ↔ p ∈ outputs ∧ p.net = net :=
    TodRequest.mem_ports_forPorts (fun q hq => hrange q (mem_onNet.mp hq).1) (hfew net)
  have hascending : Ranked.Ascending PortAddress.rank
      ((nets outputs).flatMap fun net => (TodRequest.forPorts net outputs).ports) := by
    -- Within a request the short forms ascend, and from request to request the nets do.
    refine List.pairwise_flatMap.mpr ⟨?_, ?_⟩
    · intro net _
      exact TodRequest.ascending_ports_forPorts net outputs
    · refine (Ranked.ascending_ofList _).imp ?_
      intro net net' hlt p hp q hq
      obtain ⟨-, rfl⟩ := (hports net).mp hp
      obtain ⟨-, rfl⟩ := (hports net').mp hq
      exact PortAddress.rank_lt_of_net_lt hlt
  simp only [requestsByNet, List.flatMap_map, TodRequest.forPorts_onNet]
  apply hascending.eq_of_mem_iff (PortAddress.ascending_distinct outputs)
  intro p
  simp only [List.mem_flatMap, mem_nets, hports, PortAddress.mem_distinct]
  constructor
  · rintro ⟨net, -, hp, -⟩
    exact hp
  · intro hp
    exact ⟨p.net, ⟨p, hp, rfl⟩, hp, rfl⟩

/-- Table requests name each wanted universe once, as long as universes lie in their ranges: a request
those that are on its net, also as it arrives, and one request for each net all of them. -/
theorem universes_named_once (net : UInt8) (ports : List PortAddress) :
    TodRequest.NamesOnce net ports (TodRequest.forPorts net ports) ∧
      tableRequests .request ports = (requestsByNet ports).map .todRequest ∧
      ((∀ p ∈ ports, p.InRange) → (∀ net, TodRequest.Few net ports) →
        (requestsByNet ports).flatMap TodRequest.ports = distinct ports) :=
  ⟨TodRequest.namesOnce_forPorts net ports, tableRequests_request ports, ports_requestsByNet⟩

theorem universes_named_once_two_nets :
    let ports : List PortAddress := [⟨1, 2, 3⟩, ⟨0, 0, 5⟩, ⟨1, 0, 0⟩, ⟨1, 2, 3⟩]
    (TodRequest.forPorts 1 ports).ports = [⟨1, 0, 0⟩, ⟨1, 2, 3⟩] ∧
      (requestsByNet ports).flatMap TodRequest.ports = [⟨0, 0, 5⟩, ⟨1, 0, 0⟩, ⟨1, 2, 3⟩] := by
  intro ports
  have hrange : ∀ p ∈ ports, p.InRange := by simp [ports, PortAddress.InRange]
  have hfew (net : UInt8) : TodRequest.Few net ports := TodRequest.few_of_length_le (by decide) net
  obtain ⟨hnames, -, hgroups⟩ := universes_named_once 1 ports
  rw [hnames.whole (fun p hp => hrange p (mem_onNet.mp hp).1) (hfew 1), hgroups hrange hfew]
  simp only [PortAddress.distinct_eq_ofList]
  decide

/-- From JSON comes a universe 0.0.16, which has the short form of 0.1.0: a request for both names one of
them. -/
theorem stray_universe_misnamed :
    let stray : PortAddress := ⟨0, 0, 16⟩
    let wanted : List PortAddress := [stray, ⟨0, 1, 0⟩]
    PortAddress.ofJson? (.object [("net", .nat 0), ("subnet", .nat 0), ("universe", .nat 16)]) =
        some stray ∧
      (TodRequest.Few 0 [stray] ∧ (TodRequest.forPorts 0 [stray]).ports = [⟨0, 1, 0⟩] ∧
        (TodRequest.forPorts 0 [stray]).ports ≠ distinct (onNet 0 [stray])) ∧
      (∀ net, TodRequest.Few net wanted) ∧
      (requestsByNet wanted).flatMap TodRequest.ports = [⟨0, 1, 0⟩] ∧
      (requestsByNet wanted).flatMap TodRequest.ports ≠ distinct wanted := by
  intro stray wanted
  have hfew (net : UInt8) : TodRequest.Few net wanted := TodRequest.few_of_length_le (by decide) net
  refine ⟨by decide, ⟨TodRequest.few_of_length_le (by decide) 0, by decide, ?_⟩, hfew,
    by decide, ?_⟩
  · rw [PortAddress.distinct_eq_ofList]
    decide
  · rw [PortAddress.distinct_eq_ofList]
    decide

end Cycle

end LightingNet
