import LightingNet.Proofs.Address.Ranges
import LightingNet.Proofs.Node.Groups
/-!
# Ports of a device

A port's number tells the bind index and the slot that it has, so ports of one device have one number
only where two members share a bind index. Of these the one with the smallest root stays.
-/
namespace LightingNet

namespace Node

/-- A node that some reply described. -/
def Described (n : Node) : Prop :=
  ∃ reply sender roundTrip, n = .ofReply reply sender roundTrip

variable {m n : Node} {p q : NodePort}

private theorem Described.bindIndex (h : n.Described) :
    n.address.bindIndex = max n.reply.bindIndex 1 := by
  obtain ⟨reply, sender, roundTrip, rfl⟩ := h
  rfl

private theorem Described.one_le_bindIndex (h : n.Described) : 1 ≤ n.address.bindIndex.toNat := by
  obtain ⟨reply, sender, roundTrip, rfl⟩ := h
  exact (NodeAddress.Made.ofReply reply sender).one_le_bindIndex

theorem port?_eq_some {slot : Nat} (h : n.port? slot = some p) :
    p.number = n.portNumber slot ∧ p.slot = slot ∧ p.node = n.address := by
  rw [port?] at h
  split at h
  · cases h
  · cases h
    exact ⟨rfl, rfl, rfl⟩

theorem mem_ports : p ∈ n.ports ↔ p.slot < n.reply.portCount ∧ n.port? p.slot = some p := by
  rw [ports, List.mem_filterMap]
  constructor
  · rintro ⟨slot, hslot, h⟩
    rw [(port?_eq_some h).2.1]
    exact ⟨List.mem_range.mp hslot, h⟩
  · rintro ⟨hslot, h⟩
    exact ⟨p.slot, List.mem_range.mpr hslot, h⟩

private theorem slot_lt_of_mem_ports (hp : p ∈ n.ports) : p.slot < 4 :=
  Nat.lt_of_lt_of_le (mem_ports.mp hp).1 (Nat.min_le_right _ _)

private theorem number_of_mem_ports (hp : p ∈ n.ports) : p.number = n.portNumber p.slot :=
  (port?_eq_some (mem_ports.mp hp).2).1

theorem node_of_mem_ports (hp : p ∈ n.ports) : p.node = n.address :=
  (port?_eq_some (mem_ports.mp hp).2).2.2

private theorem eq_of_slot_eq (hp : p ∈ n.ports) (hq : q ∈ n.ports) (hslot : p.slot = q.slot) :
    p = q := by
  have hpq := (mem_ports.mp hp).2
  rw [hslot, (mem_ports.mp hq).2] at hpq
  exact (Option.some.inj hpq).symm

theorem portNumber_eq_iff (hm : m.Described) (hn : n.Described) {slot slot' : Nat} (hslot : slot < 4)
    (hslot' : slot' < 4) :
    m.portNumber slot = n.portNumber slot' ↔
      m.address.bindIndex = n.address.bindIndex ∧ slot = slot' := by
  have hmin := hm.one_le_bindIndex
  have hmin' := hn.one_le_bindIndex
  rw [← UInt8.toNat_inj]
  simp only [portNumber]
  omega

theorem number_eq_iff (hm : m.Described) (hn : n.Described) (hp : p ∈ m.ports) (hq : q ∈ n.ports) :
    p.number = q.number ↔ m.address.bindIndex = n.address.bindIndex ∧ p.slot = q.slot := by
  rw [number_of_mem_ports hp, number_of_mem_ports hq]
  exact portNumber_eq_iff hm hn (slot_lt_of_mem_ports hp) (slot_lt_of_mem_ports hq)

private theorem nodup_ports (n : Node) : n.ports.Nodup := by
  apply List.Nodup.filterMap ?_ List.nodup_range
  intro slot slot' p hp hp'
  exact (port?_eq_some hp).2.1.symm.trans (port?_eq_some hp').2.1

private theorem Described.number_bounds (hn : n.Described) (hp : p ∈ n.ports) :
    (p.number : Int) = 4 * ((n.address.bindIndex.toNat : Int) - 1) + p.slot + 1 ∧
      1 ≤ p.number ∧ p.number ≤ 1020 := by
  have hmin := hn.one_le_bindIndex
  have hmax := n.address.bindIndex.toNat_lt
  have hslot := slot_lt_of_mem_ports hp
  rw [number_of_mem_ports hp]
  simp only [portNumber]
  omega

end Node

section Device

variable {nodes : List Node} {m : MergedNode} (hm : m ∈ mergeNodes nodes)

include hm

theorem ports_of_mem_mergeNodes :
    m.ports = Ranked.ofList NodePort.number (m.nodes.flatMap Node.ports) := by
  rw [mergeNodes_eq] at hm
  obtain ⟨socket, -, rfl⟩ := List.mem_map.mp hm
  rfl

private theorem ascending_members : Ranked.Ascending Node.rank m.nodes := by
  rw [(membersAt_of_mem_mergeNodes hm).2]
  exact Ranked.ascending_ofList _

private theorem mem_of_mem_members {n : Node} (hn : n ∈ m.nodes) : n ∈ nodes := by
  rw [(membersAt_of_mem_mergeNodes hm).2] at hn
  exact (Ranked.find?_eq_some (mem_membersAt.mp hn).2).1

/-- A port stays when no member in front of its own has a port of its number. -/
theorem mem_merged_ports_iff {n : Node} (hn : n ∈ m.nodes) (hnode : n.Described) {p : NodePort}
    (hp : p ∈ n.ports) :
    p ∈ m.ports ↔ ∀ n' ∈ m.nodes, n'.rank < n.rank → ∀ q ∈ n'.ports, q.number ≠ p.number := by
  have hascending := ascending_members hm
  have hself : n.ports.find? (fun q => q.number == p.number) = some p := by
    cases hfind : n.ports.find? (fun q => q.number == p.number) with
    | none => exact absurd hfind (by simpa using ⟨p, hp, rfl⟩)
    | some q =>
      have hq : q ∈ n.ports := List.mem_of_find?_eq_some hfind
      have hnumber : q.number = p.number := by simpa using List.find?_some hfind
      rw [Node.eq_of_slot_eq hq hp ((Node.number_eq_iff hnode hnode hq hp).mp hnumber).2]
  rw [ports_of_mem_mergeNodes hm, Ranked.mem_ofList, Ranked.find?, List.find?_flatMap,
    List.findSome?_eq_some_iff]
  constructor
  · rintro ⟨before, owner, after, hsplit, hfind, hbefore⟩ n' hn' hlt q hq hnumber
    have howner : owner ∈ m.nodes := by simp [hsplit]
    have haddress : owner.address = n.address := by
      rw [← Node.node_of_mem_ports (List.mem_of_find?_eq_some hfind), Node.node_of_mem_ports hp]
    have heq : owner = n :=
      hascending.eq_of_rank_eq howner hn (congrArg NodeAddress.rank haddress)
    subst heq
    rw [hsplit] at hascending hn'
    have hin : n' ∈ before := by
      rcases List.mem_append.mp hn' with hin | hafter
      · exact hin
      · rcases List.mem_cons.mp hafter with rfl | hafter
        · exact absurd hlt (Nat.lt_irrefl _)
        · have hgt := Ranked.Ascending.head_lt (List.pairwise_append.mp hascending).2.1 hafter
          omega
    have hnone := List.find?_eq_none.mp (hbefore n' hin) q hq
    simp [hnumber] at hnone
  · intro hfirst
    obtain ⟨before, after, hsplit⟩ := List.append_of_mem hn
    refine ⟨before, n, after, hsplit, hself, ?_⟩
    intro n' hn'
    rw [hsplit] at hascending hfirst
    have hlt : n'.rank < n.rank :=
      (List.pairwise_append.mp hascending).2.2 n' hn' n List.mem_cons_self
    apply List.find?_eq_none.mpr
    intro q hq
    simpa using hfirst n' (List.mem_append_left _ hn') hlt q hq

variable (hnodes : ∀ n ∈ nodes, n.Described)

include hnodes

theorem not_mem_merged_ports_iff {n : Node} (hn : n ∈ m.nodes) {p : NodePort} (hp : p ∈ n.ports) :
    p ∉ m.ports ↔
      ∃ n' ∈ m.nodes, n'.address.root.rank < n.address.root.rank ∧
        n'.address.bindIndex = n.address.bindIndex ∧ ∃ p' ∈ n'.ports, p'.slot = p.slot := by
  have hdescribed {n' : Node} (hn' : n' ∈ m.nodes) : n'.Described :=
    hnodes n' (mem_of_mem_members hm hn')
  rw [mem_merged_ports_iff hm hn (hdescribed hn) hp]
  push Not
  constructor
  · rintro ⟨n', hn', hlt, p', hp', hnumber⟩
    obtain ⟨hbind, hslot⟩ := (Node.number_eq_iff (hdescribed hn') (hdescribed hn) hp' hp).mp hnumber
    refine ⟨n', hn', ?_, hbind, p', hp', hslot⟩
    rcases (NodeAddress.rank_lt_rank_iff _ _).mp hlt with hroot | ⟨-, hbindLt⟩
    · exact hroot
    · simp [hbind] at hbindLt
  · rintro ⟨n', hn', hroot, hbind, p', hp', hslot⟩
    have hnumber := (Node.number_eq_iff (hdescribed hn') (hdescribed hn) hp' hp).mpr ⟨hbind, hslot⟩
    exact ⟨n', hn', (NodeAddress.rank_lt_rank_iff _ _).mpr (.inl hroot), p', hp', hnumber⟩

private theorem merged_ports_perm (hbinds : (m.nodes.map fun n => n.address.bindIndex).Nodup) :
    m.ports.Perm (m.nodes.flatMap Node.ports) := by
  have hports := ports_of_mem_mergeNodes hm
  have hnodup : (m.nodes.flatMap Node.ports).Nodup := by
    apply List.nodup_flatMap.mpr
    refine ⟨fun n _ => n.nodup_ports, ?_⟩
    apply List.Pairwise.imp ?_ (ascending_members hm)
    intro n n' hlt p hp hp'
    have haddress : n.address = n'.address := by
      rw [← Node.node_of_mem_ports hp, Node.node_of_mem_ports hp']
    exact Nat.ne_of_lt hlt (congrArg NodeAddress.rank haddress)
  have hkept : (Ranked.ofList NodePort.number (m.nodes.flatMap Node.ports)).Nodup :=
    (Ranked.ascending_ofList _).nodup
  rw [hports]
  apply (List.perm_ext_iff_of_nodup hkept hnodup).mpr
  intro p
  refine ⟨Ranked.mem_of_mem_ofList, fun hp => ?_⟩
  obtain ⟨n, hn, hp⟩ := List.mem_flatMap.mp hp
  by_contra habsent
  rw [← hports] at habsent
  obtain ⟨n', hn', hroot, hbind, -⟩ :=
    (not_mem_merged_ports_iff hm hnodes hn hp).mp habsent
  have heq : n' = n := List.inj_on_of_nodup_map hbinds hn' hn hbind
  rw [heq] at hroot
  exact Nat.lt_irrefl _ hroot

end Device

/-- Merging loses no port but to a member with a smaller root, the same bind index and a port in the
same slot. -/
theorem merged_ports {nodes : List Node} (hnodes : ∀ n ∈ nodes, n.Described) :
    (∀ n ∈ nodes, n.address.bindIndex = max n.reply.bindIndex 1 ∧ ∀ p ∈ n.ports,
      p.slot < 4 ∧
      (p.number : Int) = 4 * ((n.address.bindIndex.toNat : Int) - 1) + p.slot + 1 ∧
      1 ≤ p.number ∧ p.number ≤ 1020 ∧
      ∀ n' ∈ nodes, ∀ p' ∈ n'.ports, p'.number = p.number →
        n'.address.bindIndex = n.address.bindIndex ∧ p'.slot = p.slot) ∧
    ∀ m ∈ mergeNodes nodes,
      Ranked.Ascending NodePort.number m.ports ∧
      (∀ p ∈ m.ports, ∃ n ∈ m.nodes, p ∈ n.ports) ∧
      (∀ n ∈ m.nodes, ∀ p ∈ n.ports, p ∉ m.ports ↔
        ∃ n' ∈ m.nodes, n'.address.root.rank < n.address.root.rank ∧
          n'.address.bindIndex = n.address.bindIndex ∧ ∃ p' ∈ n'.ports, p'.slot = p.slot) ∧
      ((m.nodes.map fun n => n.address.bindIndex).Nodup →
        m.ports.Perm (m.nodes.flatMap Node.ports)) := by
  constructor
  · intro n hn
    refine ⟨(hnodes n hn).bindIndex, fun p hp => ?_⟩
    obtain ⟨hnumber, hleast, hmost⟩ := (hnodes n hn).number_bounds hp
    refine ⟨Node.slot_lt_of_mem_ports hp, hnumber, hleast, hmost, ?_⟩
    intro n' hn' p' hp' heq
    exact (Node.number_eq_iff (hnodes n' hn') (hnodes n hn) hp' hp).mp heq
  · intro m hm
    have hports := ports_of_mem_mergeNodes hm
    refine ⟨hports ▸ Ranked.ascending_ofList _, ?_, ?_, merged_ports_perm hm hnodes⟩
    · intro p hp
      rw [hports] at hp
      exact List.mem_flatMap.mp (Ranked.mem_of_mem_ofList hp)
    · intro n hn p hp
      exact not_mem_merged_ports_iff hm hnodes hn hp

/-- Two roots answer from one socket with one bind index, and a third reply has bind index 0. -/
theorem merged_ports_collision :
    let answer (root bind : UInt8) : Node :=
      Node.ofReply { PollReply.blank with
        ip := .ofNumbers 10 0 0 1, bindIp := .ofNumbers 10 0 0 root, bindIndex := bind
        numPorts := 2, portTypes := Vector.replicate 4 0x80 } (.v4 ⟨.ofNumbers 10 0 0 1, 6454⟩) 4
    let nodes := [answer 9 2, answer 1 2, answer 9 0]
    (∀ n ∈ nodes, n.Described) ∧
      (mergeNodes nodes).map (fun m => m.ports.map fun p => (p.number, p.node.root)) =
        [[(1, .ofNumbers 10 0 0 9), (2, .ofNumbers 10 0 0 9),
          (5, .ofNumbers 10 0 0 1), (6, .ofNumbers 10 0 0 1)]] ∧
      ∀ m ∈ mergeNodes nodes, ∀ p ∈ (answer 9 2).ports, p ∉ m.ports := by
  intro answer nodes
  have hdescribed : ∀ n ∈ nodes, n.Described := by
    simp only [nodes, List.forall_mem_cons]
    exact ⟨⟨_, _, _, rfl⟩, ⟨_, _, _, rfl⟩, ⟨_, _, _, rfl⟩, List.forall_mem_nil _⟩
  have hmembers : ∀ m ∈ mergeNodes nodes, answer 9 2 ∈ m.nodes ∧ answer 1 2 ∈ m.nodes := by decide
  have hslots : ∀ p ∈ (answer 9 2).ports, ∃ p' ∈ (answer 1 2).ports, p'.slot = p.slot := by decide
  refine ⟨hdescribed, by decide, ?_⟩
  intro m hm p hp
  obtain ⟨-, -, habsent, -⟩ := (merged_ports hdescribed).2 m hm
  apply (habsent _ (hmembers m hm).1 p hp).mpr
  exact ⟨answer 1 2, (hmembers m hm).2, by decide, rfl, hslots p hp⟩

end LightingNet
