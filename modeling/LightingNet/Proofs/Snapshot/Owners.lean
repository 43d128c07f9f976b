import LightingNet.Proofs.Node.Ports
/-!
# Which nodes put a universe out

The table of universes is filed from the ports that merging keeps. So a universe lists each node that
has it in a slot which no other member of its device hides, and lists no other node.
-/
namespace LightingNet

def NodePort.PutsOut (q : NodePort) (p : PortAddress) : Prop := ∃ o, q.output = some o ∧ o.port = p

namespace PortOwners

variable {ports : List NodePort} {q : NodePort} {p : PortAddress} {found : PortOwners}

/-- A universe lists the nodes of some ports that put it out, each of them once. -/
structure Lists (found : PortOwners) (ports : List NodePort) (p : PortAddress) : Prop where
  port : found.port = p
  once : found.owners.Pairwise fun a b => a.same b = false
  given : ∀ a ∈ found.owners, ∃ q ∈ ports, q.PutsOut p ∧ q.node = a
  complete : ∀ q ∈ ports, q.PutsOut p → ∃ a ∈ found.owners, q.node.same a = true

private theorem lists_nil (p : PortAddress) : Lists ⟨p, []⟩ [] p := by
  constructor <;> simp

private theorem Lists.snoc_other (h : found.Lists ports p) (hq : ¬q.PutsOut p) :
    found.Lists (ports ++ [q]) p where
  port := h.port
  once := h.once
  given a ha := by
    obtain ⟨q', hq', hout⟩ := h.given a ha
    exact ⟨q', List.mem_append_left _ hq', hout⟩
  complete q' hq' hout := by
    apply h.complete q' ?_ hout
    simp only [List.mem_append, List.mem_singleton] at hq'
    exact hq'.resolve_right fun heq => hq (heq ▸ hout)

private theorem port_add (a : NodeAddress) (found : PortOwners) :
    (found.add a).port = found.port := by
  unfold add
  split <;> rfl

private theorem Lists.add (h : found.Lists ports p) (hq : q.PutsOut p) :
    (found.add q.node).Lists (ports ++ [q]) p := by
  by_cases hany : found.owners.any q.node.same = true
  · have hkeep : found.add q.node = found := if_pos hany
    obtain ⟨a, ha, hsame⟩ := List.any_eq_true.mp hany
    rw [hkeep]
    constructor
    · exact h.port
    · exact h.once
    · intro b hb
      obtain ⟨q', hq', hout⟩ := h.given b hb
      exact ⟨q', List.mem_append_left _ hq', hout⟩
    · intro q' hq' hout
      simp only [List.mem_append, List.mem_singleton] at hq'
      cases hq' with
      | inl hq' => exact h.complete q' hq' hout
      | inr heq => exact ⟨a, ha, heq ▸ hsame⟩
  · have hadd : found.add q.node = { found with owners := found.owners ++ [q.node] } := if_neg hany
    rw [hadd]
    constructor
    · exact h.port
    · apply List.pairwise_append.mpr
      refine ⟨h.once, List.pairwise_singleton _ _, ?_⟩
      simp only [List.mem_singleton, forall_eq]
      intro a ha
      rw [Bool.eq_false_iff]
      intro hsame
      exact hany (List.any_eq_true.mpr ⟨a, ha, NodeAddress.same_symm hsame⟩)
    · intro a ha
      simp only [List.mem_append, List.mem_singleton] at ha
      cases ha with
      | inl ha =>
        obtain ⟨q', hq', hout⟩ := h.given a ha
        exact ⟨q', List.mem_append_left _ hq', hout⟩
      | inr ha => exact ⟨q, by simp, hq, ha.symm⟩
    · intro q' hq' hout
      simp only [List.mem_append, List.mem_singleton] at hq'
      cases hq' with
      | inl hq' =>
        obtain ⟨a, ha, hsame⟩ := h.complete q' hq' hout
        exact ⟨a, List.mem_append_left _ ha, hsame⟩
      | inr heq =>
        rw [heq]
        exact ⟨q.node, by simp, q.node.same_refl⟩

private theorem ascending_file {table : List PortOwners} (h : Ranked.Ascending rank table)
    (q : NodePort) : Ranked.Ascending rank (file table q) := by
  have hadd (found : PortOwners) : (found.add q.node).rank = found.rank := by
    rw [rank, port_add, rank]
  unfold file
  split
  · exact h.upsert hadd
  · exact h

private theorem find?_file {table : List PortOwners} (h : Ranked.Ascending rank table) :
    (q.PutsOut p → Ranked.find? rank p.rank (file table q) =
      some (add q.node ((Ranked.find? rank p.rank table).getD ⟨p, []⟩))) ∧
    (¬q.PutsOut p → Ranked.find? rank p.rank (file table q) = Ranked.find? rank p.rank table) := by
  have hadd (found : PortOwners) : (found.add q.node).rank = found.rank := by
    rw [rank, port_add, rank]
  unfold file
  cases hout : q.output with
  | none => simp [NodePort.PutsOut, hout]
  | some o =>
    have hputs : q.PutsOut p ↔ o.port = p := by simp [NodePort.PutsOut, hout]
    have hrank : rank ⟨o.port, []⟩ = p.rank ↔ o.port = p := PortAddress.rank_injective.eq_iff
    simp only [h.find?_upsert hadd, hputs, hrank]
    constructor
    · rintro rfl
      rw [if_pos rfl]
    · intro hne
      rw [if_neg hne]

theorem ascending_foldl_file (ports : List NodePort) :
    Ranked.Ascending rank (ports.foldl file []) := by
  induction ports using List.reverseRecOn with
  | nil => exact Ranked.ascending_nil
  | append_singleton ports q ih =>
    rw [List.foldl_append]
    exact ascending_file ih q

theorem lists_foldl_file (ports : List NodePort) (p : PortAddress) :
    ((Ranked.find? rank p.rank (ports.foldl file [])).getD ⟨p, []⟩).Lists ports p ∧
      ((Ranked.find? rank p.rank (ports.foldl file [])).isSome ↔ ∃ q ∈ ports, q.PutsOut p) := by
  induction ports using List.reverseRecOn with
  | nil => exact ⟨lists_nil p, by simp [Ranked.find?]⟩
  | append_singleton ports q ih =>
    obtain ⟨hlists, hsome⟩ := ih
    obtain ⟨hputs, hother⟩ := find?_file (q := q) (p := p) (ascending_foldl_file ports)
    rw [List.foldl_append, List.foldl_cons, List.foldl_nil]
    by_cases hq : q.PutsOut p
    · rw [hputs hq]
      exact ⟨hlists.add hq, by simp [hq]⟩
    · rw [hother hq]
      refine ⟨hlists.snoc_other hq, ?_⟩
      simp [hsome, or_and_right, exists_or, hq]

end PortOwners

namespace Node

/-- A node behind the same socket, with a smaller root and the same bind index, has a port in a
slot. -/
structure Hides (m n : Node) (slot : Nat) : Prop where
  socket : m.address.socket = n.address.socket
  root : m.address.root.rank < n.address.root.rank
  bindIndex : m.address.bindIndex = n.address.bindIndex
  port : ∃ q ∈ m.ports, q.slot = slot

/-- A node puts a universe out in a slot that none of some nodes hides. -/
def Shows (n : Node) (nodes : List Node) (p : PortAddress) : Prop :=
  ∃ slot, n.reply.output? slot = some p ∧ ∀ m ∈ nodes, ¬m.Hides n slot

private theorem lt_portCount_of_output? {n : Node} {slot : Nat} {p : PortAddress}
    (h : n.reply.output? slot = some p) : slot < n.reply.portCount := by
  unfold PollReply.output? at h
  split at h
  · rename_i hcond
    simp only [Bool.and_eq_true, decide_eq_true_eq] at hcond
    exact hcond.1
  · cases h

theorem mem_outputs_iff {n : Node} {p : PortAddress} :
    p ∈ n.outputs ↔ ∃ slot, n.reply.output? slot = some p := by
  rw [outputs, PollReply.outputs, List.mem_filterMap]
  constructor
  · rintro ⟨slot, -, h⟩
    exact ⟨slot, h⟩
  · rintro ⟨slot, h⟩
    exact ⟨slot, List.mem_range.mpr (lt_portCount_of_output? h), h⟩

private theorem port?_output {n : Node} {slot : Nat} {q : NodePort} (h : n.port? slot = some q) :
    q.output = n.outputPort? slot := by
  rw [port?] at h
  split at h <;> cases h
  rfl

theorem putsOut_iff {n : Node} {q : NodePort} (hq : q ∈ n.ports) (p : PortAddress) :
    q.PutsOut p ↔ n.reply.output? q.slot = some p := by
  rw [NodePort.PutsOut, port?_output (mem_ports.mp hq).2, outputPort?]
  cases n.reply.output? q.slot <;> simp

private theorem exists_port {n : Node} {slot : Nat} {p : PortAddress}
    (h : n.reply.output? slot = some p) : ∃ q ∈ n.ports, q.slot = slot := by
  have hport : ∃ q, n.port? slot = some q := by simp [port?, outputPort?, h]
  obtain ⟨q, hq⟩ := hport
  have hslot : q.slot = slot := (port?_eq_some hq).2.1
  refine ⟨q, mem_ports.mpr ?_, hslot⟩
  rw [hslot]
  exact ⟨lt_portCount_of_output? h, hq⟩

end Node

section Device

variable {nodes : List Node} (hnodes : Ranked.Ascending Node.rank nodes)

include hnodes

theorem mem_members_iff {m : MergedNode} (hm : m ∈ mergeNodes nodes) {n : Node} :
    n ∈ m.nodes ↔ n ∈ nodes ∧ n.address.socket = m.socket := by
  rw [(membersAt_of_mem_mergeNodes hm).2, mem_membersAt, and_comm]
  apply and_congr_left
  intro hsocket
  have hpair (k : Node) (hk : k ∈ nodes) : k.pairRank = n.pairRank → k.rank = n.rank := by
    intro heq
    exact (NodeAddress.same_iff_rank _ _).mp ((k.pairRank_eq_iff n).mp heq).2
  constructor
  · intro hfind
    exact (Ranked.find?_eq_some hfind).1
  · intro hn
    obtain ⟨k, hk⟩ := Ranked.exists_find? Node.pairRank hn
    obtain ⟨hmem, hrank⟩ := Ranked.find?_eq_some hk
    rw [hk, hnodes.eq_of_rank_eq hmem hn (hpair k hmem hrank)]

theorem exists_device {n : Node} (hn : n ∈ nodes) : ∃ m ∈ mergeNodes nodes, n ∈ m.nodes := by
  obtain ⟨m, hm, hsocket⟩ : ∃ m ∈ mergeNodes nodes, m.socket = n.address.socket := by
    have hreached : n.address.socket ∈ (mergeNodes nodes).map MergedNode.socket :=
      ((partition_mergeNodes nodes).sockets _).mpr ⟨n, hn, rfl⟩
    exact List.mem_map.mp hreached
  exact ⟨m, hm, (mem_members_iff hnodes hm).mpr ⟨hn, hsocket.symm⟩⟩

/-- The ports that the devices put a universe out of are those in slots that no node hides. -/
theorem exists_outputPort_iff (hdescribed : ∀ n ∈ nodes, n.Described) (a : NodeAddress)
    (p : PortAddress) :
    (∃ q ∈ (mergeNodes nodes).flatMap MergedNode.outputPorts, q.PutsOut p ∧ q.node = a) ↔
      ∃ n ∈ nodes, n.address = a ∧ n.Shows nodes p := by
  constructor
  · intro h
    obtain ⟨q, hq, hputs, hnode⟩ := h
    obtain ⟨m, hm, hq⟩ := List.mem_flatMap.mp hq
    have hkept : q ∈ m.ports := (List.mem_filter.mp hq).1
    obtain ⟨n, hn, hport⟩ : ∃ n ∈ m.nodes, q ∈ n.ports := by
      have hkept := hkept
      rw [ports_of_mem_mergeNodes hm] at hkept
      exact List.mem_flatMap.mp (Ranked.mem_of_mem_ofList hkept)
    obtain ⟨hmem, hsocket⟩ := (mem_members_iff hnodes hm).mp hn
    refine ⟨n, hmem, by rw [← hnode, Node.node_of_mem_ports hport], q.slot, ?_, ?_⟩
    · exact (Node.putsOut_iff hport p).mp hputs
    · intro k hk hhides
      have hk' : k ∈ m.nodes :=
        (mem_members_iff hnodes hm).mpr ⟨hk, hhides.socket.trans hsocket⟩
      apply (not_mem_merged_ports_iff hm hdescribed hn hport).mpr ?_ hkept
      exact ⟨k, hk', hhides.root, hhides.bindIndex, hhides.port⟩
  · intro h
    obtain ⟨n, hn, rfl, slot, hout, hshown⟩ := h
    obtain ⟨m, hm, hmember⟩ := exists_device hnodes hn
    obtain ⟨q, hport, rfl⟩ := Node.exists_port hout
    have hputs : q.PutsOut p := (Node.putsOut_iff hport p).mpr hout
    have hkept : q ∈ m.ports := by
      by_contra habsent
      obtain ⟨k, hk, hroot, hbind, hslot⟩ :=
        (not_mem_merged_ports_iff hm hdescribed hmember hport).mp habsent
      obtain ⟨hmem, hsocket⟩ := (mem_members_iff hnodes hm).mp hk
      have hsocket' := ((mem_members_iff hnodes hm).mp hmember).2
      exact hshown k hmem ⟨hsocket.trans hsocket'.symm, hroot, hbind, hslot⟩
    have hsome : q.output.isSome = true := by
      obtain ⟨o, ho, -⟩ := hputs
      rw [ho]
      rfl
    refine ⟨q, ?_, hputs, Node.node_of_mem_ports hport⟩
    exact List.mem_flatMap.mpr ⟨m, hm, List.mem_filter.mpr ⟨hkept, hsome⟩⟩

end Device

namespace Snapshot

variable (replies : List Node) (tables : List DeviceTable) (duration : Nat)

theorem nodes_build : (build replies tables duration).nodes = Ranked.ofList Node.rank replies := rfl

theorem ascending_nodes : Ranked.Ascending Node.rank (build replies tables duration).nodes :=
  Ranked.ascending_ofList replies

private theorem nodesForPort_eq (s : Snapshot) (p : PortAddress) :
    s.nodesForPort p = ((Ranked.find? PortOwners.rank p.rank s.portOwners).getD ⟨p, []⟩).owners := by
  unfold nodesForPort
  split
  · rename_i hfound
    rw [hfound, Option.getD_some]
  · rename_i hnone
    rw [hnone, Option.getD_none]

theorem mem_ports_iff (s : Snapshot) (p : PortAddress) :
    p ∈ s.ports ↔ (Ranked.find? PortOwners.rank p.rank s.portOwners).isSome := by
  simp [ports, Ranked.find?, PortOwners.rank, PortAddress.rank_injective.eq_iff]

private theorem ascending_ports :
    Ranked.Ascending PortAddress.rank (build replies tables duration).ports :=
  List.pairwise_map.mpr (PortOwners.ascending_foldl_file _)

private theorem once_nodesForPort (p : PortAddress) :
    ((build replies tables duration).nodesForPort p).Pairwise fun a b => a.same b = false := by
  rw [nodesForPort_eq]
  exact (PortOwners.lists_foldl_file _ p).1.once

variable {replies}

section Described

variable (hdescribed : ∀ n ∈ replies, n.Described)

include hdescribed

private theorem described_nodes : ∀ n ∈ (build replies tables duration).nodes, n.Described :=
  fun n hn => hdescribed n (Ranked.mem_of_mem_ofList hn)

private theorem mem_nodesForPort (a : NodeAddress) (p : PortAddress) :
    let s := build replies tables duration
    a ∈ s.nodesForPort p ↔ ∃ n ∈ s.nodes, n.address = a ∧ n.Shows s.nodes p := by
  intro s
  have hnodes : Ranked.Ascending Node.rank s.nodes := ascending_nodes replies tables duration
  have hwitness := exists_outputPort_iff hnodes (described_nodes tables duration hdescribed)
  have hlists := (PortOwners.lists_foldl_file (s.merged.flatMap MergedNode.outputPorts) p).1
  rw [nodesForPort_eq, ← hwitness]
  constructor
  · exact hlists.given a
  · intro h
    obtain ⟨n, hn, hn', -⟩ := (hwitness a p).mp h
    obtain ⟨q, hq, hputs, hnode⟩ := h
    obtain ⟨b, hb, hsame⟩ := hlists.complete q hq hputs
    obtain ⟨k, hk, hk', -⟩ := (hwitness b p).mp (hlists.given b hb)
    have hrank : k.rank = n.rank := by
      rw [Node.rank, Node.rank, hk', hn', ← hnode, (NodeAddress.same_iff_rank _ _).mp hsame]
    rw [hnodes.eq_of_rank_eq hk hn hrank, hn'] at hk'
    exact hk' ▸ hb

private theorem mem_ports_build (p : PortAddress) :
    let s := build replies tables duration
    p ∈ s.ports ↔ ∃ n ∈ s.nodes, n.Shows s.nodes p := by
  intro s
  have hnodes : Ranked.Ascending Node.rank s.nodes := ascending_nodes replies tables duration
  have hwitness := exists_outputPort_iff hnodes (described_nodes tables duration hdescribed)
  have hsome := (PortOwners.lists_foldl_file (s.merged.flatMap MergedNode.outputPorts) p).2
  rw [mem_ports_iff]
  refine Iff.trans hsome ⟨?_, ?_⟩
  · intro h
    obtain ⟨q, hq, hputs⟩ := h
    obtain ⟨n, hn, -, hshows⟩ := (hwitness q.node p).mp ⟨q, hq, hputs, rfl⟩
    exact ⟨n, hn, hshows⟩
  · intro h
    obtain ⟨n, hn, hshows⟩ := h
    obtain ⟨q, hq, hputs, -⟩ := (hwitness n.address p).mpr ⟨n, hn, rfl, hshows⟩
    exact ⟨q, hq, hputs⟩

end Described

/-- Where no two nodes behind one socket share a bind index, nothing is hidden. -/
theorem shows_iff_mem_outputs {nodes : List Node}
    (hbinds : ∀ m ∈ nodes, ∀ n ∈ nodes, m.address.socket = n.address.socket →
      m.address.bindIndex = n.address.bindIndex → m = n)
    {n : Node} (hn : n ∈ nodes) (p : PortAddress) : n.Shows nodes p ↔ p ∈ n.outputs := by
  rw [Node.mem_outputs_iff]
  apply exists_congr
  intro slot
  apply and_iff_left_of_imp
  intro _ m hm hhides
  have heq : m = n := hbinds m hm n hn hhides.socket hhides.bindIndex
  exact Nat.lt_irrefl _ (heq ▸ hhides.root)

/-- Under each universe a snapshot has, once, every node with a slot for it that no other node hides,
and no other node. Those are all its nodes that put the universe out, unless two nodes behind one socket
share a bind index. -/
theorem owners_of_universe (hdescribed : ∀ n ∈ replies, n.Described) :
    let s := build replies tables duration
    (∀ p, (s.nodesForPort p).Pairwise fun a b => a.same b = false) ∧
    (∀ p a, a ∈ s.nodesForPort p ↔ ∃ n ∈ s.nodes, n.address = a ∧ n.Shows s.nodes p) ∧
    Ranked.Ascending PortAddress.rank s.ports ∧
    (∀ p, p ∈ s.ports ↔ ∃ n ∈ s.nodes, n.Shows s.nodes p) ∧
    ((∀ m ∈ s.nodes, ∀ n ∈ s.nodes, m.address.socket = n.address.socket →
        m.address.bindIndex = n.address.bindIndex → m = n) →
      (∀ p a, a ∈ s.nodesForPort p ↔ ∃ n ∈ s.nodes, n.address = a ∧ p ∈ n.outputs) ∧
      ∀ p, p ∈ s.ports ↔ ∃ n ∈ s.nodes, p ∈ n.outputs) := by
  intro s
  have hnodesFor := mem_nodesForPort tables duration hdescribed
  have hports := mem_ports_build tables duration hdescribed
  refine ⟨once_nodesForPort replies tables duration, fun p a => hnodesFor a p,
    ascending_ports replies tables duration, hports, ?_⟩
  intro hbinds
  constructor
  · intro p a
    refine Iff.trans (hnodesFor a p) ?_
    apply exists_congr
    intro n
    apply and_congr_right
    intro hn
    rw [shows_iff_mem_outputs hbinds hn]
  · intro p
    refine Iff.trans (hports p) ?_
    apply exists_congr
    intro n
    apply and_congr_right
    intro hn
    rw [shows_iff_mem_outputs hbinds hn]

def twoRoots (bindIndex : UInt8) : List Node :=
  let answer (root bind swOut : UInt8) : Node :=
    Node.ofReply { PollReply.blank with
      ip := .ofNumbers 10 0 0 1, bindIp := .ofNumbers 10 0 0 root, bindIndex := bind, numPorts := 1
      portTypes := Vector.replicate 4 0x80, swOut := Vector.replicate 4 swOut }
      (.v4 ⟨.ofNumbers 10 0 0 1, 6454⟩) 4
  [answer 1 1 0, answer 9 bindIndex 7]

private theorem described_twoRoots (bindIndex : UInt8) : ∀ n ∈ twoRoots bindIndex, n.Described := by
  simp only [twoRoots, List.forall_mem_cons]
  exact ⟨⟨_, _, _, rfl⟩, ⟨_, _, _, rfl⟩, List.forall_mem_nil _⟩

theorem owners_of_universe_twoRoots :
    (∀ n ∈ twoRoots 2, n.Described) ∧
      ∀ p a, a ∈ (build (twoRoots 2) [] 0).nodesForPort p ↔
        ∃ n ∈ (build (twoRoots 2) [] 0).nodes, n.address = a ∧ p ∈ n.outputs := by
  refine ⟨described_twoRoots 2, ?_⟩
  obtain ⟨-, -, -, -, hunhidden⟩ := owners_of_universe [] 0 (described_twoRoots 2)
  apply (hunhidden ?_).1
  decide

/-- With one bind index, the second root puts the universe 0.0.7 out while the snapshot lists neither
the node nor the universe. -/
theorem owner_missing :
    let s := build (twoRoots 1) [] 0
    (∃ n ∈ s.nodes, (⟨0, 0, 7⟩ : PortAddress) ∈ n.outputs) ∧ s.nodesForPort ⟨0, 0, 7⟩ = [] ∧
      s.ports = [⟨0, 0, 0⟩] := by
  decide

end Snapshot

end LightingNet
