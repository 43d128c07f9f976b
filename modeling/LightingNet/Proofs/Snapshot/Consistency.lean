import LightingNet.Proofs.Snapshot.Owners
/-!
# The parts of a snapshot

A snapshot keeps the first reply of each node, by address. All its other parts are made from these
nodes, so they name no other node, and making the snapshot again from its own nodes changes nothing.
-/
namespace LightingNet

namespace Snapshot

/-- The parts of a snapshot fit each other and the replies that it was made from. -/
structure Consistent (s : Snapshot) (replies : List Node) : Prop where
  ascending : s.nodes.Pairwise fun m n =>
    m.address.root.rank < n.address.root.rank ∨
      m.address.root = n.address.root ∧ m.address.bindIndex < n.address.bindIndex
  heard : ∀ m ∈ replies, ∃ n ∈ s.nodes, n.address.same m.address = true
  first : ∀ n, n ∈ s.nodes ↔ Earliest (fun m => m.address.same n.address = true) replies n
  merged : s.merged = mergeNodes s.nodes
  device : ∀ n ∈ s.nodes, ∃ m, (s.merged.filter fun m => n ∈ m.nodes) = [m] ∧
    m.socket = n.address.socket
  found : ∀ a n, s.node? a = some n ↔ n ∈ s.nodes ∧ n.address.same a = true
  owners : ∀ p ∈ s.portOwners, ∀ a ∈ p.owners, ∃ n ∈ s.nodes, n.address = a

variable (replies : List Node) (tables : List DeviceTable) (duration : Nat)

theorem mem_nodes_build_iff (n : Node) :
    n ∈ (build replies tables duration).nodes ↔
      Earliest (fun m => m.address.same n.address = true) replies n := by
  have hsame (m : Node) : (m.rank == n.rank) = true ↔ m.address.same n.address = true := by
    rw [beq_iff_eq, NodeAddress.same_iff_rank, Node.rank, Node.rank]
  rw [nodes_build, Ranked.mem_ofList, earliest_iff_find? hsame]
  rfl

private theorem exists_node_of_reply {m : Node} (hm : m ∈ replies) :
    ∃ n ∈ (build replies tables duration).nodes, n.address.same m.address = true := by
  obtain ⟨n, hn⟩ := Ranked.exists_find? Node.rank hm
  have hrank : n.rank = m.rank := (Ranked.find?_eq_some hn).2
  refine ⟨n, ?_, (NodeAddress.same_iff_rank _ _).mpr hrank⟩
  rw [nodes_build, Ranked.mem_ofList, hrank, hn]

theorem node?_build_iff (a : NodeAddress) (n : Node) :
    (build replies tables duration).node? a = some n ↔
      n ∈ (build replies tables duration).nodes ∧ n.address.same a = true := by
  have hascending := ascending_nodes replies tables duration
  rw [node?, hascending.search?_eq_find?, NodeAddress.same_iff_rank, hascending.mem_iff_find?]
  constructor
  · intro hfind
    have hrank : n.rank = a.rank := (Ranked.find?_eq_some hfind).2
    exact ⟨hrank ▸ hfind, hrank⟩
  · intro h
    obtain ⟨hfind, hrank⟩ := h
    rwa [← hrank]

private theorem filter_mergeNodes {nodes : List Node} (hnodes : Ranked.Ascending Node.rank nodes)
    {n : Node} (hn : n ∈ nodes) :
    ∃ m, ((mergeNodes nodes).filter fun m => n ∈ m.nodes) = [m] ∧ m.socket = n.address.socket := by
  have hdevices := (partition_mergeNodes nodes).ascending
  obtain ⟨m, hm, hmember⟩ := exists_device hnodes hn
  have hsocket : m.socket = n.address.socket := ((mem_members_iff hnodes hm).mp hmember).2.symm
  have hcongr : ((mergeNodes nodes).filter fun k => n ∈ k.nodes) =
      (mergeNodes nodes).filter fun k => k.socket.rank == m.socket.rank := by
    apply List.filter_congr
    intro k hk
    rw [Bool.eq_iff_iff, decide_eq_true_iff, mem_members_iff hnodes hk, beq_iff_eq,
      Ipv4Socket.rank_injective.eq_iff, hsocket, and_iff_right hn, eq_comm]
  refine ⟨m, ?_, hsocket⟩
  rw [hcongr, hdevices.filter_rank, hdevices.mem_iff_find?.mp hm]
  rfl

private theorem owner_of_mem_portOwners {found : PortOwners}
    (hfound : found ∈ (build replies tables duration).portOwners) {a : NodeAddress}
    (ha : a ∈ found.owners) :
    ∃ n ∈ (build replies tables duration).nodes, n.address = a := by
  have hnodes := ascending_nodes replies tables duration
  let ports := (build replies tables duration).merged.flatMap MergedNode.outputPorts
  have hlists := (PortOwners.lists_foldl_file ports found.port).1
  have hfind : Ranked.find? PortOwners.rank found.port.rank (ports.foldl PortOwners.file []) =
      some found := (PortOwners.ascending_foldl_file ports).mem_iff_find?.mp hfound
  rw [hfind, Option.getD_some] at hlists
  obtain ⟨q, hq, -, hnode⟩ := hlists.given a ha
  obtain ⟨m, hm, hq⟩ := List.mem_flatMap.mp hq
  have hkept : q ∈ m.ports := (List.mem_filter.mp hq).1
  rw [ports_of_mem_mergeNodes hm] at hkept
  obtain ⟨n, hn, hport⟩ := List.mem_flatMap.mp (Ranked.mem_of_mem_ofList hkept)
  refine ⟨n, ((mem_members_iff hnodes hm).mp hn).1, ?_⟩
  rw [← hnode, Node.node_of_mem_ports hport]

private theorem consistent_build : (build replies tables duration).Consistent replies where
  ascending := by
    apply List.Pairwise.imp ?_ (ascending_nodes replies tables duration)
    intro m n hlt
    exact (NodeAddress.rank_lt_rank_iff _ _).mp hlt
  heard _ hm := exists_node_of_reply replies tables duration hm
  first := mem_nodes_build_iff replies tables duration
  merged := rfl
  device _ hn := filter_mergeNodes (ascending_nodes replies tables duration) hn
  found := node?_build_iff replies tables duration
  owners _ hfound _ ha := owner_of_mem_portOwners replies tables duration hfound ha

private theorem build_nodes :
    build (build replies tables duration).nodes tables duration = build replies tables duration := by
  have hnodes := ascending_nodes replies tables duration
  rw [nodes_build] at hnodes ⊢
  simp only [build, hnodes.ofList_eq]

variable {replies}

private theorem build_perm
    (hsame : ∀ m ∈ replies, ∀ n ∈ replies, m.address.same n.address = true → m = n)
    {others : List Node} (hperm : others.Perm replies) :
    build others tables duration = build replies tables duration := by
  have hnodes : Ranked.ofList Node.rank others = Ranked.ofList Node.rank replies := by
    apply (Ranked.ascending_ofList others).eq_of_mem_iff (Ranked.ascending_ofList replies)
    intro n
    rw [Ranked.mem_ofList, Ranked.mem_ofList, Ranked.find?_perm hperm]
    intro m hm k hk hrank
    exact hsame m hm k hk ((NodeAddress.same_iff_rank _ _).mpr hrank)
  simp only [build, hnodes]

/-- A snapshot keeps the first reply of each node and is told by these nodes: its devices and the
owners of its universes are made of them, a search finds each one, and building the snapshot from them,
or from identical replies in any order, gives it again. -/
theorem build_canonical (replies : List Node) (tables : List DeviceTable) (duration : Nat) :
    let s := build replies tables duration
    s.Consistent replies ∧ s.tables = tables ∧ build s.nodes s.tables s.duration = s ∧
      ((∀ m ∈ replies, ∀ n ∈ replies, m.address.same n.address = true → m = n) →
        ∀ others, others.Perm replies → build others tables duration = s) :=
  ⟨consistent_build replies tables duration, rfl, build_nodes replies tables duration,
    fun hsame _ hperm => build_perm tables duration hsame hperm⟩

/-- The second root moves to another socket and answers again: its first reply counts. -/
theorem build_canonical_moved :
    let moved := (twoRoots 1).map fun n =>
      { n with address := { n.address with socket := ⟨.ofNumbers 10 0 0 2, 6454⟩ } }
    (build (twoRoots 1 ++ moved) [] 0).nodes = twoRoots 1 ∧
      build (twoRoots 1).reverse [] 0 = build (twoRoots 1) [] 0 := by
  intro moved
  obtain ⟨-, -, -, horder⟩ := build_canonical (twoRoots 1) [] 0
  exact ⟨by decide, horder (by decide) _ (List.reverse_perm _)⟩

end Snapshot

end LightingNet
