import LightingNet.Node.Merged
import LightingNet.Proofs.Earliest
import LightingNet.Proofs.Node.Identity
import LightingNet.Proofs.Ranked
import Mathlib.Data.List.Induction
/-!
# Replies grouped by socket

Merging sorts replies by socket, then by node, and keeps the first one of each pair; the devices are
the stretches of that list with one socket. So what merging gives depends on nothing but the first
reply of each pair.
-/
namespace LightingNet

namespace Node

def Paired (m n : Node) : Prop :=
  m.address.socket = n.address.socket ∧ m.address.same n.address = true

instance (m n : Node) : Decidable (m.Paired n) := inferInstanceAs (Decidable (_ ∧ _))

def pairRank (n : Node) : Nat := n.address.socket.rank * 1099511627776 + n.rank

theorem pairRank_eq_iff (m n : Node) : m.pairRank = n.pairRank ↔ m.Paired n := by
  have hm := m.address.rank_lt
  have hn := n.address.rank_lt
  rw [Paired, NodeAddress.same_iff_rank, ← Ipv4Socket.rank_injective.eq_iff]
  simp only [pairRank, rank]
  omega

end Node

def socketsOf (nodes : List Node) : List Ipv4Socket :=
  Ranked.ofList Ipv4Socket.rank (nodes.map fun n => n.address.socket)

def membersAt (nodes : List Node) (socket : Ipv4Socket) : List Node :=
  Ranked.ofList Node.rank (nodes.filter fun n => n.address.socket = socket)

private theorem mem_socketsOf {nodes : List Node} {socket : Ipv4Socket} :
    socket ∈ socketsOf nodes ↔ ∃ n ∈ nodes, n.address.socket = socket := by
  rw [socketsOf, Ranked.mem_ofList_of_injective Ipv4Socket.rank_injective, List.mem_map]

theorem mem_membersAt {nodes : List Node} {socket : Ipv4Socket} {n : Node} :
    n ∈ membersAt nodes socket ↔
      n.address.socket = socket ∧ Ranked.find? Node.pairRank n.pairRank nodes = some n := by
  have hfind (hsocket : n.address.socket = socket) :
      Ranked.find? Node.rank n.rank (nodes.filter fun m => m.address.socket = socket) =
        Ranked.find? Node.pairRank n.pairRank nodes := by
    rw [Ranked.find?, Ranked.find?, List.find?_filter]
    congr 1
    funext m
    rw [Bool.eq_iff_iff]
    simp [Node.pairRank_eq_iff, Node.Paired, NodeAddress.same_iff_rank, hsocket, Node.rank]
  rw [membersAt, Ranked.mem_ofList]
  constructor
  · intro h
    have hsocket : n.address.socket = socket := by
      simpa using (List.mem_filter.mp (Ranked.find?_eq_some h).1).2
    exact ⟨hsocket, hfind hsocket ▸ h⟩
  · rintro ⟨hsocket, h⟩
    rw [hfind hsocket, h]

section Grouping

private def groupAt (nodes : List Node) (socket : Ipv4Socket) : Group :=
  ⟨socket, membersAt nodes socket⟩

private def Group.rank (g : Group) : Nat := g.socket.rank

private def Group.add (n : Node) (g : Group) : Group :=
  { g with members := Ranked.insert Node.rank n g.members }

private theorem groupAt_snoc (nodes : List Node) (n : Node) :
    groupAt (nodes ++ [n]) n.address.socket = (groupAt nodes n.address.socket).add n := by
  simp [groupAt, membersAt, Group.add, Ranked.ofList]

private theorem groupAt_snoc_ne (nodes : List Node) {n : Node} {socket : Ipv4Socket}
    (hne : n.address.socket ≠ socket) : groupAt (nodes ++ [n]) socket = groupAt nodes socket := by
  simp [groupAt, membersAt, hne]

private theorem groupAt_of_absent {nodes : List Node} {socket : Ipv4Socket}
    (habsent : ∀ n ∈ nodes, n.address.socket ≠ socket) : groupAt nodes socket = ⟨socket, []⟩ := by
  have hnone : (nodes.filter fun n => n.address.socket = socket) = [] := by
    simpa [List.filter_eq_nil_iff] using habsent
  rw [groupAt, membersAt, hnone]
  rfl

private theorem foldl_groupNode_snoc (nodes : List Node) (n : Node) :
    (nodes ++ [n]).foldl groupNode [] =
      Ranked.upsert Group.rank ⟨n.address.socket, []⟩ (Group.add n) (nodes.foldl groupNode []) := by
  rw [List.foldl_append]
  rfl

private theorem ascending_groups (nodes : List Node) :
    Ranked.Ascending Group.rank (nodes.foldl groupNode []) := by
  induction nodes using List.reverseRecOn with
  | nil => exact Ranked.ascending_nil
  | append_singleton nodes n ih =>
    have hadd (g : Group) : (g.add n).rank = g.rank := rfl
    rw [foldl_groupNode_snoc]
    exact ih.upsert hadd

private theorem find?_groups (nodes : List Node) (r : Nat) :
    Ranked.find? Group.rank r (nodes.foldl groupNode []) =
      (Ranked.find? Ipv4Socket.rank r (nodes.map fun n => n.address.socket)).map
        (groupAt nodes) := by
  induction nodes using List.reverseRecOn with
  | nil => rfl
  | append_singleton nodes n ih =>
    have hadd (g : Group) : (g.add n).rank = g.rank := rfl
    rw [foldl_groupNode_snoc, (ascending_groups nodes).find?_upsert hadd, ih, List.map_append,
      Ranked.find?_append, List.map_singleton, Ranked.find?_cons]
    change (if n.address.socket.rank = r then _ else _) = _
    cases hfound : Ranked.find? Ipv4Socket.rank r (nodes.map fun n => n.address.socket) with
    | none =>
      by_cases hr : n.address.socket.rank = r
      · have habsent : ∀ m ∈ nodes, m.address.socket ≠ n.address.socket := by
          intro m hm heq
          have hne := Ranked.find?_eq_none_iff.mp hfound _ (List.mem_map_of_mem hm)
          exact hne (heq ▸ hr)
        simp [hr, groupAt_snoc, groupAt_of_absent habsent]
      · simp [hr, Ranked.find?]
    | some socket =>
      have hsocket : socket.rank = r := (Ranked.find?_eq_some hfound).2
      by_cases hr : n.address.socket.rank = r
      · have heq : n.address.socket = socket :=
          Ipv4Socket.rank_injective (hr.trans hsocket.symm)
        subst heq
        simp [hr, groupAt_snoc]
      · have hne : n.address.socket ≠ socket := fun heq => hr (heq ▸ hsocket)
        simp [hr, groupAt_snoc_ne nodes hne]

/-- Merging makes one device for each socket. -/
theorem mergeNodes_eq (nodes : List Node) :
    mergeNodes nodes = (socketsOf nodes).map fun socket =>
      MergedNode.ofMembers socket (membersAt nodes socket) := by
  have hascending : Ranked.Ascending Group.rank ((socketsOf nodes).map (groupAt nodes)) :=
    List.pairwise_map.mpr (Ranked.ascending_ofList _)
  have hgroups : nodes.foldl groupNode [] = (socketsOf nodes).map (groupAt nodes) := by
    apply (ascending_groups nodes).eq_of_mem_iff hascending
    intro g
    have hrank (socket : Ipv4Socket) : (groupAt nodes socket).rank = socket.rank := rfl
    rw [(ascending_groups nodes).mem_iff_find?, hascending.mem_iff_find?, find?_groups,
      Ranked.find?_map hrank, socketsOf, Ranked.find?_ofList]
  rw [mergeNodes, hgroups, List.map_map]
  rfl

end Grouping

theorem membersAt_of_mem_mergeNodes {nodes : List Node} {m : MergedNode}
    (hm : m ∈ mergeNodes nodes) :
    m.socket ∈ socketsOf nodes ∧ m.nodes = membersAt nodes m.socket := by
  rw [mergeNodes_eq] at hm
  obtain ⟨socket, hsocket, rfl⟩ := List.mem_map.mp hm
  exact ⟨hsocket, rfl⟩

private theorem flatMap_mergeNodes (nodes : List Node) :
    (mergeNodes nodes).flatMap MergedNode.nodes = Ranked.ofList Node.pairRank nodes := by
  have hmembers : (mergeNodes nodes).flatMap MergedNode.nodes =
      (socketsOf nodes).flatMap (membersAt nodes) := by
    rw [mergeNodes_eq, List.flatMap_map]
    rfl
  have hascending : Ranked.Ascending Node.pairRank ((socketsOf nodes).flatMap (membersAt nodes)) := by
    apply List.pairwise_flatMap.mpr
    constructor
    · intro socket _
      apply List.Pairwise.imp_of_mem ?_ (Ranked.ascending_ofList _)
      intro a b ha hb hlt
      have hsocket : a.address.socket = b.address.socket :=
        (mem_membersAt.mp ha).1.trans (mem_membersAt.mp hb).1.symm
      simp only [Node.pairRank, hsocket]
      omega
    · apply List.Pairwise.imp ?_ (Ranked.ascending_ofList _)
      intro socket socket' hlt a ha b hb
      have hrank := a.address.rank_lt
      simp only [Node.pairRank, (mem_membersAt.mp ha).1, (mem_membersAt.mp hb).1, Node.rank]
      omega
  rw [hmembers]
  apply hascending.eq_of_mem_iff (Ranked.ascending_ofList nodes)
  intro n
  rw [List.mem_flatMap, Ranked.mem_ofList]
  constructor
  · rintro ⟨socket, -, hn⟩
    exact (mem_membersAt.mp hn).2
  · intro hn
    have hmem : n ∈ nodes := (Ranked.find?_eq_some hn).1
    exact ⟨n.address.socket, mem_socketsOf.mpr ⟨n, hmem, rfl⟩, mem_membersAt.mpr ⟨rfl, hn⟩⟩

/-- What merging gives depends on the first reply of each pair only. -/
theorem mergeNodes_congr {nodes others : List Node}
    (h : ∀ r, Ranked.find? Node.pairRank r nodes = Ranked.find? Node.pairRank r others) :
    mergeNodes nodes = mergeNodes others := by
  have hmembers : membersAt nodes = membersAt others := by
    funext socket
    apply (Ranked.ascending_ofList _).eq_of_mem_iff (Ranked.ascending_ofList _)
    intro n
    rw [← membersAt, ← membersAt, mem_membersAt, mem_membersAt, h]
  have hreached {ns ms : List Node}
      (hfind : ∀ r, Ranked.find? Node.pairRank r ns = Ranked.find? Node.pairRank r ms)
      {socket : Ipv4Socket} (hsocket : socket ∈ socketsOf ns) : socket ∈ socketsOf ms := by
    obtain ⟨n, hn, rfl⟩ := mem_socketsOf.mp hsocket
    obtain ⟨first, hfirst⟩ := Ranked.exists_find? Node.pairRank hn
    rw [hfind] at hfirst
    obtain ⟨hmem, hrank⟩ := Ranked.find?_eq_some hfirst
    exact mem_socketsOf.mpr ⟨first, hmem, ((first.pairRank_eq_iff n).mp hrank).1⟩
  have hsockets : socketsOf nodes = socketsOf others := by
    apply (Ranked.ascending_ofList _).eq_of_mem_iff (Ranked.ascending_ofList _)
    intro socket
    exact ⟨hreached h, hreached fun r => (h r).symm⟩
  rw [mergeNodes_eq, mergeNodes_eq, hmembers, hsockets]

/-- Devices that some replies fall into: one for each socket, with the first reply of each node that
is reached there. -/
structure MergedNode.Partition (merged : List MergedNode) (nodes : List Node) : Prop where
  ascending : Ranked.Ascending (fun m => m.socket.rank) merged
  sockets : ∀ socket, socket ∈ merged.map MergedNode.socket ↔ ∃ n ∈ nodes, n.address.socket = socket
  /-- No device is without members. -/
  primary : ∀ m ∈ merged, ∃ n, m.primary? = some n
  reached : ∀ m ∈ merged, ∀ n ∈ m.nodes, n.address.socket = m.socket
  byRootAndBind : ∀ m ∈ merged, m.nodes.Pairwise fun a b =>
    a.address.root.rank < b.address.root.rank ∨
      a.address.root = b.address.root ∧ a.address.bindIndex < b.address.bindIndex
  /-- Each pair stands once, with its first reply. -/
  once : ∀ n ∈ nodes, ∃ first, Earliest (fun m => m.Paired n) nodes first ∧
    (merged.flatMap MergedNode.nodes).filter (fun m => m.Paired n) = [first]
  given : ∀ n ∈ merged.flatMap MergedNode.nodes, n ∈ nodes

private theorem once_mergeNodes {nodes : List Node} {n : Node} (hn : n ∈ nodes) :
    ∃ first, Earliest (fun m => m.Paired n) nodes first ∧
      ((mergeNodes nodes).flatMap MergedNode.nodes).filter (fun m => m.Paired n) = [first] := by
  have hpair (m : Node) : (m.pairRank == n.pairRank) = true ↔ m.Paired n := by
    rw [beq_iff_eq, Node.pairRank_eq_iff]
  have hdecide : (fun m : Node => decide (m.Paired n)) = fun m => m.pairRank == n.pairRank := by
    funext m
    rw [Bool.eq_iff_iff, decide_eq_true_iff, hpair]
  obtain ⟨first, hfirst⟩ := Ranked.exists_find? Node.pairRank hn
  refine ⟨first, (earliest_iff_find? hpair).mpr hfirst, ?_⟩
  rw [flatMap_mergeNodes, hdecide, (Ranked.ascending_ofList nodes).filter_rank,
    Ranked.find?_ofList, hfirst]
  rfl

theorem partition_mergeNodes (nodes : List Node) :
    MergedNode.Partition (mergeNodes nodes) nodes where
  ascending := by
    rw [mergeNodes_eq]
    exact List.pairwise_map.mpr (Ranked.ascending_ofList _)
  sockets socket := by
    have hmap : (mergeNodes nodes).map MergedNode.socket = socketsOf nodes := by
      rw [mergeNodes_eq, List.map_map]
      exact List.map_id _
    rw [hmap, mem_socketsOf]
  primary m hm := by
    obtain ⟨hsocket, hmembers⟩ := membersAt_of_mem_mergeNodes hm
    obtain ⟨n, hn, hreached⟩ := mem_socketsOf.mp hsocket
    obtain ⟨first, hfirst⟩ := Ranked.exists_find? Node.pairRank hn
    have hpaired := (first.pairRank_eq_iff n).mp (Ranked.find?_eq_some hfirst).2
    have hmem : first ∈ m.nodes := by
      rw [hmembers, mem_membersAt, (Ranked.find?_eq_some hfirst).2]
      exact ⟨hpaired.1.trans hreached, hfirst⟩
    cases hnodes : m.nodes with
    | nil => simp [hnodes] at hmem
    | cons head tail => exact ⟨head, by rw [MergedNode.primary?, hnodes]; rfl⟩
  reached m hm n hn := by
    rw [(membersAt_of_mem_mergeNodes hm).2] at hn
    exact (mem_membersAt.mp hn).1
  byRootAndBind m hm := by
    rw [(membersAt_of_mem_mergeNodes hm).2]
    apply List.Pairwise.imp ?_ (Ranked.ascending_ofList _)
    intro a b hlt
    exact (NodeAddress.rank_lt_rank_iff _ _).mp hlt
  once _ hn := once_mergeNodes hn
  given n hn := by
    rw [flatMap_mergeNodes] at hn
    exact Ranked.mem_of_mem_ofList hn

/-- Merging is a canonical partition of replies by socket and node. Merging the members again gives
the same devices, later copies of a pair make no difference, and neither does the order of replies
among which those of one pair are identical. -/
theorem merge_canonical (nodes : List Node) :
    MergedNode.Partition (mergeNodes nodes) nodes ∧
    mergeNodes ((mergeNodes nodes).flatMap MergedNode.nodes) = mergeNodes nodes ∧
    (∀ before after n, nodes = before ++ after → (∃ m ∈ before, m.Paired n) →
      mergeNodes (before ++ n :: after) = mergeNodes nodes) ∧
    ((∀ m ∈ nodes, ∀ n ∈ nodes, m.Paired n → m = n) →
      ∀ others, others.Perm nodes → mergeNodes others = mergeNodes nodes) := by
  refine ⟨partition_mergeNodes nodes, ?_, ?_, ?_⟩
  · apply mergeNodes_congr
    intro r
    rw [flatMap_mergeNodes, Ranked.find?_ofList]
  · rintro before after n rfl ⟨m, hm, hpaired⟩
    apply mergeNodes_congr
    exact Ranked.find?_append_cons hm ((m.pairRank_eq_iff n).mpr hpaired) after
  · intro hsame others hperm
    apply mergeNodes_congr
    apply Ranked.find?_perm hperm
    intro m hm n hn hrank
    exact hsame m hm n hn ((m.pairRank_eq_iff n).mp hrank)

theorem merge_canonical_copies :
    let answer (ip bind : UInt8) (name : String) : Node :=
      Node.ofReply { PollReply.blank with
        ip := .ofNumbers 10 0 0 ip, bindIp := .ofNumbers 10 0 0 9, bindIndex := bind
        shortName := name } (.v4 ⟨.ofNumbers 10 0 0 ip, 6454⟩) 4
    let nodes := [answer 2 1 "moved", answer 1 2 "second", answer 1 1 "first"]
    (mergeNodes nodes).map (fun m => m.nodes.map fun n => n.reply.shortName) =
        [["first", "second"], ["moved"]] ∧
      mergeNodes (nodes ++ [answer 1 1 "late"]) = mergeNodes nodes ∧
      mergeNodes nodes.reverse = mergeNodes nodes := by
  intro answer nodes
  obtain ⟨-, -, hcopy, horder⟩ := merge_canonical nodes
  have hpaired : ∃ m ∈ nodes, m.Paired (answer 1 1 "late") := by decide
  have hsame : ∀ m ∈ nodes, ∀ n ∈ nodes, m.Paired n → m = n := by decide
  exact ⟨by decide, hcopy nodes [] _ (by simp) hpaired, horder hsame _ nodes.reverse_perm⟩

end LightingNet
