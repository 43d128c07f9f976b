import LightingNet.Proofs.Node.Groups
/-!
# The member that names a device

The members of a device stand by root first, and by bind index only within a root. So the first of
them has the lowest bind index of all as long as the device has one root, or the bind indices of a
later root are no lower than those of an earlier one.
-/
namespace LightingNet

/-- One address stands in front of another or is the same: root first, then bind index. -/
def NodeAddress.NotBehind (a b : NodeAddress) : Prop :=
  a.root.rank < b.root.rank ∨ a.root = b.root ∧ a.bindIndex ≤ b.bindIndex

private theorem NodeAddress.notBehind_iff_rank_le (a b : NodeAddress) :
    a.NotBehind b ↔ a.rank ≤ b.rank := by
  rw [Nat.le_iff_lt_or_eq, rank_lt_rank_iff, ← same_iff_rank, same_iff, NotBehind,
    UInt8.le_iff_lt_or_eq]
  tauto

namespace MergedNode

structure NamedByBind (m : MergedNode) : Prop where
  ordered : m.nodes.Pairwise fun a b => a.address.bindIndex ≤ b.address.bindIndex
  lowest : ∃ first, m.primary? = some first ∧
    ∀ n ∈ m.nodes, first.address.bindIndex ≤ n.address.bindIndex

/-- The bind indices of a later root are no lower than those of an earlier one. -/
def BindFollowsRoot (m : MergedNode) : Prop :=
  ∀ a ∈ m.nodes, ∀ b ∈ m.nodes, a.address.root.rank < b.address.root.rank →
    a.address.bindIndex ≤ b.address.bindIndex

instance (m : MergedNode) : Decidable m.BindFollowsRoot :=
  inferInstanceAs (Decidable (∀ a ∈ m.nodes, ∀ b ∈ m.nodes, _ → _))

end MergedNode

section Naming

variable {nodes : List Node} {m : MergedNode}

private theorem primary?_mem {first : Node} (h : m.primary? = some first) : first ∈ m.nodes :=
  List.mem_of_head? h

private theorem named_eq {α : Type} {first : Node} (h : m.primary? = some first)
    (property : PollReply → α) : m.named property = property first.reply := by
  simp [MergedNode.named, h]

private theorem primary_notBehind (hm : m ∈ mergeNodes nodes) {first : Node}
    (hfirst : m.primary? = some first) {n : Node} (hn : n ∈ m.nodes) :
    first.address.NotBehind n.address := by
  have hstand := (partition_mergeNodes nodes).byRootAndBind m hm
  obtain ⟨rest, hrest⟩ := List.head?_eq_some_iff.mp hfirst
  rw [hrest] at hn hstand
  rcases List.mem_cons.mp hn with rfl | hmem
  · exact Or.inr ⟨rfl, UInt8.le_refl _⟩
  · rcases List.rel_of_pairwise_cons hstand hmem with hroot | ⟨hroot, hbind⟩
    · exact Or.inl hroot
    · exact Or.inr ⟨hroot, UInt8.le_of_lt hbind⟩

private theorem exists_member (hm : m ∈ mergeNodes nodes) {n : Node} (hn : n ∈ nodes)
    (hsocket : n.address.socket = m.socket) : ∃ n' ∈ m.nodes, n'.Paired n := by
  obtain ⟨first, hfirst⟩ := Ranked.exists_find? Node.pairRank hn
  have hrank := (Ranked.find?_eq_some hfirst).2
  have hpaired := (first.pairRank_eq_iff n).mp hrank
  refine ⟨first, ?_, hpaired⟩
  rw [(membersAt_of_mem_mergeNodes hm).2, mem_membersAt, hrank]
  exact ⟨hpaired.1.trans hsocket, hfirst⟩

private theorem primary_notBehind_reply (hm : m ∈ mergeNodes nodes) {first : Node}
    (hfirst : m.primary? = some first) {n : Node} (hn : n ∈ nodes)
    (hsocket : n.address.socket = m.socket) : first.address.NotBehind n.address := by
  obtain ⟨n', hn', hpaired⟩ := exists_member hm hn hsocket
  have hmember := primary_notBehind hm hfirst hn'
  rw [NodeAddress.notBehind_iff_rank_le] at hmember ⊢
  rwa [← (NodeAddress.same_iff_rank _ _).mp hpaired.2]

private theorem earliest_primary (hm : m ∈ mergeNodes nodes) {first : Node}
    (hfirst : m.primary? = some first) : Earliest (fun n => n.Paired first) nodes first := by
  have hmem := primary?_mem hfirst
  rw [(membersAt_of_mem_mergeNodes hm).2, mem_membersAt] at hmem
  apply (earliest_iff_find? fun n => ?_).mpr hmem.2
  rw [beq_iff_eq, Node.pairRank_eq_iff]

theorem ordered_iff (hm : m ∈ mergeNodes nodes) :
    (m.nodes.Pairwise fun a b => a.address.bindIndex ≤ b.address.bindIndex) ↔
      m.BindFollowsRoot := by
  have hstand := (partition_mergeNodes nodes).byRootAndBind m hm
  constructor
  · intro hordered a ha b hb hroots
    obtain ⟨i, hi, rfl⟩ := List.getElem_of_mem ha
    obtain ⟨j, hj, rfl⟩ := List.getElem_of_mem hb
    -- The roots say which of the two stands in front.
    rcases Nat.lt_trichotomy i j with hlt | rfl | hgt
    · exact List.pairwise_iff_getElem.mp hordered i j hi hj hlt
    · exact UInt8.le_refl _
    · rcases List.pairwise_iff_getElem.mp hstand j i hj hi hgt with hback | ⟨hsame, -⟩
      · exact absurd hroots (Nat.lt_asymm hback)
      · exact absurd hroots (by rw [hsame]; exact Nat.lt_irrefl _)
  · intro hfollows
    apply hstand.imp_of_mem
    rintro a b ha hb (hroot | ⟨-, hbind⟩)
    · exact hfollows a ha b hb hroot
    · exact UInt8.le_of_lt hbind

theorem namedByBind_iff (hm : m ∈ mergeNodes nodes) : m.NamedByBind ↔ m.BindFollowsRoot := by
  rw [← ordered_iff hm]
  refine ⟨MergedNode.NamedByBind.ordered, fun hordered => ⟨hordered, ?_⟩⟩
  obtain ⟨first, hfirst⟩ := (partition_mergeNodes nodes).primary m hm
  obtain ⟨rest, hrest⟩ := List.head?_eq_some_iff.mp hfirst
  refine ⟨first, hfirst, ?_⟩
  rw [hrest] at hordered ⊢
  intro n hn
  rcases List.mem_cons.mp hn with rfl | hmem
  · exact UInt8.le_refl _
  · exact List.rel_of_pairwise_cons hordered hmem

/-- The first member has the lowest bind index just when the lowest one is of its root. -/
theorem lowest_iff (hm : m ∈ mergeNodes nodes) {first : Node} (hfirst : m.primary? = some first) :
    (∀ n ∈ m.nodes, first.address.bindIndex ≤ n.address.bindIndex) ↔
      ∃ a ∈ m.nodes, a.address.root = first.address.root ∧
        ∀ n ∈ m.nodes, a.address.bindIndex ≤ n.address.bindIndex := by
  constructor
  · intro hlowest
    exact ⟨first, primary?_mem hfirst, rfl, hlowest⟩
  · rintro ⟨a, ha, hroot, hlowest⟩ n hn
    rcases primary_notBehind hm hfirst ha with hlt | ⟨-, hbind⟩
    · rw [hroot] at hlt
      exact absurd hlt (Nat.lt_irrefl _)
    · exact UInt8.le_trans hbind (hlowest n hn)

/-- Which reply names a device: the first given of those with the least root and, at that root, the
lowest bind index. It has the lowest bind index of the whole device when this is one of its root,
and the members stand by bind index when none of a later root is lower. One root is enough for
both. -/
theorem device_named_by_least_root (hm : m ∈ mergeNodes nodes) :
    ∃ first, m.primary? = some first ∧
      Earliest (fun n => n.Paired first) nodes first ∧ first.address.socket = m.socket ∧
      (∀ n ∈ nodes, n.address.socket = m.socket → first.address.NotBehind n.address) ∧
      (∀ {α : Type} (property : PollReply → α), m.named property = property first.reply) ∧
      ((∀ n ∈ m.nodes, first.address.bindIndex ≤ n.address.bindIndex) ↔
        ∃ a ∈ m.nodes, a.address.root = first.address.root ∧
          ∀ n ∈ m.nodes, a.address.bindIndex ≤ n.address.bindIndex) ∧
      (m.NamedByBind ↔ m.BindFollowsRoot) ∧
      ((∀ n ∈ m.nodes, n.address.root = first.address.root) → m.NamedByBind) := by
  obtain ⟨first, hfirst⟩ := (partition_mergeNodes nodes).primary m hm
  have hsocket := (partition_mergeNodes nodes).reached m hm first (primary?_mem hfirst)
  refine ⟨first, hfirst, earliest_primary hm hfirst, hsocket,
    fun n hn => primary_notBehind_reply hm hfirst hn, named_eq hfirst, lowest_iff hm hfirst,
    namedByBind_iff hm, ?_⟩
  intro hroot
  rw [namedByBind_iff hm]
  intro a ha b hb hlt
  rw [hroot a ha, hroot b hb] at hlt
  exact absurd hlt (Nat.lt_irrefl _)

end Naming

theorem device_named_by_its_one_root :
    let socket : Ipv4Socket := ⟨.ofNumbers 10 0 0 1, 6454⟩
    let answer (bind : UInt8) (name : String) : Node := Node.ofReply { PollReply.blank with
      ip := .ofNumbers 10 0 0 1, bindIndex := bind, shortName := name } (.v4 socket) 3
    let device := MergedNode.ofMembers socket [answer 1 "stage", answer 4 "balcony"]
    device ∈ mergeNodes [answer 4 "balcony", answer 1 "stage", answer 1 "late"] ∧
      device.NamedByBind ∧ device.named PollReply.shortName = "stage" := by
  intro socket answer device
  have hm : device ∈ mergeNodes [answer 4 "balcony", answer 1 "stage", answer 1 "late"] := by decide
  obtain ⟨first, hfirst, -, -, -, hnamed, -, hbind, -⟩ := device_named_by_least_root hm
  refine ⟨hm, hbind.mpr (by decide), ?_⟩
  have heq : first = answer 1 "stage" := Option.some.inj (hfirst.symm.trans rfl)
  rw [hnamed, heq]
  rfl

/-- The earlier of two roots names a device although its bind index is higher. -/
theorem device_of_two_roots :
    let socket : Ipv4Socket := ⟨.ofNumbers 10 0 0 1, 6454⟩
    let answer (root bind : UInt8) (name : String) : Node := Node.ofReply { PollReply.blank with
      ip := .ofNumbers 10 0 0 1, bindIp := .ofNumbers 10 0 0 root, bindIndex := bind
      shortName := name } (.v4 socket) 3
    let device := MergedNode.ofMembers socket [answer 1 2 "second", answer 9 1 "first"]
    device ∈ mergeNodes [answer 1 2 "second", answer 9 1 "first"] ∧ ¬device.NamedByBind ∧
      device.named PollReply.shortName = "second" := by
  intro socket answer device
  have hm : device ∈ mergeNodes [answer 1 2 "second", answer 9 1 "first"] := by decide
  refine ⟨hm, ?_, by decide⟩
  rw [namedByBind_iff hm]
  decide

end LightingNet
