import LightingNet.Proofs.Discovery.Publication
import LightingNet.Proofs.Discovery.Requests
/-!
# Retransmission and order

A copy of a reply is a second node with the address, the sender and the outputs of one heard before,
so every search finds the earlier one. Blocks that no reply parts go to their tables whatever their
order and their number, and a table is a union.
-/
namespace LightingNet

private theorem find?_append_copy {α : Type} {p : α → Bool} {xs : List α} {a b : α} (ha : a ∈ xs)
    (hp : p b = p a) (ys : List α) : (xs ++ b :: ys).find? p = (xs ++ ys).find? p := by
  rw [List.find?_append, List.find?_append]
  cases hb : p b with
  | false => rw [List.find?_cons_of_neg (by simp [hb])]
  | true =>
    have hsome : (xs.find? p).isSome := List.find?_isSome.mpr ⟨a, ha, hp ▸ hb⟩
    rw [Option.or_of_isSome hsome, Option.or_of_isSome hsome]

section Copies

variable {reply : PollReply} {source : Socket} {t t' : Nat} {xs ys : List Node}

private theorem TodData.ownerNode?_copy (h : Node.ofReply reply source t ∈ xs) (d : TodData)
    (sender : Socket) :
    d.ownerNode? sender (xs ++ Node.ofReply reply source t' :: ys) =
      d.ownerNode? sender (xs ++ ys) := by
  simp only [ownerNode?]
  rw [find?_append_copy h, find?_append_copy h]
  · cases sender.ipv4? with
    | none => rfl
    | some ip =>
      simp only
      rw [find?_append_copy h]
      rfl
  · rfl
  · rfl

private theorem any_same_copy (h : Node.ofReply reply source t ∈ xs) (a : NodeAddress) :
    ((xs ++ Node.ofReply reply source t' :: ys).any fun n => n.address.same a) =
      (xs ++ ys).any fun n => n.address.same a := by
  rw [List.any_append, List.any_append, List.any_cons]
  cases hsame : (Node.ofReply reply source t').address.same a with
  | false => rfl
  | true =>
    have hany : (xs.any fun n => n.address.same a) = true := List.any_eq_true.mpr ⟨_, h, hsame⟩
    rw [hany, Bool.true_or, Bool.true_or]

private theorem ofList_copy (h : Node.ofReply reply source t ∈ xs) :
    Ranked.ofList Node.rank (xs ++ Node.ofReply reply source t' :: ys) =
      Ranked.ofList Node.rank (xs ++ ys) := by
  apply (Ranked.ascending_ofList _).eq_of_mem_iff (Ranked.ascending_ofList _)
  intro n
  have hrank : (Node.ofReply reply source t).rank = (Node.ofReply reply source t').rank := rfl
  rw [Ranked.mem_ofList, Ranked.mem_ofList, Ranked.find?_append_cons h hrank]

end Copies

namespace Cycle

variable {reply : PollReply} {source : Socket} {t t' : Nat} {xs ys : List Node} {c c' : Cycle}

/-- One cycle has heard one reply more, a copy of one before it. They ask for the same and file the
same blocks under the same outputs. -/
theorem handle_copy (h : Node.ofReply reply source t ∈ xs)
    (hc : c.Heard (xs ++ Node.ofReply reply source t' :: ys)) (hc' : c'.Heard (xs ++ ys))
    (htables : c.tables = c'.tables) (s : DiscoverySettings) (a : Arrival) :
    (c.handle s a.message a.source a.elapsed).1.tables =
        (c'.handle s a.message a.source a.elapsed).1.tables ∧
      (c.handle s a.message a.source a.elapsed).2 =
        (c'.handle s a.message a.source a.elapsed).2 := by
  obtain ⟨m, sender, elapsed⟩ := a
  cases m with
  | pollReply r =>
    refine ⟨htables, ?_⟩
    simp only [handle, Cycle.onReply, hc.nodes, hc'.nodes, any_same_copy h]
  | todData d =>
    have howner : c.owner? d sender = c'.owner? d sender := by
      rw [hc.owner?_eq, hc'.owner?_eq, TodData.ownerNode?_copy h]
    refine ⟨?_, rfl⟩
    simp only [handle, Cycle.onTodData, howner]
    split
    · exact htables
    · split
      · exact htables
      · rw [htables]
  | _ => exact ⟨htables, rfl⟩

private theorem takeAll_snoc (s : DiscoverySettings) (c : Cycle) (as : List Arrival) (a : Arrival) :
    takeAll s c (as ++ [a]) =
      (((takeAll s c as).1.handle s a.message a.source a.elapsed).1,
        (takeAll s c as).2 ++ ((takeAll s c as).1.handle s a.message a.source a.elapsed).2) := by
  rw [takeAll_append, takeAll_singleton]

private theorem takeAll_copy (s : DiscoverySettings) {before : List Arrival}
    (h : ⟨.pollReply reply, source, t⟩ ∈ before) (t' : Nat) (after : List Arrival) :
    (takeAll s empty (before ++ ⟨.pollReply reply, source, t'⟩ :: after)).1.tables =
        (takeAll s empty (before ++ after)).1.tables ∧
      (takeAll s empty (before ++ ⟨.pollReply reply, source, t'⟩ :: after)).2 =
        (takeAll s empty (before ++ after)).2 := by
  have hmem : Node.ofReply reply source t ∈ Arrival.nodes before :=
    List.mem_filterMap.mpr ⟨_, h, rfl⟩
  induction after using List.reverseRecOn with
  | nil =>
    have hknown : ((Arrival.nodes before).any fun n =>
        n.address.same (Node.ofReply reply source t').address) = true :=
      List.any_eq_true.mpr ⟨_, hmem, NodeAddress.same_refl _⟩
    rw [List.append_nil, takeAll_snoc]
    refine ⟨rfl, ?_⟩
    simp [handle, Cycle.onReply, (heard_takeAll s before).nodes, hknown]
  | append_singleton after a ih =>
    have hheard := heard_takeAll s (before ++ ⟨.pollReply reply, source, t'⟩ :: after)
    have hheard' := heard_takeAll s (before ++ after)
    rw [Arrival.nodes_append] at hheard hheard'
    obtain ⟨htables, hsent⟩ := handle_copy hmem hheard hheard' ih.1 s a
    rw [← List.cons_append, ← List.append_assoc, ← List.append_assoc, takeAll_snoc, takeAll_snoc]
    exact ⟨htables, by rw [ih.2, hsent]⟩

private theorem build_congr {nodes nodes' : List Node}
    (h : Ranked.ofList Node.rank nodes = Ranked.ofList Node.rank nodes') (tables : List DeviceTable)
    (duration : Nat) :
    Snapshot.build nodes tables duration = Snapshot.build nodes' tables duration := by
  simp only [Snapshot.build, h]

private theorem snapshot_copy (s : DiscoverySettings) {before : List Arrival}
    (h : ⟨.pollReply reply, source, t⟩ ∈ before) (t' : Nat) (after : List Arrival) (elapsed : Nat) :
    (takeAll s empty (before ++ ⟨.pollReply reply, source, t'⟩ :: after)).1.snapshot elapsed =
      (takeAll s empty (before ++ after)).1.snapshot elapsed := by
  have hmem : Node.ofReply reply source t ∈ Arrival.nodes before :=
    List.mem_filterMap.mpr ⟨_, h, rfl⟩
  have hnodes := (heard_takeAll s (before ++ ⟨.pollReply reply, source, t'⟩ :: after)).nodes
  have hnodes' := (heard_takeAll s (before ++ after)).nodes
  rw [Arrival.nodes_append] at hnodes hnodes'
  rw [snapshot, snapshot, (takeAll_copy s h t' after).1, hnodes, hnodes']
  exact build_congr (ofList_copy hmem) _ _

end Cycle

def Brings (as : List Arrival) (d : TodData) (source : Socket) : Prop :=
  ∃ t, ⟨.todData d, source, t⟩ ∈ as

private theorem brings_snoc (as : List Arrival) (a : Arrival) (d : TodData) (source : Socket) :
    Brings (as ++ [a]) d source ↔
      Brings as d source ∨ a.message = .todData d ∧ a.source = source := by
  obtain ⟨m, sender, t⟩ := a
  simp only [Brings, List.mem_append, List.mem_singleton, exists_or, Arrival.mk.injEq]
  apply or_congr Iff.rfl
  constructor
  · rintro ⟨-, hm, hsender, -⟩
    exact ⟨hm.symm, hsender.symm⟩
  · rintro ⟨hm, hsender⟩
    exact ⟨t, hm.symm, hsender.symm, rfl⟩

private theorem reported_append_quiet {as bs : List Arrival} (hquiet : Arrival.nodes bs = [])
    (o : OutputAddress) (d : TodData) :
    Reported (as ++ bs) o d ↔
      Reported as o d ∨
        ∃ source, Brings bs d source ∧ d.FiledUnder source (Arrival.nodes as) o := by
  induction bs using List.reverseRecOn with
  | nil => simp [Brings]
  | append_singleton bs b ih =>
    rw [Arrival.nodes_append, List.append_eq_nil_iff] at hquiet
    have hheard : Arrival.nodes (as ++ bs) = Arrival.nodes as := by
      rw [Arrival.nodes_append, hquiet.1, List.append_nil]
    rw [← List.append_assoc, reported_snoc, ih hquiet.1, hheard, or_assoc]
    simp only [brings_snoc, or_and_right, exists_or]
    simp

private theorem reported_append_congr {as as' : List Arrival}
    (hnodes : Arrival.nodes as = Arrival.nodes as')
    (h : ∀ o d, Reported as o d ↔ Reported as' o d) (bs : List Arrival) (o : OutputAddress)
    (d : TodData) : Reported (as ++ bs) o d ↔ Reported (as' ++ bs) o d := by
  induction bs using List.reverseRecOn with
  | nil => simpa using h o d
  | append_singleton bs b ih =>
    rw [← List.append_assoc, ← List.append_assoc, reported_snoc, reported_snoc, ih,
      Arrival.nodes_append, Arrival.nodes_append, hnodes]

/-- What a table says, whichever socket its node was reached at. -/
def DeviceTable.content (t : DeviceTable) : Ipv4 × UInt8 × PortAddress × List Rdm.Uid :=
  (t.output.node.root, t.output.node.bindIndex, t.output.port, t.uids)

private theorem DeviceTable.content_eq {t t' : DeviceTable} (houtput : t.rank = t'.rank)
    (huids : t.uids = t'.uids) : t.content = t'.content := by
  obtain ⟨hnode, hport⟩ := (OutputAddress.rank_eq_iff _ _).mp houtput
  obtain ⟨hroot, hbind⟩ := (NodeAddress.same_iff _ _).mp hnode
  rw [content, content, hroot, hbind, hport, huids]

/-- Snapshots that say the same, whichever sockets their tables are filed under. -/
structure Snapshot.Alike (x y : Snapshot) : Prop where
  nodes : x.nodes = y.nodes
  merged : x.merged = y.merged
  portOwners : x.portOwners = y.portOwners
  tables : x.tables.map DeviceTable.content = y.tables.map DeviceTable.content
  duration : x.duration = y.duration

namespace Cycle

variable {c c' : Cycle} {as as' : List Arrival}

private theorem Tabled.exists_content (h : c.Tabled as) (h' : c'.Tabled as')
    (hsame : ∀ o d, Reported as o d ↔ Reported as' o d) {t : DeviceTable} (ht : t ∈ c.tables) :
    ∃ t' ∈ c'.tables, t'.content = t.content := by
  obtain ⟨d, hd⟩ := h.reported_of_mem ht
  obtain ⟨t', ht', hrank, -⟩ := h'.exists_table ((hsame t.output d).mp hd)
  have hfound : tableOf t.output c'.tables = some t' := by
    rw [tableOf, ← hrank]
    exact h'.tableOf_of_mem ht'
  refine ⟨t', ht', DeviceTable.content_eq hrank ?_⟩
  apply (h'.uids t' ht').eq_of_mem_iff (h.uids t ht)
  intro u
  simp only [h'.filled t.output t' hfound, h.filled t.output t (h.tableOf_of_mem ht), hsame]

private theorem Tabled.content_eq (h : c.Tabled as) (h' : c'.Tabled as')
    (hsame : ∀ o d, Reported as o d ↔ Reported as' o d) :
    c.tables.map DeviceTable.content = c'.tables.map DeviceTable.content := by
  have hascending {tables : List DeviceTable} (ht : Ranked.Ascending DeviceTable.rank tables) :
      Ranked.Ascending (fun x : Ipv4 × UInt8 × PortAddress × List Rdm.Uid =>
        OutputAddress.rank ⟨⟨x.1, x.2.1, ⟨x.1, 0⟩⟩, x.2.2.1⟩) (tables.map DeviceTable.content) :=
    List.pairwise_map.mpr ht
  apply (hascending h.ascending).eq_of_mem_iff (hascending h'.ascending)
  intro x
  rw [List.mem_map, List.mem_map]
  constructor
  · rintro ⟨t, ht, rfl⟩
    exact h.exists_content h' hsame ht
  · rintro ⟨t, ht, rfl⟩
    exact h'.exists_content h (fun o d => (hsame o d).symm) ht

/-- Where no reply comes, it does not matter in which order blocks come, nor how often. -/
theorem snapshot_alike (s : DiscoverySettings) (before : List Arrival) {middle middle' : List Arrival}
    (hquiet : Arrival.nodes middle = []) (hquiet' : Arrival.nodes middle' = [])
    (hblocks : ∀ d source, Brings middle d source ↔ Brings middle' d source)
    (after : List Arrival) (elapsed : Nat) :
    (takeAll s empty (before ++ middle ++ after)).2 =
        (takeAll s empty (before ++ middle' ++ after)).2 ∧
      ((takeAll s empty (before ++ middle ++ after)).1.snapshot elapsed).Alike
        ((takeAll s empty (before ++ middle' ++ after)).1.snapshot elapsed) := by
  have hfront : Arrival.nodes (before ++ middle) = Arrival.nodes (before ++ middle') := by
    rw [Arrival.nodes_append, Arrival.nodes_append, hquiet, hquiet']
  have hnodes : Arrival.nodes (before ++ middle ++ after) =
      Arrival.nodes (before ++ middle' ++ after) := by
    rw [Arrival.nodes_append, hfront, ← Arrival.nodes_append]
  have hreported (o : OutputAddress) (d : TodData) :
      Reported (before ++ middle ++ after) o d ↔ Reported (before ++ middle' ++ after) o d := by
    apply reported_append_congr hfront
    intro o d
    simp only [reported_append_quiet hquiet, reported_append_quiet hquiet', hblocks]
  have hheard := (heard_takeAll s (before ++ middle ++ after)).nodes
  have hheard' := (heard_takeAll s (before ++ middle' ++ after)).nodes
  rw [← hnodes, ← hheard] at hheard'
  have htables := (tabled_takeAll s _).content_eq (tabled_takeAll s _) hreported
  refine ⟨by rw [sends_takeAll, sends_takeAll, hnodes], ?_⟩
  rw [snapshot, snapshot, hheard']
  exact ⟨rfl, rfl, rfl, htables, rfl⟩

end Cycle

namespace DiscoveryEvent

private theorem mem_arrivals {events : List DiscoveryEvent} {m : Message} {source : Socket}
    {t : Nat} : ⟨m, source, t⟩ ∈ arrivals events ↔ .inbound m source t ∈ events := by
  rw [arrivals, List.mem_filterMap]
  constructor
  · rintro ⟨e, he, harrival⟩
    cases e with
    | inbound m source t =>
      cases harrival
      exact he
    | _ => cases harrival
  · intro h
    exact ⟨_, h, rfl⟩

end DiscoveryEvent

namespace Orchestrator

open DiscoveryEvent (arrivals mem_arrivals)

def Replyless (events : List DiscoveryEvent) : Prop :=
  ∀ reply source t, .inbound (.pollReply reply) source t ∉ events

private theorem Replyless.nodes {events : List DiscoveryEvent} (h : Replyless events) :
    Arrival.nodes (arrivals events) = [] := by
  apply List.filterMap_eq_nil_iff.mpr
  rintro ⟨m, source, t⟩ hmem
  cases m with
  | pollReply reply => exact absurd (mem_arrivals.mp hmem) (h reply source t)
  | _ => rfl

/-- Two runs send the same and publish what says the same. -/
def AlikeRuns (x y : Orchestrator × List Outgoing) : Prop :=
  x.2 = y.2 ∧ x.1.snapshot.Alike y.1.snapshot

section Runs

variable (s : DiscoverySettings) (targets : List Socket) {o : Orchestrator}
  {before after : List DiscoveryEvent}

private theorem run_copy (hidle : o.Idle) (hbefore : ∀ e ∈ before, e.goesOn = true)
    (hafter : ∀ e ∈ after, e.goesOn = true) {reply : PollReply} {source : Socket} {t t' : Nat}
    (h : .inbound (.pollReply reply) source t ∈ before) (elapsed : Nat) :
    o.run s targets
        (DiscoveryEvent.cycle (before ++ .inbound (.pollReply reply) source t' :: after) elapsed) =
      o.run s targets (DiscoveryEvent.cycle (before ++ after) elapsed) := by
  have hall : ∀ e ∈ before ++ after, e.goesOn = true :=
    List.forall_mem_append.mpr ⟨hbefore, hafter⟩
  have hcopied : ∀ e ∈ before ++ .inbound (.pollReply reply) source t' :: after, e.goesOn = true :=
    List.forall_mem_append.mpr ⟨hbefore, List.forall_mem_cons.mpr ⟨rfl, hafter⟩⟩
  have harrivals : arrivals (before ++ .inbound (.pollReply reply) source t' :: after) =
      arrivals before ++ ⟨.pollReply reply, source, t'⟩ :: arrivals after :=
    DiscoveryEvent.arrivals_append _ _
  have hsnapshot := Cycle.snapshot_copy s (mem_arrivals.mpr h) t' (arrivals after) elapsed
  have hsent := (Cycle.takeAll_copy s (mem_arrivals.mpr h) t' (arrivals after)).2
  rw [run_cycle s targets hidle hcopied, run_cycle s targets hidle hall, harrivals,
    DiscoveryEvent.arrivals_append]
  simp [hsnapshot, hsent]

private theorem run_alike (hidle : o.Idle) (hbefore : ∀ e ∈ before, e.goesOn = true)
    (hafter : ∀ e ∈ after, e.goesOn = true) {middle middle' : List DiscoveryEvent}
    (hmiddle : ∀ e ∈ middle, e.goesOn = true) (hmiddle' : ∀ e ∈ middle', e.goesOn = true)
    (hquiet : Replyless middle) (hquiet' : Replyless middle')
    (hblocks : ∀ d source, (∃ t, .inbound (.todData d) source t ∈ middle) ↔
      ∃ t, .inbound (.todData d) source t ∈ middle') (elapsed : Nat) :
    AlikeRuns (o.run s targets (DiscoveryEvent.cycle (before ++ middle ++ after) elapsed))
      (o.run s targets (DiscoveryEvent.cycle (before ++ middle' ++ after) elapsed)) := by
  have hevents {between : List DiscoveryEvent} (hbetween : ∀ e ∈ between, e.goesOn = true) :
      ∀ e ∈ before ++ between ++ after, e.goesOn = true :=
    List.forall_mem_append.mpr ⟨List.forall_mem_append.mpr ⟨hbefore, hbetween⟩, hafter⟩
  have hbrings (d : TodData) (source : Socket) :
      Brings (arrivals middle) d source ↔ Brings (arrivals middle') d source := by
    simp only [Brings, mem_arrivals, hblocks]
  obtain ⟨hsent, halike⟩ := Cycle.snapshot_alike s (arrivals before) hquiet.nodes hquiet'.nodes
    hbrings (arrivals after) elapsed
  rw [run_cycle s targets hidle (hevents hmiddle), run_cycle s targets hidle (hevents hmiddle')]
  simp only [DiscoveryEvent.arrivals_append]
  exact ⟨congrArg (polls s targets ++ ·) hsent, halike⟩

private theorem quiet_of_blocks {blocks : List DiscoveryEvent}
    (h : ∀ e ∈ blocks, ∃ d source t, e = .inbound (.todData d) source t) :
    (∀ e ∈ blocks, e.goesOn = true) ∧ Replyless blocks := by
  constructor
  · intro e he
    obtain ⟨d, source, t, rfl⟩ := h e he
    rfl
  · intro reply source t hmem
    obtain ⟨d, source', t', heq⟩ := h _ hmem
    cases heq

private theorem run_swapped (hidle : o.Idle) (hbefore : ∀ e ∈ before, e.goesOn = true)
    (hafter : ∀ e ∈ after, e.goesOn = true) {blocks blocks' : List DiscoveryEvent}
    (hblocks : ∀ e ∈ blocks, ∃ d source t, e = .inbound (.todData d) source t)
    (hperm : blocks.Perm blocks') (elapsed : Nat) :
    AlikeRuns (o.run s targets (DiscoveryEvent.cycle (before ++ blocks ++ after) elapsed))
      (o.run s targets (DiscoveryEvent.cycle (before ++ blocks' ++ after) elapsed)) := by
  have hblocks' : ∀ e ∈ blocks', ∃ d source t, e = .inbound (.todData d) source t :=
    fun e he => hblocks e (hperm.mem_iff.mpr he)
  obtain ⟨hgoes, hquiet⟩ := quiet_of_blocks hblocks
  obtain ⟨hgoes', hquiet'⟩ := quiet_of_blocks hblocks'
  apply run_alike s targets hidle hbefore hafter hgoes hgoes' hquiet hquiet'
  simp only [hperm.mem_iff, implies_true]

private theorem run_copied_block (hidle : o.Idle) (hbefore : ∀ e ∈ before, e.goesOn = true)
    (hafter : ∀ e ∈ after, e.goesOn = true) {d : TodData} {source : Socket} {t t' : Nat}
    {between : List DiscoveryEvent} (hbetween : ∀ e ∈ between, e.goesOn = true)
    (hquiet : Replyless between) (elapsed : Nat) :
    AlikeRuns
      (o.run s targets (DiscoveryEvent.cycle (before ++ .inbound (.todData d) source t ::
        between ++ .inbound (.todData d) source t' :: after) elapsed))
      (o.run s targets (DiscoveryEvent.cycle (before ++ .inbound (.todData d) source t ::
        between ++ after) elapsed)) := by
  have hopen : ∀ e ∈ .inbound (.todData d) source t :: between, e.goesOn = true :=
    List.forall_mem_cons.mpr ⟨rfl, hbetween⟩
  have hopen' : ∀ e ∈ .inbound (.todData d) source t :: between ++
      [.inbound (.todData d) source t'], e.goesOn = true :=
    List.forall_mem_append.mpr ⟨hopen, List.forall_mem_singleton.mpr rfl⟩
  have hquiet₁ : Replyless (.inbound (.todData d) source t :: between) := by
    simpa [Replyless] using hquiet
  have hquiet₂ : Replyless (.inbound (.todData d) source t :: between ++
      [.inbound (.todData d) source t']) := by
    simpa [Replyless] using hquiet
  have hblocks (d' : TodData) (source' : Socket) :
      (∃ u, .inbound (.todData d') source' u ∈ .inbound (.todData d) source t :: between ++
          [.inbound (.todData d) source t']) ↔
        ∃ u, .inbound (.todData d') source' u ∈ .inbound (.todData d) source t :: between := by
    constructor
    · rintro ⟨u, hmem⟩
      rcases List.mem_append.mp hmem with hmem | hcopy
      · exact ⟨u, hmem⟩
      · cases List.mem_singleton.mp hcopy
        exact ⟨t, List.mem_cons_self⟩
    · rintro ⟨u, hmem⟩
      exact ⟨u, List.mem_append_left _ hmem⟩
  have hcopied := run_alike s targets hidle hbefore hafter hopen' hopen hquiet₂ hquiet₁ hblocks
    elapsed
  simpa using hcopied

/-- It does not matter how often discovery is told something, nor in which order it is told of
devices. Behind a reply, a copy of it from the same sender changes nothing at all. Adjacent blocks
of tables may be swapped, a row of blocks may come in any order, and a copy of a block may follow it
as long as no reply stands between. -/
theorem insensitive_to_repetition (hidle : o.Idle) (hbefore : ∀ e ∈ before, e.goesOn = true)
    (hafter : ∀ e ∈ after, e.goesOn = true) (elapsed : Nat) :
    let run := fun events => o.run s targets (DiscoveryEvent.cycle events elapsed)
    let block := fun d source t => DiscoveryEvent.inbound (.todData d) source t
    (∀ reply source t t', .inbound (.pollReply reply) source t ∈ before →
      run (before ++ .inbound (.pollReply reply) source t' :: after) = run (before ++ after)) ∧
    (∀ d d' source source' t t',
      AlikeRuns (run (before ++ block d source t :: block d' source' t' :: after))
        (run (before ++ block d' source' t' :: block d source t :: after))) ∧
    (∀ blocks blocks', (∀ e ∈ blocks, ∃ d source t, e = block d source t) → blocks.Perm blocks' →
      AlikeRuns (run (before ++ blocks ++ after)) (run (before ++ blocks' ++ after))) ∧
    (∀ d source t t' between, (∀ e ∈ between, e.goesOn = true) → Replyless between →
      AlikeRuns (run (before ++ block d source t :: between ++ block d source t' :: after))
        (run (before ++ block d source t :: between ++ after))) := by
  intro run block
  refine ⟨?_, ?_, ?_, ?_⟩
  · intro reply source t t' h
    exact run_copy s targets hidle hbefore hafter h elapsed
  · intro d d' source source' t t'
    have hblocks : ∀ e ∈ [block d source t, block d' source' t'],
        ∃ d source t, e = .inbound (.todData d) source t := by
      simp [block]
    have hswapped := run_swapped s targets hidle hbefore hafter hblocks (.swap _ _ []) elapsed
    simpa using hswapped
  · intro blocks blocks' hblocks hperm
    exact run_swapped s targets hidle hbefore hafter hblocks hperm elapsed
  · intro d source t t' between hbetween hquiet
    exact run_copied_block s targets hidle hbefore hafter hbetween hquiet elapsed

end Runs

theorem insensitive_to_repetition_table :
    let gateway : Socket := .v4 ⟨.ofNumbers 10 0 0 5, 6454⟩
    let reply : PollReply :=
      { PollReply.blank with
        ip := .ofNumbers 10 0 0 5, numPorts := 1, portTypes := Vector.replicate 4 0x80 }
    let part (device : UInt32) : TodData := ⟨1, 1, 1, 0, .full, 0, 2, 0, [⟨0x4c55, device⟩]⟩
    let heard : DiscoveryEvent := .inbound (.pollReply reply) gateway 4
    let run := fun events => fresh.run .usual [] (DiscoveryEvent.cycle events 20)
    let parts := [.inbound (.todData (part 2)) gateway 6, .inbound (.todData (part 1)) gateway 7]
    run ([heard] ++ .inbound (.pollReply reply) gateway 5 :: parts) = run ([heard] ++ parts) ∧
      AlikeRuns (run ([heard] ++ parts ++ [])) (run ([heard] ++ parts.reverse ++ [])) ∧
      (run ([heard] ++ parts)).1.snapshot.tables.map DeviceTable.uids =
        [[⟨0x4c55, 1⟩, ⟨0x4c55, 2⟩]] := by
  intro gateway reply part heard run parts
  have hheard : ∀ e ∈ [heard], e.goesOn = true := by decide
  have hparts : ∀ e ∈ parts, e.goesOn = true := by decide
  have hblocks : ∀ e ∈ parts, ∃ d source t, e = .inbound (.todData d) source t := by simp [parts]
  have hcopy := (insensitive_to_repetition .usual [] fresh_idle hheard hparts 20).1
  obtain ⟨-, -, horder, -⟩ := insensitive_to_repetition .usual [] fresh_idle hheard
    (List.forall_mem_nil _) 20
  exact ⟨hcopy reply gateway 4 5 (by simp [heard]), horder parts _ hblocks parts.reverse_perm.symm,
    by decide +kernel⟩

end Orchestrator

end LightingNet
