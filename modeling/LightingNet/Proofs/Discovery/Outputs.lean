import LightingNet.Proofs.Discovery.Publication
import LightingNet.Proofs.Snapshot.Queries
/-!
# The outputs that tables stand for

A table of devices is filed under a node and a universe. A node that is found by its socket and bind
index need not put the universe out, and a node that is found by the universe may have said so in a
later reply only, while the snapshot keeps its first one. Apart from that, tables stand for outputs.
-/
namespace LightingNet

def Snapshot.PutsOut (snapshot : Snapshot) (o : OutputAddress) : Prop :=
  ∃ n ∈ snapshot.nodes, n.address.same o.node = true ∧ o.port ∈ n.outputs

instance (snapshot : Snapshot) (o : OutputAddress) : Decidable (snapshot.PutsOut o) :=
  inferInstanceAs (Decidable (∃ n ∈ snapshot.nodes, n.address.same o.node = true ∧ o.port ∈ n.outputs))

/-- A block belongs to a node whose first reply does not put its universe out. -/
structure TodData.Misfiled (d : TodData) (source : Socket) (heard : List Node) (n first : Node) :
    Prop where
  owner : d.BelongsTo source heard n
  earliest : Earliest (fun m => m.address.same n.address = true) heard first
  absent : d.universeOf ∉ first.outputs

/-- Only a node found by its socket and bind index, or one whose replies differ, is given a block
that is not for one of its outputs. -/
theorem TodData.Misfiled.cause {d : TodData} {source : Socket} {heard : List Node} {n first : Node}
    (h : d.Misfiled source heard n first) :
    d.SentBy source n ∨ d.universeOf ∈ n.outputs ∧ n ≠ first := by
  have hlater (hout : d.universeOf ∈ n.outputs) : d.universeOf ∈ n.outputs ∧ n ≠ first := by
    refine ⟨hout, ?_⟩
    intro heq
    exact h.absent (heq ▸ hout)
  cases h.owner with
  | sender hsent => exact .inl hsent.holds
  | output _ hat => exact .inr (hlater hat.holds.2)
  | address _ _ _ _ hby => exact .inr (hlater hby.holds.2)

namespace Snapshot

variable {snapshot : Snapshot} {as : List Arrival}

theorem Records.putsOut_iff (h : snapshot.Records as) {o : OutputAddress} {first : Node}
    (hfirst : Earliest (fun m => m.address.same o.node = true) (Arrival.nodes as) first) :
    snapshot.PutsOut o ↔ o.port ∈ first.outputs := by
  have hsame : first.address.same o.node = true := hfirst.holds
  have hkept : first ∈ snapshot.nodes := by
    apply (h.first first).mpr
    exact hfirst.congr fun m => (NodeAddress.same_congr hsame m.address).symm
  constructor
  · rintro ⟨n, hn, hn', hout⟩
    have hrank : n.rank = first.rank :=
      (NodeAddress.same_iff_rank _ _).mp (NodeAddress.same_trans hn' (NodeAddress.same_symm hsame))
    rwa [← h.nodesAscending.eq_of_rank_eq hn hkept hrank]
  · intro hout
    exact ⟨first, hkept, hsame, hout⟩

/-- One block that goes to a table tells whether the table stands for an output. -/
theorem Records.not_putsOut_iff (h : snapshot.Records as) {before after : List Arrival} {d : TodData}
    {source : Socket} {elapsed : Nat} (hsplit : as = before ++ ⟨.todData d, source, elapsed⟩ :: after)
    {o : OutputAddress} (hfiled : d.FiledUnder source (Arrival.nodes before) o) :
    ¬snapshot.PutsOut o ↔ ∃ n first, d.Misfiled source (Arrival.nodes before) n first := by
  obtain ⟨n, hn, hsame⟩ := hfiled.owner
  obtain ⟨first, hfirst⟩ : ∃ first,
      Earliest (fun m => m.address.same n.address = true) (Arrival.nodes before) first :=
    exists_earliest_iff.mpr ⟨n, hn.mem d source, n.address.same_refl⟩
  have hfirst' : Earliest (fun m => m.address.same o.node = true) (Arrival.nodes as) first := by
    rw [hsplit, Arrival.nodes_append]
    exact (hfirst.congr fun m => NodeAddress.same_congr hsame m.address).append _
  rw [h.putsOut_iff hfirst', ← hfiled.port]
  constructor
  · intro habsent
    exact ⟨n, first, hn, hfirst, habsent⟩
  · rintro ⟨n', first', hmis⟩
    have hn' : n' = n := hmis.owner.unique d source hn
    subst hn'
    rw [hfirst.unique hmis.earliest]
    exact hmis.absent

end Snapshot

namespace Orchestrator

open DiscoveryEvent (arrivals)

/-- A table that a cycle publishes fails to stand for an output of its node exactly when one of its
blocks was misfiled: the node has the socket and bind index that the block came from, or it named the
universe in a later reply only. A device is located at a table that lists it, and is reached there. -/
theorem tables_put_out (s : DiscoverySettings) (targets : List Socket) {o : Orchestrator}
    (hidle : o.Idle) {events : List DiscoveryEvent} (hevents : ∀ e ∈ events, e.goesOn = true)
    (elapsed : Nat) :
    let snapshot := (o.run s targets (DiscoveryEvent.cycle events elapsed)).1.snapshot
    (∀ t ∈ snapshot.tables, ¬snapshot.PutsOut t.output ↔
      ∃ before d source heard after n first,
        arrivals events = before ++ ⟨.todData d, source, heard⟩ :: after ∧
          d.FiledUnder source (Arrival.nodes before) t.output ∧
          d.Misfiled source (Arrival.nodes before) n first ∧
          (d.SentBy source n ∨ d.universeOf ∈ n.outputs ∧ n ≠ first)) ∧
      ∀ u out, snapshot.locate u = some out →
        (∃ t ∈ snapshot.tables, t.output = out ∧ u ∈ t.uids) ∧
          snapshot.rdmTarget u = some ⟨some (.v4 out.node.socket), out.port⟩ := by
  intro snapshot
  have hrecords : snapshot.Records (arrivals events) := by
    have hlast := congrArg Prod.fst (run_cycle s targets hidle hevents elapsed)
    simp only [snapshot, hlast]
    exact Cycle.snapshot_records s (arrivals events) elapsed
  refine ⟨?_, ?_⟩
  · intro t ht
    constructor
    · intro hnot
      obtain ⟨d, before, source, heard, after, hsplit, hfiled⟩ := hrecords.reported t ht
      obtain ⟨n, first, hmis⟩ := (hrecords.not_putsOut_iff hsplit hfiled).mp hnot
      exact ⟨before, d, source, heard, after, n, first, hsplit, hfiled, hmis, hmis.cause⟩
    · rintro ⟨before, d, source, heard, after, n, first, hsplit, hfiled, hmis, -⟩
      exact (hrecords.not_putsOut_iff hsplit hfiled).mpr ⟨n, first, hmis⟩
  · intro u out hlocate
    exact ⟨Snapshot.table_of_locate hlocate, Snapshot.rdmTarget_of_locate hlocate⟩

/-- A node repeats its reply with another universe, and its block has a bind index of no one. -/
theorem tables_put_out_repeated :
    let gateway : Ipv4Socket := ⟨.ofNumbers 10 0 0 1, 6454⟩
    let reply (port : UInt8) : PollReply :=
      { PollReply.blank with
        ip := gateway.ip, numPorts := 1, portTypes := Vector.replicate 4 0x80
        swOut := Vector.replicate 4 port }
    let block : TodData := ⟨1, 1, 3, 0, .full, 1, 1, 0, [⟨0x4c55, 0x66⟩]⟩
    let events : List DiscoveryEvent :=
      [.inbound (.pollReply (reply 0)) (.v4 gateway) 4,
        .inbound (.pollReply (reply 1)) (.v4 gateway) 5, .inbound (.todData block) (.v4 gateway) 9]
    let snapshot := (fresh.run .usual [] (DiscoveryEvent.cycle events 20)).1.snapshot
    let node := NodeAddress.ofReply (reply 0) (.v4 gateway)
    snapshot.rdmTarget ⟨0x4c55, 0x66⟩ = some ⟨some (.v4 gateway), ⟨0, 0, 1⟩⟩ ∧
      ∃ before d source heard after n first,
        arrivals events = before ++ ⟨.todData d, source, heard⟩ :: after ∧
          d.FiledUnder source (Arrival.nodes before) ⟨node, ⟨0, 0, 1⟩⟩ ∧
          d.Misfiled source (Arrival.nodes before) n first ∧
          (d.SentBy source n ∨ d.universeOf ∈ n.outputs ∧ n ≠ first) := by
  intro gateway reply block events snapshot node
  have hevents : ∀ e ∈ events, e.goesOn = true := by decide
  obtain ⟨htables, hlocate⟩ := tables_put_out .usual [] fresh_idle hevents 20
  have hlocated : snapshot.locate ⟨0x4c55, 0x66⟩ = some ⟨node, ⟨0, 0, 1⟩⟩ := by decide +kernel
  obtain ⟨⟨t, ht, hout, -⟩, htarget⟩ := hlocate _ _ hlocated
  have hnot : ¬snapshot.PutsOut t.output := by
    rw [hout]
    decide +kernel
  have hblock := (htables t ht).mp hnot
  rw [hout] at hblock
  exact ⟨htarget, hblock⟩

/-- Two bindings answer from one socket. The block of the second one leaves the bind index at 0 and is
filed under the first one, which does not put its universe out. -/
theorem table_without_output :
    let gateway : Ipv4Socket := ⟨.ofNumbers 10 0 0 1, 6454⟩
    let reply (bind port : UInt8) : PollReply :=
      { PollReply.blank with
        ip := gateway.ip, bindIp := gateway.ip, bindIndex := bind, numPorts := 1
        portTypes := Vector.replicate 4 0x80, swOut := Vector.replicate 4 port }
    let block : TodData := ⟨1, 1, 0, 0, .full, 1, 1, 0, [⟨0x4c55, 0x66⟩]⟩
    let events : List DiscoveryEvent :=
      [.inbound (.pollReply (reply 1 0)) (.v4 gateway) 4,
        .inbound (.pollReply (reply 2 1)) (.v4 gateway) 5,
        .inbound (.todData block) (.v4 gateway) 9]
    let snapshot := (fresh.run .usual [] (DiscoveryEvent.cycle events 20)).1.snapshot
    ¬∀ t ∈ snapshot.tables, snapshot.PutsOut t.output := by
  decide +kernel

end Orchestrator

end LightingNet
