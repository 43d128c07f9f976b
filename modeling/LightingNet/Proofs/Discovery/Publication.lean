import LightingNet.Proofs.Discovery.Runs
import LightingNet.Proofs.Discovery.Tables
/-!
# What a cycle publishes

The snapshot of a cycle is a record of what the cycle heard: the first reply of each node, and for
each output that a block was reported for, the devices of all these blocks. A refusal and a block of
nobody known leave no trace.
-/
namespace LightingNet

/-- A snapshot is a record of some messages. -/
structure Snapshot.Records (snapshot : Snapshot) (as : List Arrival) : Prop where
  nodesAscending : Ranked.Ascending Node.rank snapshot.nodes
  /-- The nodes are the first replies of their addresses. -/
  first : ∀ n, n ∈ snapshot.nodes ↔
    Earliest (fun m => m.address.same n.address = true) (Arrival.nodes as) n
  /-- No address is left out. -/
  heard : ∀ m ∈ Arrival.nodes as, ∃ n ∈ snapshot.nodes, n.address.same m.address = true
  tablesAscending : Ranked.Ascending DeviceTable.rank snapshot.tables
  known : ∀ t ∈ snapshot.tables, ∃ n ∈ snapshot.nodes, n.address.same t.output.node = true
  uidsAscending : ∀ t ∈ snapshot.tables, Ranked.Ascending Rdm.Uid.rank t.uids
  reported : ∀ t ∈ snapshot.tables, ∃ d, Reported as t.output d
  /-- A table is the union of the blocks that were reported for its output. -/
  union : ∀ t ∈ snapshot.tables, ∀ u, u ∈ t.uids ↔ ∃ d, Reported as t.output d ∧ u ∈ d.uids
  /-- A block that is accepted goes to one table, which has all its devices. -/
  once : ∀ before d source elapsed after n,
    as = before ++ ⟨.todData d, source, elapsed⟩ :: after → d.response ≠ .nak →
    d.BelongsTo source (Arrival.nodes before) n →
    ∃ t ∈ snapshot.tables, d.FiledUnder source (Arrival.nodes before) t.output ∧
      (∀ u ∈ d.uids, u ∈ t.uids) ∧
      ∀ t' ∈ snapshot.tables, d.FiledUnder source (Arrival.nodes before) t'.output → t' = t

namespace Cycle

variable {c : Cycle} {as : List Arrival}

theorem Heard.mem_snapshot_iff (h : c.Heard (Arrival.nodes as)) (elapsed : Nat) (n : Node) :
    n ∈ (c.snapshot elapsed).nodes ↔
      Earliest (fun m => m.address.same n.address = true) (Arrival.nodes as) n := by
  rw [h.snapshot_nodes, Ranked.mem_ofList]
  exact (earliest_iff_find? fun m => Iff.rfl).symm

private theorem Heard.exists_mem_snapshot (h : c.Heard (Arrival.nodes as)) (elapsed : Nat)
    {a : NodeAddress} (ha : ∃ m ∈ Arrival.nodes as, m.address.same a = true) :
    ∃ n ∈ (c.snapshot elapsed).nodes, n.address.same a = true := by
  obtain ⟨n, hn⟩ := exists_earliest_iff.mpr ha
  obtain ⟨before, after, hsplit, hbefore⟩ := hn.split
  refine ⟨n, (h.mem_snapshot_iff elapsed n).mpr ⟨n.address.same_refl, before, after, hsplit, ?_⟩,
    hn.holds⟩
  intro b hb hsame
  exact hbefore b hb (NodeAddress.same_trans hsame hn.holds)

theorem Tabled.tableOf_of_mem (h : c.Tabled as) {t : DeviceTable} (ht : t ∈ c.tables) :
    tableOf t.output c.tables = some t :=
  h.ascending.mem_iff_find?.mp ht

theorem Tabled.reported_of_mem (h : c.Tabled as) {t : DeviceTable} (ht : t ∈ c.tables) :
    ∃ d, Reported as t.output d := by
  by_contra hnone
  have hmade := (h.made t.output).mpr (not_exists.mp hnone)
  rw [h.tableOf_of_mem ht] at hmade
  cases hmade

theorem Tabled.exists_table (h : c.Tabled as) {o : OutputAddress} {d : TodData}
    (hd : Reported as o d) :
    ∃ t ∈ c.tables, t.output.rank = o.rank ∧ ∀ u ∈ d.uids, u ∈ t.uids := by
  cases htable : tableOf o c.tables with
  | none => exact absurd hd ((h.made o).mp htable d)
  | some t =>
    obtain ⟨hmem, hrank⟩ := Ranked.find?_eq_some htable
    exact ⟨t, hmem, hrank, fun u hu => (h.filled o t htable u).mpr ⟨d, hd, hu⟩⟩

/-- Whatever a cycle takes, its snapshot is a record of it. -/
theorem snapshot_records (s : DiscoverySettings) (as : List Arrival) (elapsed : Nat) :
    ((takeAll s empty as).1.snapshot elapsed).Records as := by
  have hheard := heard_takeAll s as
  have htabled := tabled_takeAll s as
  refine ⟨Ranked.ascending_ofList _, hheard.mem_snapshot_iff elapsed, ?_, htabled.ascending, ?_,
    htabled.uids, ?_, ?_, ?_⟩
  · intro m hm
    exact hheard.exists_mem_snapshot elapsed ⟨m, hm, m.address.same_refl⟩
  · intro t ht
    obtain ⟨d, hd⟩ := htabled.reported_of_mem ht
    exact hheard.exists_mem_snapshot elapsed hd.known
  · intro t ht
    exact htabled.reported_of_mem ht
  · intro t ht
    exact htabled.filled t.output t (htabled.tableOf_of_mem ht)
  · intro before d source elapsed after n hsplit haccepted hn
    have hfiled := TodData.filedUnder_of_belongsTo haccepted hn
    obtain ⟨t, ht, hrank, huids⟩ :=
      htabled.exists_table ⟨before, source, elapsed, after, hsplit, hfiled⟩
    refine ⟨t, ht, hfiled.of_rank_eq hrank.symm, huids, ?_⟩
    intro t' ht' hfiled'
    refine htabled.ascending.eq_of_rank_eq ht' ht ?_
    exact (hfiled'.same hfiled).trans hrank.symm

private theorem takeAll_unfiled (s : DiscoverySettings) {before : List Arrival} {d : TodData}
    {source : Socket} (hunfiled : ¬∃ o, d.FiledUnder source (Arrival.nodes before) o)
    (elapsed : Nat) (after : List Arrival) :
    takeAll s empty (before ++ ⟨.todData d, source, elapsed⟩ :: after) =
      takeAll s empty (before ++ after) := by
  have hsame := (heard_takeAll s before).onTodData_of_unfiled hunfiled
  rw [takeAll_append, takeAll_append]
  simp only [takeAll, handle, hsame, List.nil_append]

end Cycle

namespace Orchestrator

open DiscoveryEvent (arrivals)

private theorem run_cycle_unfiled (s : DiscoverySettings) (targets : List Socket) {o : Orchestrator}
    (hidle : o.Idle) {before after : List DiscoveryEvent} {d : TodData} {source : Socket}
    {heard : Nat}
    (hevents : ∀ e ∈ before ++ .inbound (.todData d) source heard :: after, e.goesOn = true)
    (hunfiled : ¬∃ out, d.FiledUnder source (Arrival.nodes (arrivals before)) out)
    (elapsed : Nat) :
    o.run s targets
        (DiscoveryEvent.cycle (before ++ .inbound (.todData d) source heard :: after) elapsed) =
      o.run s targets (DiscoveryEvent.cycle (before ++ after) elapsed) := by
  have hrest : ∀ e ∈ before ++ after, e.goesOn = true := by
    intro e he
    refine hevents e ?_
    rcases List.mem_append.mp he with he | he
    · exact List.mem_append_left _ he
    · exact List.mem_append_right _ (List.mem_cons_of_mem _ he)
  have harrivals : arrivals (before ++ .inbound (.todData d) source heard :: after) =
      arrivals before ++ ⟨.todData d, source, heard⟩ :: arrivals after :=
    DiscoveryEvent.arrivals_append _ _
  rw [run_cycle s targets hidle hevents, run_cycle s targets hidle hrest, harrivals,
    Cycle.takeAll_unfiled s hunfiled, DiscoveryEvent.arrivals_append]
  simp

/-- A cycle publishes exactly what it heard: whatever comes between its refresh and its deadline, its
snapshot is a record of the messages among it, and without a block that is refused or belongs to
nobody the whole run is the same. -/
theorem publishes_heard (s : DiscoverySettings) (targets : List Socket) {o : Orchestrator}
    (hidle : o.Idle) {events : List DiscoveryEvent} (hevents : ∀ e ∈ events, e.goesOn = true)
    (elapsed : Nat) :
    let last := (o.run s targets (DiscoveryEvent.cycle events elapsed)).1
    last.result.1 = .ok last.snapshot ∧ last.generation = o.generation + 1 ∧
      last.snapshot.Records (arrivals events) ∧
      ∀ before d source heard after,
        events = before ++ .inbound (.todData d) source heard :: after →
        (d.response = .nak ∨ ∀ n, ¬d.BelongsTo source (Arrival.nodes (arrivals before)) n) →
        o.run s targets (DiscoveryEvent.cycle events elapsed) =
          o.run s targets (DiscoveryEvent.cycle (before ++ after) elapsed) := by
  intro last
  have hlast : last = _ := congrArg Prod.fst (run_cycle s targets hidle hevents elapsed)
  refine ⟨?_, ?_, ?_, ?_⟩
  · rw [hlast]
    rfl
  · rw [hlast]
    rfl
  · rw [hlast]
    exact Cycle.snapshot_records s (arrivals events) elapsed
  · rintro before d source heard after rfl hblock
    refine run_cycle_unfiled s targets hidle hevents ?_ elapsed
    rw [d.exists_filedUnder_iff]
    rintro ⟨haccepted, n, hn⟩
    rcases hblock with hnak | hnobody
    · exact haccepted hnak
    · exact hnobody n hn

theorem publishes_heard_refused :
    let gateway : Socket := .v4 ⟨.ofNumbers 10 0 0 5, 6454⟩
    let reply : PollReply :=
      { PollReply.blank with
        ip := .ofNumbers 10 0 0 5, numPorts := 1, portTypes := Vector.replicate 4 0x80 }
    let block : TodData := ⟨1, 1, 1, 0, .full, 0, 2, 0, [⟨0x4c55, 2⟩, ⟨0x4c55, 1⟩]⟩
    let refusal : TodData := { block with response := .nak, uids := [⟨0x4c55, 3⟩] }
    let opening : List DiscoveryEvent :=
      [.inbound (.pollReply reply) gateway 4, .inbound (.todData block) gateway 9]
    let closing : List DiscoveryEvent := [.inbound (.todData block) gateway 12]
    let events := opening ++ .inbound (.todData refusal) gateway 10 :: closing
    let last := (fresh.run .usual [] (DiscoveryEvent.cycle events 20)).1
    last.snapshot.Records (arrivals events) ∧
      last.snapshot.tables.map DeviceTable.uids = [[⟨0x4c55, 1⟩, ⟨0x4c55, 2⟩]] ∧
      fresh.run .usual [] (DiscoveryEvent.cycle events 20) =
        fresh.run .usual [] (DiscoveryEvent.cycle (opening ++ closing) 20) := by
  intro gateway reply block refusal opening closing events last
  have hevents : ∀ e ∈ events, e.goesOn = true := by decide
  obtain ⟨-, -, hrecords, hunfiled⟩ := publishes_heard .usual [] fresh_idle hevents 20
  exact ⟨hrecords, by decide +kernel, hunfiled opening refusal gateway 10 closing rfl (.inl rfl)⟩

end Orchestrator

end LightingNet
