import LightingNet.Proofs.Discovery.History
import LightingNet.Proofs.Node.Identity
import LightingNet.Proofs.Ranked
/-!
# The tables of a cycle

Which table a block goes to is told by the messages before it: the table of its universe on the node
that it belongs to. What stands in a table is then the union of the blocks that went there, whatever
came in between.
-/
namespace LightingNet

/-- A block goes to the table of an output: it is no refusal, it belongs to the node of the output,
and it is about its universe. -/
structure TodData.FiledUnder (d : TodData) (source : Socket) (heard : List Node)
    (o : OutputAddress) : Prop where
  accepted : d.response ≠ .nak
  owner : ∃ n, d.BelongsTo source heard n ∧ n.address.same o.node = true
  port : d.universeOf = o.port

def Reported (as : List Arrival) (o : OutputAddress) (d : TodData) : Prop :=
  ∃ before source elapsed after,
    as = before ++ ⟨.todData d, source, elapsed⟩ :: after ∧
      d.FiledUnder source (Arrival.nodes before) o

theorem TodData.FiledUnder.same {d : TodData} {source : Socket} {heard : List Node}
    {o o' : OutputAddress} (h : d.FiledUnder source heard o) (h' : d.FiledUnder source heard o') :
    o.rank = o'.rank := by
  obtain ⟨n, hn, hsame⟩ := h.owner
  obtain ⟨n', hn', hsame'⟩ := h'.owner
  cases hn.unique d source hn'
  rw [OutputAddress.rank_eq_iff]
  exact ⟨NodeAddress.same_trans (NodeAddress.same_symm hsame) hsame', h.port.symm.trans h'.port⟩

theorem TodData.FiledUnder.of_rank_eq {d : TodData} {source : Socket} {heard : List Node}
    {o o' : OutputAddress} (h : d.FiledUnder source heard o) (hrank : o.rank = o'.rank) :
    d.FiledUnder source heard o' := by
  obtain ⟨n, hn, hsame⟩ := h.owner
  obtain ⟨hnode, hport⟩ := (OutputAddress.rank_eq_iff o o').mp hrank
  exact ⟨h.accepted, ⟨n, hn, NodeAddress.same_trans hsame hnode⟩, h.port.trans hport⟩

theorem TodData.filedUnder_of_belongsTo {d : TodData} {source : Socket} {heard : List Node}
    {n : Node} (haccepted : d.response ≠ .nak) (hn : d.BelongsTo source heard n) :
    d.FiledUnder source heard ⟨n.address, d.universeOf⟩ :=
  ⟨haccepted, ⟨n, hn, n.address.same_refl⟩, rfl⟩

theorem TodData.exists_filedUnder_iff (d : TodData) (source : Socket) (heard : List Node) :
    (∃ o, d.FiledUnder source heard o) ↔
      d.response ≠ .nak ∧ ∃ n, d.BelongsTo source heard n := by
  constructor
  · rintro ⟨o, haccepted, ⟨n, hn, -⟩, -⟩
    exact ⟨haccepted, n, hn⟩
  · rintro ⟨haccepted, n, hn⟩
    exact ⟨_, filedUnder_of_belongsTo haccepted hn⟩

private theorem not_reported_nil (o : OutputAddress) (d : TodData) : ¬Reported [] o d := by
  rintro ⟨before, source, elapsed, after, heq, -⟩
  simp at heq

theorem reported_snoc (as : List Arrival) (a : Arrival) (o : OutputAddress) (d : TodData) :
    Reported (as ++ [a]) o d ↔
      Reported as o d ∨ a.message = .todData d ∧ d.FiledUnder a.source (Arrival.nodes as) o := by
  constructor
  · rintro ⟨before, source, elapsed, after, heq, hfiled⟩
    rcases List.eq_nil_or_concat after with rfl | ⟨init, last, rfl⟩
    · obtain ⟨rfl, hlast⟩ := List.append_inj' heq rfl
      cases hlast
      exact .inr ⟨rfl, hfiled⟩
    · have heq : as ++ [a] = (before ++ ⟨.todData d, source, elapsed⟩ :: init) ++ [last] := by
        simpa using heq
      obtain ⟨rfl, -⟩ := List.append_inj' heq rfl
      exact .inl ⟨before, source, elapsed, init, rfl, hfiled⟩
  · rintro (⟨before, source, elapsed, after, rfl, hfiled⟩ | ⟨hmessage, hfiled⟩)
    · exact ⟨before, source, elapsed, after ++ [a], by simp, hfiled⟩
    · obtain ⟨m, source, elapsed⟩ := a
      cases hmessage
      exact ⟨as, source, elapsed, [], rfl, hfiled⟩

theorem Reported.known {as : List Arrival} {o : OutputAddress} {d : TodData}
    (h : Reported as o d) : ∃ n ∈ Arrival.nodes as, n.address.same o.node = true := by
  obtain ⟨before, source, elapsed, after, rfl, hfiled⟩ := h
  obtain ⟨n, hn, hsame⟩ := hfiled.owner
  refine ⟨n, ?_, hsame⟩
  rw [Arrival.nodes_append]
  exact List.mem_append_left _ (hn.mem d source)

def tableOf (o : OutputAddress) (tables : List DeviceTable) : Option DeviceTable :=
  Ranked.find? DeviceTable.rank o.rank tables

private theorem DeviceTable.rank_add (uids : List Rdm.Uid) (t : DeviceTable) :
    (t.add uids).rank = t.rank :=
  rfl

private theorem DeviceTable.mem_add {t : DeviceTable} (h : Ranked.Ascending Rdm.Uid.rank t.uids)
    (uids : List Rdm.Uid) (u : Rdm.Uid) : u ∈ (t.add uids).uids ↔ u ∈ t.uids ∨ u ∈ uids :=
  Ranked.mem_insertAll_of_injective Rdm.Uid.rank_injective uids h

private theorem ascending_fileUids {tables : List DeviceTable}
    (h : Ranked.Ascending DeviceTable.rank tables) (o : OutputAddress) (uids : List Rdm.Uid) :
    Ranked.Ascending DeviceTable.rank (fileUids o uids tables) :=
  h.upsert (DeviceTable.rank_add uids)

private theorem tableOf_fileUids {tables : List DeviceTable}
    (h : Ranked.Ascending DeviceTable.rank tables) (o o' : OutputAddress) (uids : List Rdm.Uid) :
    tableOf o' (fileUids o uids tables) =
      if o.rank = o'.rank then some (DeviceTable.add uids ((tableOf o' tables).getD ⟨o, []⟩))
      else tableOf o' tables :=
  h.find?_upsert (DeviceTable.rank_add uids) o'.rank

/-- Tables that map outputs to sets of devices: one table for an output, in the order of the outputs,
and no device twice. -/
structure DeviceTable.Mapped (tables : List DeviceTable) : Prop where
  ascending : Ranked.Ascending DeviceTable.rank tables
  uids : ∀ t ∈ tables, Ranked.Ascending Rdm.Uid.rank t.uids

theorem DeviceTable.Mapped.fileUids {tables : List DeviceTable} (h : Mapped tables)
    (o : OutputAddress) (uids : List Rdm.Uid) : Mapped (fileUids o uids tables) := by
  have hascending := ascending_fileUids h.ascending o uids
  refine ⟨hascending, fun t ht => ?_⟩
  rw [hascending.mem_iff_find?] at ht
  have ht : tableOf t.output (LightingNet.fileUids o uids tables) = some t := ht
  rw [tableOf_fileUids h.ascending] at ht
  split at ht
  · rw [← Option.some.inj ht]
    apply Ranked.insertAll_ascending uids
    cases hold : tableOf t.output tables with
    | none => exact Ranked.ascending_nil
    | some old => exact h.uids old (Ranked.find?_eq_some hold).1
  · exact h.uids t (Ranked.find?_eq_some ht).1

private theorem output_of_mem_fileUids {tables : List DeviceTable}
    (h : Ranked.Ascending DeviceTable.rank tables) {o : OutputAddress} {uids : List Rdm.Uid}
    {t : DeviceTable} (ht : t ∈ fileUids o uids tables) :
    t.output = o ∨ ∃ old ∈ tables, old.output = t.output := by
  rw [(ascending_fileUids h o uids).mem_iff_find?] at ht
  have ht : tableOf t.output (fileUids o uids tables) = some t := ht
  rw [tableOf_fileUids h] at ht
  split at ht
  · cases hold : tableOf t.output tables with
    | none =>
      rw [hold, Option.getD_none, Option.some.injEq] at ht
      rw [← ht]
      exact .inl rfl
    | some old =>
      rw [hold, Option.getD_some, Option.some.injEq] at ht
      rw [← ht]
      exact .inr ⟨old, (Ranked.find?_eq_some hold).1, rfl⟩
  · exact .inr ⟨t, (Ranked.find?_eq_some ht).1, rfl⟩

namespace Cycle

private theorem Heard.onTodData_of_belongsTo {c : Cycle} {heard : List Node} (h : c.Heard heard)
    {d : TodData} {source : Socket} {n : Node} (haccepted : d.response ≠ .nak)
    (hn : d.BelongsTo source heard n) :
    c.onTodData d source =
      { c with tables := fileUids ⟨n.address, d.universeOf⟩ d.uids c.tables } := by
  have howner : c.owner? d source = some n.address :=
    (h.owner?_eq_some_iff d source n.address).mpr ⟨n, hn, rfl⟩
  simp only [Cycle.onTodData, howner]

theorem Heard.onTodData_of_unfiled {c : Cycle} {heard : List Node} (h : c.Heard heard) {d : TodData}
    {source : Socket} (hunfiled : ¬∃ o, d.FiledUnder source heard o) : c.onTodData d source = c := by
  rw [d.exists_filedUnder_iff, not_and] at hunfiled
  rw [Cycle.onTodData]
  split
  · rfl
  · rename_i node hnode
    obtain ⟨n, hn, -⟩ := (h.owner?_eq_some_iff d source node).mp hnode
    split
    · rfl
    · rename_i haccepted
      exact absurd ⟨n, hn⟩ (hunfiled haccepted)

/-- The tables of a cycle that has taken some messages: one for each output that a block was
reported for, with the devices of all these blocks. -/
structure Tabled (c : Cycle) (as : List Arrival) : Prop where
  ascending : Ranked.Ascending DeviceTable.rank c.tables
  uids : ∀ t ∈ c.tables, Ranked.Ascending Rdm.Uid.rank t.uids
  made : ∀ o, tableOf o c.tables = none ↔ ∀ d, ¬Reported as o d
  filled : ∀ o t, tableOf o c.tables = some t → ∀ u, u ∈ t.uids ↔ ∃ d, Reported as o d ∧ u ∈ d.uids

theorem Tabled.mapped {c : Cycle} {as : List Arrival} (h : c.Tabled as) :
    DeviceTable.Mapped c.tables :=
  ⟨h.ascending, h.uids⟩

private theorem tabled_empty : empty.Tabled [] where
  ascending := Ranked.ascending_nil
  uids := nofun
  made o := ⟨fun _ => not_reported_nil o, fun _ => rfl⟩
  filled := nofun

private theorem Tabled.of_reported {c c' : Cycle} {as as' : List Arrival} (h : c.Tabled as)
    (htables : c'.tables = c.tables) (hsame : ∀ o d, Reported as' o d ↔ Reported as o d) :
    c'.Tabled as' := by
  refine ⟨htables ▸ h.ascending, htables ▸ h.uids, ?_, ?_⟩
  · intro o
    rw [htables, h.made o]
    simp only [hsame]
  · intro o t ht u
    rw [htables] at ht
    rw [h.filled o t ht u]
    simp only [hsame]

private theorem Tabled.uids_getD {c : Cycle} {as : List Arrival} (h : c.Tabled as)
    (o o' : OutputAddress) :
    Ranked.Ascending Rdm.Uid.rank ((tableOf o' c.tables).getD ⟨o, []⟩).uids := by
  cases hold : tableOf o' c.tables with
  | none => exact Ranked.ascending_nil
  | some old => exact h.uids old (Ranked.find?_eq_some hold).1

private theorem Tabled.fileUids {c : Cycle} {as : List Arrival} (h : c.Tabled as) {d : TodData}
    {source : Socket} {o : OutputAddress} (hfiled : d.FiledUnder source (Arrival.nodes as) o)
    (elapsed : Nat) :
    Tabled { c with tables := LightingNet.fileUids o d.uids c.tables }
      (as ++ [⟨.todData d, source, elapsed⟩]) := by
  -- The block is news for the outputs of one rank, and only the table of that rank changes.
  have hreported (o' : OutputAddress) (d' : TodData) :
      Reported (as ++ [⟨.todData d, source, elapsed⟩]) o' d' ↔
        Reported as o' d' ∨ d' = d ∧ o.rank = o'.rank := by
    rw [reported_snoc]
    constructor
    · rintro (hold | ⟨hmessage, hfiled'⟩)
      · exact .inl hold
      · cases hmessage
        exact .inr ⟨rfl, hfiled.same hfiled'⟩
    · rintro (hold | ⟨rfl, hrank⟩)
      · exact .inl hold
      · exact .inr ⟨rfl, hfiled.of_rank_eq hrank⟩
  have hmapped := h.mapped.fileUids o d.uids
  refine ⟨hmapped.ascending, hmapped.uids, ?_, ?_⟩
  · intro o'
    simp only [tableOf_fileUids h.ascending, hreported]
    by_cases hrank : o.rank = o'.rank
    · rw [if_pos hrank]
      exact ⟨nofun, fun hnone => absurd (.inr ⟨rfl, hrank⟩) (hnone d)⟩
    · simp [hrank, h.made o']
  · intro o' t ht u
    simp only [hreported, or_and_right, exists_or]
    rw [tableOf_fileUids h.ascending] at ht
    by_cases hrank : o.rank = o'.rank
    · rw [if_pos hrank] at ht
      rw [← Option.some.inj ht, DeviceTable.mem_add (h.uids_getD o o')]
      cases hold : tableOf o' c.tables with
      | none => simp [(h.made o').mp hold, hrank]
      | some old => simp [h.filled o' old hold u, hrank]
    · rw [if_neg hrank] at ht
      simp [h.filled o' t ht u, hrank]

private theorem Tabled.onTodData {c : Cycle} {as : List Arrival} (h : c.Tabled as)
    (hheard : c.Heard (Arrival.nodes as)) (d : TodData) (source : Socket) (elapsed : Nat) :
    (c.onTodData d source).Tabled (as ++ [⟨.todData d, source, elapsed⟩]) := by
  by_cases hfiled : ∃ o, d.FiledUnder source (Arrival.nodes as) o
  · obtain ⟨haccepted, n, hn⟩ := (d.exists_filedUnder_iff source _).mp hfiled
    rw [hheard.onTodData_of_belongsTo haccepted hn]
    exact h.fileUids (TodData.filedUnder_of_belongsTo haccepted hn) elapsed
  · rw [hheard.onTodData_of_unfiled hfiled]
    refine h.of_reported rfl fun o d' => ?_
    rw [reported_snoc, or_iff_left]
    rintro ⟨hmessage, hfiled'⟩
    cases hmessage
    exact hfiled ⟨o, hfiled'⟩

private theorem Tabled.handle {c : Cycle} {as : List Arrival} (h : c.Tabled as)
    (hheard : c.Heard (Arrival.nodes as)) (s : DiscoverySettings) (a : Arrival) :
    (c.handle s a.message a.source a.elapsed).1.Tabled (as ++ [a]) := by
  obtain ⟨m, source, elapsed⟩ := a
  have hsilent (hm : ∀ d, m ≠ .todData d) (o : OutputAddress) (d : TodData) :
      Reported (as ++ [⟨m, source, elapsed⟩]) o d ↔ Reported as o d := by
    rw [reported_snoc, or_iff_left]
    rintro ⟨hmessage, -⟩
    exact hm d hmessage
  cases m with
  | todData d => exact h.onTodData hheard d source elapsed
  | _ => exact h.of_reported rfl (hsilent (by simp))

theorem tabled_takeAll (s : DiscoverySettings) (as : List Arrival) :
    (takeAll s empty as).1.Tabled as := by
  induction as using List.reverseRecOn with
  | nil => exact tabled_empty
  | append_singleton as a ih =>
    rw [takeAll_append, takeAll_singleton]
    exact ih.handle (heard_takeAll s as) s a

theorem heard_of_mem_tables (s : DiscoverySettings) (as : List Arrival) :
    ∀ t ∈ (takeAll s empty as).1.tables, ∃ n ∈ Arrival.nodes as, n.address = t.output.node := by
  induction as using List.reverseRecOn with
  | nil => exact nofun
  | append_singleton as a ih =>
    have hheard := heard_takeAll s as
    have hold : ∀ t ∈ (takeAll s empty as).1.tables,
        ∃ n ∈ Arrival.nodes (as ++ [a]), n.address = t.output.node := by
      intro t ht
      obtain ⟨n, hn, haddress⟩ := ih t ht
      rw [Arrival.nodes_append]
      exact ⟨n, List.mem_append_left _ hn, haddress⟩
    rw [takeAll_append, takeAll_singleton]
    obtain ⟨m, source, elapsed⟩ := a
    cases m with
    | todData d =>
      by_cases hfiled : ∃ o, d.FiledUnder source (Arrival.nodes as) o
      · obtain ⟨haccepted, n, hn⟩ := (d.exists_filedUnder_iff source _).mp hfiled
        intro t ht
        simp only [handle, hheard.onTodData_of_belongsTo haccepted hn] at ht
        rcases output_of_mem_fileUids (tabled_takeAll s as).ascending ht with hnew | ⟨old, ht, hsame⟩
        · rw [hnew, Arrival.nodes_append]
          exact ⟨n, List.mem_append_left _ (hn.mem d source), rfl⟩
        · rw [← hsame]
          exact hold old ht
      · simp only [handle, hheard.onTodData_of_unfiled hfiled]
        exact hold
    | _ => exact hold

end Cycle

end LightingNet
