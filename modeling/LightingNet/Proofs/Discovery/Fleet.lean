import LightingNet.Proofs.Discovery.Outputs
import LightingNet.Proofs.Simulation.Answers
import Mathlib.Data.List.Pairwise
/-!
# Finding a fleet of gateways

What a cycle finds once it has heard every answer of some gateways. All a cycle needs of the order in
which the answers come is that no gateway sends a block before the replies for its bindings: each block
then belongs to the binding that it is for, whatever else the other gateways send meanwhile.
-/
namespace LightingNet

open Simulation

/-- Some gateways on one network. No two of them share a socket, and no two bindings are one node. -/
structure Fleet (gs : List Gateway) : Prop where
  ready : ∀ g ∈ gs, g.Ready
  sockets : (gs.map Gateway.socket).Nodup
  bindings : (gs.flatMap fun g => g.setup.bindings.map fun b => (g.root, b.bindIndex)).Nodup

inductive AnswerOf (gs : List Gateway) : Arrival → Prop
  | reply {g : Gateway} (hg : g ∈ gs) {b : Binding} (hb : b ∈ g.setup.bindings) (elapsed : Nat) :
    AnswerOf gs ⟨.pollReply (g.replyOf b), .v4 g.socket, elapsed⟩
  | block {g : Gateway} (hg : g ∈ gs) {b : Binding} (hb : b ∈ g.setup.bindings) {o : Output}
    (ho : o ∈ b.outputs) (index elapsed : Nat) :
    AnswerOf gs ⟨.todData (g.blockOf b o index), .v4 g.socket, elapsed⟩

def Introduced (g : Gateway) (as : List Arrival) : Prop :=
  ∀ b ∈ g.setup.bindings, ∃ elapsed, ⟨.pollReply (g.replyOf b), .v4 g.socket, elapsed⟩ ∈ as

/-- Some messages are all the answers of some gateways: a reply for each binding, a block for each
output, and the blocks of a gateway behind its replies. -/
structure Answered (gs : List Gateway) (as : List Arrival) : Prop where
  sound : ∀ a ∈ as, AnswerOf gs a
  replies : ∀ g ∈ gs, Introduced g as
  blocks : ∀ g ∈ gs, ∀ b ∈ g.setup.bindings, ∀ o ∈ b.outputs, ∃ index elapsed,
    ⟨.todData (g.blockOf b o index), .v4 g.socket, elapsed⟩ ∈ as
  ordered : ∀ g ∈ gs, ∀ before d elapsed after,
    as = before ++ ⟨.todData d, .v4 g.socket, elapsed⟩ :: after → Introduced g before

def Attaches (g : Gateway) (b : Binding) (p : PortAddress) (u : Rdm.Uid) : Prop :=
  ∃ o ∈ b.outputs, g.setup.universeOf o = p ∧ ∃ r ∈ o.responders, r.uid = u

/-- A snapshot shows some gateways as they are: a node for each binding, a table for each output with
the identifiers that are attached there, and where to find an identifier that is attached once. -/
structure Snapshot.Shows (snapshot : Snapshot) (gs : List Gateway) : Prop where
  nodes : (snapshot.nodes.map Node.address).Perm
    (gs.flatMap fun g => g.setup.bindings.map g.nodeAddress)
  tables : ∀ out, out ∈ snapshot.tables.map DeviceTable.output ↔
    ∃ g ∈ gs, ∃ b ∈ g.setup.bindings, ∃ o ∈ b.outputs, g.outputAddress b o = out
  uids : ∀ g ∈ gs, ∀ b ∈ g.setup.bindings, ∀ o ∈ b.outputs, ∃ us,
    snapshot.uidsOn (g.outputAddress b o) = some us ∧
      ∀ u, u ∈ us ↔ Attaches g b (g.setup.universeOf o) u
  allUids : ∀ u, u ∈ snapshot.allUids ↔
    ∃ g ∈ gs, ∃ b ∈ g.setup.bindings, ∃ o ∈ b.outputs, ∃ r ∈ o.responders, r.uid = u
  once : ∀ g ∈ gs, ∀ b ∈ g.setup.bindings, ∀ o ∈ b.outputs, ∀ r ∈ o.responders,
    (∀ g' ∈ gs, ∀ b' ∈ g'.setup.bindings, ∀ o' ∈ b'.outputs, ∀ r' ∈ o'.responders,
      r'.uid = r.uid → g' = g ∧ b' = b ∧ g'.setup.universeOf o' = g.setup.universeOf o) →
    snapshot.locate r.uid = some (g.outputAddress b o) ∧
      snapshot.rdmTarget r.uid = some ⟨some (.v4 g.socket), g.setup.universeOf o⟩

namespace Fleet

variable {gs : List Gateway} (h : Fleet gs)

include h

private theorem eq_of_socket {g g' : Gateway} (hg : g ∈ gs) (hg' : g' ∈ gs)
    (hsocket : g.socket = g'.socket) : g = g' :=
  List.inj_on_of_nodup_map h.sockets hg hg' hsocket

theorem distinct {g : Gateway} (hg : g ∈ gs) : (g.setup.bindings.map Binding.bindIndex).Nodup := by
  have hpairs := (List.nodup_flatMap.mp h.bindings).1 g hg
  apply List.Nodup.of_map (Prod.mk g.root)
  rwa [List.map_map]

theorem eq_of_same {g g' : Gateway} (hg : g ∈ gs) (hg' : g' ∈ gs) {b b' : Binding}
    (hb : b ∈ g.setup.bindings) (hb' : b' ∈ g'.setup.bindings)
    (hsame : (g.nodeAddress b).same (g'.nodeAddress b') = true) : g = g' ∧ b = b' := by
  obtain ⟨hroot, hbind⟩ := (NodeAddress.same_iff _ _).mp hsame
  have hroot : g.root = g'.root := hroot
  have hbind : b.bindIndex = b'.bindIndex := hbind
  have hgateway : g = g' := by
    by_contra hne
    have hsymm : Std.Symm (Function.onFun List.Disjoint fun g : Gateway =>
        g.setup.bindings.map fun b => (g.root, b.bindIndex)) := ⟨fun _ _ hd _ hx hx' => hd hx' hx⟩
    have hapart := (List.nodup_flatMap.mp h.bindings).2.forall hg hg' hne
    apply hapart (List.mem_map_of_mem hb)
    rw [hroot, hbind]
    exact List.mem_map_of_mem (f := fun b => (g'.root, b.bindIndex)) hb'
  subst hgateway
  exact ⟨rfl, List.inj_on_of_nodup_map (h.distinct hg) hb hb' hbind⟩

private theorem eq_of_outputAddress {g g' : Gateway} (hg : g ∈ gs) (hg' : g' ∈ gs) {b b' : Binding}
    (hb : b ∈ g.setup.bindings) (hb' : b' ∈ g'.setup.bindings) {o o' : Output}
    (hrank : (g.outputAddress b o).rank = (g'.outputAddress b' o').rank) :
    g = g' ∧ b = b' ∧ g.setup.universeOf o = g'.setup.universeOf o' := by
  obtain ⟨hsame, hport⟩ := (OutputAddress.rank_eq_iff _ _).mp hrank
  obtain ⟨hgateway, hbinding⟩ := h.eq_of_same hg hg' hb hb' hsame
  exact ⟨hgateway, hbinding, hport⟩

private theorem mem_uids_blockOf {g : Gateway} (hg : g ∈ gs) {b : Binding}
    (hb : b ∈ g.setup.bindings) (o : Output) (index : Nat) (u : Rdm.Uid) :
    u ∈ (g.blockOf b o index).uids ↔ Attaches g b (g.setup.universeOf o) u := by
  have huids : (g.blockOf b o index).uids =
      (g.setup.respondersOn b (g.setup.universeOf o)).map Responder.uid :=
    Gateway.uidsOn_eq (h.ready g hg) (h.distinct hg) hb o
  rw [huids, Setup.respondersOn, Attaches]
  simp only [List.mem_map, List.mem_flatMap, List.mem_filter, beq_iff_eq]
  tauto

private theorem universeOf_blockOf {g : Gateway} (hg : g ∈ gs) (b : Binding) (o : Output)
    (index : Nat) : (g.blockOf b o index).universeOf = g.setup.universeOf o :=
  Setup.ofShort_addressOf (h.ready g hg).net (h.ready g hg).subnet o

end Fleet

namespace Answered

variable {gs : List Gateway} {as : List Arrival}

theorem mem_nodes {g : Gateway} {b : Binding} {elapsed : Nat}
    (ha : ⟨.pollReply (g.replyOf b), .v4 g.socket, elapsed⟩ ∈ as) :
    g.nodeOf b elapsed ∈ Arrival.nodes as :=
  List.mem_filterMap.mpr ⟨_, ha, rfl⟩

theorem exists_of_mem_nodes (hsound : ∀ a ∈ as, AnswerOf gs a) {n : Node}
    (hn : n ∈ Arrival.nodes as) :
    ∃ g ∈ gs, ∃ b ∈ g.setup.bindings, ∃ elapsed, g.nodeOf b elapsed = n := by
  obtain ⟨a, ha, hnode⟩ := List.mem_filterMap.mp hn
  cases hsound a ha with
  | reply hg hb elapsed => exact ⟨_, hg, _, hb, elapsed, Option.some.inj hnode⟩
  | block => cases hnode

variable (hfleet : Fleet gs) (h : Answered gs as)

include hfleet h

private theorem belongsTo {g : Gateway} (hg : g ∈ gs) {b : Binding} (hb : b ∈ g.setup.bindings)
    {o : Output} {index elapsed : Nat} {before after : List Arrival}
    (hsplit : as = before ++ ⟨.todData (g.blockOf b o index), .v4 g.socket, elapsed⟩ :: after) :
    ∃ n, (g.blockOf b o index).BelongsTo (.v4 g.socket) (Arrival.nodes before) n ∧
      n.address = g.nodeAddress b := by
  have hready := hfleet.ready g hg
  have hbind : max (g.blockOf b o index).bindIndex 1 = b.bindIndex :=
    Gateway.max_bindIndex hready hb
  obtain ⟨replied, hreply⟩ := h.ordered g hg _ _ _ _ hsplit b hb
  have hsent : (g.blockOf b o index).SentBy (.v4 g.socket) (g.nodeOf b replied) := by
    refine ⟨.inl rfl, ?_⟩
    rw [Gateway.address_nodeOf hready hb, hbind]
    rfl
  obtain ⟨n, hn⟩ := exists_earliest_iff.mpr ⟨_, mem_nodes hreply, hsent⟩
  refine ⟨n, .sender hn, ?_⟩
  have hbefore : ∀ a ∈ before, AnswerOf gs a := by
    intro a ha
    exact h.sound a (hsplit ▸ List.mem_append_left _ ha)
  obtain ⟨g', hg', b', hb', elapsed', rfl⟩ := exists_of_mem_nodes hbefore hn.mem
  have haddress := Gateway.address_nodeOf (hfleet.ready g' hg') hb' elapsed'
  obtain ⟨hat, hindex⟩ := hn.holds
  rw [haddress, hbind] at hindex
  have hsocket : g'.socket = g.socket := by
    rcases hat with hat | hat
    · exact Socket.v4.inj hat
    · rw [haddress] at hat
      exact Socket.v4.inj hat
  cases hfleet.eq_of_socket hg' hg hsocket
  have hindex : b'.bindIndex = b.bindIndex := hindex
  rw [haddress, Gateway.nodeAddress, hindex, Gateway.nodeAddress]

private theorem exists_of_reported {out : OutputAddress} {d : TodData} (hd : Reported as out d) :
    ∃ g ∈ gs, ∃ b ∈ g.setup.bindings, ∃ o ∈ b.outputs, ∃ index,
      g.blockOf b o index = d ∧ (g.outputAddress b o).rank = out.rank := by
  obtain ⟨before, source, elapsed, after, hsplit, hfiled⟩ := hd
  have hmem : ⟨.todData d, source, elapsed⟩ ∈ as := by simp [hsplit]
  cases h.sound _ hmem with
  | block hg hb ho index elapsed =>
    obtain ⟨n, hn, haddress⟩ := h.belongsTo hfleet hg hb hsplit
    refine ⟨_, hg, _, hb, _, ho, index, rfl, ?_⟩
    have hown := TodData.filedUnder_of_belongsTo hfiled.accepted hn
    rw [haddress, hfleet.universeOf_blockOf hg] at hown
    exact hown.same hfiled

private theorem exists_reported {g : Gateway} (hg : g ∈ gs) {b : Binding}
    (hb : b ∈ g.setup.bindings) {o : Output} (ho : o ∈ b.outputs) :
    ∃ index, Reported as (g.outputAddress b o) (g.blockOf b o index) := by
  obtain ⟨index, elapsed, hmem⟩ := h.blocks g hg b hb o ho
  obtain ⟨before, after, hsplit⟩ := List.append_of_mem hmem
  obtain ⟨n, hn, haddress⟩ := h.belongsTo hfleet hg hb hsplit
  have haccepted : (g.blockOf b o index).response ≠ .nak := by
    change TodResponse.ofCode 0 ≠ .nak
    decide
  have hfiled := TodData.filedUnder_of_belongsTo haccepted hn
  rw [haddress, hfleet.universeOf_blockOf hg] at hfiled
  exact ⟨index, before, _, elapsed, after, hsplit, hfiled⟩

theorem mem_reported_iff {g : Gateway} (hg : g ∈ gs) {b : Binding} (hb : b ∈ g.setup.bindings)
    {o : Output} (ho : o ∈ b.outputs) (u : Rdm.Uid) :
    (∃ d, Reported as (g.outputAddress b o) d ∧ u ∈ d.uids) ↔
      Attaches g b (g.setup.universeOf o) u := by
  constructor
  · rintro ⟨d, hd, hu⟩
    obtain ⟨g', hg', b', hb', o', -, index, rfl, hrank⟩ := h.exists_of_reported hfleet hd
    obtain ⟨rfl, rfl, huniverse⟩ := hfleet.eq_of_outputAddress hg' hg hb' hb hrank
    rw [← huniverse]
    exact (hfleet.mem_uids_blockOf hg hb o' index u).mp hu
  · intro hu
    obtain ⟨index, hreported⟩ := h.exists_reported hfleet hg hb ho
    exact ⟨_, hreported, (hfleet.mem_uids_blockOf hg hb o index u).mpr hu⟩

variable (s : DiscoverySettings)

private theorem exists_of_mem_tables {t : DeviceTable}
    (ht : t ∈ (Cycle.takeAll s .empty as).1.tables) :
    ∃ g ∈ gs, ∃ b ∈ g.setup.bindings, ∃ o ∈ b.outputs, g.outputAddress b o = t.output ∧
      ∀ u, u ∈ t.uids ↔ Attaches g b (g.setup.universeOf o) u := by
  have htabled := Cycle.tabled_takeAll s as
  obtain ⟨d, hd⟩ := htabled.reported_of_mem ht
  obtain ⟨g, hg, b, hb, o, ho, index, rfl, hrank⟩ := h.exists_of_reported hfleet hd
  have hout : g.outputAddress b o = t.output := by
    obtain ⟨hsame, hport⟩ := (OutputAddress.rank_eq_iff _ _).mp hrank
    obtain ⟨n, hn, hnode⟩ := Cycle.heard_of_mem_tables s as t ht
    obtain ⟨g', hg', b', hb', elapsed, rfl⟩ := exists_of_mem_nodes h.sound hn
    rw [Gateway.address_nodeOf (hfleet.ready g' hg') hb'] at hnode
    rw [← hnode] at hsame
    obtain ⟨rfl, rfl⟩ := hfleet.eq_of_same hg hg' hb hb' hsame
    have hport : g.setup.universeOf o = t.output.port := hport
    rw [Gateway.outputAddress, hnode, hport]
  refine ⟨g, hg, b, hb, o, ho, hout, fun u => ?_⟩
  rw [htabled.filled t.output t (htabled.tableOf_of_mem ht), ← hout]
  exact h.mem_reported_iff hfleet hg hb ho u

private theorem exists_table {g : Gateway} (hg : g ∈ gs) {b : Binding} (hb : b ∈ g.setup.bindings)
    {o : Output} (ho : o ∈ b.outputs) :
    ∃ t ∈ (Cycle.takeAll s .empty as).1.tables, t.output = g.outputAddress b o := by
  have htabled := Cycle.tabled_takeAll s as
  obtain ⟨index, hreported⟩ := h.exists_reported hfleet hg hb ho
  obtain ⟨t, ht, hrank, -⟩ := htabled.exists_table hreported
  obtain ⟨g', hg', b', hb', o', -, hout, -⟩ := h.exists_of_mem_tables hfleet s ht
  rw [← hout] at hrank
  obtain ⟨rfl, rfl, huniverse⟩ := hfleet.eq_of_outputAddress hg' hg hb' hb hrank
  refine ⟨t, ht, ?_⟩
  rw [← hout, Gateway.outputAddress, huniverse, Gateway.outputAddress]

private theorem nodes_snapshot (elapsed : Nat) :
    (((Cycle.takeAll s .empty as).1.snapshot elapsed).nodes.map Node.address).Perm
      (gs.flatMap fun g => g.setup.bindings.map g.nodeAddress) := by
  have hrecords := Cycle.snapshot_records s as elapsed
  apply (List.perm_ext_iff_of_nodup ?_ ?_).mpr
  · intro a
    rw [List.mem_map, List.mem_flatMap]
    constructor
    · rintro ⟨n, hn, rfl⟩
      obtain ⟨g, hg, b, hb, heard, rfl⟩ :=
        exists_of_mem_nodes h.sound ((hrecords.first n).mp hn).mem
      rw [Gateway.address_nodeOf (hfleet.ready g hg) hb]
      exact ⟨g, hg, List.mem_map_of_mem hb⟩
    · rintro ⟨g, hg, ha⟩
      obtain ⟨b, hb, rfl⟩ := List.mem_map.mp ha
      obtain ⟨heard, hreply⟩ := h.replies g hg b hb
      obtain ⟨n, hn, hsame⟩ := hrecords.heard _ (mem_nodes hreply)
      obtain ⟨g', hg', b', hb', heard', rfl⟩ :=
        exists_of_mem_nodes h.sound ((hrecords.first n).mp hn).mem
      rw [Gateway.address_nodeOf (hfleet.ready g hg) hb,
        Gateway.address_nodeOf (hfleet.ready g' hg') hb'] at hsame
      obtain ⟨rfl, rfl⟩ := hfleet.eq_of_same hg' hg hb' hb hsame
      exact ⟨_, hn, Gateway.address_nodeOf (hfleet.ready g' hg) hb heard'⟩
  · apply List.Nodup.of_map NodeAddress.rank
    rw [List.map_map]
    exact (List.pairwise_map.mpr hrecords.nodesAscending).imp Nat.ne_of_lt
  · apply List.Nodup.of_map fun a : NodeAddress => (a.root, a.bindIndex)
    rw [List.map_flatMap]
    simp only [List.map_map]
    exact hfleet.bindings

theorem exists_listed_iff (u : Rdm.Uid) :
    (∃ t ∈ (Cycle.takeAll s .empty as).1.tables, u ∈ t.uids) ↔
      ∃ g ∈ gs, ∃ b ∈ g.setup.bindings, ∃ o ∈ b.outputs, ∃ r ∈ o.responders, r.uid = u := by
  constructor
  · rintro ⟨t, ht, hu⟩
    obtain ⟨g, hg, b, hb, o, -, -, hlists⟩ := h.exists_of_mem_tables hfleet s ht
    obtain ⟨o', ho', -, hr⟩ := (hlists u).mp hu
    exact ⟨g, hg, b, hb, o', ho', hr⟩
  · rintro ⟨g, hg, b, hb, o, ho, hr⟩
    obtain ⟨t, ht, hout⟩ := h.exists_table hfleet s hg hb ho
    have htabled := Cycle.tabled_takeAll s as
    refine ⟨t, ht, ?_⟩
    rw [htabled.filled t.output t (htabled.tableOf_of_mem ht), hout]
    exact (h.mem_reported_iff hfleet hg hb ho u).mpr ⟨o, ho, rfl, hr⟩

private theorem mem_outputs_tables (out : OutputAddress) :
    out ∈ (Cycle.takeAll s .empty as).1.tables.map DeviceTable.output ↔
      ∃ g ∈ gs, ∃ b ∈ g.setup.bindings, ∃ o ∈ b.outputs, g.outputAddress b o = out := by
  rw [List.mem_map]
  constructor
  · rintro ⟨t, ht, rfl⟩
    obtain ⟨g, hg, b, hb, o, ho, hout, -⟩ := h.exists_of_mem_tables hfleet s ht
    exact ⟨g, hg, b, hb, o, ho, hout⟩
  · rintro ⟨g, hg, b, hb, o, ho, rfl⟩
    exact h.exists_table hfleet s hg hb ho

private theorem uidsOn_snapshot (elapsed : Nat) {g : Gateway} (hg : g ∈ gs) {b : Binding}
    (hb : b ∈ g.setup.bindings) {o : Output} (ho : o ∈ b.outputs) :
    ∃ us, ((Cycle.takeAll s .empty as).1.snapshot elapsed).uidsOn (g.outputAddress b o) = some us ∧
      ∀ u, u ∈ us ↔ Attaches g b (g.setup.universeOf o) u := by
  have htabled := Cycle.tabled_takeAll s as
  obtain ⟨t, ht, hout⟩ := h.exists_table hfleet s hg hb ho
  have htable := htabled.tableOf_of_mem ht
  refine ⟨t.uids, ?_, fun u => ?_⟩
  · rw [hout] at htable
    exact congrArg (Option.map DeviceTable.uids) htable
  · rw [htabled.filled t.output t htable, hout]
    exact h.mem_reported_iff hfleet hg hb ho u

private theorem locate_snapshot (elapsed : Nat) {g : Gateway} (hg : g ∈ gs) {b : Binding}
    (hb : b ∈ g.setup.bindings) {o : Output} (ho : o ∈ b.outputs) {r : Responder}
    (hr : r ∈ o.responders)
    (honce : ∀ g' ∈ gs, ∀ b' ∈ g'.setup.bindings, ∀ o' ∈ b'.outputs, ∀ r' ∈ o'.responders,
      r'.uid = r.uid → g' = g ∧ b' = b ∧ g'.setup.universeOf o' = g.setup.universeOf o) :
    ((Cycle.takeAll s .empty as).1.snapshot elapsed).locate r.uid = some (g.outputAddress b o) := by
  have hlisted : r.uid ∈ ((Cycle.takeAll s .empty as).1.snapshot elapsed).allUids :=
    Snapshot.mem_allUids.mpr
      ((h.exists_listed_iff hfleet s r.uid).mpr ⟨g, hg, b, hb, o, ho, r, hr, rfl⟩)
  obtain ⟨out, hlocate⟩ := Option.isSome_iff_exists.mp (Snapshot.isSome_locate.mpr hlisted)
  obtain ⟨t, ht, hout, hut⟩ := Snapshot.table_of_locate hlocate
  obtain ⟨g', hg', b', hb', o', -, hout', hlists⟩ := h.exists_of_mem_tables hfleet s ht
  obtain ⟨o'', ho'', huniverse, r', hr', huid⟩ := (hlists r.uid).mp hut
  obtain ⟨rfl, rfl, hsame⟩ := honce g' hg' b' hb' o'' ho'' r' hr' huid
  rw [hlocate, ← hout, ← hout', Gateway.outputAddress, ← huniverse, hsame, Gateway.outputAddress]

/-- A cycle that has heard every answer of a fleet shows it as it is. -/
theorem shows_snapshot (elapsed : Nat) :
    ((Cycle.takeAll s .empty as).1.snapshot elapsed).Shows gs where
  nodes := h.nodes_snapshot hfleet s elapsed
  tables := h.mem_outputs_tables hfleet s
  uids _ hg _ hb _ ho := h.uidsOn_snapshot hfleet s elapsed hg hb ho
  allUids u := by
    rw [Snapshot.mem_allUids]
    exact h.exists_listed_iff hfleet s u
  once _ hg _ hb _ ho _ hr honce := by
    have hlocate := h.locate_snapshot hfleet s elapsed hg hb ho hr honce
    exact ⟨hlocate, Snapshot.rdmTarget_of_locate hlocate⟩

end Answered

end LightingNet
