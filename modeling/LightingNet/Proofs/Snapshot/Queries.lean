import LightingNet.Proofs.Discovery.Tables
import LightingNet.Proofs.Rdm.Loading
/-!
# Looking up devices in a snapshot

All queries about devices read the same tables. A device that some table lists is located on the first
such output; one that no table lists is not found, and nothing is asked then.
-/
namespace LightingNet

/-- What outputs are ordered by, in this order. The socket of the node takes no part. -/
def OutputAddress.key (o : OutputAddress) : List Nat :=
  [o.node.root.bits.toNat, o.node.bindIndex.toNat, o.port.net.toNat, o.port.subnet.toNat,
    o.port.uni.toNat]

theorem OutputAddress.rank_lt_rank_iff (o o' : OutputAddress) :
    o.rank < o'.rank ↔ o.key < o'.key := by
  have hbind := o.node.bindIndex.toNat_lt
  have hbind' := o'.node.bindIndex.toNat_lt
  have hnet := o.port.net.toNat_lt
  have hnet' := o'.port.net.toNat_lt
  have hsubnet := o.port.subnet.toNat_lt
  have hsubnet' := o'.port.subnet.toNat_lt
  have huni := o.port.uni.toNat_lt
  have huni' := o'.port.uni.toNat_lt
  simp only [key, List.cons_lt_cons_iff, List.not_lt_nil, and_false, or_false, rank,
    NodeAddress.rank, Ipv4.rank, PortAddress.rank]
  omega

def filed (blocks : List (OutputAddress × List Rdm.Uid)) : List DeviceTable :=
  blocks.foldl (fun tables b => fileUids b.1 b.2 tables) []

private theorem mapped_filed (blocks : List (OutputAddress × List Rdm.Uid)) :
    DeviceTable.Mapped (filed blocks) := by
  induction blocks using List.reverseRecOn with
  | nil => exact ⟨Ranked.ascending_nil, nofun⟩
  | append_singleton blocks b ih =>
    rw [filed, List.foldl_append]
    exact ih.fileUids b.1 b.2

theorem Cycle.mapped_snapshot (settings : DiscoverySettings) (as : List Arrival) (elapsed : Nat) :
    DeviceTable.Mapped ((takeAll settings empty as).1.snapshot elapsed).tables :=
  (tabled_takeAll settings as).mapped

namespace Snapshot

open Rdm (Asker Device)

private theorem mapped_build (replies : List Node) (blocks : List (OutputAddress × List Rdm.Uid))
    (duration : Nat) : DeviceTable.Mapped (build replies (filed blocks) duration).tables :=
  mapped_filed blocks

variable {σ : Type} {s : Snapshot} {u : Rdm.Uid} {o : OutputAddress}

theorem mem_allUids : u ∈ s.allUids ↔ ∃ t ∈ s.tables, u ∈ t.uids := by
  rw [allUids, Ranked.mem_ofList_of_injective Rdm.Uid.rank_injective, List.mem_flatMap]

theorem isSome_locate : (s.locate u).isSome ↔ u ∈ s.allUids := by
  rw [locate, Option.isSome_map, List.find?_isSome, mem_allUids]
  simp only [List.contains_iff_mem]

theorem table_of_locate (h : s.locate u = some o) :
    ∃ t ∈ s.tables, t.output = o ∧ u ∈ t.uids := by
  obtain ⟨t, ht, rfl⟩ := Option.map_eq_some_iff.mp h
  have hlisted := List.find?_some ht
  exact ⟨t, List.mem_of_find?_eq_some ht, rfl, List.contains_iff_mem.mp hlisted⟩

theorem rdmTarget_of_locate (h : s.locate u = some o) :
    s.rdmTarget u = some ⟨some (.v4 o.node.socket), o.port⟩ := by
  rw [rdmTarget, h]
  rfl

private theorem locate_eq_none : s.locate u = none ↔ u ∉ s.allUids := by
  rw [← isSome_locate, Option.not_isSome_iff_eq_none]

private theorem loadFrom_of_notMem (h : u ∉ s.allUids) (ask : Asker σ) (line : σ) :
    Device.loadFrom ask s u line = (.error (.deviceNotFound u), line) := by
  rw [Device.loadFrom, locate_eq_none.mpr h]
  rfl

private theorem loadFrom_of_located (h : s.locate u = some o) (ask : Asker σ) :
    Device.loadFrom ask s u = Device.load ask u o := by
  rw [Device.loadFrom, h]

/-- Loading a device that is found asks for it first of all, and no fault of a request says that it
was not found. -/
theorem load_asks (ask : Asker σ) (line : σ) :
    let run := Device.load ask.noting u o (line, [])
    Device.load ask u o line = (run.1, run.2.1) ∧ run.2.2 ≠ [] ∧
      run.1 ≠ .error (.deviceNotFound u) := by
  intro run
  obtain ⟨hplain, first, rest, hasked, -, -, hfault, -⟩ := Device.load_best_effort ask u o line
  refine ⟨hplain, ?_, fun herror => ?_⟩
  · rw [hasked]
    exact List.cons_ne_nil first rest
  · obtain ⟨-, hfails⟩ := hfault _ herror
    cases hfails

section Mapped

variable (h : DeviceTable.Mapped s.tables)

include h

private theorem uidsOn_of_mem {t : DeviceTable} (ht : t ∈ s.tables) :
    s.uidsOn t.output = some t.uids := by
  have hfind : Ranked.find? DeviceTable.rank t.output.rank s.tables = some t :=
    h.ascending.mem_iff_find?.mp ht
  rw [uidsOn, hfind, Option.map_some]

theorem exists_uidsOn_iff : (∃ o uids, s.uidsOn o = some uids ∧ u ∈ uids) ↔ u ∈ s.allUids := by
  rw [mem_allUids]
  constructor
  · rintro ⟨o, uids, huids, hu⟩
    obtain ⟨t, hfind, rfl⟩ := Option.map_eq_some_iff.mp huids
    exact ⟨t, (Ranked.find?_eq_some hfind).1, hu⟩
  · rintro ⟨t, ht, hu⟩
    exact ⟨t.output, t.uids, uidsOn_of_mem h ht, hu⟩

theorem locate_eq_some_iff :
    s.locate u = some o ↔ ∃ t ∈ s.tables, t.output = o ∧ u ∈ t.uids ∧
      ∀ t' ∈ s.tables, u ∈ t'.uids → t' = t ∨ o.key < t'.output.key := by
  rw [locate, Option.map_eq_some_iff]
  simp only [h.ascending.find?_eq_some_iff_least, List.contains_iff_mem]
  constructor
  · rintro ⟨t, ⟨ht, hu, hleast⟩, rfl⟩
    refine ⟨t, ht, rfl, hu, fun t' ht' hu' => ?_⟩
    exact (hleast t' ht' hu').imp_right (OutputAddress.rank_lt_rank_iff _ _).mp
  · rintro ⟨t, ht, rfl, hu, hleast⟩
    refine ⟨t, ⟨ht, hu, fun t' ht' hu' => ?_⟩, rfl⟩
    exact (hleast t' ht' hu').imp_right (OutputAddress.rank_lt_rank_iff _ _).mpr

end Mapped

/-- Just a device that is listed nowhere is not found, without asking anything. -/
def LoadsListed (s : Snapshot) (u : Rdm.Uid) : Prop :=
  ∀ (σ : Type) (ask : Asker σ) (line : σ),
    let run := Device.loadFrom ask.noting s u (line, [])
    Device.loadFrom ask s u line = (run.1, run.2.1) ∧
      (run.1 = .error (.deviceNotFound u) ↔ u ∉ s.allUids) ∧
      (run.2.2 = [] ↔ u ∉ s.allUids) ∧ (u ∉ s.allUids → run.2.1 = line)

/-- What the queries about a device say together. -/
structure Agrees (s : Snapshot) (u : Rdm.Uid) : Prop where
  found : (s.locate u).isSome ↔ u ∈ s.allUids
  first : ∀ o, s.locate u = some o ↔ ∃ t ∈ s.tables, t.output = o ∧ u ∈ t.uids ∧
    ∀ t' ∈ s.tables, u ∈ t'.uids → t' = t ∨ o.key < t'.output.key
  listed : ∀ o, s.locate u = some o → ∃ uids, s.uidsOn o = some uids ∧ u ∈ uids
  target : s.rdmTarget u = (s.locate u).map fun o => ⟨some (.v4 o.node.socket), o.port⟩
  union : u ∈ s.allUids ↔ ∃ o uids, s.uidsOn o = some uids ∧ u ∈ uids
  load : s.LoadsListed u

private theorem loadsListed (s : Snapshot) (u : Rdm.Uid) : s.LoadsListed u := by
  intro σ ask line run
  by_cases hmem : u ∈ s.allUids
  · obtain ⟨o, ho⟩ := Option.isSome_iff_exists.mp (isSome_locate.mpr hmem)
    have hrun : run = Device.load ask.noting u o (line, []) := by
      rw [← loadFrom_of_located ho]
    obtain ⟨hplain, hasked, hfault⟩ := load_asks (u := u) (o := o) ask line
    rw [hrun, loadFrom_of_located ho]
    exact ⟨hplain, iff_of_false hfault (not_not.mpr hmem), iff_of_false hasked (not_not.mpr hmem),
      fun hnot => absurd hmem hnot⟩
  · have hrun : run = (.error (.deviceNotFound u), line, []) := loadFrom_of_notMem hmem _ _
    rw [hrun, loadFrom_of_notMem hmem]
    exact ⟨rfl, iff_of_true rfl hmem, iff_of_true rfl hmem, fun _ => rfl⟩

/-- The queries of a snapshot about its devices agree: all devices are those of the tables, each once,
by manufacturer and number, and each one is located, reached and loaded where the first table lists it. -/
theorem queries_agree {s : Snapshot} (h : DeviceTable.Mapped s.tables) :
    (s.allUids.Pairwise fun u v =>
        u.manufacturer < v.manufacturer ∨ u.manufacturer = v.manufacturer ∧ u.device < v.device) ∧
      s.allUids.Nodup ∧ ∀ u, s.Agrees u := by
  have hascending : Ranked.Ascending Rdm.Uid.rank s.allUids := Ranked.ascending_ofList _
  refine ⟨hascending.imp fun hlt => (Rdm.Uid.rank_lt_rank_iff _ _).mp hlt, hascending.nodup,
    fun u => ?_⟩
  refine ⟨isSome_locate, fun o => locate_eq_some_iff h, ?_, rfl, (exists_uidsOn_iff h).symm,
    s.loadsListed u⟩
  intro o ho
  obtain ⟨t, ht, rfl, hu⟩ := table_of_locate ho
  exact ⟨t.uids, uidsOn_of_mem h ht, hu⟩

/-- Two outputs list one device, an output without devices has a table, and a table keeps the socket
that it was made with. -/
theorem queries_agree_two_outputs :
    let near : OutputAddress := ⟨.make .loopback 1 ⟨.loopback, 6454⟩, ⟨0, 0, 1⟩⟩
    let moved : OutputAddress := ⟨.make .loopback 1 ⟨.loopback, 7000⟩, ⟨0, 0, 1⟩⟩
    let far : OutputAddress := ⟨.make .loopback 2 ⟨.loopback, 6454⟩, ⟨0, 0, 0⟩⟩
    let bare : OutputAddress := ⟨.make .loopback 1 ⟨.loopback, 6454⟩, ⟨0, 0, 0⟩⟩
    let u : Rdm.Uid := ⟨0x4c55, 1⟩
    let blocks := [(far, [⟨1, 9⟩, u]), (near, [u]), (moved, [⟨2, 3⟩]), (bare, [])]
    let s := build [] (filed blocks) 0
    let silent : Asker Unit := fun _ line => (none, line)
    s.allUids = [⟨1, 9⟩, ⟨2, 3⟩, u] ∧ s.uidsOn bare = some [] ∧ s.locate u = some near ∧
      (∃ uids, s.uidsOn near = some uids ∧ u ∈ uids) ∧
      s.rdmTarget ⟨2, 3⟩ = some ⟨some (.v4 ⟨.loopback, 6454⟩), ⟨0, 0, 1⟩⟩ ∧
      (Device.loadFrom silent s ⟨1, 1⟩ ()).1 = .error (.deviceNotFound ⟨1, 1⟩) := by
  intro near moved far bare u blocks s silent
  have hagrees : ∀ u, s.Agrees u := (queries_agree (mapped_build [] blocks 0)).2.2
  have hlocate : s.locate u = some near := by decide
  have hshared : s.locate ⟨2, 3⟩ = some near := by decide
  have hnone : ⟨1, 1⟩ ∉ s.allUids := by decide
  obtain ⟨hplain, hfails, -⟩ := (hagrees ⟨1, 1⟩).load Unit silent ()
  refine ⟨by decide, by decide, hlocate, (hagrees u).listed near hlocate, ?_, ?_⟩
  · rw [(hagrees ⟨2, 3⟩).target, hshared]
    rfl
  · simpa only [hplain] using hfails.mpr hnone

end Snapshot

end LightingNet
