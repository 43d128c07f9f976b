import LightingNet.Proofs.Transport.Dispatch
/-!
# Guests of a registry

Guests register receivers for a while. They come and go in any order, within and across each other, and
touch nothing but their own entries: the receivers that were there before stand in front of them and are
called for every datagram. Once every guest has gone, nothing but those calls is left.
-/
namespace LightingNet

open RegistryEvent (identifiers datagrams)

def Registration.after (ds : List Datagram) (e : Registration) : Registration :=
  ⟨e.id, e.receiver.takeAll (ds.filterMap Datagram.call?)⟩

@[simp] theorem Registration.after_nil : after [] = fun e => e := rfl

@[simp] theorem Registration.after_id (ds : List Datagram) (e : Registration) :
    (e.after ds).id = e.id := rfl

private theorem Registration.after_append (ds more : List Datagram) (e : Registration) :
    e.after (ds ++ more) = (e.after ds).after more := by
  simp only [after, Receiver.takeAll, List.filterMap_append, List.foldl_append]

namespace RegistryEvent

def stay (id : Nat) (ds : List Datagram) : List RegistryEvent :=
  .added id :: ds.map .dispatched ++ [.removed id]

private theorem identifiers_append (history later : List RegistryEvent) :
    identifiers (history ++ later) = identifiers history ++ identifiers later :=
  List.filterMap_append

private theorem identifiers_stay (id : Nat) (ds : List Datagram) :
    identifiers (stay id ds) = [id] := by
  simp [stay, identifiers, List.filterMap_map]

private theorem datagrams_stay (id : Nat) (ds : List Datagram) : datagrams (stay id ds) = ds := by
  have hsent : datagrams (ds.map .dispatched) = ds := by
    rw [datagrams, List.filterMap_map]
    exact List.filterMap_some
  rw [stay, datagrams, List.cons_append, List.filterMap_cons_none rfl, List.filterMap_append]
  exact (List.append_nil _).trans hsent

end RegistryEvent

namespace Registry

theorem Ran.fresh {history : List RegistryEvent} {r : Registry} (h : Ran history r) :
    r.Fresh := by
  intro e he
  have hid := h.sublist_ids.subset (List.mem_map_of_mem he)
  rw [h.identifiers_eq.1, List.mem_range'_1] at hid
  rw [h.identifiers_eq.2, Nat.add_comm]
  exact hid.2

private theorem entries_dispatch (r : Registry) (d : Datagram) :
    (r.dispatch d).entries = r.entries.map (Registration.after [d]) := by
  cases hcall : d.call? with
  | none =>
    have hsame : Registration.after [d] = fun e => e := by
      funext e
      simp [Registration.after, Receiver.takeAll, hcall]
    rw [hsame, List.map_id', dispatch, hcall]
  | some c => simp [dispatch, Registration.after, Receiver.takeAll, hcall]

/-- What guests do to the registry they found: they register, change their own receivers and remove
them, while datagrams are dispatched. A change of a receiver leaves no trace in the history. -/
inductive Visited (base : Registry) : List RegistryEvent → Registry → Prop
  | start : Visited base [] base
  | add {later : List RegistryEvent} {r : Registry} (h : Visited base later r) (receiver : Receiver) :
    Visited base (later ++ [.added (r.add receiver).2]) (r.add receiver).1
  | change {later : List RegistryEvent} {r : Registry} (h : Visited base later r) {id : Nat}
    (hid : id ∈ identifiers later) (change : Receiver → Receiver) :
    Visited base later (r.modify id change)
  | remove {later : List RegistryEvent} {r : Registry} (h : Visited base later r) {id : Nat}
    (hid : id ∈ identifiers later) : Visited base (later ++ [.removed id]) (r.remove id).1
  | dispatch {later : List RegistryEvent} {r : Registry} (h : Visited base later r) (d : Datagram) :
    Visited base (later ++ [.dispatched d]) (r.dispatch d)

/-- A registry with guests: their entries stand behind those of the others, which have been called for
every datagram since. The identifiers of guests are new, and none that was removed comes back. -/
structure Hosts (base : Registry) (later : List RegistryEvent) (r : Registry) : Prop where
  grown : base.nextId ≤ r.nextId
  fresh : ∀ id ∈ identifiers later, base.nextId ≤ id ∧ id < r.nextId
  removed : ∀ id, .removed id ∈ later → id ∈ identifiers later
  entries : ∃ guests : List Registration,
    r.entries = base.entries.map (Registration.after (datagrams later)) ++ guests ∧
      ∀ e ∈ guests, e.id ∈ identifiers later ∧ .removed e.id ∉ later

/-- What is left of a registry when its guests have gone: the same receivers in the same order, called
for every datagram that was delivered. -/
structure Served (base : Registry) (delivered : List Datagram) (r : Registry) : Prop where
  ids : r.ids = base.ids
  entries : r.entries = base.entries.map (Registration.after delivered)
  fresh : r.Fresh

namespace Served

variable {base r r' : Registry} {ds more : List Datagram}

theorem nothing (h : base.Fresh) : Served base [] base :=
  ⟨rfl, by simp, h⟩

theorem trans (h : Served base ds r) (hmore : Served r more r') : Served base (ds ++ more) r' := by
  refine ⟨hmore.ids.trans h.ids, ?_, hmore.fresh⟩
  rw [hmore.entries, h.entries, List.map_map]
  exact List.map_congr_left fun e _ => (e.after_append ds more).symm

end Served

namespace Hosts

variable {base r : Registry} {later : List RegistryEvent}

private theorem start (base : Registry) : Hosts base [] base :=
  ⟨Nat.le_refl _, List.forall_mem_nil _, fun _ h => (List.not_mem_nil h).elim,
    [], by simp [datagrams], List.forall_mem_nil _⟩

private theorem add (h : Hosts base later r) (receiver : Receiver) :
    Hosts base (later ++ [.added r.nextId]) (r.add receiver).1 := by
  obtain ⟨guests, hentries, hguests⟩ := h.entries
  have hnew : .removed r.nextId ∉ later := by
    intro hremoved
    exact absurd (h.fresh _ (h.removed _ hremoved)).2 (Nat.lt_irrefl _)
  constructor
  · exact Nat.le_succ_of_le h.grown
  · intro id hid
    rw [RegistryEvent.identifiers_snoc_added, List.mem_append, List.mem_singleton] at hid
    rcases hid with hold | rfl
    · exact ⟨(h.fresh id hold).1, Nat.lt_succ_of_lt (h.fresh id hold).2⟩
    · exact ⟨h.grown, Nat.lt_succ_self _⟩
  · intro id hid
    rw [RegistryEvent.identifiers_snoc_added]
    exact List.mem_append_left _ (h.removed id (by simpa using hid))
  · refine ⟨guests ++ [⟨r.nextId, receiver⟩], by simp [Registry.add, hentries, datagrams], ?_⟩
    intro e he
    rw [RegistryEvent.identifiers_snoc_added]
    rcases List.mem_append.mp he with hold | hlast
    · obtain ⟨hid, hkept⟩ := hguests e hold
      exact ⟨List.mem_append_left _ hid, by simpa using hkept⟩
    · rw [List.mem_singleton.mp hlast]
      exact ⟨List.mem_append_right _ List.mem_cons_self, by simpa using hnew⟩

private theorem ne_of_mem (h : Hosts base later r) (hbase : base.Fresh) {id : Nat}
    (hid : id ∈ identifiers later) {ds : List Datagram} {e : Registration}
    (he : e ∈ base.entries.map (Registration.after ds)) : e.id ≠ id := by
  obtain ⟨e', he', rfl⟩ := List.mem_map.mp he
  exact Nat.ne_of_lt (Nat.lt_of_lt_of_le (hbase e' he') (h.fresh id hid).1)

private theorem change (h : Hosts base later r) (hbase : base.Fresh) {id : Nat}
    (hid : id ∈ identifiers later) (change : Receiver → Receiver) :
    Hosts base later (r.modify id change) := by
  obtain ⟨guests, hentries, hguests⟩ := h.entries
  let changed (e : Registration) : Registration :=
    if e.id = id then { e with receiver := change e.receiver } else e
  have hothers : (base.entries.map (Registration.after (datagrams later))).map changed =
      base.entries.map (Registration.after (datagrams later)) := by
    refine (List.map_congr_left fun e he => ?_).trans (List.map_id _)
    exact if_neg (h.ne_of_mem hbase hid he)
  refine ⟨h.grown, h.fresh, h.removed, guests.map changed, ?_, ?_⟩
  · rw [Registry.modify, hentries, List.map_append, hothers]
  · intro e he
    obtain ⟨e', he', rfl⟩ := List.mem_map.mp he
    have hsame : (changed e').id = e'.id := by
      simp only [changed]
      split <;> rfl
    rw [hsame]
    exact hguests e' he'

private theorem remove (h : Hosts base later r) (hbase : base.Fresh) {id : Nat}
    (hid : id ∈ identifiers later) : Hosts base (later ++ [.removed id]) (r.remove id).1 := by
  obtain ⟨guests, hentries, hguests⟩ := h.entries
  have hothers : (base.entries.map (Registration.after (datagrams later))).filter
      (fun e => e.id != id) = base.entries.map (Registration.after (datagrams later)) := by
    rw [List.filter_eq_self]
    intro e he
    exact bne_iff_ne.mpr (h.ne_of_mem hbase hid he)
  constructor
  · exact h.grown
  · simpa using h.fresh
  · intro gone hgone
    rw [RegistryEvent.identifiers_snoc_removed]
    rcases List.mem_append.mp hgone with hold | hlast
    · exact h.removed gone hold
    · cases List.mem_singleton.mp hlast
      exact hid
  · refine ⟨guests.filter fun e => e.id != id, ?_, ?_⟩
    · have hsame : datagrams (later ++ [.removed id]) = datagrams later := by simp [datagrams]
      rw [hsame, Registry.remove, hentries, List.filter_append, hothers]
    · intro e he
      obtain ⟨hguest, hother⟩ := List.mem_filter.mp he
      obtain ⟨hmem, hkept⟩ := hguests e hguest
      rw [RegistryEvent.identifiers_snoc_removed]
      simpa [hkept] using ⟨hmem, bne_iff_ne.mp hother⟩

private theorem dispatch (h : Hosts base later r) (d : Datagram) :
    Hosts base (later ++ [.dispatched d]) (r.dispatch d) := by
  obtain ⟨guests, hentries, hguests⟩ := h.entries
  have hlast : datagrams (later ++ [.dispatched d]) = datagrams later ++ [d] :=
    RegistryEvent.datagrams_append _ _
  constructor
  · simpa using h.grown
  · simpa using h.fresh
  · simpa using h.removed
  · refine ⟨guests.map (Registration.after [d]), ?_, ?_⟩
    · rw [entries_dispatch, hentries, List.map_append, List.map_map, hlast]
      simp only [Function.comp_def, ← Registration.after_append]
    · intro e he
      obtain ⟨e', he', rfl⟩ := List.mem_map.mp he
      simpa using hguests e' he'

theorem calls (h : Hosts base later r) {id : Nat} (hid : id ∈ base.ids) {d : Datagram} {call : Call}
    (hcall : d.CallsFor call) : (id, call) ∈ r.calls d := by
  obtain ⟨guests, hentries, -⟩ := h.entries
  obtain ⟨e, he, rfl⟩ := List.mem_map.mp hid
  refine (r.mem_calls_iff d _ call).mpr ⟨List.mem_map.mpr ⟨e.after (datagrams later), ?_, rfl⟩, hcall⟩
  rw [hentries]
  exact List.mem_append_left _ (List.mem_map_of_mem he)

theorem served (h : Hosts base later r) (hbase : base.Fresh)
    (hgone : ∀ id ∈ identifiers later, .removed id ∈ later) : Served base (datagrams later) r := by
  obtain ⟨guests, hentries, hguests⟩ := h.entries
  have hnone : guests = [] := by
    rw [List.eq_nil_iff_forall_not_mem]
    intro e he
    exact (hguests e he).2 (hgone _ (hguests e he).1)
  rw [hnone, List.append_nil] at hentries
  refine ⟨?_, hentries, ?_⟩
  · rw [Registry.ids, hentries, List.map_map]
    rfl
  · intro e he
    rw [hentries] at he
    obtain ⟨e', he', rfl⟩ := List.mem_map.mp he
    exact Nat.lt_of_lt_of_le (hbase e' he') h.grown

end Hosts

namespace Visited

variable {base r : Registry} {later : List RegistryEvent}

theorem hosts (h : Visited base later r) (hbase : base.Fresh) : Hosts base later r := by
  induction h with
  | start => exact .start base
  | add h receiver ih => exact ih.add receiver
  | change h hid change ih => exact ih.change hbase hid change
  | remove h hid ih => exact ih.remove hbase hid
  | dispatch h d ih => exact ih.dispatch d

theorem trans {r' : Registry} {more : List RegistryEvent} (h : Visited base later r)
    (hmore : Visited r more r') : Visited base (later ++ more) r' := by
  have hmem {id : Nat} {more : List RegistryEvent} (hid : id ∈ identifiers more) :
      id ∈ identifiers (later ++ more) := by
    rw [RegistryEvent.identifiers_append]
    exact List.mem_append_right _ hid
  induction hmore with
  | start => rwa [List.append_nil]
  | add _ receiver ih =>
    rw [← List.append_assoc]
    exact ih.add receiver
  | change _ hid change ih => exact ih.change (hmem hid) change
  | remove _ hid ih =>
    rw [← List.append_assoc]
    exact ih.remove (hmem hid)
  | dispatch _ d ih =>
    rw [← List.append_assoc]
    exact ih.dispatch d

theorem dispatchAll (h : Visited base later r) (ds : List Datagram) :
    Visited base (later ++ ds.map .dispatched) (r.dispatchAll ds) := by
  induction ds generalizing later r with
  | nil => rwa [List.map_nil, List.append_nil]
  | cons d ds ih =>
    have hrest := ih (h.dispatch d)
    rwa [List.append_assoc, List.singleton_append, ← List.map_cons] at hrest

/-- A guest that comes and goes while nobody else does leaves the receivers that it found. -/
theorem served {n : Nat} {ds : List Datagram} (h : Visited base (RegistryEvent.stay n ds) r)
    (hbase : base.Fresh) : Served base ds r := by
  have hserved := (h.hosts hbase).served hbase
  rw [RegistryEvent.identifiers_stay, RegistryEvent.datagrams_stay] at hserved
  apply hserved
  intro id hid
  rw [List.mem_singleton.mp hid]
  exact List.mem_append_right _ List.mem_cons_self

end Visited

end Registry

end LightingNet
