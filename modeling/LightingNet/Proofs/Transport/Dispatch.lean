import LightingNet.Proofs.Transport.Receivers
import LightingNet.Proofs.Transport.Traffic
import LightingNet.Proofs.Wire.Grammar
/-!
# Who is called for a datagram

Receivers are known by identifiers that count up and never come back. A receiver is live from its
registration until it is removed. A datagram calls the receivers that are live when its dispatch starts,
each once and in the order of registration; the list of them is taken then, so what a receiver changes
when it is called comes after the dispatch in a history. A malformed datagram calls nobody, and a
channel counts it.
-/
namespace LightingNet

namespace Datagram

/-- What a datagram calls for. -/
inductive CallsFor (d : Datagram) : Call → Prop
  | message {m : Message} {l : Layout} (hdecode : Message.decode d.contents = .ok m)
    (hmodelled : m.layout? = some l) : CallsFor d (.message m d.source)
  | unsupported {op : OpCode} {contents : Bytes}
    (hdecode : Message.decode d.contents = .ok (.unsupported op contents)) :
    CallsFor d (.unsupported op d.contents d.source)
  | raw (hid : d.contents.take 8 ≠ identifier) : CallsFor d (.raw d.contents d.source)

def Malformed (d : Datagram) : Prop :=
  d.contents.take 8 = identifier ∧ ∃ e, Message.decode d.contents = .error e

theorem decode_missingIdentifier_iff (d : Datagram) :
    Message.decode d.contents = .error .missingIdentifier ↔ d.contents.take 8 ≠ identifier :=
  (Message.decode_missingIdentifier_iff _).trans (Message.not_identified_iff _)

theorem call?_eq_some_iff (d : Datagram) (call : Call) : d.call? = some call ↔ d.CallsFor call := by
  constructor
  · intro h
    rw [call?] at h
    split at h
    · rename_i op contents hdecode
      obtain ⟨-, -, rfl⟩ := Message.decode_eq_unsupported.mp hdecode
      cases h
      exact .unsupported hdecode
    · rename_i m hmodelled hdecode
      cases h
      cases m with
      | unsupported op contents => exact absurd rfl (hmodelled op contents)
      | _ => exact .message hdecode rfl
    · rename_i hdecode
      cases h
      exact .raw (d.decode_missingIdentifier_iff.mp hdecode)
    · cases h
  · intro h
    cases h with
    | @message m l hdecode hmodelled =>
      rw [call?, hdecode]
      cases m with
      | unsupported op contents => cases hmodelled
      | _ => rfl
    | unsupported hdecode =>
      obtain ⟨-, -, rfl⟩ := Message.decode_eq_unsupported.mp hdecode
      rw [call?, hdecode]
    | raw hid => rw [call?, d.decode_missingIdentifier_iff.mpr hid]

theorem call?_eq_none_iff (d : Datagram) : d.call? = none ↔ d.Malformed := by
  constructor
  · intro h
    rw [call?] at h
    split at h
    · cases h
    · cases h
    · cases h
    · rename_i e hother hdecode
      refine ⟨Decidable.byContradiction fun hid => ?_, e, hdecode⟩
      rw [d.decode_missingIdentifier_iff.mpr hid] at hdecode
      exact hother (Except.error.inj hdecode).symm
  · rintro ⟨hid, e, hdecode⟩
    cases hcall : d.call? with
    | none => rfl
    | some call =>
      cases (d.call?_eq_some_iff call).mp hcall with
      | message hok => simp [hdecode] at hok
      | unsupported hok => simp [hdecode] at hok
      | raw hnot => exact absurd hid hnot

instance (d : Datagram) : Decidable d.Malformed :=
  decidable_of_iff (d.call?.isNone = true) (Option.isNone_iff_eq_none.trans d.call?_eq_none_iff)

private theorem malformed_iff_forall (d : Datagram) : d.Malformed ↔ ∀ call, ¬ d.CallsFor call := by
  rw [← d.call?_eq_none_iff, Option.eq_none_iff_forall_ne_some]
  exact forall_congr' fun call => not_congr (d.call?_eq_some_iff call)

end Datagram

inductive RegistryEvent where
  | added (id : Nat)
  | removed (id : Nat)
  | dispatched (d : Datagram)

namespace RegistryEvent

def identifiers (history : List RegistryEvent) : List Nat :=
  history.filterMap fun
    | .added id => some id
    | _ => none

def datagrams (history : List RegistryEvent) : List Datagram :=
  history.filterMap fun
    | .dispatched d => some d
    | _ => none

@[simp] theorem identifiers_snoc_added (history : List RegistryEvent) (id : Nat) :
    identifiers (history ++ [.added id]) = identifiers history ++ [id] := by
  simp [identifiers]

@[simp] theorem identifiers_snoc_removed (history : List RegistryEvent) (id : Nat) :
    identifiers (history ++ [.removed id]) = identifiers history := by
  simp [identifiers]

@[simp] theorem identifiers_snoc_dispatched (history : List RegistryEvent) (d : Datagram) :
    identifiers (history ++ [.dispatched d]) = identifiers history := by
  simp [identifiers]

@[simp] theorem datagrams_append (history later : List RegistryEvent) :
    datagrams (history ++ later) = datagrams history ++ datagrams later :=
  List.filterMap_append

def Live (history : List RegistryEvent) (id : Nat) : Prop :=
  ∃ before after, history = before ++ .added id :: after ∧ .removed id ∉ after

private theorem live_snoc (history : List RegistryEvent) (e : RegistryEvent) (id : Nat) :
    Live (history ++ [e]) id ↔ e = .added id ∨ Live history id ∧ e ≠ .removed id := by
  constructor
  · rintro ⟨before, after, hsplit, hkept⟩
    -- The last event registered the receiver, or came after its registration.
    rcases after.eq_nil_or_concat with rfl | ⟨after, last, rfl⟩
    · exact .inl (List.singleton_inj.mp (List.append_inj' hsplit rfl).2)
    · rw [List.concat_eq_append, ← List.cons_append, ← List.append_assoc] at hsplit
      obtain ⟨rfl, hlast⟩ := List.append_inj' hsplit rfl
      cases hlast
      simp only [List.concat_eq_append, List.mem_append, List.mem_singleton, not_or] at hkept
      exact .inr ⟨⟨before, after, rfl, hkept.1⟩, Ne.symm hkept.2⟩
  · rintro (rfl | ⟨⟨before, after, rfl, hkept⟩, hother⟩)
    · exact ⟨history, [], rfl, List.not_mem_nil⟩
    · refine ⟨before, after ++ [e], by simp, ?_⟩
      simp [hkept, Ne.symm hother]

end RegistryEvent

namespace Registry

open RegistryEvent (Live identifiers datagrams)

/-- The histories of a registry: receivers are added and removed and datagrams are dispatched in any
order. -/
inductive Ran : List RegistryEvent → Registry → Prop
  | start : Ran [] .empty
  | add {history : List RegistryEvent} {r : Registry} (h : Ran history r) (receiver : Receiver) :
    Ran (history ++ [.added (r.add receiver).2]) (r.add receiver).1
  | remove {history : List RegistryEvent} {r : Registry} (h : Ran history r) (id : Nat) :
    Ran (history ++ [.removed id]) (r.remove id).1
  | dispatch {history : List RegistryEvent} {r : Registry} (h : Ran history r) (d : Datagram) :
    Ran (history ++ [.dispatched d]) (r.dispatch d)

@[simp] theorem ids_empty : Registry.empty.ids = [] := rfl

@[simp] theorem add_snd (r : Registry) (receiver : Receiver) : (r.add receiver).2 = r.nextId := rfl

@[simp] theorem add_nextId (r : Registry) (receiver : Receiver) :
    (r.add receiver).1.nextId = r.nextId + 1 := rfl

@[simp] theorem remove_nextId (r : Registry) (id : Nat) : (r.remove id).1.nextId = r.nextId := rfl

@[simp] theorem dispatch_nextId (r : Registry) (d : Datagram) :
    (r.dispatch d).nextId = r.nextId := by
  rw [Registry.dispatch]
  split <;> rfl

@[simp] theorem ids_add (r : Registry) (receiver : Receiver) :
    (r.add receiver).1.ids = r.ids ++ [r.nextId] := by
  simp [ids, Registry.add]

@[simp] theorem ids_remove (r : Registry) (id : Nat) :
    (r.remove id).1.ids = r.ids.filter (· != id) := by
  simp [ids, Registry.remove, List.filter_map, Function.comp_def]

@[simp] theorem ids_dispatch (r : Registry) (d : Datagram) : (r.dispatch d).ids = r.ids := by
  rw [ids, Registry.dispatch]
  split
  · simp [ids, Function.comp_def]
  · rfl

private theorem calls_eq (r : Registry) (d : Datagram) :
    r.calls d = d.call?.toList.flatMap fun call => r.ids.map fun id => (id, call) := by
  rw [calls]
  cases d.call? with
  | none => rfl
  | some call => simp [ids]

private theorem calls_of_callsFor (r : Registry) {d : Datagram} {call : Call}
    (h : d.CallsFor call) : r.calls d = r.ids.map fun id => (id, call) := by
  rw [calls_eq, (d.call?_eq_some_iff call).mpr h]
  simp

theorem mem_calls_iff (r : Registry) (d : Datagram) (id : Nat) (call : Call) :
    (id, call) ∈ r.calls d ↔ id ∈ r.ids ∧ d.CallsFor call := by
  simp only [calls_eq, ← d.call?_eq_some_iff, List.mem_flatMap, Option.mem_toList, List.mem_map,
    Prod.mk.injEq]
  constructor
  · rintro ⟨call', hcall, id', hid, rfl, rfl⟩
    exact ⟨hid, hcall⟩
  · rintro ⟨hid, hcall⟩
    exact ⟨call, hcall, id, hid, rfl, rfl⟩

theorem calls_eq_nil_iff (r : Registry) (d : Datagram) :
    r.calls d = [] ↔ r.ids = [] ∨ d.Malformed := by
  rw [calls_eq, ← d.call?_eq_none_iff]
  cases d.call? with
  | none => simp
  | some call => simp

def callsTo (r : Registry) (d : Datagram) (id : Nat) : List Call :=
  ((r.calls d).filter fun x => x.1 == id).map Prod.snd

private theorem callsTo_of_not_mem {r : Registry} {id : Nat} (h : id ∉ r.ids) (d : Datagram) :
    r.callsTo d id = [] := by
  rw [callsTo, List.map_eq_nil_iff, List.filter_eq_nil_iff]
  intro x hx
  simp only [beq_iff_eq]
  intro hsame
  exact h (hsame ▸ ((r.mem_calls_iff d x.1 x.2).mp hx).1)

private theorem callsTo_of_mem {r : Registry} {id : Nat} (hnodup : r.ids.Nodup) (h : id ∈ r.ids)
    (d : Datagram) : r.callsTo d id = d.call?.toList := by
  have honce : r.ids.filter (fun x => x == id) = [id] := by
    rw [List.filter_beq, hnodup.count, if_pos h, List.replicate_one]
  rw [callsTo, calls_eq]
  cases d.call? with
  | none => rfl
  | some call => simp [List.filter_map, Function.comp_def, honce]

private theorem receiver?_dispatch_callsTo {r : Registry} (hnodup : r.ids.Nodup) (d : Datagram)
    (id : Nat) :
    (r.dispatch d).receiver? id = (r.receiver? id).map fun x => x.takeAll (r.callsTo d id) := by
  rw [receiver?_dispatch]
  by_cases hid : id ∈ r.ids
  · rw [callsTo_of_mem hnodup hid]
  · have hnone : r.receiver? id = none := by
      rw [receiver?, Option.map_eq_none_iff, List.find?_eq_none]
      intro e he
      simp only [beq_iff_eq]
      intro hsame
      exact hid (hsame ▸ List.mem_map_of_mem he)
    rw [hnone, Option.map_none, Option.map_none]

theorem remove_eq_true_iff (r : Registry) (id : Nat) : (r.remove id).2 = true ↔ id ∈ r.ids := by
  have hshorter := List.length_filter_lt_length_iff_exists (l := r.entries) (p := fun e => e.id != id)
  have hle := List.length_filter_le (fun e : Registration => e.id != id) r.entries
  simp only [Registry.remove, bne_iff_ne, ids, List.mem_map]
  rw [← Nat.lt_iff_le_and_ne.trans (and_iff_right hle), hshorter]
  simp

private theorem filter_of_not_mem {es : List Registration} {id : Nat}
    (h : id ∉ es.map Registration.id) : es.filter (fun e => e.id != id) = es := by
  rw [List.filter_eq_self]
  intro e he
  simp only [bne_iff_ne]
  intro hsame
  exact h (hsame ▸ List.mem_map_of_mem he)

private theorem remove_of_not_mem {r : Registry} {id : Nat} (h : id ∉ r.ids) :
    (r.remove id).1 = r := by
  simp [Registry.remove, filter_of_not_mem h]

private theorem remove_of_mem {r : Registry} {id : Nat} (hnodup : r.ids.Nodup) (h : id ∈ r.ids) :
    ∃ before e after, r.entries = before ++ e :: after ∧ e.id = id ∧
      (r.remove id).1 = { r with entries := before ++ after } := by
  obtain ⟨e, he, rfl⟩ := List.mem_map.mp h
  obtain ⟨before, after, hentries⟩ := List.append_of_mem he
  refine ⟨before, e, after, hentries, rfl, ?_⟩
  simp only [ids, hentries, List.map_append, List.map_cons, List.nodup_append, List.nodup_cons] at hnodup
  obtain ⟨-, ⟨hafter, -⟩, hbefore⟩ := hnodup
  have hbefore' : e.id ∉ before.map Registration.id := by
    intro hmem
    exact hbefore _ hmem _ List.mem_cons_self rfl
  simp [Registry.remove, hentries, filter_of_not_mem hbefore', filter_of_not_mem hafter]

namespace Ran

variable {history : List RegistryEvent} {r : Registry}

theorem identifiers_eq (h : Ran history r) :
    identifiers history = List.range' 1 (identifiers history).length ∧
      r.nextId = (identifiers history).length + 1 := by
  induction h with
  | start => exact ⟨rfl, rfl⟩
  | @add history r h receiver ih =>
    obtain ⟨hrange, hnext⟩ := ih
    have hlonger : (identifiers history ++ [r.nextId]).length = (identifiers history).length + 1 := by
      rw [List.length_append, List.length_singleton]
    rw [add_snd, RegistryEvent.identifiers_snoc_added, add_nextId, hlonger]
    refine ⟨?_, congrArg (· + 1) hnext⟩
    rw [List.range'_1_concat, ← hrange, hnext, Nat.add_comm]
  | remove h id ih => simpa using ih
  | dispatch h d ih => simpa using ih

theorem sublist_ids (h : Ran history r) : r.ids.Sublist (identifiers history) := by
  induction h with
  | start => exact List.Sublist.slnil
  | add h receiver ih => simpa using ih
  | @remove history r h id ih =>
    have hkept : (r.ids.filter (· != id)).Sublist (identifiers history) :=
      List.filter_sublist.trans ih
    simpa using hkept
  | dispatch h d ih => simpa using ih

private theorem nodup_ids (h : Ran history r) : r.ids.Nodup := by
  have hcount : (identifiers history).Nodup := by
    rw [h.identifiers_eq.1]
    exact List.nodup_range'
  exact hcount.sublist h.sublist_ids

theorem mem_ids_iff (h : Ran history r) (id : Nat) : id ∈ r.ids ↔ Live history id := by
  induction h with
  | start => simp [Live]
  | @add history r h receiver ih =>
    rw [RegistryEvent.live_snoc, add_snd, ids_add, ← ih]
    simp [or_comm, eq_comm]
  | @remove history r h id' ih =>
    rw [RegistryEvent.live_snoc, ids_remove, ← ih]
    simp only [List.mem_filter, bne_iff_ne]
    simp [eq_comm]
  | @dispatch history r h d ih => simp [RegistryEvent.live_snoc, ih]

end Ran

end Registry

namespace ChannelAction

def readings : ChannelAction → Bool → List Datagram
  | .read d, true => [Channel.readable d]
  | _, _ => []

def keepsOpen : ChannelAction → Bool
  | .close => false
  | _ => true

def drained : Bool → List ChannelAction → List Datagram
  | _, [] => []
  | running, a :: actions => a.readings running ++ drained (running && a.keepsOpen) actions

end ChannelAction

namespace Channel

open RegistryEvent (datagrams)

/-- A channel that has read and dispatched some more datagrams. -/
structure HasRead (c c' : Channel) (ds : List Datagram) : Prop where
  received : c'.stats.received = c.stats.received + ds.length
  malformed : c'.stats.malformed = c.stats.malformed + ds.countP fun d => d.Malformed
  ran : ∀ {history}, Registry.Ran history c.registry →
    ∃ later, Registry.Ran (history ++ later) c'.registry ∧ datagrams later = ds

private theorem HasRead.refl (c : Channel) : c.HasRead c [] :=
  ⟨rfl, rfl, fun {history} h => ⟨[], by simpa using h, rfl⟩⟩

private theorem HasRead.trans {c₁ c₂ c₃ : Channel} {ds es : List Datagram} (h₁ : c₁.HasRead c₂ ds)
    (h₂ : c₂.HasRead c₃ es) : c₁.HasRead c₃ (ds ++ es) := by
  constructor
  · rw [h₂.received, h₁.received, List.length_append, Nat.add_assoc]
  · rw [h₂.malformed, h₁.malformed, List.countP_append, Nat.add_assoc]
  · intro history h
    obtain ⟨later, hran, rfl⟩ := h₁.ran h
    obtain ⟨last, hran', rfl⟩ := h₂.ran hran
    exact ⟨later ++ last, by simpa using hran', RegistryEvent.datagrams_append _ _⟩

private theorem Apart.hasRead {c c' : Channel} (h : c.Apart c') : c.HasRead c' [] := by
  refine ⟨h.received, h.malformed, ?_⟩
  rw [h.registry]
  exact (HasRead.refl c).ran

private theorem hasRead_arrive {c : Channel} (h : c.running = true) (d : Datagram) :
    c.HasRead (c.arrive d) [readable d] := by
  rw [arrive, if_pos h]
  constructor
  · rfl
  · have hiff : (readable d).call?.isNone = true ↔ (readable d).Malformed :=
      Option.isNone_iff_eq_none.trans (readable d).call?_eq_none_iff
    simp [countReceived, List.countP_singleton, hiff]
  · intro history hran
    exact ⟨[.dispatched (readable d)], hran.dispatch (readable d), rfl⟩

private theorem Balanced.hasRead_perform {c : Channel} (h : c.Balanced) (a : ChannelAction) :
    c.HasRead (c.perform a) (a.readings c.running) ∧
      (c.perform a).running = (c.running && a.keepsOpen) := by
  cases a with
  | send p target socket =>
    have hapart := h.apart_put socket p target
    exact ⟨hapart.hasRead, hapart.running.trans (Bool.and_true _).symm⟩
  | flush index socket =>
    have hapart := h.apart_flush socket index
    exact ⟨hapart.hasRead, hapart.running.trans (Bool.and_true _).symm⟩
  | read d =>
    cases hrunning : c.running with
    | true =>
      refine ⟨hasRead_arrive hrunning d, ?_⟩
      rw [Channel.perform, arrive, if_pos hrunning]
      exact hrunning
    | false =>
      have hclosed : c.arrive d = c := by
        rw [arrive, if_neg (by simp [hrunning])]
      rw [Channel.perform, hclosed]
      exact ⟨.refl c, hrunning⟩
  | add receiver =>
    refine ⟨⟨rfl, rfl, ?_⟩, (Bool.and_true _).symm⟩
    intro history hran
    exact ⟨_, hran.add receiver, rfl⟩
  | remove id =>
    refine ⟨⟨rfl, rfl, ?_⟩, (Bool.and_true _).symm⟩
    intro history hran
    exact ⟨_, hran.remove id, rfl⟩
  | close => exact ⟨⟨rfl, rfl, (HasRead.refl c).ran⟩, (Bool.and_false _).symm⟩

private theorem Balanced.hasRead_performAll {c : Channel} (h : c.Balanced)
    (actions : List ChannelAction) :
    c.HasRead (c.performAll actions) (ChannelAction.drained c.running actions) := by
  induction actions generalizing c with
  | nil => exact .refl c
  | cons a actions ih =>
    obtain ⟨hread, hopen⟩ := h.hasRead_perform a
    rw [ChannelAction.drained, ← hopen]
    exact hread.trans (ih (h.perform a).1)

end Channel

namespace Registry

open RegistryEvent (Live identifiers datagrams)

/-- Whom datagrams reach. Identifiers count up, so none is given out twice; the registered ones are the
live ones, in the order of registration. A removal succeeds for a live receiver, and takes nothing but its
entry. A datagram calls every live receiver once, in order, with what it calls for, and nobody else; it
calls for nothing exactly when it is malformed. A channel dispatches what it reads while it is open, and
counts that and the malformed part of it. -/
theorem reaches_live {history : List RegistryEvent} {r : Registry} (h : Ran history r)
    {s : ChannelSettings} {interfaces : List Interface} {canBind : Ipv4Socket → Bool} {c : Channel}
    (hbind : Channel.bind s interfaces canBind = .ok c) :
    (identifiers history = List.range' 1 (identifiers history).length ∧
        r.nextId = (identifiers history).length + 1) ∧
      (r.ids.Sublist (identifiers history) ∧ r.ids.Nodup ∧ ∀ id, id ∈ r.ids ↔ Live history id) ∧
      (∀ id, ((r.remove id).2 = true ↔ Live history id) ∧
        (Live history id → ∃ before e after, r.entries = before ++ e :: after ∧ e.id = id ∧
          (r.remove id).1 = { r with entries := before ++ after }) ∧
        (¬ Live history id → (r.remove id).1 = r)) ∧
      (∀ d : Datagram, (d.Malformed ↔ ∀ call, ¬ d.CallsFor call) ∧
        (∀ call, d.CallsFor call → r.calls d = r.ids.map fun id => (id, call)) ∧
        (r.calls d = [] ↔ r.ids = [] ∨ d.Malformed) ∧
        (∀ id call, (id, call) ∈ r.calls d ↔ Live history id ∧ d.CallsFor call) ∧
        (∀ id call, Live history id → d.CallsFor call → r.callsTo d id = [call]) ∧
        (∀ id, ¬ Live history id → r.callsTo d id = []) ∧
        ∀ id, (r.dispatch d).receiver? id =
          (r.receiver? id).map fun x => x.takeAll (r.callsTo d id)) ∧
      ∀ actions, (c.performAll actions).stats.received =
          (ChannelAction.drained true actions).length ∧
        (c.performAll actions).stats.malformed =
          (ChannelAction.drained true actions).countP (fun d => d.Malformed) ∧
        ∃ past, Ran past (c.performAll actions).registry ∧
          datagrams past = ChannelAction.drained true actions := by
  refine ⟨h.identifiers_eq, ⟨h.sublist_ids, h.nodup_ids, h.mem_ids_iff⟩, ?_, ?_, ?_⟩
  · intro id
    rw [← h.mem_ids_iff]
    exact ⟨r.remove_eq_true_iff id, remove_of_mem h.nodup_ids, remove_of_not_mem⟩
  · intro d
    refine ⟨d.malformed_iff_forall, fun call => r.calls_of_callsFor, r.calls_eq_nil_iff d, ?_, ?_, ?_,
      receiver?_dispatch_callsTo h.nodup_ids d⟩
    · intro id call
      rw [← h.mem_ids_iff, mem_calls_iff]
    · intro id call hlive hcall
      rw [callsTo_of_mem h.nodup_ids ((h.mem_ids_iff id).mpr hlive), (d.call?_eq_some_iff call).mpr hcall]
      rfl
    · intro id hgone
      rw [← h.mem_ids_iff] at hgone
      exact callsTo_of_not_mem hgone d
  · intro actions
    have hread := (Channel.balanced_bind hbind).1.hasRead_performAll actions
    obtain ⟨-, rfl⟩ := Channel.bind_eq hbind
    obtain ⟨past, hran, hpast⟩ := hread.ran .start
    exact ⟨hread.received.trans (Nat.zero_add _), hread.malformed.trans (Nat.zero_add _), past, hran, hpast⟩

/-- The second of three receivers is gone when a datagram arrives that is nine bytes of a message, and a
channel reads it twice. -/
theorem reaches_live_removed :
    let add (r : Registry) : Registry := (r.add .ofEverything).1
    let r := ((add (add (add .empty))).remove 2).1
    let short : Datagram := ⟨.v4 ⟨.loopback, 6454⟩, identifier ++ [0]⟩
    let other : Datagram := ⟨.v4 ⟨.loopback, 6454⟩, [1, 2, 3]⟩
    let c := Channel.bind .usual [] fun _ => true
    r.calls short = [] ∧ (r.calls other).map Prod.fst = [1, 3] ∧ (r.remove 2).2 = false ∧
      c.map (fun c => (c.performAll [.read short, .read other, .read short]).stats.malformed) = .ok 2 := by
  intro add r short other c
  have hran : Ran [.added 1, .added 2, .added 3, .removed 2] r :=
    (((Ran.start.add _).add _).add _).remove 2
  have hlive (id : Nat) : Live [.added 1, .added 2, .added 3, .removed 2] id ↔ id ∈ r.ids :=
    (hran.mem_ids_iff id).symm
  have hbind : Channel.bind .usual [] (fun _ => true) = .ok _ := rfl
  obtain ⟨-, -, hremove, hcalls, hchannel⟩ := reaches_live hran hbind
  have hshort : short.Malformed := by decide
  have hother : other.CallsFor (.raw [1, 2, 3] (.v4 ⟨.loopback, 6454⟩)) := .raw (by decide)
  refine ⟨(hcalls short).2.2.1.mpr (.inr hshort), ?_, ?_, ?_⟩
  · rw [(hcalls other).2.1 _ hother]
    rfl
  · rw [Bool.eq_false_iff, Ne, (hremove 2).1, hlive]
    decide
  · exact congrArg Except.ok ((hchannel _).2.1.trans (by decide))

end Registry

end LightingNet
