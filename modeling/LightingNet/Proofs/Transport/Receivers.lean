import LightingNet.Transport.Bus
/-!
# What receivers hold

A receiver with room for some calls ends up with the first of those that it wants, in the order of
arrival: what it does not want takes no room, and what comes too late changes nothing. Every
identifier in use lies below the next one, so a new receiver is the only one under its identifier.
-/
namespace LightingNet

namespace Receiver

def takeAll (r : Receiver) (cs : List Call) : Receiver := cs.foldl (fun r c => r.take c) r

private theorem take_of_unwanted {r : Receiver} {c : Call} (h : r.wants c = false) :
    r.take c = r := by
  simp [take, h]

private theorem take_of_full {r : Receiver} {c : Call} (h : r.hasRoom = false) : r.take c = r := by
  simp [take, h]

private theorem take_of_room {r : Receiver} {c : Call} (hwants : r.wants c = true)
    (hroom : r.hasRoom = true) : r.take c = { r with queue := r.queue ++ [c] } := by
  simp [take, hwants, hroom]

private theorem hasRoom_eq {r : Receiver} {n : Nat} (h : r.depth = some n) :
    r.hasRoom = decide (r.queue.length < n) := by
  simp [hasRoom, h]

/-- The first calls that a receiver wants fill its queue, and the rest is dropped. -/
theorem queue_takeAll {n : Nat} (cs : List Call) {r : Receiver} (hdepth : r.depth = some n)
    (hlen : r.queue.length ≤ n) :
    (r.takeAll cs).queue = (r.queue ++ cs.filter r.wants).take n := by
  induction cs generalizing r with
  | nil => simp [takeAll, List.take_of_length_le hlen]
  | cons c cs ih =>
    have hstep : r.takeAll (c :: cs) = (r.take c).takeAll cs := rfl
    cases hwants : r.wants c with
    | false =>
      rw [hstep, take_of_unwanted hwants, ih hdepth hlen, List.filter_cons_of_neg (by simp [hwants])]
    | true =>
      rw [List.filter_cons_of_pos hwants]
      by_cases hroom : r.queue.length < n
      · have hlen' : (r.queue ++ [c]).length ≤ n := by simpa using Nat.succ_le_of_lt hroom
        rw [hstep, take_of_room hwants (by simpa [hasRoom_eq hdepth] using hroom),
          ih (r := { r with queue := r.queue ++ [c] }) hdepth hlen', List.append_assoc]
        rfl
      · -- A full queue is its own first `n` calls, with or without the call.
        have hfull : r.queue.length = n := Nat.le_antisymm hlen (Nat.not_lt.mp hroom)
        rw [hstep, take_of_full (by simpa [hasRoom_eq hdepth] using hroom), ih hdepth hlen,
          List.take_left' hfull, List.take_left' hfull]

end Receiver

namespace Registry

/-- Every identifier in use lies below the next one. -/
def Fresh (r : Registry) : Prop := ∀ e ∈ r.entries, e.id < r.nextId

theorem fresh_empty : Fresh empty := by
  intro e he
  cases he

theorem Fresh.add {r : Registry} (h : r.Fresh) (receiver : Receiver) :
    (r.add receiver).1.Fresh := by
  intro e he
  rcases List.mem_append.mp he with hold | hnew
  · exact Nat.lt_succ_of_lt (h e hold)
  · rw [List.mem_singleton.mp hnew]
    exact Nat.lt_succ_self _

theorem Fresh.remove {r : Registry} (h : r.Fresh) (id : Nat) : (r.remove id).1.Fresh := by
  intro e he
  exact h e (List.mem_filter.mp he).1

private theorem Fresh.dispatch {r : Registry} (h : r.Fresh) (d : Datagram) :
    (r.dispatch d).Fresh := by
  intro e he
  rw [Registry.dispatch] at he ⊢
  split at he
  · obtain ⟨e', he', rfl⟩ := List.mem_map.mp he
    exact h e' he'
  · exact h e he

def dispatchAll (r : Registry) (ds : List Datagram) : Registry := ds.foldl dispatch r

theorem Fresh.dispatchAll {r : Registry} (h : r.Fresh) (ds : List Datagram) :
    (r.dispatchAll ds).Fresh := by
  induction ds generalizing r with
  | nil => exact h
  | cons d ds ih => exact ih (h.dispatch d)

private theorem find?_map_receiver (es : List Registration) (change : Receiver → Receiver)
    (id : Nat) :
    (es.map fun e => { e with receiver := change e.receiver }).find? (fun e => e.id == id) =
      (es.find? fun e => e.id == id).map fun e => { e with receiver := change e.receiver } := by
  rw [List.find?_map]
  rfl

theorem receiver?_dispatch (r : Registry) (d : Datagram) (id : Nat) :
    (r.dispatch d).receiver? id = (r.receiver? id).map fun x => x.takeAll d.call?.toList := by
  cases hcall : d.call? with
  | none => simp [dispatch, hcall, Receiver.takeAll]
  | some c =>
    simp only [dispatch, hcall, receiver?, find?_map_receiver, Option.map_map, Option.toList]
    rfl

theorem receiver?_dispatchAll (r : Registry) (ds : List Datagram) (id : Nat) :
    (r.dispatchAll ds).receiver? id =
      (r.receiver? id).map fun x => x.takeAll (ds.filterMap Datagram.call?) := by
  induction ds generalizing r with
  | nil => simp [dispatchAll, Receiver.takeAll]
  | cons d ds ih =>
    have hstep : r.dispatchAll (d :: ds) = (r.dispatch d).dispatchAll ds := rfl
    rw [hstep, ih, receiver?_dispatch, Option.map_map]
    cases hcall : d.call? with
    | none => rw [List.filterMap_cons_none hcall]; rfl
    | some c => rw [List.filterMap_cons_some hcall]; rfl

theorem Fresh.receiver?_add {r : Registry} (h : r.Fresh) (receiver : Receiver) :
    (r.add receiver).1.receiver? (r.add receiver).2 = some receiver := by
  have hold : r.entries.find? (fun e => e.id == r.nextId) = none := by
    rw [List.find?_eq_none]
    intro e he
    simpa using Nat.ne_of_lt (h e he)
  simp [Registry.add, receiver?, List.find?_append, hold]

end Registry

namespace Bus

variable {σ : Type} (bus : Bus σ)

def heard? (m : Message) (target : Socket) : Option (List Datagram) :=
  (bus.network bus.state target m.toBytes).2

private theorem foldl_deliver (ds : List Datagram) :
    ds.foldl deliver bus = { bus with registry := bus.registry.dispatchAll ds } := by
  induction ds generalizing bus with
  | nil => rfl
  | cons d ds ih => exact ih (bus.deliver d)

theorem send_refused {m : Message} {target : Socket} (h : bus.heard? m target = none) :
    bus.send m target = ({ bus with state := (bus.network bus.state target m.toBytes).1 }, false) := by
  rw [heard?] at h
  rw [send]
  split
  · simp_all
  · simp_all

theorem send_taken {m : Message} {target : Socket} {ds : List Datagram}
    (h : bus.heard? m target = some ds) :
    bus.send m target = (⟨bus.network, (bus.network bus.state target m.toBytes).1,
      bus.registry.dispatchAll ds⟩, true) := by
  rw [heard?] at h
  rw [send]
  split
  · simp_all
  · simp_all [foldl_deliver]

/-- A receiver that is added before some datagrams arrive holds the first calls that it wants. -/
theorem held_add_dispatchAll (h : bus.registry.Fresh) {receiver : Receiver} {n : Nat}
    (hdepth : receiver.depth = some n) (hempty : receiver.queue = []) (state : σ)
    (ds : List Datagram) :
    held ⟨bus.network, state, (bus.add receiver).1.registry.dispatchAll ds⟩ (bus.add receiver).2 =
      ((ds.filterMap Datagram.call?).filter receiver.wants).take n := by
  have hadded : (bus.add receiver).1.registry.receiver? (bus.add receiver).2 = some receiver :=
    h.receiver?_add receiver
  have hroom : receiver.queue.length ≤ n := by simp [hempty]
  rw [held]
  simp only [Registry.receiver?_dispatchAll, hadded, Option.map_some]
  rw [Receiver.queue_takeAll _ hdepth hroom, hempty, List.nil_append]

end Bus

end LightingNet
