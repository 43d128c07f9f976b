import LightingNet.Proofs.Transport.Sending
/-!
# Channels in use

A channel is used in any order: its owner sends, registers and removes receivers and closes it, and
meanwhile its sockets are read and its queues flushed. Each socket may do anything at each send. Sends
and flushes leave alone what belongs to reading, and the buffers stay balanced throughout.
-/
namespace LightingNet

inductive ChannelAction where
  | send (p : Parcel) (target : Socket) (socket : SocketBehaviour)
  | flush (index : Nat) (socket : SocketBehaviour)
  | read (d : Datagram)
  | add (receiver : Receiver)
  | remove (id : Nat)
  | close

namespace Channel

def perform (c : Channel) : ChannelAction → Channel
  | .send p target socket => (c.put socket p target).1
  | .flush index socket => c.flush socket index
  | .read d => c.arrive d
  | .add receiver => { c with registry := (c.registry.add receiver).1 }
  | .remove id => { c with registry := (c.registry.remove id).1 }
  | .close => c.close

def performAll (c : Channel) (actions : List ChannelAction) : Channel := actions.foldl perform c

def routes (c : Channel) : List (Option Interface × Bool) :=
  c.endpoints.map fun e => (e.interface, e.receiveOnly)

private theorem routes_setQueue (c : Channel) (index : Nat) (queue : List Outbound) :
    (c.setQueue index queue).routes = c.routes := by
  apply List.ext_getElem?
  intro i
  simp only [routes, setQueue, List.getElem?_map, List.getElem?_modify]
  cases c.endpoints[i]? with
  | none => rfl
  | some e =>
    simp only [Option.map_eq_map, Option.map_some]
    split <;> rfl

/-- A channel with other buffers, queues and counts of sends. -/
structure Apart (c c' : Channel) : Prop where
  routes : c'.routes = c.routes
  poolSize : c'.poolSize = c.poolSize
  registry : c'.registry = c.registry
  running : c'.running = c.running
  received : c'.stats.received = c.stats.received
  malformed : c'.stats.malformed = c.stats.malformed

theorem Balanced.apart_put {c : Channel} (h : c.Balanced) (socket : SocketBehaviour) (p : Parcel)
    (target : Socket) : c.Apart (c.put socket p target).1 := by
  obtain ⟨c', ok, hput, hputs⟩ := h.exists_puts socket p target
  rw [hput]
  cases hputs with
  | waits hfree hroute hwait => exact ⟨c.routes_setQueue _ _, rfl, rfl, rfl, rfl, rfl⟩
  | _ => exact ⟨rfl, rfl, rfl, rfl, rfl, rfl⟩

theorem Balanced.apart_flush {c : Channel} (h : c.Balanced) (socket : SocketBehaviour)
    (index : Nat) : c.Apart (c.flush socket index) := by
  obtain ⟨done, rest, sent, errors, -, -, hflush⟩ := h.flush_eq socket index
  rw [hflush]
  exact ⟨c.routes_setQueue _ _, rfl, rfl, rfl, rfl, rfl⟩

theorem Balanced.perform {c : Channel} (h : c.Balanced) (a : ChannelAction) :
    (c.perform a).Balanced ∧ (c.perform a).poolSize = c.poolSize := by
  cases a with
  | send p target socket => exact ⟨h.put socket p target, (h.apart_put socket p target).poolSize⟩
  | flush index socket => exact ⟨h.flush socket index, (h.apart_flush socket index).poolSize⟩
  | read d =>
    rw [Channel.perform, arrive]
    split
    · exact ⟨⟨h.clean, h.balance⟩, rfl⟩
    · exact ⟨h, rfl⟩
  | add receiver => exact ⟨⟨h.clean, h.balance⟩, rfl⟩
  | remove id => exact ⟨⟨h.clean, h.balance⟩, rfl⟩
  | close => exact ⟨⟨h.clean, h.balance⟩, rfl⟩

theorem Balanced.performAll {c : Channel} (h : c.Balanced) (actions : List ChannelAction) :
    (c.performAll actions).Balanced ∧ (c.performAll actions).poolSize = c.poolSize := by
  induction actions generalizing c with
  | nil => exact ⟨h, rfl⟩
  | cons a actions ih =>
    obtain ⟨hbalanced, hsize⟩ := h.perform a
    obtain ⟨hrest, hrestSize⟩ := ih hbalanced
    exact ⟨hrest, hrestSize.trans hsize⟩

theorem Balanced.routes_perform {c : Channel} (h : c.Balanced) (a : ChannelAction) :
    (c.perform a).routes = c.routes := by
  cases a with
  | send p target socket => exact (h.apart_put socket p target).routes
  | flush index socket => exact (h.apart_flush socket index).routes
  | read d =>
    rw [Channel.perform, arrive]
    split <;> rfl
  | _ => rfl

theorem Balanced.routes_performAll {c : Channel} (h : c.Balanced) (actions : List ChannelAction) :
    (c.performAll actions).routes = c.routes := by
  induction actions generalizing c with
  | nil => rfl
  | cons a actions ih => exact (ih (h.perform a).1).trans (h.routes_perform a)

section Bound

variable {s : ChannelSettings} {interfaces : List Interface} {canBind : Ipv4Socket → Bool}
  {c : Channel}

theorem bind_eq (h : bind s interfaces canBind = .ok c) :
    s.sendBuffers ≠ 0 ∧ c = {
      endpoints := ((BindPlan.ofSettings s interfaces).filter fun plan => canBind plan.socket).map
        fun plan => ⟨plan.interface, plan.receiveOnly, []⟩
      free := List.replicate s.sendBuffers []
      poolSize := s.sendBuffers
      registry := .empty
      stats := ⟨0, 0, 0, 0, 0, 0⟩
      running := true } := by
  rw [bind, ChannelSettings.validate] at h
  by_cases hports : s.ports.isEmpty
  · rw [if_pos hports] at h
    cases h
  by_cases hbuffers : s.sendBuffers = 0
  · rw [if_neg hports, if_pos hbuffers] at h
    cases h
  rw [if_neg hports, if_neg hbuffers] at h
  have hmax : max s.sendBuffers 1 = s.sendBuffers :=
    Nat.max_eq_left (Nat.one_le_iff_ne_zero.mpr hbuffers)
  rw [hmax] at h
  exact ⟨hbuffers, (Except.ok.inj h).symm⟩

private theorem waiting_bind (h : bind s interfaces canBind = .ok c) : c.waiting = 0 := by
  rw [(bind_eq h).2]
  simp [waiting, Function.comp_def, List.map_const']

theorem queueOf_bind (h : bind s interfaces canBind = .ok c) (index : Nat) : c.queueOf index = [] := by
  have hlength := c.length_queueOf_le index
  rw [waiting_bind h] at hlength
  exact List.eq_nil_of_length_eq_zero (Nat.le_zero.mp hlength)

theorem balanced_bind (h : bind s interfaces canBind = .ok c) :
    c.Balanced ∧ c.poolSize = s.sendBuffers := by
  have hwaiting := waiting_bind h
  obtain ⟨-, rfl⟩ := bind_eq h
  refine ⟨⟨fun buffer hbuffer => List.eq_of_mem_replicate hbuffer, ?_⟩, rfl⟩
  rw [hwaiting, List.length_replicate, Nat.add_zero]

end Bound

end Channel

end LightingNet
