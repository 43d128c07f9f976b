import LightingNet.Proofs.Discovery.Asking
import LightingNet.Proofs.Discovery.Runs
import LightingNet.Proofs.Node.Identity
/-!
# What a cycle sends

Behind the polls, a cycle sends what the first reply of each node calls for. Later replies of a node
and blocks of tables call for nothing.
-/
namespace LightingNet

namespace Node

/-- The first reply of each node, in order of arrival. -/
def firsts : List Node → List Node
  | [] => []
  | n :: ns => n :: (firsts ns).filter fun m => !m.address.same n.address

theorem firsts_snoc (ns : List Node) (n : Node) :
    firsts (ns ++ [n]) =
      firsts ns ++ if ns.any fun m => m.address.same n.address then [] else [n] := by
  induction ns with
  | nil => rfl
  | cons m ns ih =>
    rw [List.cons_append, firsts, ih, firsts, List.filter_append, List.cons_append, List.any_cons]
    congr 2
    -- A reply that is new to the tail may still be a later one of the head.
    by_cases hany : (ns.any fun m => m.address.same n.address) = true
    · simp [hany]
    · by_cases hsame : m.address.same n.address = true
      · simp [hsame, hany, NodeAddress.same_symm hsame]
      · have hback : ¬n.address.same m.address = true := mt NodeAddress.same_symm hsame
        simp [hsame, hany, hback]

private theorem firsts_sublist (ns : List Node) : (firsts ns).Sublist ns := by
  induction ns with
  | nil => exact List.Sublist.slnil
  | cons n ns ih => exact (List.filter_sublist.trans ih).cons_cons n

private theorem nodup_firsts (ns : List Node) : (firsts ns).Nodup := by
  induction ns with
  | nil => exact List.nodup_nil
  | cons n ns ih =>
    refine List.nodup_cons.mpr ⟨?_, ih.filter _⟩
    simp [NodeAddress.same_refl]

theorem mem_firsts {ns : List Node} {n : Node} :
    n ∈ firsts ns ↔ Ranked.find? rank n.rank ns = some n := by
  induction ns with
  | nil => simp [firsts, Ranked.find?]
  | cons m ns ih =>
    rw [firsts, List.mem_cons, List.mem_filter, ih, Ranked.find?_cons]
    by_cases hrank : m.rank = n.rank
    · have hsame : n.address.same m.address = true :=
        (NodeAddress.same_iff_rank _ _).mpr hrank.symm
      simp [hrank, hsame, eq_comm]
    · have hsame : ¬n.address.same m.address = true :=
        fun h => hrank ((NodeAddress.same_iff_rank _ _).mp h).symm
      have hne : n ≠ m := fun h => hrank (h ▸ rfl)
      simp [hrank, hsame, hne]

theorem firsts_perm (ns : List Node) : (firsts ns).Perm (Ranked.ofList rank ns) := by
  refine (List.perm_ext_iff_of_nodup (nodup_firsts ns) (Ranked.ascending_ofList ns).nodup).mpr ?_
  intro n
  rw [mem_firsts, Ranked.mem_ofList]

end Node

namespace Cycle

variable {c : Cycle} {as : List Arrival}

theorem Heard.sends_reply (h : c.Heard (Arrival.nodes as)) (s : DiscoverySettings)
    (reply : PollReply) (source : Socket) (elapsed : Nat) :
    (c.handle s (.pollReply reply) source elapsed).2 =
      let n := Node.ofReply reply source elapsed
      if s.rdmDiscovery && !(Arrival.nodes as).any fun m => m.address.same n.address then
        asks s.todMode n
      else [] := by
  rw [← h.nodes]
  rfl

theorem sends_nothing {m : Message} (hm : ∀ reply, m ≠ .pollReply reply) (s : DiscoverySettings)
    (c : Cycle) (source : Socket) (elapsed : Nat) : (c.handle s m source elapsed).2 = [] := by
  cases m with
  | pollReply reply => exact absurd rfl (hm reply)
  | _ => rfl

private theorem asks_eq_nil {mode : TodMode} {n : Node} (h : n.outputs = []) :
    asks mode n = [] := by
  rw [asks, h]
  cases mode <;> rfl

private theorem Heard.first_of_sends (h : c.Heard (Arrival.nodes as)) {s : DiscoverySettings}
    {m : Message} {source : Socket} {elapsed : Nat} (hsent : (c.handle s m source elapsed).2 ≠ []) :
    s.rdmDiscovery = true ∧ ∃ reply, m = .pollReply reply ∧
      (Node.ofReply reply source elapsed).outputs ≠ [] ∧
      ∀ n ∈ Arrival.nodes as,
        ¬n.address.same (Node.ofReply reply source elapsed).address = true := by
  cases m with
  | pollReply reply =>
    rw [h.sends_reply] at hsent
    obtain ⟨hfirst, hsent⟩ := ite_ne_right_iff.mp hsent
    rw [Bool.and_eq_true, Bool.not_eq_true', List.any_eq_false] at hfirst
    exact ⟨hfirst.1, reply, rfl, mt asks_eq_nil hsent, hfirst.2⟩
  | _ => exact absurd (sends_nothing (by simp) s c source elapsed) hsent

/-- A cycle asks each node that it hears, on its first reply. -/
theorem sends_takeAll (s : DiscoverySettings) (as : List Arrival) :
    (takeAll s empty as).2 =
      if s.rdmDiscovery = true then
        (Node.firsts (Arrival.nodes as)).flatMap (asks s.todMode)
      else [] := by
  induction as using List.reverseRecOn with
  | nil => split <;> rfl
  | append_singleton as a ih =>
    obtain ⟨m, source, elapsed⟩ := a
    rw [takeAll_append, takeAll_singleton, ih, Arrival.nodes_append]
    cases m with
    | pollReply reply =>
      have hnodes : Arrival.nodes [⟨.pollReply reply, source, elapsed⟩] =
          [Node.ofReply reply source elapsed] := rfl
      rw [(heard_takeAll s as).sends_reply, hnodes, Node.firsts_snoc]
      cases s.rdmDiscovery with
      | false => rfl
      | true =>
        rw [if_pos rfl, if_pos rfl, List.flatMap_append]
        by_cases hknown : ((Arrival.nodes as).any fun m =>
          m.address.same (Node.ofReply reply source elapsed).address) = true
        · simp [hknown]
        · simp [hknown]
    | _ =>
      rw [sends_nothing (by simp), Arrival.nodes_ignored (by simp), List.append_nil,
        List.append_nil]

end Cycle

namespace Orchestrator

open DiscoveryEvent (arrivals)

private theorem first_of_sends (s : DiscoverySettings) (targets : List Socket) {o : Orchestrator}
    (hidle : o.Idle) {before after : List DiscoveryEvent} {e : DiscoveryEvent}
    (hevents : ∀ e' ∈ before ++ e :: after, e'.goesOn = true)
    (hsent : ((o.run s targets (.refresh none :: before)).1.step s targets e).2 ≠ []) :
    s.rdmDiscovery = true ∧ ∃ reply source heard, e = .inbound (.pollReply reply) source heard ∧
      (Node.ofReply reply source heard).outputs ≠ [] ∧
      ∀ n ∈ Arrival.nodes (arrivals before),
        ¬n.address.same (Node.ofReply reply source heard).address = true := by
  have hbefore : ∀ e' ∈ before, e'.goesOn = true :=
    fun e' he' => hevents e' (List.mem_append_left _ he')
  have he : e.goesOn = true := hevents e (by simp)
  have hstep := step_during s targets (o := o.opened.during s .empty before) hidle.running rfl he
  rw [run_refresh s targets hidle hbefore, hstep] at hsent
  cases e with
  | inbound m source heard =>
    have harrivals : arrivals [.inbound m source heard] = [⟨m, source, heard⟩] := rfl
    rw [harrivals, Cycle.takeAll_singleton] at hsent
    have hheard := Cycle.heard_takeAll s (arrivals before)
    obtain ⟨hon, reply, rfl, hfirst⟩ := hheard.first_of_sends hsent
    exact ⟨hon, reply, source, heard, rfl, hfirst⟩
  | _ => exact absurd rfl hsent

/-- A cycle asks each node for its tables exactly once. It polls each of its targets before anything
else; then, with RDM on, it asks each node of the snapshot that it publishes, in the order in which
they were first heard. -/
theorem asks_once (s : DiscoverySettings) (targets : List Socket) {o : Orchestrator}
    (hidle : o.Idle) {events : List DiscoveryEvent} (hevents : ∀ e ∈ events, e.goesOn = true)
    (elapsed : Nat) :
    let result := o.run s targets (DiscoveryEvent.cycle events elapsed)
    let firsts := Node.firsts (Arrival.nodes (arrivals events))
    result.2 = targets.map (fun target => ⟨.poll (Poll.untargeted s.pollFlags), target⟩) ++
        (if s.rdmDiscovery = true then firsts.flatMap (Cycle.asks s.todMode) else []) ∧
      firsts.Perm result.1.snapshot.nodes ∧ firsts.Sublist (Arrival.nodes (arrivals events)) ∧
      (∀ n ∈ firsts, Cycle.Asked s.todMode n (Cycle.asks s.todMode n)) ∧
      ∀ before e after, events = before ++ e :: after →
        ((o.run s targets (.refresh none :: before)).1.step s targets e).2 ≠ [] →
        s.rdmDiscovery = true ∧ ∃ reply source heard, e = .inbound (.pollReply reply) source heard ∧
          (Node.ofReply reply source heard).outputs ≠ [] ∧
          ∀ n ∈ Arrival.nodes (arrivals before),
            ¬n.address.same (Node.ofReply reply source heard).address = true := by
  intro result firsts
  have hresult : result = _ := run_cycle s targets hidle hevents elapsed
  refine ⟨?_, ?_, Node.firsts_sublist _, ?_, ?_⟩
  · rw [hresult]
    exact congrArg _ (Cycle.sends_takeAll s (arrivals events))
  · rw [hresult]
    have hnodes := (Cycle.heard_takeAll s (arrivals events)).snapshot_nodes elapsed
    exact (Node.firsts_perm _).trans (List.Perm.of_eq hnodes.symm)
  · intro n _
    exact Cycle.asked_asks s.todMode n
  · rintro before e after rfl hsent
    exact first_of_sends s targets hidle hevents hsent

theorem asks_once_repeated :
    let gateway : Ipv4Socket := ⟨.ofNumbers 10 0 0 5, 6454⟩
    let reply : PollReply :=
      { PollReply.blank with
        ip := gateway.ip, numPorts := 2, portTypes := Vector.replicate 4 0x80
        swOut := Vector.ofFn fun slot => UInt8.ofNat (7 - slot.val) }
    let repeated : PollReply := { reply with numPorts := 4 }
    let everyone : Socket := .v4 ⟨.broadcast, 6454⟩
    let events : List DiscoveryEvent :=
      [.inbound (.pollReply reply) (.v4 gateway) 4, .inbound (.pollReply repeated) (.v4 gateway) 9]
    (fresh.run .usual [everyone] (DiscoveryEvent.cycle events 20)).2 =
      [⟨.poll (Poll.untargeted 0), everyone⟩,
        ⟨.todControl ⟨0, .flush, 7⟩, .v4 gateway⟩, ⟨.todControl ⟨0, .flush, 6⟩, .v4 gateway⟩] := by
  intro gateway reply repeated everyone events
  have hevents : ∀ e ∈ events, e.goesOn = true := by decide
  rw [(asks_once .usual [everyone] fresh_idle hevents 20).1]
  decide +kernel

end Orchestrator

end LightingNet
