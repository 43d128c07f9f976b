import LightingNet.Proofs.Discovery.Delivery
import Mathlib.Logic.Relation
/-!
# A cycle among gateways

An orchestrator, the receiver that queues for it, and the gateways, with the datagrams that are on their
way between them. A gateway may answer at any time, a datagram may arrive whenever there is room for it,
and the orchestrator may take what waits for it; nothing is lost and nothing overtakes anything else on
its way to or from a gateway.
-/
namespace LightingNet

open Simulation
open Relation (ReflTransGen)

def Receiver.hear (r : Receiver) (d : Datagram) : Receiver :=
  match d.call? with
  | some c => r.take c
  | none => r

/-- A gateway with what is on its way to it and from it, the oldest first. -/
structure Link where
  gateway : Gateway
  toward : List Bytes
  back : List Bytes

namespace Link

def send (reach : Socket → Ipv4Socket → Bool) (sent : List Outgoing) (l : Link) : Link :=
  { l with toward := l.toward ++ reaching reach l.gateway.socket sent }

def answer (l : Link) (b : Bytes) (rest : List Bytes) : Link :=
  ⟨(l.gateway.receive b).2, rest, l.back ++ (l.gateway.receive b).1⟩

end Link

/-- A cycle among gateways. -/
structure World where
  orchestrator : Orchestrator
  receiver : Receiver
  links : List Link

namespace World

section Steps

variable (s : DiscoverySettings) (targets : List Socket) (reach : Socket → Ipv4Socket → Bool)

inductive Step : World → World → Prop
  | answer {o : Orchestrator} {r : Receiver} {before after : List Link} {l : Link} {b : Bytes}
    {rest : List Bytes} (h : l.toward = b :: rest) :
    Step ⟨o, r, before ++ l :: after⟩ ⟨o, r, before ++ l.answer b rest :: after⟩
  | arrive {o : Orchestrator} {r : Receiver} {before after : List Link} {l : Link} {c : Bytes}
    {rest : List Bytes} (h : l.back = c :: rest) (hroom : r.hasRoom = true) :
    Step ⟨o, r, before ++ l :: after⟩
      ⟨o, r.hear ⟨.v4 l.gateway.socket, c⟩, before ++ { l with back := rest } :: after⟩
  | take {o : Orchestrator} {r : Receiver} {links : List Link} {m : Message} {source : Socket}
    {rest : List Call} (elapsed : Nat) (h : r.queue = .message m source :: rest) :
    Step ⟨o, r, links⟩
      ⟨(o.step s targets (.inbound m source elapsed)).1, { r with queue := rest },
        links.map (Link.send reach (o.step s targets (.inbound m source elapsed)).2)⟩

def opened (o : Orchestrator) (gs : List Gateway) : World :=
  ⟨(o.step s targets (.refresh none)).1, Session.forwarder,
    gs.map fun g => Link.send reach (o.step s targets (.refresh none)).2 ⟨g, [], []⟩⟩

end Steps

/-- Nothing is on its way and nothing waits. -/
structure Quiet (w : World) : Prop where
  queue : w.receiver.queue = []
  toward : ∀ l ∈ w.links, l.toward = []
  back : ∀ l ∈ w.links, l.back = []

end World

def Arrival.event (a : Arrival) : DiscoveryEvent := .inbound a.message a.source a.elapsed

private theorem Call.isFrom_eq_false {socket socket' : Ipv4Socket} {c : Call}
    (h : c.isFrom socket = true) (hne : socket' ≠ socket) : c.isFrom socket' = false := by
  cases c with
  | message m source =>
    have hsource : source = .v4 socket := beq_iff_eq.mp h
    simp [isFrom, hsource, hne.symm]
  | _ => rfl

private theorem forall_mem_middle {α : Type} {P : α → Prop} {xs ys : List α} {x : α} :
    (∀ y ∈ xs ++ x :: ys, P y) ↔ P x ∧ ∀ y ∈ xs ++ ys, P y := by
  simp only [List.mem_append, List.mem_cons, or_imp, forall_and, forall_eq]
  tauto

private theorem isFrom_of_heard? {socket : Ipv4Socket} {contents : Bytes} {c : Call}
    (h : Session.heard? ⟨.v4 socket, contents⟩ = some c) : c.isFrom socket = true := by
  obtain ⟨hcall, hwants⟩ := Option.filter_eq_some_iff.mp h
  cases c with
  | message m source =>
    rw [Datagram.call?] at hcall
    split at hcall
    · cases hcall
    · cases hcall
      exact beq_self_eq_true _
    · cases hcall
    · cases hcall
  | _ => cases hwants

private theorem Receiver.hear_of_room {r : Receiver} (hwants : r.wants = Session.wants)
    (hroom : r.hasRoom = true) (d : Datagram) :
    r.hear d = { r with queue := r.queue ++ (Session.heard? d).toList } := by
  rw [hear, Session.heard?, ← hwants]
  cases d.call? with
  | none => simp
  | some c =>
    change r.take c = _
    rw [take, hroom, Bool.and_true, Option.filter_some]
    split <;> simp

/-- A link accounts for what was sent: the gateway has read some of it and the rest is on its way to it;
its answers to what it read have called the receiver or are on their way back. -/
def Link.Accounts (reach : Socket → Ipv4Socket → Bool) (sent : List Outgoing) (calls : List Call)
    (l : Link) : Prop :=
  ∃ read, read ++ l.toward = reaching reach l.gateway.socket sent ∧
    calls.filter (Call.isFrom l.gateway.socket) ++
        l.back.filterMap (fun c => Session.heard? ⟨.v4 l.gateway.socket, c⟩) =
      read.flatMap l.gateway.callsTo

namespace Link.Accounts

variable {reach : Socket → Ipv4Socket → Bool} {sent : List Outgoing} {calls : List Call} {l : Link}
  (h : l.Accounts reach sent calls)

include h

private theorem send (more : List Outgoing) :
    (l.send reach more).Accounts reach (sent ++ more) calls := by
  obtain ⟨read, hsent, hcalls⟩ := h
  refine ⟨read, ?_, hcalls⟩
  rw [Link.send, reaching_append, ← hsent, List.append_assoc]

private theorem answer {b : Bytes} {rest : List Bytes} (htoward : l.toward = b :: rest)
    (hsame : (l.gateway.receive b).2 = l.gateway) :
    (l.answer b rest).Accounts reach sent calls := by
  obtain ⟨read, hsent, hcalls⟩ := h
  rw [htoward] at hsent
  rw [Accounts, Link.answer, hsame]
  refine ⟨read ++ [b], by rw [← hsent, List.append_assoc]; rfl, ?_⟩
  rw [List.filterMap_append, ← List.append_assoc, hcalls, List.flatMap_append, List.flatMap_singleton]
  rfl

private theorem arrive {c : Bytes} {rest : List Bytes} (hback : l.back = c :: rest) :
    { l with back := rest }.Accounts reach sent
      (calls ++ (Session.heard? ⟨.v4 l.gateway.socket, c⟩).toList) := by
  obtain ⟨read, hsent, hcalls⟩ := h
  refine ⟨read, hsent, ?_⟩
  rw [← hcalls, hback, List.filter_append, List.filterMap_cons, List.append_assoc]
  cases hheard : Session.heard? ⟨.v4 l.gateway.socket, c⟩ with
  | none => rfl
  | some call =>
    rw [Option.toList_some, List.filter_cons_of_pos (isFrom_of_heard? hheard)]
    rfl

private theorem other {new : List Call} (hnew : ∀ c ∈ new, c.isFrom l.gateway.socket = false) :
    l.Accounts reach sent (calls ++ new) := by
  obtain ⟨read, hsent, hcalls⟩ := h
  refine ⟨read, hsent, ?_⟩
  have hnone : new.filter (Call.isFrom l.gateway.socket) = [] := by
    apply List.filter_eq_nil_iff.mpr
    simpa using hnew
  rwa [List.filter_append, hnone, List.append_nil]

end Link.Accounts

namespace World

variable (s : DiscoverySettings) (targets : List Socket) (reach : Socket → Ipv4Socket → Bool)

/-- How much may still happen in a world: the bindings whose replies may bring about requests, what is on
its way to the gateways, what is on its way back, and what waits. -/
def remaining (gs : List Gateway) (as : List Arrival) (w : World) : Nat × Nat × Nat × Nat :=
  ((gs.flatMap fun g => g.setup.bindings).length - (Node.firsts (Arrival.nodes as)).length,
    (w.links.flatMap Link.toward).length, (w.links.flatMap Link.back).length,
    w.receiver.queue.length)

/-- Less is left, whatever that brought about further down the list. -/
def Less : Nat × Nat × Nat × Nat → Nat × Nat × Nat × Nat → Prop :=
  Prod.Lex (· < ·) (Prod.Lex (· < ·) (Prod.Lex (· < ·) (· < ·)))

private theorem less_wf : WellFounded Less :=
  (Prod.lex Nat.lt_wfRel (Prod.lex Nat.lt_wfRel (Prod.lex Nat.lt_wfRel Nat.lt_wfRel))).wf

/-- How things stand in a world that began with some gateways, when the orchestrator has taken some
messages: nothing is lost and nothing is out of order. -/
structure Past (o : Orchestrator) (gs : List Gateway) (as : List Arrival) (w : World) : Prop where
  orchestrator : w.orchestrator = o.opened.during s .empty (as.map Arrival.event)
  gateways : w.links.map Link.gateway = gs
  wants : w.receiver.wants = Session.wants
  depth : w.receiver.depth = some Session.queueDepth
  known : ∀ c ∈ as.map Arrival.call ++ w.receiver.queue, ∃ g ∈ gs, c.isFrom g.socket = true
  links : ∀ l ∈ w.links,
    l.Accounts reach (Cycle.sentBy s targets as) (as.map Arrival.call ++ w.receiver.queue)

section Runs

variable {s targets reach} {o : Orchestrator} {gs : List Gateway}

private theorem opened_eq_during (o : Orchestrator) : o.opened.during s .empty [] = o.opened := by
  have hnone : DiscoveryEvent.arrivals [] = [] := rfl
  simp [Orchestrator.during, hnone, Cycle.takeAll, Orchestrator.opened]

private theorem arrivals_events (as : List Arrival) :
    DiscoveryEvent.arrivals (as.map Arrival.event) = as := by
  rw [DiscoveryEvent.arrivals, List.filterMap_map]
  exact List.filterMap_some

private theorem cycle_during (o : Orchestrator) (as : List Arrival) :
    (o.opened.during s .empty (as.map Arrival.event)).cycle =
      some (Cycle.takeAll s .empty as).1 := by
  rw [Orchestrator.during, arrivals_events]

private theorem past_opened (hidle : o.Idle) :
    Past s targets reach o gs [] (opened s targets reach o gs) := by
  have hstep := Orchestrator.step_refresh s targets hidle
  refine ⟨?_, ?_, rfl, rfl, fun _ hc => absurd hc List.not_mem_nil, ?_⟩
  · rw [opened, hstep, List.map_nil, opened_eq_during]
  · rw [opened, List.map_map]
    exact List.map_id _
  · intro l hl
    obtain ⟨g, -, rfl⟩ := List.mem_map.mp hl
    refine ⟨[], ?_, rfl⟩
    rw [hstep, Cycle.sentBy]
    simp [Link.send, Cycle.takeAll]

private theorem step_event (hidle : o.Idle) (as : List Arrival) (a : Arrival) :
    (o.opened.during s .empty (as.map Arrival.event)).step s targets a.event =
      (o.opened.during s .empty ((as ++ [a]).map Arrival.event),
        ((Cycle.takeAll s .empty as).1.handle s a.message a.source a.elapsed).2) := by
  have hcycle := cycle_during (s := s) o as
  have hrunning : (o.opened.during s .empty (as.map Arrival.event)).running = true := hidle.running
  have hone : DiscoveryEvent.arrivals [a.event] = [a] := rfl
  have hmerge := Orchestrator.during_append s o.opened .empty (as.map Arrival.event) [a.event]
  rw [arrivals_events] at hmerge
  rw [Orchestrator.step_during s targets hrunning hcycle rfl, hmerge, hone,
    Cycle.takeAll_singleton, List.map_append]
  rfl

private theorem grows_or_nothing (s : DiscoverySettings) (as : List Arrival) (a : Arrival) :
    (Node.firsts (Arrival.nodes as)).length < (Node.firsts (Arrival.nodes (as ++ [a]))).length ∨
      Node.firsts (Arrival.nodes (as ++ [a])) = Node.firsts (Arrival.nodes as) ∧
        ((Cycle.takeAll s .empty as).1.handle s a.message a.source a.elapsed).2 = [] := by
  obtain ⟨m, source, elapsed⟩ := a
  rw [Arrival.nodes_append]
  cases m with
  | pollReply reply =>
    have hnode : Arrival.nodes [⟨.pollReply reply, source, elapsed⟩] =
        [Node.ofReply reply source elapsed] := rfl
    rw [hnode, Node.firsts_snoc, (Cycle.heard_takeAll s as).sends_reply]
    by_cases hknown : ((Arrival.nodes as).any fun n =>
      n.address.same (Node.ofReply reply source elapsed).address) = true
    · simp [hknown]
    · simp [hknown]
  | _ =>
    right
    rw [Arrival.nodes_ignored (by simp), List.append_nil]
    exact ⟨rfl, Cycle.sends_nothing (by simp) s _ source elapsed⟩

variable {as : List Arrival} {w : World} (hfleet : Fleet gs)

private theorem Past.mem_of_links (h : Past s targets reach o gs as w) {l : Link}
    (hl : l ∈ w.links) : l.gateway ∈ gs := by
  rw [← h.gateways]
  exact List.mem_map_of_mem hl

include hfleet

private theorem Past.receive_toward (h : Past s targets reach o gs as w) {l : Link}
    (hl : l ∈ w.links) {b : Bytes} (hb : b ∈ l.toward) : (l.gateway.receive b).2 = l.gateway := by
  obtain ⟨read, hsent, -⟩ := h.links l hl
  obtain ⟨out, hout, -, rfl⟩ := mem_reaching.mp (hsent ▸ List.mem_append_right read hb)
  exact receive_sent (hfleet.ready _ (h.mem_of_links hl)) hout

private theorem Past.socket_ne {orchestrator : Orchestrator} {receiver : Receiver}
    {before after : List Link}
    {l : Link} (h : Past s targets reach o gs as ⟨orchestrator, receiver, before ++ l :: after⟩)
    {l' : Link} (hl' : l' ∈ before ++ after) : l'.gateway.socket ≠ l.gateway.socket := by
  have hdistinct := hfleet.sockets
  rw [← h.gateways, List.map_map, List.map_append, List.map_cons, List.nodup_middle, ← List.map_append]
    at hdistinct
  intro heq
  exact (List.nodup_cons.mp hdistinct).1 (List.mem_map.mpr ⟨l', hl', heq⟩)

section Middle

variable {orchestrator : Orchestrator} {receiver : Receiver} {before after : List Link} {l : Link}
  (h : Past s targets reach o gs as ⟨orchestrator, receiver, before ++ l :: after⟩)

include h

private theorem Past.answer {b : Bytes} {rest : List Bytes} (htoward : l.toward = b :: rest) :
    Past s targets reach o gs as ⟨orchestrator, receiver, before ++ l.answer b rest :: after⟩ := by
  obtain ⟨hl, hothers⟩ := forall_mem_middle.mp h.links
  have hsame := h.receive_toward hfleet (List.mem_append_right _ List.mem_cons_self)
    (htoward ▸ List.mem_cons_self)
  refine ⟨h.orchestrator, ?_, h.wants, h.depth, h.known, ?_⟩
  · rw [← h.gateways]
    simp [Link.answer, hsame]
  · exact forall_mem_middle.mpr ⟨hl.answer htoward hsame, hothers⟩

private theorem Past.arrive {c : Bytes} {rest : List Bytes} (hback : l.back = c :: rest)
    (hroom : receiver.hasRoom = true) :
    Past s targets reach o gs as ⟨orchestrator, receiver.hear ⟨.v4 l.gateway.socket, c⟩,
      before ++ { l with back := rest } :: after⟩ := by
  obtain ⟨hl, hothers⟩ := forall_mem_middle.mp h.links
  have hnew : ∀ call ∈ (Session.heard? ⟨.v4 l.gateway.socket, c⟩).toList,
      call.isFrom l.gateway.socket = true := by
    intro call hcall
    exact isFrom_of_heard? (Option.mem_toList.mp hcall)
  rw [Receiver.hear_of_room h.wants hroom]
  refine ⟨h.orchestrator, ?_, h.wants, h.depth, ?_, ?_⟩
  · rw [← h.gateways]
    simp
  · rw [← List.append_assoc, List.forall_mem_append]
    refine ⟨h.known, fun call hcall => ?_⟩
    exact ⟨_, h.mem_of_links (List.mem_append_right _ List.mem_cons_self), hnew call hcall⟩
  · rw [← List.append_assoc]
    refine forall_mem_middle.mpr ⟨hl.arrive hback, fun l' hl' => ?_⟩
    apply (hothers l' hl').other
    intro call hcall
    exact Call.isFrom_eq_false (hnew call hcall) (h.socket_ne hfleet hl')

end Middle

omit hfleet in
private theorem Past.take (hidle : o.Idle) {orchestrator : Orchestrator} {receiver : Receiver}
    {links : List Link} (h : Past s targets reach o gs as ⟨orchestrator, receiver, links⟩)
    {a : Arrival} {rest : List Call} (hqueue : receiver.queue = a.call :: rest) :
    let next := orchestrator.step s targets a.event
    Past s targets reach o gs (as ++ [a])
      ⟨next.1, { receiver with queue := rest }, links.map (Link.send reach next.2)⟩ := by
  intro next
  have hnext : next = (o.opened.during s .empty ((as ++ [a]).map Arrival.event),
      ((Cycle.takeAll s .empty as).1.handle s a.message a.source a.elapsed).2) := by
    rw [← step_event hidle, ← h.orchestrator]
  have hcalls : (as ++ [a]).map Arrival.call ++ rest = as.map Arrival.call ++ receiver.queue := by
    simp [hqueue]
  refine ⟨?_, ?_, h.wants, h.depth, ?_, ?_⟩
  · rw [hnext]
  · rw [← h.gateways, List.map_map]
    rfl
  · rw [hcalls]
    exact h.known
  · rw [hcalls, Cycle.sentBy_snoc, hnext]
    intro l' hl'
    obtain ⟨l, hl, rfl⟩ := List.mem_map.mp hl'
    exact (h.links l hl).send _

private theorem Past.sound (h : Past s targets reach o gs as w) : ∀ a ∈ as, AnswerOf gs a := by
  intro a ha
  have hcall : a.call ∈ as.map Arrival.call ++ w.receiver.queue :=
    List.mem_append_left _ (List.mem_map_of_mem ha)
  obtain ⟨g, hg, hfrom⟩ := h.known _ hcall
  obtain ⟨l, hl, rfl⟩ := List.mem_map.mp (h.gateways ▸ hg)
  obtain ⟨read, hsent, hcalls⟩ := h.links l hl
  have hanswer : a.call ∈ read.flatMap l.gateway.callsTo := by
    rw [← hcalls]
    exact List.mem_append_left _ (List.mem_filter.mpr ⟨hcall, hfrom⟩)
  obtain ⟨b, hb, hanswer⟩ := List.mem_flatMap.mp hanswer
  obtain ⟨out, hout, -, rfl⟩ := mem_reaching.mp (hsent ▸ List.mem_append_left _ hb)
  exact answerOf_of_sent hfleet hg hout hanswer

private theorem Past.delivered (h : Past s targets reach o gs as w) (hquiet : w.Quiet) :
    Delivered s targets reach gs as := by
  refine ⟨h.sound hfleet, fun g hg => ?_⟩
  obtain ⟨l, hl, rfl⟩ := List.mem_map.mp (h.gateways ▸ hg)
  obtain ⟨read, hsent, hcalls⟩ := h.links l hl
  rw [hquiet.toward l hl, List.append_nil] at hsent
  rw [hquiet.queue, hquiet.back l hl, List.append_nil, List.filterMap_nil, List.append_nil] at hcalls
  rw [hcalls, hsent]

private theorem Past.length_firsts_le (h : Past s targets reach o gs as w) :
    (Node.firsts (Arrival.nodes as)).length ≤ (gs.flatMap fun g => g.setup.bindings).length := by
  have hnodes := Node.firsts_perm (Arrival.nodes as)
  have hdistinct : ((Ranked.ofList Node.rank (Arrival.nodes as)).map Node.rank).Nodup :=
    (List.pairwise_map.mpr (Ranked.ascending_ofList _)).imp Nat.ne_of_lt
  have hsubset : (Ranked.ofList Node.rank (Arrival.nodes as)).map Node.rank ⊆
      gs.flatMap fun g => g.setup.bindings.map fun b => (g.nodeAddress b).rank := by
    intro r hr
    obtain ⟨n, hn, rfl⟩ := List.mem_map.mp hr
    obtain ⟨g, hg, b, hb, elapsed, rfl⟩ :=
      Answered.exists_of_mem_nodes (h.sound hfleet) (Ranked.mem_of_mem_ofList hn)
    rw [Node.rank, Gateway.address_nodeOf (hfleet.ready g hg) hb]
    exact List.mem_flatMap.mpr ⟨g, hg, List.mem_map_of_mem hb⟩
  have hle := (hdistinct.subperm hsubset).length_le
  rw [List.length_map, ← hnodes.length_eq] at hle
  simpa [List.length_flatMap] using hle

/-- Whatever happens in a world, its past goes on, and less is left to happen. -/
theorem Past.step (hidle : o.Idle) {w' : World} (h : Past s targets reach o gs as w)
    (hstep : Step s targets reach w w') :
    ∃ as', Past s targets reach o gs as' w' ∧ Less (remaining gs as' w') (remaining gs as w) := by
  cases hstep with
  | answer htoward =>
    refine ⟨as, h.answer hfleet htoward, ?_⟩
    simp only [Less, remaining, Prod.lex_def, List.flatMap_append, List.flatMap_cons,
      List.length_append, Link.answer, htoward, List.length_cons]
    exact .inr ⟨trivial, .inl (by omega)⟩
  | arrive hback hroom =>
    refine ⟨as, h.arrive hfleet hback hroom, ?_⟩
    simp only [Less, remaining, Prod.lex_def, List.flatMap_append, List.flatMap_cons,
      List.length_append, hback, List.length_cons]
    exact .inr ⟨trivial, .inr ⟨trivial, .inl (by omega)⟩⟩
  | @take orchestrator receiver links m source rest elapsed hqueue =>
    have hnext := Past.take hidle (a := ⟨m, source, elapsed⟩) h hqueue
    refine ⟨_, hnext, ?_⟩
    -- Only a first reply brings about requests, and there is one for each binding at most.
    rcases grows_or_nothing s as ⟨m, source, elapsed⟩ with hgrows | ⟨hsame, hnothing⟩
    · have hle := hnext.length_firsts_le hfleet
      exact .left _ _ (by omega)
    · have hsent : (orchestrator.step s targets (.inbound m source elapsed)).2 = [] := by
        have horchestrator : orchestrator = _ := h.orchestrator
        rw [horchestrator]
        exact (congrArg Prod.snd (step_event hidle as ⟨m, source, elapsed⟩)).trans hnothing
      have hlinks : Link.send reach [] = id := by
        funext l
        simp [Link.send, reaching]
      simp only [Less, remaining, Prod.lex_def, hsame, hsent, hlinks, List.map_id, hqueue,
        List.length_cons]
      exact .inr ⟨trivial, .inr ⟨trivial, .inr ⟨trivial, Nat.lt_succ_self _⟩⟩⟩

private theorem exists_past (hidle : o.Idle)
    (hrun : ReflTransGen (Step s targets reach) (opened s targets reach o gs) w) :
    ∃ as, Past s targets reach o gs as w := by
  induction hrun with
  | refl => exact ⟨[], past_opened hidle⟩
  | tail _ hstep ih =>
    obtain ⟨as, h⟩ := ih
    obtain ⟨as', h', -⟩ := h.step hfleet hidle hstep
    exact ⟨as', h'⟩

private theorem Past.terminates (hidle : o.Idle) (h : Past s targets reach o gs as w) :
    Acc (fun w' w => Step s targets reach w w') w := by
  obtain ⟨left, hleft⟩ : ∃ left, remaining gs as w = left := ⟨_, rfl⟩
  induction left using less_wf.induction generalizing as w with
  | _ left ih =>
    subst hleft
    constructor
    intro w' hstep
    obtain ⟨as', h', hless⟩ := h.step hfleet hidle hstep
    exact ih _ hless h' rfl

omit hfleet in
/-- Where nothing can happen any more, nothing is left on its way. -/
theorem Past.quiet_of_stuck (h : Past s targets reach o gs as w)
    (hstuck : ∀ w', ¬Step s targets reach w w') : w.Quiet := by
  obtain ⟨orchestrator, receiver, links⟩ := w
  have hqueue : receiver.queue = [] := by
    cases hcalls : receiver.queue with
    | nil => rfl
    | cons c rest =>
      have hknown := h.known c (List.mem_append_right _ (hcalls ▸ List.mem_cons_self))
      obtain ⟨g, -, hfrom⟩ := hknown
      cases c with
      | message m source => exact absurd (.take 0 hcalls) (hstuck _)
      | _ => cases hfrom
  have hroom : receiver.hasRoom = true := by
    have hdepth : receiver.depth = some Session.queueDepth := h.depth
    simp [Receiver.hasRoom, hdepth, hqueue, Session.queueDepth]
  refine ⟨hqueue, ?_, ?_⟩
  · intro l hl
    obtain ⟨before, after, rfl⟩ := List.append_of_mem hl
    cases htoward : l.toward with
    | nil => rfl
    | cons b rest => exact absurd (.answer htoward) (hstuck _)
  · intro l hl
    obtain ⟨before, after, rfl⟩ := List.append_of_mem hl
    cases hback : l.back with
    | nil => rfl
    | cons c rest => exact absurd (.arrive hback hroom) (hstuck _)

omit hfleet in
private theorem Past.deadline (hidle : o.Idle) (h : Past s targets reach o gs as w)
    (elapsed : Nat) : let last := (w.orchestrator.step s targets (.deadline elapsed)).1
    last.result.1 = .ok last.snapshot ∧
      last.snapshot = (Cycle.takeAll s .empty as).1.snapshot elapsed := by
  have hrunning : (o.opened.during s .empty (as.map Arrival.event)).running = true := hidle.running
  rw [h.orchestrator, Orchestrator.step, if_pos hrunning, cycle_during]
  exact ⟨rfl, rfl⟩

end Runs

private theorem exists_stuck {α : Type} {r : α → α → Prop} {x : α} (h : Acc (fun y x => r x y) x) :
    ∃ y, ReflTransGen r x y ∧ ∀ z, ¬r y z := by
  induction h with
  | intro x _ ih =>
    by_cases hmoves : ∃ z, r x z
    · obtain ⟨z, hz⟩ := hmoves
      obtain ⟨y, hy, hstuck⟩ := ih z hz
      exact ⟨y, hy.head hz, hstuck⟩
    · exact ⟨x, .refl, not_exists.mp hmoves⟩

end World

end LightingNet
