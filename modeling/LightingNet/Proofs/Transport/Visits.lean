import LightingNet.Proofs.Discovery.Runs
import LightingNet.Proofs.Rdm.Correlation
import LightingNet.Proofs.Transport.Guests
/-!
# Requests and cycles as guests

A request and a discovery cycle register a receiver for as long as they last. Both are guests of the
transport on every way out, and what they take was delivered while they stayed, to the receivers of
others as well. A cycle may hear datagrams that no message of its own brought in.
-/
namespace LightingNet

open RegistryEvent (identifiers datagrams)

private theorem Receiver.mem_queue_takeAll {r : Receiver} {cs : List Call} {c : Call}
    (h : c ∈ (r.takeAll cs).queue) : c ∈ r.queue ∨ c ∈ cs := by
  induction cs generalizing r with
  | nil => exact .inl h
  | cons first cs ih =>
    rcases ih (r := r.take first) h with hqueue | hlater
    · rw [take] at hqueue
      split at hqueue
      · rcases List.mem_append.mp hqueue with hold | hfirst
        · exact .inl hold
        · exact .inr (List.mem_cons.mpr (.inl (List.mem_singleton.mp hfirst)))
      · exact .inl hqueue
    · exact .inr (List.mem_cons_of_mem _ hlater)

private theorem Registry.receiver?_modify (r : Registry) (id : Nat) (change : Receiver → Receiver) :
    (r.modify id change).receiver? id = (r.receiver? id).map change := by
  have hsame : (fun e : Registration => e.id == id) ∘ (fun e =>
      if e.id = id then { e with receiver := change e.receiver } else e) = fun e => e.id == id := by
    funext e
    simp only [Function.comp_apply]
    split <;> rfl
  rw [receiver?, modify, List.find?_map, hsame, receiver?]
  cases hfind : r.entries.find? fun e => e.id == id with
  | none => rfl
  | some e =>
    have hid : e.id = id := by simpa using List.find?_some hfind
    simp [hid]

namespace Rdm.Line

variable {σ : Type} (line : Line σ) (q : Question)

/-- What is delivered while a question waits. A refused request brings nothing. -/
def delivered : List Datagram := (line.heard? q).getD []

private theorem bus_ask :
    (ask q line).2.bus = (line.listening q (line.delivered q)).remove line.bus.registry.nextId := by
  cases h : line.heard? q with
  | none => rw [ask_refused line q h, delivered, h, Option.getD_none]
  | some heard => rw [ask_taken line q h, delivered, h, Option.getD_some]

private theorem visited_ask :
    line.bus.registry.Visited (RegistryEvent.stay line.bus.registry.nextId (line.delivered q))
      (ask q line).2.bus.registry := by
  have hstart : line.bus.registry.Visited [] line.bus.registry := .start
  have hstay := (hstart.add (Requester.collector (line.requester.request q))).dispatchAll
    (line.delivered q)
  rw [bus_ask]
  exact hstay.remove (by simp [identifiers])

private theorem answer_delivered (h : line.bus.registry.Fresh) {p : Packet}
    (hp : (ask q line).1 = some p) : ∃ d ∈ line.delivered q, d.packet? = some p := by
  obtain ⟨heard, hheard, d, hfirst, hanswered⟩ := (line.ask_eq_some_iff q h p).mp hp
  rw [delivered, hheard, Option.getD_some]
  exact ⟨d, hfirst.mem, hanswered.1⟩

private theorem served_ask (h : line.bus.registry.Fresh) :
    line.bus.registry.Served (line.delivered q) (ask q line).2.bus.registry :=
  (line.visited_ask q).served h

def deliveredAll : List Question → Line σ → List Datagram
  | [], _ => []
  | q :: qs, line => line.delivered q ++ deliveredAll qs (ask q line).2

/-- Questions in a row leave the receivers of others in place, each called for all that is delivered
while one of the questions waits. -/
theorem served_mapM (qs : List Question) (h : line.bus.registry.Fresh) :
    line.bus.registry.Served (deliveredAll qs line) (qs.mapM ask line).2.bus.registry := by
  induction qs generalizing line with
  | nil => exact .nothing h
  | cons q qs ih =>
    -- The next question registers its receiver with what the first one leaves.
    have hfirst := line.served_ask q h
    rw [List.mapM_cons]
    exact hfirst.trans (ih (ask q line).2 hfirst.fresh)

end Rdm.Line

namespace Bus

variable {σ : Type} (bus : Bus σ)

private theorem fst_send (m : Message) (target : Socket) :
    (bus.send m target).1 = ⟨bus.network, (bus.network bus.state target m.toBytes).1,
      bus.registry.dispatchAll ((bus.network bus.state target m.toBytes).2.getD [])⟩ := by
  cases h : bus.heard? m target with
  | none =>
    rw [bus.send_refused h, show (bus.network _ _ _).2 = none from h]
    rfl
  | some ds =>
    rw [bus.send_taken h, show (bus.network _ _ _).2 = some ds from h]
    rfl

private theorem held_eq (id : Nat) :
    bus.held id = ((bus.registry.receiver? id).map Receiver.queue).getD [] := by
  rw [held]
  cases bus.registry.receiver? id <;> rfl

private theorem held_dropOldest (id : Nat) :
    (bus.dropOldest id).held id = (bus.held id).drop 1 := by
  rw [held_eq, held_eq, dropOldest, Registry.receiver?_modify]
  cases bus.registry.receiver? id with
  | none => rfl
  | some own => rfl

private theorem mem_held_dispatchAll {bus : Bus σ} {state : σ} {ds : List Datagram} {id : Nat}
    {c : Call} (h : c ∈ held ⟨bus.network, state, bus.registry.dispatchAll ds⟩ id) :
    c ∈ bus.held id ∨ ∃ d ∈ ds, d.CallsFor c := by
  rw [held_eq, Registry.receiver?_dispatchAll] at h
  rw [held_eq]
  cases hown : bus.registry.receiver? id with
  | none => simp [hown] at h
  | some own =>
    rw [hown] at h
    rcases Receiver.mem_queue_takeAll h with hold | hnew
    · exact .inl hold
    · obtain ⟨d, hd, hcall⟩ := List.mem_filterMap.mp hnew
      exact .inr ⟨d, hd, (d.call?_eq_some_iff c).mp hcall⟩

end Bus

def Network.carry {σ : Type} (network : Network σ) : σ → List Outgoing → σ × List Datagram
  | state, [] => (state, [])
  | state, o :: out =>
    let (next, delivered) := network state o.target o.message.toBytes
    let (last, rest) := carry network next out
    (last, delivered.getD [] ++ rest)

private theorem Network.carry_append {σ : Type} (network : Network σ) (state : σ)
    (out more : List Outgoing) :
    Network.carry network state (out ++ more) =
      ((Network.carry network (Network.carry network state out).1 more).1,
        (Network.carry network state out).2 ++
          (Network.carry network (Network.carry network state out).1 more).2) := by
  induction out generalizing state with
  | nil => rfl
  | cons o out ih => simp only [List.cons_append, carry, ih, List.append_assoc]

private theorem Registry.dispatchAll_append (r : Registry) (ds more : List Datagram) :
    r.dispatchAll (ds ++ more) = (r.dispatchAll ds).dispatchAll more :=
  List.foldl_append

def DiscoveryEvent.BroughtBy (delivered : List Datagram) (e : DiscoveryEvent) : Prop :=
  ∃ m source, e = .inbound m source 0 ∧ ∃ x ∈ delivered, x.CallsFor (.message m source)

private theorem DiscoveryEvent.BroughtBy.mono {delivered more : List Datagram} {e : DiscoveryEvent}
    (h : e.BroughtBy delivered) (hsub : delivered ⊆ more) : e.BroughtBy more := by
  obtain ⟨m, source, he, x, hx, hcall⟩ := h
  exact ⟨m, source, he, x, hsub hx, hcall⟩

/-- Two streams of datagrams merged into one, each in its own order. -/
inductive Woven : List Datagram → List Datagram → List Datagram → Prop
  | nil : Woven [] [] []
  | left {xs ys zs : List Datagram} (h : Woven xs ys zs) (more : List Datagram) :
    Woven (xs ++ more) ys (zs ++ more)
  | right {xs ys zs : List Datagram} (h : Woven xs ys zs) (more : List Datagram) :
    Woven xs (ys ++ more) (zs ++ more)

private theorem Woven.eq_left {xs ys zs : List Datagram} (h : Woven xs ys zs) (hys : ys = []) :
    zs = xs := by
  induction h with
  | nil => rfl
  | left h more ih => rw [ih hys]
  | right h more ih =>
    obtain ⟨rfl, rfl⟩ := List.append_eq_nil_iff.mp hys
    rw [List.append_nil, ih rfl]

/-- What goes on between the refresh and the deadline of a cycle: the orchestrator takes the next
message, or a datagram arrives unasked. -/
inductive Moment where
  | takes
  | arrives (d : Datagram)

def Moment.datagrams (moments : List Moment) : List Datagram :=
  moments.filterMap fun
    | .takes => none
    | .arrives d => some d

namespace Session

variable {σ : Type}

private theorem transmit_eq (bus : Bus σ) (out : List Outgoing) :
    transmit bus out = ⟨bus.network, (Network.carry bus.network bus.state out).1,
      bus.registry.dispatchAll (Network.carry bus.network bus.state out).2⟩ := by
  induction out generalizing bus with
  | nil => rfl
  | cons o out ih =>
    have hstep : transmit bus (o :: out) = transmit (bus.send o.message o.target).1 out := rfl
    rw [hstep, ih, Bus.fst_send, ← Registry.dispatchAll_append]
    rfl

variable (d : Session σ)

def carried (events : List DiscoveryEvent) : σ × List Datagram :=
  Network.carry d.bus.network d.bus.state (d.orchestrator.run d.settings d.targets events).2

def collectAmid (id : Nat) : List Moment → Session σ → Session σ
  | [], d => d
  | .takes :: moments, d => collectAmid id moments (collect id 1 d)
  | .arrives x :: moments, d => collectAmid id moments (d.deliver x)

/-- Runs a cycle as before, but through some moments of which each may bring a datagram unasked. -/
def cycleAmid (moments : List Moment) : Session σ :=
  let (bus, id) := d.bus.add forwarder
  let d := advance { d with bus } (.refresh none)
  let d := advance (collectAmid id moments d) (.deadline 0)
  { d with bus := d.bus.remove id }

private theorem collect_succ (id budget : Nat) (d : Session σ) :
    collect id (budget + 1) d = collect id budget (collect id 1 d) := by
  rw [collect, collect]
  split
  · cases budget with
    | zero => rfl
    | succ budget =>
      rw [collect]
      simp [*]
  · split
    · rfl
    · rfl

private theorem collect_eq (id budget : Nat) (d : Session σ) :
    collect id budget d = collectAmid id (List.replicate budget .takes) d := by
  induction budget generalizing d with
  | zero => rfl
  | succ budget ih => rw [collect_succ, List.replicate_succ, collectAmid, ih]

private theorem runCycle_eq (budget : Nat) :
    d.runCycle budget = d.cycleAmid (List.replicate budget .takes) := by
  simp only [runCycle, cycleAmid, collect_eq]

/-- A session within a cycle, after some events: the orchestrator has taken them, and the receiver of
the cycle is the only guest of the bus and holds what was delivered. Part of that was brought in by
messages of the cycle, and the rest arrived unasked. -/
structure Underway (events : List DiscoveryEvent) (unasked delivered : List Datagram)
    (d' : Session σ) : Prop where
  settings : d'.settings = d.settings
  targets : d'.targets = d.targets
  orchestrator : d'.orchestrator = (d.orchestrator.run d.settings d.targets events).1
  network : d'.bus.network = d.bus.network
  state : d'.bus.state = (d.carried events).1
  woven : Woven (d.carried events).2 unasked delivered
  visited : d.bus.registry.Visited
    (.added d.bus.registry.nextId :: delivered.map .dispatched) d'.bus.registry
  held : ∀ c ∈ d'.bus.held d.bus.registry.nextId, ∃ x ∈ delivered, x.CallsFor c

namespace Underway

variable {d d' : Session σ} {events : List DiscoveryEvent} {unasked delivered : List Datagram}

private theorem start (d : Session σ) (hfresh : d.bus.registry.Fresh) :
    d.Underway [] [] [] { d with bus := (d.bus.add forwarder).1 } := by
  have hvisited : d.bus.registry.Visited [] d.bus.registry := .start
  refine ⟨rfl, rfl, rfl, rfl, rfl, .nil, hvisited.add forwarder, ?_⟩
  have hown : (d.bus.add forwarder).1.registry.receiver? d.bus.registry.nextId = some forwarder :=
    hfresh.receiver?_add forwarder
  rw [Bus.held_eq, hown]
  exact List.forall_mem_nil _

private theorem visited_append (h : d.Underway events unasked delivered d') (ds : List Datagram) :
    d.bus.registry.Visited (.added d.bus.registry.nextId :: (delivered ++ ds).map .dispatched)
      (d'.bus.registry.dispatchAll ds) := by
  rw [List.map_append, ← List.cons_append]
  exact h.visited.dispatchAll ds

private theorem held_append (h : d.Underway events unasked delivered d') (state : σ)
    (ds : List Datagram) :
    ∀ c ∈ Bus.held ⟨d'.bus.network, state, d'.bus.registry.dispatchAll ds⟩ d.bus.registry.nextId,
      ∃ x ∈ delivered ++ ds, x.CallsFor c := by
  intro c hc
  rcases Bus.mem_held_dispatchAll hc with hold | ⟨x, hx, hcall⟩
  · obtain ⟨x, hx, hcall⟩ := h.held c hold
    exact ⟨x, List.mem_append_left _ hx, hcall⟩
  · exact ⟨x, List.mem_append_right _ hx, hcall⟩

private theorem advance (h : d.Underway events unasked delivered d') (e : DiscoveryEvent) :
    ∃ brought, d.Underway (events ++ [e]) unasked (delivered ++ brought) (d'.advance e) := by
  let out := (d'.orchestrator.step d'.settings d'.targets e).2
  let brought := (Network.carry d'.bus.network d'.bus.state out).2
  have hrun : d.orchestrator.run d.settings d.targets (events ++ [e]) =
      ((d'.orchestrator.step d'.settings d'.targets e).1,
        (d.orchestrator.run d.settings d.targets events).2 ++ out) := by
    rw [Orchestrator.run_append, h.orchestrator, h.settings, h.targets]
    simp [Orchestrator.run, out, h.orchestrator, h.settings, h.targets]
  have hcarried : d.carried (events ++ [e]) =
      ((Network.carry d'.bus.network d'.bus.state out).1, (d.carried events).2 ++ brought) := by
    rw [carried, hrun, Network.carry_append, carried]
    simp only [brought, h.network, h.state, carried]
  have hbus : (d'.advance e).bus = ⟨d'.bus.network, (Network.carry d'.bus.network d'.bus.state out).1,
      d'.bus.registry.dispatchAll brought⟩ :=
    transmit_eq d'.bus out
  refine ⟨brought, h.settings, h.targets, ?_, ?_, ?_, ?_, ?_, ?_⟩
  · rw [hrun]
    rfl
  · rw [hbus]
    exact h.network
  · rw [hcarried, hbus]
  · rw [hcarried]
    exact h.woven.left brought
  · rw [hbus]
    exact h.visited_append brought
  · rw [hbus]
    exact h.held_append _ brought

private theorem deliver (h : d.Underway events unasked delivered d') (x : Datagram) :
    d.Underway events (unasked ++ [x]) (delivered ++ [x]) (d'.deliver x) :=
  ⟨h.settings, h.targets, h.orchestrator, h.network, h.state, h.woven.right [x],
    h.visited_append [x], h.held_append d'.bus.state [x]⟩

private theorem dropOldest (h : d.Underway events unasked delivered d') :
    d.Underway events unasked delivered
      { d' with bus := d'.bus.dropOldest d.bus.registry.nextId } := by
  have hown : d.bus.registry.nextId ∈
      identifiers (.added d.bus.registry.nextId :: delivered.map .dispatched) := by
    simp [identifiers]
  have hvisited := h.visited.change hown fun own => { own with queue := own.queue.drop 1 }
  refine ⟨h.settings, h.targets, h.orchestrator, h.network, h.state, h.woven, hvisited, ?_⟩
  intro c hc
  rw [Bus.held_dropOldest] at hc
  exact h.held c (List.mem_of_mem_drop hc)

private theorem collect_one (h : d.Underway events unasked delivered d') :
    ∃ taken brought, d.Underway (events ++ taken) unasked (delivered ++ brought)
        (collect d.bus.registry.nextId 1 d') ∧
      ∀ e ∈ taken, e.BroughtBy delivered := by
  have hnone : ∀ e ∈ ([] : List DiscoveryEvent), e.BroughtBy delivered := List.forall_mem_nil _
  rw [collect]
  split
  · exact ⟨[], [], by rwa [List.append_nil, List.append_nil], hnone⟩
  rename_i call rest hheld
  split
  · rename_i m source
    obtain ⟨x, hx, hcall⟩ := h.held (.message m source) (hheld ▸ List.mem_cons_self)
    obtain ⟨brought, hnext⟩ := h.dropOldest.advance (.inbound m source 0)
    exact ⟨[.inbound m source 0], brought, hnext,
      List.forall_mem_singleton.mpr ⟨m, source, rfl, x, hx, hcall⟩⟩
  · exact ⟨[], [], by simpa [collect] using h.dropOldest, hnone⟩

private theorem collectAmid (moments : List Moment) (h : d.Underway events unasked delivered d') :
    ∃ taken brought, d.Underway (events ++ taken) (unasked ++ Moment.datagrams moments)
        (delivered ++ brought) (collectAmid d.bus.registry.nextId moments d') ∧
      ∀ e ∈ taken, e.BroughtBy (delivered ++ brought) := by
  induction moments generalizing d' events unasked delivered with
  | nil => exact ⟨[], [], by simpa [Session.collectAmid, Moment.datagrams] using h, List.forall_mem_nil _⟩
  | cons moment moments ih =>
    cases moment with
    | takes =>
      obtain ⟨first, fresh, hfirst, hbrought⟩ := h.collect_one
      obtain ⟨taken, brought, hrest, htaken⟩ := ih hfirst
      refine ⟨first ++ taken, fresh ++ brought, ?_, ?_⟩
      · simpa [Session.collectAmid, Moment.datagrams] using hrest
      · rw [← List.append_assoc]
        refine List.forall_mem_append.mpr ⟨fun e he => (hbrought e he).mono ?_, htaken⟩
        exact List.subset_append_of_subset_left _ (List.subset_append_left _ _)
    | arrives x =>
      obtain ⟨taken, brought, hrest, htaken⟩ := ih (h.deliver x)
      refine ⟨taken, x :: brought, ?_, ?_⟩
      · simpa [Session.collectAmid, Moment.datagrams] using hrest
      · simpa using htaken

end Underway

/-- The receiver of a cycle is a guest. What the orchestrator takes was delivered during the cycle. -/
theorem visited_cycleAmid (hfresh : d.bus.registry.Fresh) (moments : List Moment) :
    ∃ events delivered, Woven (d.carried (DiscoveryEvent.cycle events 0)).2
        (Moment.datagrams moments) delivered ∧
      (∀ e ∈ events, e.BroughtBy delivered) ∧
      (d.cycleAmid moments).orchestrator =
        (d.orchestrator.run d.settings d.targets (DiscoveryEvent.cycle events 0)).1 ∧
      d.bus.registry.Visited (RegistryEvent.stay d.bus.registry.nextId delivered)
        (d.cycleAmid moments).bus.registry := by
  obtain ⟨polled, hopen⟩ := (Underway.start d hfresh).advance (.refresh none)
  obtain ⟨events, brought, hheard, hevents⟩ := hopen.collectAmid moments
  obtain ⟨last, hclosed⟩ := hheard.advance (.deadline 0)
  refine ⟨events, _, hclosed.woven, fun e he => (hevents e he).mono (List.subset_append_left _ _),
    hclosed.orchestrator, hclosed.visited.remove (by simp [identifiers])⟩

private theorem visited_runCycle (hfresh : d.bus.registry.Fresh) (budget : Nat) :
    ∃ events, (∀ e ∈ events, e.BroughtBy (d.carried (DiscoveryEvent.cycle events 0)).2) ∧
      (d.runCycle budget).orchestrator =
        (d.orchestrator.run d.settings d.targets (DiscoveryEvent.cycle events 0)).1 ∧
      d.bus.registry.Visited (RegistryEvent.stay d.bus.registry.nextId
        (d.carried (DiscoveryEvent.cycle events 0)).2) (d.runCycle budget).bus.registry := by
  obtain ⟨events, delivered, hwoven, hevents, horchestrator, hvisited⟩ :=
    d.visited_cycleAmid hfresh (List.replicate budget .takes)
  have hnothing : Moment.datagrams (List.replicate budget .takes) = [] := by
    simp [Moment.datagrams]
  rw [hnothing] at hwoven
  obtain rfl := hwoven.eq_left rfl
  rw [runCycle_eq]
  exact ⟨events, hevents, horchestrator, hvisited⟩

private theorem bus_refresh_failed {fault : Option Fault} (budget : Nat)
    (h : d.orchestrator.running = false ∨ fault ≠ none) : (d.refresh fault budget).2.bus = d.bus := by
  by_cases hrunning : d.orchestrator.running = true
  · cases fault with
    | none => simp [hrunning] at h
    | some e =>
      have hnothing : (d.orchestrator.step d.settings d.targets (.refresh (some e))).2 = [] := by
        rw [Orchestrator.step, if_pos hrunning]
        cases d.orchestrator.cycle <;> rfl
      have hbus : (d.refresh (some e) budget).2.bus = transmit d.bus
          (d.orchestrator.step d.settings d.targets (.refresh (some e))).2 := by
        rw [refresh, if_pos hrunning]
        rfl
      rw [hbus, hnothing]
      rfl
  · simp [refresh, hrunning]

end Session

namespace Registry

open RegistryEvent (stay)

/-- Guests leave no trace. While guests come and go, and guests of guests, the receivers that were there
before stay in front and are called for every datagram; once all guests have been removed, they are the
registry, in the same order and under the same identifiers. The receiver of a request is such a guest,
whether the request is answered, unanswered or refused, and so is that of a discovery cycle, whatever is
sent, refused, brought in and heard unasked; both take only what was delivered meanwhile, to the others as
well. A refresh runs such a cycle or touches nothing. -/
theorem guests_detached {σ : Type} :
    (∀ {history r}, Ran history r → r.Fresh) ∧
    (∀ {base later r}, base.Fresh → Visited base later r →
      (∀ id ∈ base.ids, ∀ {d : Datagram} {call}, d.CallsFor call → (id, call) ∈ r.calls d) ∧
      (∃ guests, r.entries = base.entries.map (Registration.after (datagrams later)) ++ guests ∧
        ∀ e ∈ guests, e.id ∈ identifiers later ∧ .removed e.id ∉ later) ∧
      ((∀ id ∈ identifiers later, .removed id ∈ later) → Served base (datagrams later) r) ∧
      ∀ {more r'}, Visited r more r' → Visited base (later ++ more) r') ∧
    (∀ (line : Rdm.Line σ) (q : Rdm.Question), line.bus.registry.Fresh →
      Visited line.bus.registry (stay line.bus.registry.nextId (line.delivered q))
        (Rdm.Line.ask q line).2.bus.registry ∧
      Served line.bus.registry (line.delivered q) (Rdm.Line.ask q line).2.bus.registry ∧
      ∀ p, (Rdm.Line.ask q line).1 = some p → ∃ d ∈ line.delivered q, d.packet? = some p) ∧
    (∀ (d : Session σ) (moments : List Moment), d.bus.registry.Fresh →
      ∃ events delivered, let cycle := DiscoveryEvent.cycle events 0
        Woven (d.carried cycle).2 (Moment.datagrams moments) delivered ∧
        (∀ e ∈ events, e.BroughtBy delivered) ∧
        (d.cycleAmid moments).orchestrator =
          (d.orchestrator.run d.settings d.targets cycle).1 ∧
        Visited d.bus.registry (stay d.bus.registry.nextId delivered)
          (d.cycleAmid moments).bus.registry ∧
        Served d.bus.registry delivered (d.cycleAmid moments).bus.registry) ∧
    (∀ (d : Session σ) (budget : Nat), d.bus.registry.Fresh → d.orchestrator.running = true →
      ∃ events, let cycle := DiscoveryEvent.cycle events 0
        (∀ e ∈ events, e.BroughtBy (d.carried cycle).2) ∧
        ((d.refresh none budget).1, (d.refresh none budget).2.orchestrator) =
          (d.orchestrator.run d.settings d.targets cycle).1.result ∧
        Visited d.bus.registry (stay d.bus.registry.nextId (d.carried cycle).2)
          (d.refresh none budget).2.bus.registry ∧
        Served d.bus.registry (d.carried cycle).2 (d.refresh none budget).2.bus.registry) ∧
    ∀ (d : Session σ) (fault : Option Fault) (budget : Nat),
      d.orchestrator.running = false ∨ fault ≠ none → (d.refresh fault budget).2.bus = d.bus := by
  refine ⟨Ran.fresh, ?_, ?_, ?_, ?_, fun d fault budget => d.bus_refresh_failed budget⟩
  · intro base later r hbase hvisited
    have hhosts := hvisited.hosts hbase
    exact ⟨fun id hid _ _ => hhosts.calls hid, hhosts.entries, hhosts.served hbase, hvisited.trans⟩
  · intro line q hfresh
    exact ⟨line.visited_ask q, line.served_ask q hfresh, fun p => line.answer_delivered q hfresh⟩
  · intro d moments hfresh
    obtain ⟨events, delivered, hwoven, hevents, horchestrator, hvisited⟩ :=
      d.visited_cycleAmid hfresh moments
    exact ⟨events, delivered, hwoven, hevents, horchestrator, hvisited, hvisited.served hfresh⟩
  · intro d budget hfresh hrunning
    obtain ⟨events, hevents, horchestrator, hvisited⟩ := d.visited_runCycle hfresh budget
    have hrefresh : d.refresh none budget = ((d.runCycle budget).orchestrator.result.1,
        { d.runCycle budget with orchestrator := (d.runCycle budget).orchestrator.result.2 }) := by
      rw [Session.refresh, if_pos hrunning]
    refine ⟨events, hevents, ?_, ?_, ?_⟩
    · rw [hrefresh, horchestrator]
    · rw [hrefresh]
      exact hvisited
    · rw [hrefresh]
      exact hvisited.served hfresh

/-- A request and cycles on a bus with the receivers 1 and 3, and two guests that cross. -/
theorem guests_detached_crossing :
    let add (r : Registry) : Registry := (r.add .ofEverything).1
    let base := ((add (add (add .empty))).remove 2).1
    let node : Socket := .v4 ⟨.loopback, 6454⟩
    let stray : Datagram := ⟨node, [1, 2, 3]⟩
    let q : Rdm.Question := ⟨⟨some node, ⟨0, 0, 1⟩⟩, ⟨0x4c55, 0x42⟩, false, 0xf0, []⟩
    let line : Rdm.Line (List Sent) :=
      ⟨.ofSettings .usual, ⟨Script.network ⟨[], [[stray, stray]]⟩, [], base⟩⟩
    let d : Session (List Sent) :=
      ⟨.usual, [node, node], .fresh, ⟨Script.network ⟨[1], [[stray]]⟩, [], base⟩⟩
    let crossed := (((((add (add base)).dispatch stray).remove 4).1.dispatch stray).remove 5).1
    base.Fresh ∧
    (Rdm.Line.ask q line).2.bus.registry.entries.map (fun e => (e.id, e.receiver.queue)) =
      [1, 3].map (fun id => (id, [.raw [1, 2, 3] node, .raw [1, 2, 3] node])) ∧
    (d.cycleAmid [.takes, .arrives stray, .takes]).bus.registry.ids = [1, 3] ∧
    (d.refresh none 10).2.bus.registry.ids = [1, 3] ∧ crossed.ids = [1, 3] := by
  intro add base node stray q line d crossed
  have hran : Ran [.added 1, .added 2, .added 3, .removed 2] base :=
    (((Ran.start.add _).add _).add _).remove 2
  obtain ⟨hreachable, hvisits, hrequest, hcycle, hrefresh, -⟩ := @guests_detached (List Sent)
  have hfresh := hreachable hran
  have hvisited : Visited base [.added 4, .added 5, .dispatched stray, .removed 4, .dispatched stray,
      .removed 5] crossed :=
    (((((Visited.start.add .ofEverything).add .ofEverything).dispatch stray).remove (by decide)).dispatch
      stray).remove (by decide)
  refine ⟨hfresh, ?_, ?_, ?_, ?_⟩
  · rw [(hrequest line q hfresh).2.1.entries]
    decide
  · obtain ⟨_, _, -, -, -, -, hserved⟩ := hcycle d [.takes, .arrives stray, .takes] hfresh
    exact hserved.ids
  · obtain ⟨_, -, -, -, hserved⟩ := hrefresh d 10 hfresh rfl
    exact hserved.ids
  · exact ((hvisits hfresh hvisited).2.2.1 (by simp [identifiers])).ids

end Registry

end LightingNet
