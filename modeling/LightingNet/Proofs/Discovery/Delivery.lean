import LightingNet.Proofs.Discovery.Fleet
import LightingNet.Proofs.Discovery.Requests
/-!
# What arrives from a fleet

When every gateway has answered, in order, everything that a cycle sent to it, and all of that has
arrived in order, then a cycle has heard the fleet. The polls go out before anything else, so that the
replies of a gateway come before its blocks; and a node is asked at the socket of its gateway.
-/
namespace LightingNet

open Simulation

def Arrival.call (a : Arrival) : Call := .message a.message a.source

def Call.isFrom (socket : Ipv4Socket) : Call → Bool
  | message _ source => source == .v4 socket
  | _ => false

/-- How datagrams find the gateways: each is polled, and is reached at its own socket. -/
structure Routes (reach : Socket → Ipv4Socket → Bool) (targets : List Socket) (gs : List Gateway) :
    Prop where
  polled : ∀ g ∈ gs, ∃ target ∈ targets, reach target g.socket = true
  direct : ∀ g ∈ gs, reach (.v4 g.socket) g.socket = true

def reaching (reach : Socket → Ipv4Socket → Bool) (socket : Ipv4Socket) (sent : List Outgoing) :
    List Bytes :=
  (sent.filter fun out => reach out.target socket).map fun out => out.message.toBytes

def Cycle.sentBy (s : DiscoverySettings) (targets : List Socket) (as : List Arrival) : List Outgoing :=
  Orchestrator.polls s targets ++ (takeAll s .empty as).2

theorem Cycle.sentBy_snoc (s : DiscoverySettings) (targets : List Socket) (as : List Arrival)
    (a : Arrival) :
    sentBy s targets (as ++ [a]) =
      sentBy s targets as ++ ((takeAll s .empty as).1.handle s a.message a.source a.elapsed).2 := by
  rw [sentBy, takeAll_append, takeAll_singleton, sentBy, List.append_assoc]

/-- Everything that was sent to some gateways has been answered, and all their answers have arrived, in
order for each gateway; nobody else has sent anything. -/
structure Delivered (s : DiscoverySettings) (targets : List Socket)
    (reach : Socket → Ipv4Socket → Bool) (gs : List Gateway) (as : List Arrival) : Prop where
  sound : ∀ a ∈ as, AnswerOf gs a
  inOrder : ∀ g ∈ gs, (as.map Arrival.call).filter (Call.isFrom g.socket) =
    (reaching reach g.socket (Cycle.sentBy s targets as)).flatMap g.callsTo

section Queries

variable {s : DiscoverySettings} {targets : List Socket} {gs : List Gateway} {as : List Arrival}

private theorem query_of_sent {out : Outgoing}
    (h : out ∈ Cycle.sentBy s targets as) :
    (∃ p, out.message = .poll p) ∨ out.message.encodedLength ≤ Gateway.maxReceived ∧
      ∃ q, tableQuery? out.message.toBytes = some q := by
  rcases List.mem_append.mp h with h | h
  · obtain ⟨target, -, rfl⟩ := List.mem_map.mp h
    exact .inl ⟨_, rfl⟩
  · rw [Cycle.sends_takeAll] at h
    split at h
    · obtain ⟨n, -, hask⟩ := List.mem_flatMap.mp h
      obtain ⟨m, hm, rfl⟩ := List.mem_map.mp hask
      exact .inr (Cycle.tableQuery?_of_mem hm)
    · cases h

theorem receive_sent {g : Gateway} (hready : g.Ready) {out : Outgoing}
    (h : out ∈ Cycle.sentBy s targets as) :
    (g.receive out.message.toBytes).2 = g := by
  rcases query_of_sent h with ⟨p, hpoll⟩ | ⟨hsize, q, hquery⟩
  · rw [hpoll, Gateway.receive_poll hready]
  · rw [Gateway.receive_tables hready hsize hquery]

theorem answerOf_of_sent (hfleet : Fleet gs) {g : Gateway} (hg : g ∈ gs) {out : Outgoing}
    (hout : out ∈ Cycle.sentBy s targets as) {a : Arrival}
    (ha : a.call ∈ g.callsTo out.message.toBytes) : AnswerOf gs a := by
  obtain ⟨m, source, elapsed⟩ := a
  have hready := hfleet.ready g hg
  rcases query_of_sent hout with ⟨p, hpoll⟩ | ⟨hsize, q, hquery⟩
  · rw [hpoll, Gateway.callsTo_poll hready] at ha
    obtain ⟨b, hb, hcall⟩ := List.mem_map.mp ha
    cases hcall
    exact .reply hg hb elapsed
  · rw [Gateway.mem_callsTo_tables hready (hfleet.distinct hg) hsize hquery] at ha
    obtain ⟨-, b, hb, o, index, ho, -, hcall⟩ := ha
    cases hcall
    exact .block hg hb (List.fst_mem_of_mem_zipIdx ho) index elapsed

end Queries

private theorem Arrival.exists_of_call {as : List Arrival} {m : Message} {source : Socket}
    (h : .message m source ∈ as.map Arrival.call) : ∃ elapsed, ⟨m, source, elapsed⟩ ∈ as := by
  obtain ⟨⟨m', source', elapsed⟩, ha, hcall⟩ := List.mem_map.mp h
  cases hcall
  exact ⟨elapsed, ha⟩

private theorem prefix_of_append_cons_eq {α : Type} {xs zs us vs : List α} {y : α}
    (h : xs ++ y :: zs = us ++ vs) (hy : y ∉ us) : us <+: xs := by
  rcases List.append_eq_append_iff.mp h with ⟨cs, rfl, hcs⟩ | ⟨cs, rfl, -⟩
  · cases cs with
    | nil => simp
    | cons c cs =>
      cases hcs
      exact absurd (by simp) hy
  · exact List.prefix_append us cs

theorem reaching_append (reach : Socket → Ipv4Socket → Bool) (socket : Ipv4Socket)
    (sent more : List Outgoing) :
    reaching reach socket (sent ++ more) = reaching reach socket sent ++ reaching reach socket more := by
  simp [reaching]

theorem mem_reaching {reach : Socket → Ipv4Socket → Bool} {socket : Ipv4Socket}
    {sent : List Outgoing} {b : Bytes} :
    b ∈ reaching reach socket sent ↔
      ∃ out ∈ sent, reach out.target socket = true ∧ out.message.toBytes = b := by
  simp [reaching, and_assoc]

namespace Delivered

variable {s : DiscoverySettings} {targets : List Socket} {reach : Socket → Ipv4Socket → Bool}
  {gs : List Gateway} {as : List Arrival} (h : Delivered s targets reach gs as)
  (hfleet : Fleet gs) (hroutes : Routes reach targets gs)

include h

private theorem arrived {g : Gateway} (hg : g ∈ gs) {out : Outgoing}
    (hout : out ∈ Cycle.sentBy s targets as)
    (hreach : reach out.target g.socket = true) {c : Call}
    (hc : c ∈ g.callsTo out.message.toBytes) : c ∈ as.map Arrival.call := by
  have hanswered : c ∈ (as.map Arrival.call).filter (Call.isFrom g.socket) := by
    rw [h.inOrder g hg]
    exact List.mem_flatMap.mpr ⟨_, mem_reaching.mpr ⟨out, hout, hreach, rfl⟩, hc⟩
  exact (List.mem_filter.mp hanswered).1

include hfleet hroutes

omit h in
private theorem mem_polled (s : DiscoverySettings) {g : Gateway} (hg : g ∈ gs) {c : Call} :
    c ∈ (reaching reach g.socket (Orchestrator.polls s targets)).flatMap g.callsTo ↔
      ∃ b ∈ g.setup.bindings, .message (.pollReply (g.replyOf b)) (.v4 g.socket) = c := by
  have hready := hfleet.ready g hg
  rw [List.mem_flatMap]
  constructor
  · rintro ⟨datagram, hdatagram, hc⟩
    obtain ⟨out, hout, -, rfl⟩ := mem_reaching.mp hdatagram
    obtain ⟨target, -, rfl⟩ := List.mem_map.mp hout
    rw [Gateway.callsTo_poll hready] at hc
    exact List.mem_map.mp hc
  · rintro ⟨b, hb, rfl⟩
    obtain ⟨target, htarget, hreach⟩ := hroutes.polled g hg
    refine ⟨_, mem_reaching.mpr ⟨_, List.mem_map_of_mem htarget, hreach, rfl⟩, ?_⟩
    rw [Gateway.callsTo_poll hready]
    exact List.mem_map.mpr ⟨b, hb, rfl⟩

private theorem replies {g : Gateway} (hg : g ∈ gs) : Introduced g as := by
  intro b hb
  have hmem := (mem_polled hfleet hroutes s hg).mpr ⟨b, hb, rfl⟩
  have hall := h.inOrder g hg
  rw [Cycle.sentBy, reaching_append, List.flatMap_append] at hall
  have hmem := hall ▸ List.mem_append_left _ hmem
  exact Arrival.exists_of_call (List.mem_filter.mp hmem).1

/-- No gateway sends a block before the replies for its bindings: it is polled before it is asked. -/
theorem ordered {g : Gateway} (hg : g ∈ gs) {before after : List Arrival} {d : TodData}
    {elapsed : Nat} (hsplit : as = before ++ ⟨.todData d, .v4 g.socket, elapsed⟩ :: after) :
    Introduced g before := by
  have horder := h.inOrder g hg
  rw [Cycle.sentBy, reaching_append, List.flatMap_append, hsplit, List.map_append, List.map_cons,
    List.filter_append, List.filter_cons_of_pos (by simp [Arrival.call, Call.isFrom])] at horder
  have hprefix := prefix_of_append_cons_eq horder <| by
    intro hmem
    obtain ⟨b, -, hcall⟩ := (mem_polled hfleet hroutes s hg).mp hmem
    cases hcall
  intro b hb
  have hmem := hprefix.subset ((mem_polled hfleet hroutes s hg).mpr ⟨b, hb, rfl⟩)
  exact Arrival.exists_of_call (List.mem_filter.mp hmem).1

private theorem blocks (hrdm : s.rdmDiscovery = true) {g : Gateway} (hg : g ∈ gs) {b : Binding}
    (hb : b ∈ g.setup.bindings) {o : Output} (ho : o ∈ b.outputs) :
    ∃ index elapsed, ⟨.todData (g.blockOf b o index), .v4 g.socket, elapsed⟩ ∈ as := by
  have hready := hfleet.ready g hg
  -- The binding has a first reply, and that is one of its own.
  obtain ⟨n, hfirst, elapsed, rfl⟩ : ∃ n ∈ Node.firsts (Arrival.nodes as), ∃ elapsed,
      g.nodeOf b elapsed = n := by
    obtain ⟨heard, hreply⟩ := h.replies hfleet hroutes hg b hb
    obtain ⟨n, hfind⟩ := Ranked.exists_find? Node.rank (Answered.mem_nodes hreply)
    obtain ⟨hn, hrank⟩ := Ranked.find?_eq_some hfind
    have hfirst : n ∈ Node.firsts (Arrival.nodes as) := by rwa [Node.mem_firsts, hrank]
    obtain ⟨g', hg', b', hb', elapsed, rfl⟩ := Answered.exists_of_mem_nodes h.sound hn
    have hsame := (NodeAddress.same_iff_rank _ _).mpr hrank
    rw [Gateway.address_nodeOf (hfleet.ready g' hg') hb', Gateway.address_nodeOf hready hb] at hsame
    obtain ⟨rfl, rfl⟩ := hfleet.eq_of_same hg' hg hb' hb hsame
    exact ⟨_, hfirst, elapsed, rfl⟩
  have hasks : ∀ m ∈ Cycle.tableRequests s.todMode (b.outputs.map g.setup.universeOf),
      ⟨m, .v4 g.socket⟩ ∈ (Cycle.takeAll s .empty as).2 := by
    intro m hm
    rw [Cycle.sends_takeAll, if_pos hrdm]
    refine List.mem_flatMap.mpr ⟨_, hfirst, ?_⟩
    rw [Cycle.asks, Gateway.outputs_nodeOf hready hb, Gateway.address_nodeOf hready hb]
    exact List.mem_map.mpr ⟨m, hm, rfl⟩
  have hrange : ∀ p ∈ b.outputs.map g.setup.universeOf, p.InRange := by
    intro p hp
    obtain ⟨o', -, rfl⟩ := List.mem_map.mp hp
    exact Setup.universeOf_inRange hready.net hready.subnet o'
  have hfew : (b.outputs.map g.setup.universeOf).length ≤ TodRequest.maxAddresses := by
    rw [List.length_map]
    exact Nat.le_trans (hready.outputs b hb) (by decide)
  obtain ⟨m, hm, q, hquery, hnet, haddress⟩ :=
    Cycle.exists_tableQuery hrange hfew s.todMode (List.mem_map_of_mem ho)
  obtain ⟨index, hindex⟩ := List.getElem?_of_mem ho
  refine ⟨index, Arrival.exists_of_call ?_⟩
  refine h.arrived hg (List.mem_append_right _ (hasks m hm)) (hroutes.direct g hg) ?_
  rw [Gateway.mem_callsTo_tables hready (hfleet.distinct hg) (Cycle.tableQuery?_of_mem hm).1 hquery]
  exact ⟨hnet, b, hb, o, index, List.mk_mem_zipIdx_iff_getElem?.mpr hindex, haddress, rfl⟩

theorem answered (hrdm : s.rdmDiscovery = true) : Answered gs as where
  sound := h.sound
  replies _ hg := h.replies hfleet hroutes hg
  blocks _ hg _ hb _ ho := h.blocks hfleet hroutes hrdm hg hb ho
  ordered _ hg _ _ _ _ hsplit := h.ordered hfleet hroutes hg hsplit

end Delivered

end LightingNet
