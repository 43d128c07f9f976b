import LightingNet.Discovery.Session
import LightingNet.Proofs.Discovery.Asking
import LightingNet.Proofs.Simulation.Tables
/-!
# What a gateway answers to a cycle

A gateway that is set up within the limits of its datagrams answers a poll with a reply for each of
its bindings, and a request for tables with a block for each output on a universe asked for. The
receiver of a cycle keeps all of these.
-/
namespace LightingNet

section Filters

variable {α β : Type}

private theorem filter_key_eq {κ : Type} [BEq κ] [LawfulBEq κ] {key : α → κ} {xs : List α}
    (hdistinct : (xs.map key).Nodup) {x : α} (hx : x ∈ xs) :
    (xs.filter fun y => key y == key x) = [x] := by
  induction xs with
  | nil => cases hx
  | cons y ys ih =>
    obtain ⟨hfirst, hdistinct⟩ := List.nodup_cons.mp hdistinct
    rcases List.mem_cons.mp hx with rfl | hx
    · have hnone : ∀ z ∈ ys, ¬(key z == key x) = true := by
        intro z hz hkey
        exact hfirst (beq_iff_eq.mp hkey ▸ List.mem_map_of_mem hz)
      simp [List.filter_eq_nil_iff.mpr hnone]
    · have hother : ¬(key y == key x) = true := by
        intro hkey
        exact hfirst (beq_iff_eq.mp hkey ▸ List.mem_map_of_mem hx)
      rw [List.filter_cons, if_neg hother, ih hdistinct hx]

private theorem filter_flatMap_of_eq {f : α → List β} {p : β → Bool} {q : α → Bool}
    (hpq : ∀ x, ∀ y ∈ f x, p y = q x) (xs : List α) :
    (xs.flatMap f).filter p = (xs.filter q).flatMap f := by
  induction xs with
  | nil => rfl
  | cons x xs ih =>
    rw [List.flatMap_cons, List.filter_append, ih, List.filter_cons]
    cases hq : q x with
    | true =>
      rw [List.filter_eq_self.mpr fun y hy => (hpq x y hy).trans hq]
      rfl
    | false =>
      rw [List.filter_eq_nil_iff.mpr fun y hy => by simp [hpq x y hy, hq]]
      rfl

end Filters

def Session.heard? (d : Datagram) : Option Call := d.call?.filter wants

private theorem Session.heard?_of_decode {source : Socket} {contents : Bytes} {m : Message}
    (hdecode : Message.decode contents = .ok m) (hwants : wants (.message m source) = true) :
    heard? ⟨source, contents⟩ = some (.message m source) := by
  have hcall : Datagram.call? ⟨source, contents⟩ = some (.message m source) := by
    rw [Datagram.call?, hdecode]
    cases m with
    | unsupported op c => cases hwants
    | _ => rfl
  rw [heard?, hcall, Option.filter_some, if_pos hwants]

namespace Simulation

namespace Setup

def respondersOn (s : Setup) (b : Binding) (p : PortAddress) : List Responder :=
  (b.outputs.filter fun o => s.universeOf o == p).flatMap Output.responders

/-- A setup within the limits of its datagrams, that tells no other address than its own. -/
structure Fits (s : Setup) : Prop where
  replyIp : s.replyIp = none
  net : s.net ≤ 0x7f
  subnet : s.subnet ≤ 0x0f
  bindIndex : ∀ b ∈ s.bindings, 1 ≤ b.bindIndex
  outputs : ∀ b ∈ s.bindings, b.outputs.length ≤ 4
  responders : ∀ b ∈ s.bindings, ∀ o ∈ b.outputs, (s.respondersOn b (s.universeOf o)).length ≤ 200

instance (s : Setup) : Decidable s.Fits :=
  decidable_of_iff (s.replyIp = none ∧ s.net ≤ 0x7f ∧ s.subnet ≤ 0x0f ∧
    (∀ b ∈ s.bindings, 1 ≤ b.bindIndex) ∧ (∀ b ∈ s.bindings, b.outputs.length ≤ 4) ∧
    ∀ b ∈ s.bindings, ∀ o ∈ b.outputs, (s.respondersOn b (s.universeOf o)).length ≤ 200)
    ⟨fun ⟨hi, hn, hs, hb, ho, hr⟩ => ⟨hi, hn, hs, hb, ho, hr⟩,
      fun ⟨hi, hn, hs, hb, ho, hr⟩ => ⟨hi, hn, hs, hb, ho, hr⟩⟩

end Setup

namespace Gateway

def socket (g : Gateway) : Ipv4Socket := ⟨g.ip, g.port⟩

def root (g : Gateway) : Ipv4 :=
  if g.setup.bindIp = .unspecified then g.ip else g.setup.bindIp

def nodeAddress (g : Gateway) (b : Binding) : NodeAddress := ⟨g.root, b.bindIndex, g.socket⟩

def outputAddress (g : Gateway) (b : Binding) (o : Output) : OutputAddress :=
  ⟨g.nodeAddress b, g.setup.universeOf o⟩

/-- A gateway within the limits of its datagrams, that answers polls and requests for tables. -/
structure Ready (g : Gateway) : Prop extends g.setup.Fits where
  attached : g.attached = g.setup.attached
  port : g.port ≠ 0
  sendsTables : g.habits.refusesTables = false
  answers : ∀ op ∈ [0x2000, 0x8000, 0x8200], op ∉ g.habits.ignored

theorem ready_ofSetup {s : Setup} (hfits : s.Fits) {habits : Habits}
    (hsends : habits.refusesTables = false)
    (hanswers : ∀ op ∈ [0x2000, 0x8000, 0x8200], op ∉ habits.ignored) (ip : Ipv4) {port : UInt16}
    (hport : port ≠ 0) : (ofSetup s habits ip port).Ready :=
  ⟨hfits, rfl, hport, hsends, hanswers⟩

def replyOf (g : Gateway) (b : Binding) : PollReply := g.setup.replyOf b g.ip g.port

def blockOf (g : Gateway) (b : Binding) (o : Output) (index : Nat) : TodData :=
  blockData g.setup.net (UInt8.ofNat (index + 1)) b.bindIndex (g.setup.addressOf o) 0
    (g.uidsOn b.bindIndex (g.setup.addressOf o))

def callsTo (g : Gateway) (datagram : Bytes) : List Call :=
  (g.receive datagram).1.filterMap fun c => Session.heard? ⟨.v4 g.socket, c⟩

section Identifiers

variable {g : Gateway} (h : g.Ready) (hdistinct : (g.setup.bindings.map Binding.bindIndex).Nodup)

include h hdistinct

theorem uidsOn_eq {b : Binding} (hb : b ∈ g.setup.bindings) (o : Output) :
    g.uidsOn b.bindIndex (g.setup.addressOf o) =
      (g.setup.respondersOn b (g.setup.universeOf o)).map Responder.uid := by
  have haddress (o' : Output) : (g.setup.addressOf o' == g.setup.addressOf o) =
      (g.setup.universeOf o' == g.setup.universeOf o) := by
    rw [Bool.eq_iff_iff, beq_iff_eq, beq_iff_eq, Setup.addressOf_eq_iff h.net h.subnet]
  have hbinding : (g.setup.attached.filter fun a => a.bindIndex == b.bindIndex) =
      b.outputs.flatMap fun o' => o'.responders.map
        fun r => ⟨b.bindIndex, g.setup.addressOf o', r⟩ := by
    rw [Setup.attached, filter_flatMap_of_eq (q := fun b' => b'.bindIndex == b.bindIndex),
      filter_key_eq hdistinct hb, List.flatMap_singleton]
    intro b' a ha
    obtain ⟨o', -, ha⟩ := List.mem_flatMap.mp ha
    obtain ⟨r, -, rfl⟩ := List.mem_map.mp ha
    rfl
  have hsplit (xs : List Attached) :
      (xs.filter fun a => a.bindIndex == b.bindIndex && a.address == g.setup.addressOf o) =
        (xs.filter fun a => a.bindIndex == b.bindIndex).filter
          fun a => a.address == g.setup.addressOf o := by
    rw [List.filter_filter]
    simp only [Bool.and_comm]
  rw [uidsOn, h.attached, hsplit, hbinding,
    filter_flatMap_of_eq (q := fun o' => g.setup.universeOf o' == g.setup.universeOf o),
    List.map_flatMap, Setup.respondersOn, List.map_flatMap]
  · simp [Function.comp_def]
  · intro o' a ha
    obtain ⟨r, -, rfl⟩ := List.mem_map.mp ha
    exact haddress o'

end Identifiers

section Answers

variable {g : Gateway} (h : g.Ready)

include h

private theorem receive_eq {m : Message} {op : UInt16} (hsize : m.encodedLength ≤ maxReceived)
    (hop : operation? m.toBytes = some op) (hanswers : op ∈ [0x2000, 0x8000, 0x8200]) :
    g.receive m.toBytes = g.answer op m.toBytes := by
  have hwhole : m.toBytes.take maxReceived = m.toBytes := by
    rw [List.take_of_length_le]
    rwa [m.length_toBytes]
  have hheard : g.habits.ignored.contains op = false := by simpa using h.answers op hanswers
  simp only [receive, hwhole, hop, hheard, Bool.false_eq_true, if_false]

theorem receive_poll (p : Poll) :
    g.receive (Message.poll p).toBytes =
      (g.setup.bindings.map fun b => pollReply g.setup b g.ip g.port, g) := by
  have hsize : (Message.poll p).encodedLength ≤ maxReceived := show 22 ≤ 2048 by decide
  rw [receive_eq h hsize (operation?_poll p) (by decide)]
  simp [answer, answerPoll, h.replyIp]

theorem callsTo_poll (p : Poll) :
    g.callsTo (Message.poll p).toBytes =
      g.setup.bindings.map fun b => .message (.pollReply (g.replyOf b)) (.v4 g.socket) := by
  have hheard (b : Binding) :
      Session.heard? ⟨.v4 g.socket, pollReply g.setup b g.ip g.port⟩ =
        some (.message (.pollReply (g.replyOf b)) (.v4 g.socket)) :=
    Session.heard?_of_decode (g.setup.decode_pollReply b g.ip g.port) rfl
  rw [callsTo, receive_poll h]
  simp only [List.filterMap_map, Function.comp_def, hheard, List.filterMap_eq_map']

theorem receive_tables {m : Message} {q : TableQuery} (hsize : m.encodedLength ≤ maxReceived)
    (hquery : tableQuery? m.toBytes = some q) : g.receive m.toBytes = (g.answerTables q, g) := by
  have hop : operation? m.toBytes = some 0x8200 ∨ operation? m.toBytes = some 0x8000 := by
    rw [tableQuery?] at hquery
    grind
  rcases hop with hop | hop
  · rw [receive_eq h hsize hop (by decide)]
    simp [answer, hquery]
  · rw [receive_eq h hsize hop (by decide)]
    simp [answer, hquery]

theorem blockOf?_eq_some_iff {q : TableQuery} (hnet : q.net = g.setup.net) {b : Binding} {o : Output}
    {index : Nat} {c : Bytes} :
    g.blockOf? q b o index = some c ↔ g.setup.addressOf o ∈ q.addresses ∧
      tableBlock g.setup.net (UInt8.ofNat (index + 1)) b.bindIndex (g.setup.addressOf o) 0
        (g.uidsOn b.bindIndex (g.setup.addressOf o)) = c := by
  simp [blockOf?, h.sendsTables, hnet]

theorem mem_answerTables_iff {q : TableQuery} {c : Bytes} :
    c ∈ g.answerTables q ↔ q.net = g.setup.net ∧ ∃ b ∈ g.setup.bindings, ∃ o index,
      (o, index) ∈ b.outputs.zipIdx ∧ g.setup.addressOf o ∈ q.addresses ∧
        tableBlock g.setup.net (UInt8.ofNat (index + 1)) b.bindIndex (g.setup.addressOf o) 0
          (g.uidsOn b.bindIndex (g.setup.addressOf o)) = c := by
  rw [answerTables]
  by_cases hnet : q.net = g.setup.net
  · simp only [hnet, ne_eq, not_true_eq_false, if_false, List.mem_flatMap, List.mem_filterMap,
      Prod.exists, blockOf?_eq_some_iff h hnet, true_and]
  · simp [hnet]

variable (hdistinct : (g.setup.bindings.map Binding.bindIndex).Nodup)

include hdistinct

/-- The receiver of a cycle keeps each block, with all the responders on its universe. -/
theorem mem_callsTo_tables {m : Message} {q : TableQuery} (hsize : m.encodedLength ≤ maxReceived)
    (hquery : tableQuery? m.toBytes = some q) {c : Call} :
    c ∈ g.callsTo m.toBytes ↔ q.net = g.setup.net ∧ ∃ b ∈ g.setup.bindings, ∃ o index,
      (o, index) ∈ b.outputs.zipIdx ∧ g.setup.addressOf o ∈ q.addresses ∧
        c = .message (.todData (g.blockOf b o index)) (.v4 g.socket) := by
  have hheard {b : Binding} (hb : b ∈ g.setup.bindings) {o : Output} {index : Nat}
      (ho : (o, index) ∈ b.outputs.zipIdx) :
      Session.heard? ⟨.v4 g.socket, tableBlock g.setup.net (UInt8.ofNat (index + 1)) b.bindIndex
          (g.setup.addressOf o) 0 (g.uidsOn b.bindIndex (g.setup.addressOf o))⟩ =
        some (.message (.todData (g.blockOf b o index)) (.v4 g.socket)) := by
    have hroom : (g.uidsOn b.bindIndex (g.setup.addressOf o)).length ≤ 200 := by
      rw [uidsOn_eq h hdistinct hb, List.length_map]
      exact h.responders b hb o (List.fst_mem_of_mem_zipIdx ho)
    exact Session.heard?_of_decode (decode_tableBlock_of_fits _ _ _ _ h.net hroom) rfl
  rw [callsTo, receive_tables h hsize hquery, List.mem_filterMap]
  simp only [mem_answerTables_iff h]
  constructor
  · rintro ⟨contents, ⟨hnet, b, hb, o, index, ho, haddress, rfl⟩, hcall⟩
    rw [hheard hb ho] at hcall
    exact ⟨hnet, b, hb, o, index, ho, haddress, (Option.some.inj hcall).symm⟩
  · rintro ⟨hnet, b, hb, o, index, ho, haddress, rfl⟩
    exact ⟨_, ⟨hnet, b, hb, o, index, ho, haddress, rfl⟩, hheard hb ho⟩

end Answers

def nodeOf (g : Gateway) (b : Binding) (elapsed : Nat) : Node :=
  .ofReply (g.replyOf b) (.v4 g.socket) elapsed

section Nodes

variable {g : Gateway} (h : g.Ready) {b : Binding} (hb : b ∈ g.setup.bindings)

include h hb

theorem max_bindIndex : max b.bindIndex 1 = b.bindIndex :=
  NodeAddress.max_one_eq_self (h.bindIndex b hb)

theorem address_nodeOf (elapsed : Nat) : (g.nodeOf b elapsed).address = g.nodeAddress b := by
  have hsocket : (if g.ip = .unspecified then g.socket
      else ⟨g.ip, if g.port = 0 then PollReply.defaultPort else g.port⟩) = g.socket := by
    simp [h.port, socket]
  have haddress : (g.nodeOf b elapsed).address = NodeAddress.make
      (if g.setup.bindIp = .unspecified then (if g.ip = .unspecified then g.socket
        else ⟨g.ip, if g.port = 0 then PollReply.defaultPort else g.port⟩).ip
      else g.setup.bindIp) b.bindIndex (if g.ip = .unspecified then g.socket
        else ⟨g.ip, if g.port = 0 then PollReply.defaultPort else g.port⟩) := rfl
  rw [haddress, hsocket, NodeAddress.make, max_bindIndex h hb]
  rfl

theorem outputs_nodeOf (elapsed : Nat) :
    (g.nodeOf b elapsed).outputs = b.outputs.map g.setup.universeOf :=
  Setup.outputs_replyOf h.net h.subnet (h.outputs b hb) g.ip g.port

end Nodes

end Gateway

end Simulation

namespace Cycle

open Simulation (tableQuery? Gateway)

theorem tableQuery?_of_mem {mode : TodMode} {outputs : List PortAddress} {m : Message}
    (hm : m ∈ tableRequests mode outputs) :
    m.encodedLength ≤ Gateway.maxReceived ∧ ∃ q, tableQuery? m.toBytes = some q := by
  cases mode with
  | flush =>
    obtain ⟨p, -, rfl⟩ := List.mem_map.mp hm
    exact ⟨show 24 ≤ 2048 by decide, _, Simulation.tableQuery?_flush p⟩
  | request =>
    obtain ⟨net, -, rfl⟩ := List.mem_map.mp hm
    refine ⟨?_, _, Simulation.tableQuery?_todRequest _⟩
    have hroom := Nat.min_le_right (TodRequest.forPorts net outputs).addresses.length 32
    rw [Message.encodedLength, Gateway.maxReceived, TodRequest.maxAddresses]
    omega

theorem exists_tableQuery {outputs : List PortAddress} (hrange : ∀ p ∈ outputs, p.InRange)
    (hlength : outputs.length ≤ TodRequest.maxAddresses) (mode : TodMode) {p : PortAddress}
    (hp : p ∈ outputs) :
    ∃ m ∈ tableRequests mode outputs, ∃ q, tableQuery? m.toBytes = some q ∧ q.net = p.net ∧
      p.short ∈ q.addresses := by
  have hnet : p.net &&& 0x7f = p.net := (and_seven_bits_iff _).mpr (hrange p hp).1
  cases mode with
  | flush =>
    refine ⟨_, List.mem_map_of_mem hp, _, Simulation.tableQuery?_flush p, hnet, ?_⟩
    exact List.mem_singleton_self p.short
  | request =>
    have hmem : p.net ∈ nets outputs := mem_nets.mpr ⟨p, hp, rfl⟩
    have hfit : (TodRequest.forPorts p.net outputs).carried =
        (TodRequest.forPorts p.net outputs).addresses := by
      rw [TodRequest.carried, TodRequest.forPorts, List.take_take, Nat.min_self]
    refine ⟨_, List.mem_map_of_mem hmem, _, Simulation.tableQuery?_todRequest _, hnet, ?_⟩
    rw [hfit]
    have hfew := TodRequest.few_of_length_le hlength p.net
    exact (TodRequest.mem_addresses_forPorts hfew).mpr ⟨p, hp, rfl, rfl⟩

end Cycle

end LightingNet
