import LightingNet.Proofs.Earliest
import LightingNet.Proofs.Transport.Receivers
import LightingNet.Proofs.Wire.RoundTrip
import LightingNet.Rdm.Requester
/-!
# Matching answers with questions

While a question waits, the first datagram that answers it is the answer, whatever else arrives before
and after it: what does not answer takes no room among the answers that are kept. An answer is known
by its class, its transaction and its source. Its destination is not compared, so a requester takes
an answer meant for another one that asked the same device under the same number.
-/
namespace LightingNet

def Datagram.packet? (d : Datagram) : Option Rdm.Packet :=
  match Message.decode d.contents with
  | .ok (.rdm e) => some e.packet
  | _ => none

namespace Rdm

theorem packet?_eq_some {d : Datagram} {p : Packet} :
    d.packet? = some p ↔ ∃ e, Message.decode d.contents = .ok (.rdm e) ∧ e.packet = p := by
  rw [Datagram.packet?]
  split
  · rename_i e he
    simp [he]
  · rename_i hother
    simp only [reduceCtorEq, false_iff, not_exists, not_and]
    intro e he
    exact absurd he (hother e)

theorem packet?_envelope (source : Socket) (port : PortAddress) (p : Packet) :
    (⟨source, (Message.rdm (Envelope.ofPort port p)).toBytes⟩ : Datagram).packet? = some p.kept := by
  have hread := Message.decode_toBytes (m := .rdm (Envelope.ofPort port p)) trivial []
  rw [List.append_nil] at hread
  exact packet?_eq_some.mpr ⟨_, hread, rfl⟩

private theorem bind_packetOf? (d : Datagram) : d.call?.bind Requester.packetOf? = d.packet? := by
  rw [Datagram.call?, Datagram.packet?]
  cases Message.decode d.contents with
  | error e => cases e <;> rfl
  | ok m => cases m <;> rfl

namespace Requester

variable (r : Requester) (q : Question)

/-- What a requester waits for: an answer of the class that belongs to its question, under the number
of its request and from the device that it asked. -/
structure Awaits (p : Packet) : Prop where
  command : p.command = if q.isSet then .setResponse else .getResponse
  transaction : p.transaction = r.nextTransaction
  source : p.source = q.uid

theorem answers_request_iff (p : Packet) : p.answers (r.request q) = true ↔ r.Awaits q p := by
  have hresponse : (r.request q).command.response? =
      some (if q.isSet then .setResponse else .getResponse) := by
    rw [request, Packet.request]
    cases q.isSet <;> rfl
  simp only [Packet.answers, Packet.isResponse, hresponse, Bool.and_eq_true, beq_iff_eq]
  constructor
  · rintro ⟨⟨⟨-, hcommand⟩, htransaction⟩, hsource⟩
    exact ⟨(Option.some.inj hcommand).symm, htransaction, hsource⟩
  · rintro ⟨hcommand, htransaction, hsource⟩
    refine ⟨⟨⟨?_, by rw [hcommand]⟩, htransaction⟩, hsource⟩
    rw [hcommand]
    cases q.isSet <;> rfl

def Answered (d : Datagram) (p : Packet) : Prop := d.packet? = some p ∧ r.Awaits q p

def Answers (d : Datagram) : Prop := ∃ p, r.Answered q d p

def accepts (d : Datagram) : Bool := d.packet?.any fun p => p.answers (r.request q)

theorem accepts_iff (d : Datagram) : r.accepts q d = true ↔ r.Answers q d := by
  simp only [accepts, Option.any_eq_true, answers_request_iff, Answers, Answered]

/-- The first of some datagrams that answers a question does so with a message. -/
def AnsweredFirst (heard : List Datagram) (p : Packet) : Prop :=
  ∃ d, Earliest (r.Answers q) heard d ∧ r.Answered q d p

theorem find?_answer_eq_some_iff (heard : List Datagram) (p : Packet) :
    (heard.find? (r.accepts q)).bind Datagram.packet? = some p ↔ r.AnsweredFirst q heard p := by
  have hearliest (d : Datagram) : Earliest (r.Answers q) heard d ↔
      heard.find? (r.accepts q) = some d := earliest_iff_find? (r.accepts_iff q)
  rw [Option.bind_eq_some_iff]
  constructor
  · rintro ⟨d, hfind, hpacket⟩
    have hd := (hearliest d).mpr hfind
    obtain ⟨p', hp'⟩ := hd.holds
    obtain rfl : p' = p := Option.some.inj (hp'.1.symm.trans hpacket)
    exact ⟨d, hd, hp'⟩
  · rintro ⟨d, hd, hp⟩
    exact ⟨d, (hearliest d).mp hd, hp.1⟩

theorem find?_answer_eq_none_iff (heard : List Datagram) :
    (heard.find? (r.accepts q)).bind Datagram.packet? = none ↔
      ∀ d ∈ heard, ∀ p, ¬r.Answered q d p := by
  rw [Option.eq_none_iff_forall_ne_some]
  simp only [ne_eq, find?_answer_eq_some_iff]
  constructor
  · intro hnone d hd p hp
    have hanswers : ∃ d ∈ heard, r.Answers q d := ⟨d, hd, p, hp⟩
    obtain ⟨d', hd'⟩ := exists_earliest_iff.mpr hanswers
    obtain ⟨p', hp'⟩ := hd'.holds
    exact hnone p' ⟨d', hd', hp'⟩
  · rintro hnone p ⟨d, hd, hp⟩
    exact hnone d hd.mem p hp

theorem answeredFirst_of_split {before after : List Datagram} {d : Datagram} {p : Packet}
    (hbefore : ∀ b ∈ before, ∀ p, ¬r.Answered q b p) (hd : r.Answered q d p) :
    r.AnsweredFirst q (before ++ d :: after) p :=
  ⟨d, ⟨⟨p, hd⟩, before, after, rfl, fun b hb ⟨p', hp'⟩ => hbefore b hb p' hp'⟩, hd⟩

theorem answered_reply (source : Socket) (port : PortAddress) (response : ResponseType)
    (data : Bytes) :
    r.Answered q ⟨source, (Message.rdm (Envelope.ofPort port
        ((r.request q).reply response data))).toBytes⟩
      { (r.request q).reply response data with data := data.take 231 } := by
  let reply := (r.request q).reply response data
  have hclass : reply.command = if q.isSet then .setResponse else .getResponse := by
    simp only [reply, Packet.reply, request, Packet.request]
    cases q.isSet <;> rfl
  have hkept : reply.kept = { reply with data := data.take 231 } := by
    have hcode : CommandClass.ofCode reply.command.code = reply.command := by
      rw [hclass]
      cases q.isSet <;> rfl
    rw [Packet.kept, hcode]
    rfl
  refine ⟨?_, hclass, rfl, rfl⟩
  rw [packet?_envelope, show (_ : Packet) = _ from hkept]

private theorem wants_collector (c : Call) :
    (collector (r.request q)).wants c = (packetOf? c).any fun p => p.answers (r.request q) := by
  dsimp only [collector]
  cases packetOf? c <;> rfl

private theorem head?_filter_calls (ds : List Datagram) :
    (((ds.filterMap Datagram.call?).filter (collector (r.request q)).wants).head?.bind packetOf?) =
      (ds.find? (r.accepts q)).bind Datagram.packet? := by
  induction ds with
  | nil => rfl
  | cons d ds ih =>
    have hpacket := bind_packetOf? d
    cases hcall : d.call? with
    | none =>
      rw [hcall] at hpacket
      rw [List.filterMap_cons_none hcall, ih,
        List.find?_cons_of_neg (by simp [accepts, ← hpacket])]
    | some c =>
      rw [hcall, Option.bind_some] at hpacket
      have hwants : (collector (r.request q)).wants c = r.accepts q d := by
        rw [wants_collector, hpacket, accepts]
      rw [List.filterMap_cons_some hcall]
      by_cases haccepts : r.accepts q d = true
      · rw [List.filter_cons_of_pos (hwants.trans haccepts), List.find?_cons_of_pos haccepts]
        exact hpacket
      · rw [List.filter_cons_of_neg (by rwa [hwants]), ih, List.find?_cons_of_neg haccepts]

end Requester

namespace Line

variable {σ : Type} (line : Line σ) (q : Question)

def envelope : Message := .rdm (Envelope.ofPort q.target.port (line.requester.request q))

def heard? : Option (List Datagram) :=
  line.bus.heard? (line.envelope q) (line.requester.destination q)

def listening (heard : List Datagram) : Bus σ where
  network := line.bus.network
  state := (line.bus.network line.bus.state (line.requester.destination q)
    (line.envelope q).toBytes).1
  registry := (line.bus.registry.add (Requester.collector (line.requester.request q))).1.dispatchAll
    heard

theorem ask_refused (h : line.heard? q = none) :
    ask q line = (none, ⟨{ line.requester with nextTransaction := line.requester.nextTransaction + 1 },
      (line.listening q []).remove line.bus.registry.nextId⟩) := by
  have hsend := (line.bus.add (Requester.collector (line.requester.request q))).1.send_refused h
  rw [envelope] at hsend
  simp only [ask, hsend]
  rfl

theorem ask_taken {heard : List Datagram} (h : line.heard? q = some heard) :
    ask q line = (((line.listening q heard).held line.bus.registry.nextId).head?.bind
        Requester.packetOf?,
      ⟨{ line.requester with nextTransaction := line.requester.nextTransaction + 1 },
        (line.listening q heard).remove line.bus.registry.nextId⟩) := by
  have hsend := (line.bus.add (Requester.collector (line.requester.request q))).1.send_taken h
  rw [envelope] at hsend
  simp only [ask, hsend]
  rfl

theorem fresh_ask (h : line.bus.registry.Fresh) : (ask q line).2.bus.registry.Fresh := by
  have hlistening (heard : List Datagram) : (line.listening q heard).registry.Fresh :=
    (h.add _).dispatchAll heard
  cases hheard : line.heard? q with
  | none =>
    rw [ask_refused line q hheard]
    exact (hlistening []).remove _
  | some heard =>
    rw [ask_taken line q hheard]
    exact (hlistening heard).remove _

/-- A question is answered by the first of the datagrams heard that answers it. -/
theorem fst_ask (h : line.bus.registry.Fresh) :
    (ask q line).1 = (line.heard? q).bind fun heard =>
      (heard.find? (line.requester.accepts q)).bind Datagram.packet? := by
  cases hheard : line.heard? q with
  | none => rw [ask_refused line q hheard, Option.bind_none]
  | some heard =>
    have hheld : (line.listening q heard).held line.bus.registry.nextId =
        ((heard.filterMap Datagram.call?).filter
          (Requester.collector (line.requester.request q)).wants).take Requester.replyDepth :=
      line.bus.held_add_dispatchAll h rfl rfl _ heard
    -- Whatever the queue drops stands behind its head, and only the head is read.
    rw [ask_taken line q hheard, hheld, List.head?_take, if_neg (by decide),
      Requester.head?_filter_calls, Option.bind_some]

theorem ask_eq_some_iff (h : line.bus.registry.Fresh) (p : Packet) :
    (ask q line).1 = some p ↔
      ∃ heard, line.heard? q = some heard ∧ line.requester.AnsweredFirst q heard p := by
  rw [fst_ask line q h, Option.bind_eq_some_iff]
  simp only [Requester.find?_answer_eq_some_iff]

theorem ask_eq_none_iff (h : line.bus.registry.Fresh) :
    (ask q line).1 = none ↔
      line.heard? q = none ∨
        ∃ heard, line.heard? q = some heard ∧ ∀ d ∈ heard, ∀ p, ¬line.requester.Answered q d p := by
  rw [fst_ask line q h, Option.bind_eq_none_iff]
  simp only [Requester.find?_answer_eq_none_iff]
  cases line.heard? q with
  | none => simp
  | some heard => simp

/-- The first answer counts. A question is answered with the message of the first datagram that
answers it, and with nothing exactly when the network refused the request or no datagram answers. What
a device answers to the request is taken, whatever arrives before it without answering and whatever
arrives after it. -/
theorem answered_by_first (h : line.bus.registry.Fresh) :
    (∀ p, (ask q line).1 = some p ↔
      ∃ heard, line.heard? q = some heard ∧ line.requester.AnsweredFirst q heard p) ∧
    ((ask q line).1 = none ↔
      line.heard? q = none ∨
        ∃ heard, line.heard? q = some heard ∧ ∀ d ∈ heard, ∀ p, ¬line.requester.Answered q d p) ∧
    (∀ source port response data before after,
      line.heard? q = some (before ++ ⟨source, (Message.rdm (Envelope.ofPort port
        ((line.requester.request q).reply response data))).toBytes⟩ :: after) →
      (∀ d ∈ before, ∀ p, ¬line.requester.Answered q d p) →
      (ask q line).1 =
        some { (line.requester.request q).reply response data with data := data.take 231 }) ∧
    (ask q line).2.bus.registry.Fresh := by
  refine ⟨line.ask_eq_some_iff q h, line.ask_eq_none_iff q h, ?_, line.fresh_ask q h⟩
  intro source port response data before after hheard hbefore
  have hreply := line.requester.answered_reply q source port response data
  exact (line.ask_eq_some_iff q h _).mpr
    ⟨_, hheard, line.requester.answeredFirst_of_split q hbefore hreply⟩

/-- A burst of late answers to an earlier request fills no place among the answers that are kept. -/
theorem answered_by_first_burst :
    let q : Question := ⟨.everyNode ⟨0, 0, 1⟩, ⟨0x4c55, 0x10⟩, false, 0x60, []⟩
    let request := (Requester.ofSettings .usual).request q
    let carrying (p : Packet) : Datagram :=
      ⟨.v4 ⟨.loopback, 6454⟩, (Message.rdm (Envelope.ofPort ⟨0, 0, 1⟩ p)).toBytes⟩
    let late := carrying { request.reply .ack [9] with transaction := 255 }
    let heard := List.replicate 40 late ++
      [carrying (request.reply .ack [1, 2]), carrying (request.reply .nackReason [0, 5])]
    let line : Line (List Sent) := ⟨.ofSettings .usual, .ofNetwork (Script.network ⟨[], [heard]⟩) []⟩
    line.bus.registry.Fresh ∧ (ask q line).1 = some (request.reply .ack [1, 2]) := by
  intro q request carrying late heard line
  have hlate : ∀ d ∈ List.replicate 40 late, ∀ p, ¬line.requester.Answered q d p := by
    intro d hd p hp
    obtain rfl := List.eq_of_mem_replicate hd
    obtain rfl := Option.some.inj ((packet?_envelope _ _ _).symm.trans hp.1)
    exact absurd hp.2.transaction (by decide)
  exact ⟨Registry.fresh_empty, (answered_by_first line q Registry.fresh_empty).2.2.1
    (.v4 ⟨.loopback, 6454⟩) ⟨0, 0, 1⟩ .ack [1, 2] _ _ rfl hlate⟩

/-- Whose answer counts. The message that a question is answered with always comes from the device
that was asked. It also goes to the requester exactly when the first datagram that answers does: an
answer of the device to another requester with the same number is not told apart. -/
theorem answer_swaps_ends_iff (h : line.bus.registry.Fresh) :
    (∀ p, (ask q line).1 = some p → p.source = q.uid) ∧
    ((∀ p, (ask q line).1 = some p →
        p.source = q.uid ∧ p.destination = line.requester.settings.sourceUid) ↔
      ∀ heard p, line.heard? q = some heard → line.requester.AnsweredFirst q heard p →
        p.destination = line.requester.settings.sourceUid) := by
  have hsource : ∀ p, (ask q line).1 = some p → p.source = q.uid := by
    intro p hp
    obtain ⟨heard, -, d, -, hd⟩ := (line.ask_eq_some_iff q h p).mp hp
    exact hd.2.source
  refine ⟨hsource, ?_⟩
  constructor
  · intro hswap heard p hheard hfirst
    exact (hswap p ((line.ask_eq_some_iff q h p).mpr ⟨heard, hheard, hfirst⟩)).2
  · intro hends p hp
    obtain ⟨heard, hheard, hfirst⟩ := (line.ask_eq_some_iff q h p).mp hp
    exact ⟨hsource p hp, hends heard p hheard hfirst⟩

theorem answer_swaps_ends_iff_numbers :
    let node : Socket := .v4 ⟨.ofNumbers 10 0 0 5, 6454⟩
    let q : Question := ⟨⟨some node, ⟨0, 0, 1⟩⟩, ⟨0x4c55, 0x42⟩, false, 0xf0, []⟩
    let own := ((Requester.ofSettings .usual).request q).reply .ack [0, 1]
    let foreign : Packet := { own with destination := ⟨0x7ff0, 2⟩, transaction := 7 }
    let carrying (p : Packet) : Datagram :=
      ⟨node, (Message.rdm (Envelope.ofPort ⟨0, 0, 1⟩ p)).toBytes⟩
    let line : Line (List Sent) := ⟨.ofSettings .usual,
      .ofNetwork (Script.network ⟨[], [[carrying foreign, carrying own]]⟩) []⟩
    ∀ p, (ask q line).1 = some p →
      p.source = q.uid ∧ p.destination = line.requester.settings.sourceUid := by
  intro node q own foreign carrying line
  have hpacket {p p' : Packet} (h : line.requester.Answered q (carrying p) p') : p.kept = p' :=
    Option.some.inj ((packet?_envelope _ _ p).symm.trans h.1)
  refine (answer_swaps_ends_iff line q Registry.fresh_empty).2.mpr ?_
  rintro heard p hheard ⟨d, hfirst, hanswered⟩
  obtain rfl : [carrying foreign, carrying own] = heard := Option.some.inj hheard
  rcases List.mem_pair.mp hfirst.mem with rfl | rfl
  · have htransaction := hanswered.2.transaction
    rw [← hpacket hanswered] at htransaction
    exact absurd htransaction (by decide)
  · rw [← hpacket hanswered]
    rfl

/-- A device's answer to another requester that happens to use the same number is returned. -/
theorem foreign_answer_returned :
    let node : Socket := .v4 ⟨.ofNumbers 10 0 0 5, 6454⟩
    let q : Question := ⟨⟨some node, ⟨0, 0, 1⟩⟩, ⟨0x4c55, 0x42⟩, false, 0xf0, []⟩
    let foreign : Packet := { ((Requester.ofSettings .usual).request q).reply .ack [0, 1] with
      destination := ⟨0x7ff0, 2⟩ }
    let heard : List Datagram := [⟨node, (Message.rdm (Envelope.ofPort ⟨0, 0, 1⟩ foreign)).toBytes⟩]
    let line : Line (List Sent) := ⟨.ofSettings .usual, .ofNetwork (Script.network ⟨[], [heard]⟩) []⟩
    (ask q line).1 = some foreign ∧ foreign.destination ≠ line.requester.settings.sourceUid := by
  intro node q foreign heard line
  have hanswered : line.requester.Answered q heard[0] foreign :=
    ⟨packet?_envelope _ _ _, rfl, rfl, rfl⟩
  refine ⟨(line.ask_eq_some_iff q Registry.fresh_empty foreign).mpr ⟨heard, rfl, ?_⟩, by decide⟩
  have hbefore : ∀ d ∈ [], ∀ p, ¬line.requester.Answered q d p := nofun
  exact Requester.answeredFirst_of_split _ q hbefore hanswered

end Line

end Rdm

end LightingNet
