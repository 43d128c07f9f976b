import LightingNet.Proofs.Rdm.Correlation
import Mathlib.Data.List.Find
/-!
# The numbers of requests

A requester counts its requests in one byte, whatever becomes of them. A number comes back after 256
requests and not before, so that a reply to any of the last 255 is told from the answer to the current
one: however such replies are delayed, repeated or mixed, the answer is the one that comes without them.
-/
namespace LightingNet.Rdm

variable {σ : Type}

/-- A question with the line that it is put to. -/
structure Asked (σ : Type) where
  line : Line σ
  question : Question

namespace Asked

variable (a : Asked σ)

def request : Packet := a.line.requester.request a.question

def contents : Bytes := (a.line.envelope a.question).toBytes

def lineAfter : Line σ := (Line.ask a.question a.line).2

def answer : Option Packet := (Line.ask a.question a.line).1

def heard? : Option (List Datagram) := a.line.heard? a.question

private theorem state_lineAfter :
    a.lineAfter.bus.state = (a.line.bus.network a.line.bus.state
      (a.line.requester.destination a.question) a.contents).1 := by
  rw [lineAfter]
  cases hheard : a.line.heard? a.question with
  | none =>
    rw [Line.ask_refused _ _ hheard]
    rfl
  | some heard =>
    rw [Line.ask_taken _ _ hheard]
    rfl

theorem requester_lineAfter :
    a.lineAfter.requester =
      { a.line.requester with nextTransaction := a.line.requester.nextTransaction + 1 } := by
  rw [lineAfter]
  cases hheard : a.line.heard? a.question with
  | none => rw [Line.ask_refused _ _ hheard]
  | some heard => rw [Line.ask_taken _ _ hheard]

end Asked

/-- The runs of a requester: it puts one question after another, whatever came of those before. Others
use the bus as well, so that a question may find any bus. -/
inductive Ran (settings : RequesterSettings) : List (Asked σ) → Requester → Prop
  | start : Ran settings [] (.ofSettings settings)
  | ask {asked : List (Asked σ)} {r : Requester} (h : Ran settings asked r) (bus : Bus σ)
    (q : Question) : Ran settings (asked ++ [⟨⟨r, bus⟩, q⟩]) (Asked.lineAfter ⟨⟨r, bus⟩, q⟩).requester

namespace Ran

variable {settings : RequesterSettings} {asked : List (Asked σ)} {r : Requester}

private theorem requester_eq (h : Ran settings asked r) :
    r = ⟨settings, UInt8.ofNat asked.length⟩ := by
  induction h with
  | start => rfl
  | ask h bus q ih =>
    rw [Asked.requester_lineAfter, ih, List.length_append, List.length_singleton, UInt8.ofNat_add]
    rfl

private theorem map_requester (h : Ran settings asked r) :
    (asked.map fun a => a.line.requester) =
      (List.range asked.length).map fun k => ⟨settings, UInt8.ofNat k⟩ := by
  induction h with
  | start => rfl
  | ask h bus q ih =>
    rw [List.map_append, ih, List.length_append, List.length_singleton, List.range_succ,
      List.map_append, h.requester_eq]
    rfl

private theorem transaction_request (h : Ran settings asked r) {k : Nat} (hk : k < asked.length) :
    asked[k].request.transaction = UInt8.ofNat k := by
  have hrequester : (asked.map fun a => a.line.requester)[k]? = some ⟨settings, UInt8.ofNat k⟩ := by
    rw [h.map_requester, List.getElem?_map, List.getElem?_range hk, Option.map_some]
  rw [List.getElem?_map, List.getElem?_eq_getElem hk] at hrequester
  exact congrArg Requester.nextTransaction (Option.some.inj hrequester)

private theorem toNat_transaction (h : Ran settings asked r) {k : Nat} (hk : k < asked.length) :
    asked[k].request.transaction.toNat = k % 256 := by
  rw [h.transaction_request hk]
  exact UInt8.toNat_ofNat

theorem transaction_eq_iff (h : Ran settings asked r) {i j : Nat} (hi : i < asked.length)
    (hj : j < asked.length) :
    asked[i].request.transaction = asked[j].request.transaction ↔ i % 256 = j % 256 := by
  rw [← UInt8.toNat_inj, h.toNat_transaction hi, h.toNat_transaction hj]

private theorem nodup_transactions (h : Ran settings asked r) (k : Nat) :
    (((asked.drop k).take 256).map fun a => a.request.transaction).Nodup := by
  rw [List.nodup_iff_pairwise_ne, List.pairwise_iff_getElem]
  intro i j hi hj hij
  simp only [List.length_map, List.length_take, List.length_drop] at hi hj
  simp only [List.getElem_map, List.getElem_take, List.getElem_drop, ne_eq,
    h.transaction_eq_iff (show k + i < _ by omega) (show k + j < _ by omega)]
  omega

end Ran

/-- A datagram that carries a reply to a request: from anywhere and on any universe, with any kind of
answer and any data. -/
def RepliesTo (request : Packet) (d : Datagram) : Prop :=
  ∃ source port response data,
    d = ⟨source, (Message.rdm (Envelope.ofPort port (request.reply response data))).toBytes⟩

/-- A datagram that replies to one of the 255 requests before a question. -/
def Late (asked : List (Asked σ)) (j : Nat) (d : Datagram) : Prop :=
  ∃ i, ∃ hi : i < asked.length, i < j ∧ j < i + 256 ∧ RepliesTo asked[i].request d

section Answers

variable {settings : RequesterSettings} {asked : List (Asked σ)} {r : Requester}
  (h : Ran settings asked r) {j : Nat} (hj : j < asked.length)

include h

private theorem Late.transaction_ne {d : Datagram} (hlate : Late asked j d) {p : Packet}
    (hp : d.packet? = some p) : p.transaction ≠ asked[j].request.transaction := by
  obtain ⟨i, hi, hij, hrecent, source, port, response, data, rfl⟩ := hlate
  obtain rfl := Option.some.inj ((packet?_envelope _ _ _).symm.trans hp)
  change asked[i].request.transaction ≠ _
  rw [ne_eq, h.transaction_eq_iff hi hj]
  omega

private theorem Late.not_answers {d : Datagram} (hlate : Late asked j d) :
    ¬asked[j].line.requester.Answers asked[j].question d := by
  rintro ⟨p, hp, hawaits⟩
  exact hlate.transaction_ne h hj hp hawaits.transaction

private theorem answer_filter (hfresh : asked[j].line.bus.registry.Fresh) {heard : List Datagram}
    (hheard : asked[j].heard? = some heard) {late : Datagram → Bool}
    (hlate : ∀ d ∈ heard, late d = true → Late asked j d) :
    asked[j].answer = ((heard.filter fun d => !late d).find?
      (asked[j].line.requester.accepts asked[j].question)).bind Datagram.packet? := by
  have hsame : ∀ d ∈ heard, asked[j].line.requester.accepts asked[j].question d =
      decide ((!late d) = true ∧ asked[j].line.requester.accepts asked[j].question d = true) := by
    intro d hd
    rw [Bool.eq_iff_iff, decide_eq_true_iff, iff_and_self]
    intro haccepts
    cases hd' : late d with
    | false => rfl
    | true =>
      have hanswers := (Requester.accepts_iff _ _ d).mp haccepts
      exact absurd hanswers ((hlate d hd hd').not_answers h hj)
  rw [Asked.answer, Line.fst_ask _ _ hfresh, show asked[j].line.heard? _ = _ from hheard,
    Option.bind_some, List.find?_filter, ← List.find?_congr hsame]

/-- The reply to a question is its answer when nothing but late replies arrives in front of it. -/
theorem answer_of_reply (hfresh : asked[j].line.bus.registry.Fresh) (source : Socket)
    (port : PortAddress) (response : ResponseType) (data : Bytes) {before after : List Datagram}
    (hheard : asked[j].heard? = some (before ++ ⟨source, (Message.rdm (Envelope.ofPort port
      (asked[j].request.reply response data))).toBytes⟩ :: after))
    (hbefore : ∀ d ∈ before, Late asked j d) :
    asked[j].answer = some { asked[j].request.reply response data with data := data.take 231 } := by
  have hreply := asked[j].line.requester.answered_reply asked[j].question source port response data
  have hnone : ∀ d ∈ before, ∀ p, ¬asked[j].line.requester.Answered asked[j].question d p :=
    fun d hd p hp => (hbefore d hd).not_answers h hj ⟨p, hp⟩
  exact (Line.ask_eq_some_iff _ _ hfresh _).mpr
    ⟨_, hheard, Requester.answeredFirst_of_split _ _ hnone hreply⟩

/-- Late replies are never taken for the answer. The requests of a run are numbered from zero, modulo
256, whatever becomes of them, so that no two of 256 in a row have the same number. However replies to the
last 255 requests arrive while a question waits, none of them is returned, the answer is the one that
comes without them, and a reply to the question itself is not lost behind them. -/
theorem late_replies_ignored :
    (∀ k (hk : k < asked.length),
      asked[k].request.transaction.toNat = k % 256 ∧
        asked[k].lineAfter.bus.state = (asked[k].line.bus.network asked[k].line.bus.state
          (asked[k].line.requester.destination asked[k].question) asked[k].contents).1 ∧
        ∀ source, (⟨source, asked[k].contents⟩ : Datagram).packet? = some asked[k].request.kept) ∧
    (∀ k, (((asked.drop k).take 256).map fun a => a.request.transaction).Nodup) ∧
    ∀ j (hj : j < asked.length) heard,
      asked[j].line.bus.registry.Fresh → asked[j].heard? = some heard →
        (∀ p d, asked[j].answer = some p → Late asked j d → d.packet? ≠ some p) ∧
        (∀ late : Datagram → Bool, (∀ d ∈ heard, late d = true → Late asked j d) →
          ∀ other : Asked σ, other.question = asked[j].question →
            other.line.requester = asked[j].line.requester → other.line.bus.registry.Fresh →
            other.heard? = some (heard.filter fun d => !late d) →
            other.answer = asked[j].answer) ∧
        ∀ source port response data before after,
          heard = before ++ ⟨source, (Message.rdm (Envelope.ofPort port
            (asked[j].request.reply response data))).toBytes⟩ :: after →
          (∀ d ∈ before, Late asked j d) →
          asked[j].answer =
            some { asked[j].request.reply response data with data := data.take 231 } := by
  refine ⟨?_, h.nodup_transactions, ?_⟩
  · intro k hk
    exact ⟨h.toNat_transaction hk, asked[k].state_lineAfter, fun source => packet?_envelope source _ _⟩
  intro j hj heard hfresh hheard
  refine ⟨?_, ?_, ?_⟩
  · intro p d hanswer hlate hp
    obtain ⟨-, -, d', -, hd'⟩ := (Line.ask_eq_some_iff _ _ hfresh p).mp hanswer
    exact hlate.transaction_ne h hj hp hd'.2.transaction
  · intro late hlate other hquestion hrequester hfresh' hheard'
    rw [answer_filter h hj hfresh hheard hlate, Asked.answer, Line.fst_ask _ _ hfresh',
      show other.line.heard? _ = _ from hheard', Option.bind_some, hrequester, hquestion]
  · rintro source port response data before after rfl hbefore
    exact answer_of_reply h hj hfresh source port response data hheard hbefore

end Answers

/-- A request is given up, and its reply arrives twice while the next one waits. -/
theorem late_replies_ignored_delayed :
    let q : Question := ⟨.everyNode ⟨0, 0, 1⟩, ⟨0x4c55, 0x10⟩, false, 0x60, []⟩
    let request (k : UInt8) : Packet := Requester.request ⟨.usual, k⟩ q
    let carrying (p : Packet) : Datagram :=
      ⟨.v4 ⟨.loopback, 6454⟩, (Message.rdm (Envelope.ofPort ⟨0, 0, 1⟩ p)).toBytes⟩
    let late := carrying ((request 0).reply .ack [9])
    let heard := [late, late, carrying ((request 1).reply .ack [1, 2])]
    let first : Asked (List Sent) :=
      ⟨⟨.ofSettings .usual, .ofNetwork (Script.network ⟨[], [[], heard]⟩) []⟩, q⟩
    let second : Asked (List Sent) := ⟨first.lineAfter, q⟩
    Ran .usual [first, second] second.lineAfter.requester ∧ second.line.bus.registry.Fresh ∧
      second.heard? = some heard ∧ (∀ d ∈ [late, late], Late [first, second] 1 d) ∧
      first.answer = none ∧ second.answer = some ((request 1).reply .ack [1, 2]) := by
  intro q request carrying late heard first second
  have hran : Ran .usual [first, second] second.lineAfter.requester :=
    (Ran.start.ask first.line.bus q).ask first.lineAfter.bus q
  have hfresh : second.line.bus.registry.Fresh := first.line.fresh_ask q Registry.fresh_empty
  have hlate : ∀ d ∈ [late, late], Late [first, second] 1 d := by
    intro d hd
    obtain rfl : d = late := by simpa using hd
    exact ⟨0, by decide, by decide, by decide, _, _, _, _, rfl⟩
  have hheard : second.heard? = some heard := rfl
  exact ⟨hran, hfresh, hheard, hlate, rfl,
    ((late_replies_ignored hran).2.2 1 (by decide) heard hfresh hheard).2.2
      (.v4 ⟨.loopback, 6454⟩) ⟨0, 0, 1⟩ .ack [1, 2] [late, late] [] rfl hlate⟩

end LightingNet.Rdm
