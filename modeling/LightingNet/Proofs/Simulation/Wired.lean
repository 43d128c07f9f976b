import LightingNet.Proofs.Rdm.Correlation
import LightingNet.Proofs.Simulation.Atomicity
import LightingNet.Proofs.Simulation.Requests
import LightingNet.Rdm.Device
import LightingNet.Simulation.Gateway
/-!
# Asking a simulated responder

Over a network that loses nothing, a question about a responder is answered with what the responder
answers, whether or not its gateway sends a late answer first; and the responder is then as it left
itself, with everything else in the gateway as it was.
-/
namespace LightingNet

namespace Simulation

/-- A place for a responder in a gateway: its output, with what is attached in front of it and behind
it. -/
structure Place where
  gateway : Gateway
  before : List Attached
  bindIndex : UInt8
  address : UInt8
  after : List Attached

namespace Place

variable (p : Place)

def holding (d : Responder) : Gateway :=
  { p.gateway with attached := p.before ++ ⟨p.bindIndex, p.address, d⟩ :: p.after }

/-- Nothing in front of the place takes requests for an identifier on its universe. -/
def First (u : Rdm.Uid) : Prop := ∀ a ∈ p.before, a.address = p.address → a.responder.uid ≠ u

instance (u : Rdm.Uid) : Decidable (p.First u) :=
  inferInstanceAs (Decidable (∀ a ∈ p.before, a.address = p.address → a.responder.uid ≠ u))

variable {p}

private theorem answerRequest_holding {d : Responder} {r : Request} (hfirst : p.First d.uid)
    (haddress : r.address = p.address) (huid : r.destination = d.uid) (habits : Habits) :
    Gateway.answerRequest habits r (p.holding d).attached =
      (Gateway.answersTo habits r (d.respond r).1, (p.holding (d.respond r).2).attached) := by
  have hbefore : ∀ a ∈ p.before, Gateway.isFor r a = false := by
    intro a ha
    simp only [Gateway.isFor, haddress, huid, Bool.and_eq_false_imp, beq_iff_eq, beq_eq_false_iff_ne]
    exact hfirst a ha
  have hself : Gateway.isFor r ⟨p.bindIndex, p.address, d⟩ = true := by
    simp [Gateway.isFor, haddress, huid]
  simp only [holding]
  generalize p.before = before at hbefore
  induction before with
  | nil => simp [Gateway.answerRequest, hself]
  | cons a before ih =>
    simp only [List.forall_mem_cons] at hbefore
    simp [Gateway.answerRequest, hbefore.1, ih hbefore.2]

private theorem receive_holding {d : Responder} (hfirst : p.First d.uid)
    (hlistens : 0x8300 ∉ p.gateway.habits.ignored) (e : Envelope)
    (hnet : e.net &&& 0x7f = p.gateway.setup.net) (haddress : e.address = p.address)
    (huid : e.packet.destination = d.uid) :
    let r := Request.ofPacket p.gateway.setup.net p.address e.packet.kept
    (p.holding d).receive (Message.rdm e).toBytes =
      (Gateway.answersTo p.gateway.habits r (d.respond r).1, p.holding (d.respond r).2) := by
  intro r
  have hwhole : (Message.rdm e).toBytes.take Gateway.maxReceived = (Message.rdm e).toBytes := by
    apply List.take_of_length_le
    have hcarried := e.packet.length_carried_le
    rw [Message.toBytes_rdm, List.length_append, Message.length_envelopeFront,
      e.packet.length_toBytes, e.packet.encodedLength_eq, Gateway.maxReceived]
    omega
  have hop : operation? (Message.rdm e).toBytes = some 0x8300 := by
    rw [Message.toBytes_rdm, Message.envelopeFront]
    simp only [List.append_assoc]
    exact operation?_header .rdm _
  have hrequest : request? (Message.rdm e).toBytes = some r := by
    rw [request?_toBytes, hnet, haddress]
  have hanswer := answerRequest_holding (r := r) hfirst rfl huid p.gateway.habits
  have hheard : (p.holding d).habits.ignored.contains 0x8300 = false := by
    simpa [holding] using hlistens
  have hr : r.net = (p.holding d).setup.net := rfl
  simp only [Gateway.receive, hwhole, hop, hheard, Bool.false_eq_true, if_false, Gateway.answer,
    hrequest, hr, ne_eq, not_true_eq_false]
  simp only [show (p.holding d).habits = p.gateway.habits from rfl, hanswer]
  rfl

end Place

end Simulation

open Simulation

/-- Over a network, what is sent to a socket reaches a gateway, and its answers come back in their
order. Nothing is lost on either way. -/
structure Network.Wired {σ : Type} (network : Network σ) (gateway : σ → Gateway)
    (socket : Ipv4Socket) : Prop where
  answers : ∀ s b, (network s (.v4 socket) b).2 =
    some (((gateway s).receive b).1.map fun c => ⟨.v4 socket, c⟩)
  moves : ∀ s b, gateway (network s (.v4 socket) b).1 = ((gateway s).receive b).2

def Simulation.direct (socket : Ipv4Socket) : Network Gateway := fun g target b =>
  if target = .v4 socket then
    let (answers, g) := g.receive b
    (g, some (answers.map fun c => ⟨target, c⟩))
  else (g, some [])

theorem Simulation.wired_direct (socket : Ipv4Socket) : (direct socket).Wired id socket where
  answers s b := by simp [direct]
  moves s b := by simp [direct]

namespace Rdm.Line

variable {σ : Type} {line : Line σ} {gateway : σ → Gateway} {p : Place} {location : OutputAddress}
  {d : Responder}

/-- A line over which a responder is reached at its output. -/
structure Reaches (line : Line σ) (gateway : σ → Gateway) (p : Place) (location : OutputAddress)
    (d : Responder) : Prop where
  wired : line.bus.network.Wired gateway location.node.socket
  fresh : line.bus.registry.Fresh
  holding : gateway line.bus.state = p.holding d
  first : p.First d.uid
  listens : 0x8300 ∉ p.gateway.habits.ignored
  net : location.port.net = p.gateway.setup.net
  inRange : p.gateway.setup.net ≤ 0x7f
  address : location.port.short = p.address

def answerOf (r : Simulation.Request) : Except Refusal Bytes → Packet
  | .ok data => r.answer r.transaction 0 (data.take 231)
  | .error e => r.answer r.transaction 2 (be16 e.code)

/-- The late answer that a gateway sends first, if it does, is of an earlier request. -/
theorem answered_answersTo {requester : Requester} {q : Question} {r : Simulation.Request}
    (hnet : r.net ≤ 0x7f) (hcommand : r.command = if q.isSet then 0x30 else 0x20)
    (htransaction : r.transaction = requester.nextTransaction) (huid : r.destination = q.uid)
    (habits : Habits) (result : Except Refusal Bytes) (source : Socket) :
    requester.AnsweredFirst q ((Gateway.answersTo habits r result).map fun c => ⟨source, c⟩)
      (answerOf r result) := by
  have hclass (transaction kind : UInt8) (data : Bytes) :
      (r.answer transaction kind data).command = if q.isSet then .setResponse else .getResponse := by
    rw [Request.answer, hcommand]
    cases q.isSet <;> rfl
  have hpacket (transaction kind : UInt8) (data : Bytes) :
      (⟨source, response r transaction kind data⟩ : Datagram).packet? =
        some (r.answer transaction kind (data.take 231)) := by
    rw [packet?_eq_some]
    exact ⟨_, decode_response r hnet transaction kind data, rfl⟩
  have hown (kind : UInt8) (data : Bytes) : requester.Answered q
      ⟨source, response r r.transaction kind data⟩ (r.answer r.transaction kind (data.take 231)) :=
    ⟨hpacket r.transaction kind data, hclass _ _ _, htransaction, huid⟩
  have hlate : ∀ d ∈ (if habits.answersLate then [response r (r.transaction - 1) 0 []] else []).map
      (fun c => (⟨source, c⟩ : Datagram)), ∀ packet, ¬requester.Answered q d packet := by
    intro d hd packet hanswered
    obtain ⟨c, hc, rfl⟩ := List.mem_map.mp hd
    split at hc
    · obtain rfl := List.mem_singleton.mp hc
      have heq := Option.some.inj ((hpacket _ _ _).symm.trans hanswered.1)
      have hnumber := hanswered.2.transaction
      rw [← heq, ← htransaction] at hnumber
      have hprevious : (r.transaction - 1).toNat = r.transaction.toNat := congrArg UInt8.toNat hnumber
      rw [UInt8.toNat_sub, UInt8.toNat_one] at hprevious
      have hlt := r.transaction.toNat_lt
      omega
    · cases hc
  simp only [Gateway.answersTo, List.map_append]
  cases result with
  | ok data => exact requester.answeredFirst_of_split q hlate (hown 0 data)
  | error e => exact requester.answeredFirst_of_split q hlate (hown 2 (be16 e.code))

/-- A question is answered with what the responder answers, and the responder is as it left itself. -/
theorem reaches_ask (h : line.Reaches gateway p location d) (isSet : Bool) (pid : UInt16)
    {data : Bytes} (hdata : data.length ≤ 231) :
    let q : Question := ⟨.ofOutput location, d.uid, isSet, pid, data⟩
    ∃ r : Simulation.Request, r.command = (if isSet then 0x30 else 0x20) ∧ r.pid = pid ∧
      r.data = data ∧ (ask q line).1 = some (answerOf r (d.respond r).1) ∧
      (ask q line).2.Reaches gateway p location (d.respond r).2 := by
  intro q
  let e := Envelope.ofPort location.port (line.requester.request q)
  let r := Simulation.Request.ofPacket p.gateway.setup.net p.address e.packet.kept
  have hnet : e.net &&& 0x7f = p.gateway.setup.net := by
    rw [show e.net = location.port.net from rfl, h.net, (and_seven_bits_iff _).mpr h.inRange]
  have hreceive := Place.receive_holding h.first h.listens e hnet h.address rfl
  have hheard : line.heard? q = some
      ((Gateway.answersTo p.gateway.habits r (d.respond r).1).map
        fun c => ⟨.v4 location.node.socket, c⟩) := by
    have hanswers := h.wired.answers line.bus.state (Message.rdm e).toBytes
    rw [h.holding, hreceive] at hanswers
    exact hanswers
  have hcommand : r.command = if q.isSet then 0x30 else 0x20 := by
    cases isSet <;> rfl
  have hmoved : gateway (ask q line).2.bus.state = p.holding (d.respond r).2 := by
    have hmoves := h.wired.moves line.bus.state (Message.rdm e).toBytes
    rw [h.holding, hreceive] at hmoves
    rw [ask_taken line q hheard]
    exact hmoves
  have hnetwork : (ask q line).2.bus.network = line.bus.network := by
    rw [ask_taken line q hheard]
    rfl
  refine ⟨r, hcommand, rfl, List.take_of_length_le hdata, ?_, ?_⟩
  · apply (line.ask_eq_some_iff q h.fresh _).mpr
    exact ⟨_, hheard, answered_answersTo h.inRange hcommand rfl rfl _ _ _⟩
  · exact ⟨hnetwork ▸ h.wired, line.fresh_ask q h.fresh, hmoved,
      (d.uid_respond r).symm ▸ h.first, h.listens, h.net, h.inRange, h.address⟩

private theorem exchange_eq {τ : Type} (ask : Asker τ) (location : OutputAddress) (uid : Uid)
    (isSet : Bool) (pid : ParameterId) (data : Bytes) (s : τ) :
    ask.exchange location uid isSet pid data s =
      (outcome pid (ask ⟨.ofOutput location, uid, isSet, pid.code, data⟩ s).1,
        (ask ⟨.ofOutput location, uid, isSet, pid.code, data⟩ s).2) := rfl

private theorem outcome_ok (pid : ParameterId) (r : Simulation.Request) (data : Bytes) :
    outcome pid (some (answerOf r (.ok data))) = .ok (answerOf r (.ok data)) := by
  have hack : (answerOf r (.ok data)).responseType? = some .ack := by
    simp only [answerOf, Packet.responseType?, Packet.isResponse, Request.answer]
    split <;> rfl
  simp only [outcome, checkAck, hack]

variable (line)

theorem exchange_get (h : line.Reaches gateway p location d) (pid : ParameterId) {data value : Bytes}
    (hdata : data.length ≤ 231) (hget : d.get pid.code data = .ok value) :
    ∃ reply line', Asker.exchange Line.ask location d.uid false pid data line = (.ok reply, line') ∧
      reply.data = value ∧ line'.Reaches gateway p location d := by
  obtain ⟨r, hcommand, hpid, hrdata, hanswer, hreaches⟩ := reaches_ask h false pid.code hdata
  have htells : d.Tells r.pid r.data value := by
    rw [hpid, hrdata]
    exact Responder.get_eq_ok_iff.mp hget
  have hvalue := htells.length_le
  rw [Responder.respond_of_tells hcommand htells] at hanswer hreaches
  refine ⟨answerOf r (.ok value), _, ?_, List.take_of_length_le (by omega), hreaches⟩
  rw [exchange_eq, hanswer, outcome_ok]

theorem exchange_set (h : line.Reaches gateway p location d) (pid : ParameterId) {data : Bytes}
    (hdata : data.length ≤ 231) {d' : Responder} (hset : d.set pid.code data = .ok d') :
    ∃ reply line', Asker.exchange Line.ask location d.uid true pid data line = (.ok reply, line') ∧
      line'.Reaches gateway p location d' := by
  obtain ⟨r, hcommand, hpid, hrdata, hanswer, hreaches⟩ := reaches_ask h true pid.code hdata
  have htakes : d.Takes r.pid r.data d' := by
    rw [hpid, hrdata]
    exact Responder.set_eq_ok_iff.mp hset
  rw [Responder.respond_of_takes hcommand htakes] at hanswer hreaches
  refine ⟨answerOf r (.ok []), _, ?_, hreaches⟩
  rw [exchange_eq, hanswer, outcome_ok]

end Rdm.Line

end LightingNet
