import LightingNet.Simulation.Datagrams
/-!
# Simulated gateways

A gateway with responders behind its outputs. It answers polls with one reply for each binding,
requests for tables with one block for each universe asked for, and RDM requests for its responders.
-/
namespace LightingNet.Simulation

structure Attached where
  bindIndex : UInt8
  address : UInt8
  responder : Responder
  deriving DecidableEq, Repr

/-- What a gateway does other than usual. -/
structure Habits where
  ignored : List UInt16
  refusesTables : Bool
  /-- Whether it sends a late answer to an earlier request before each answer. -/
  answersLate : Bool
  deriving DecidableEq, Repr

structure Gateway where
  setup : Setup
  habits : Habits
  ip : Ipv4
  port : UInt16
  attached : List Attached
  deriving DecidableEq, Repr

def Setup.attached (s : Setup) : List Attached :=
  s.bindings.flatMap fun b => b.outputs.flatMap fun o =>
    o.responders.map fun r => ⟨b.bindIndex, s.addressOf o, r⟩

namespace Gateway

def ofSetup (s : Setup) (habits : Habits) (ip : Ipv4) (port : UInt16) : Gateway :=
  ⟨s, habits, ip, port, s.attached⟩

def maxReceived : Nat := 2048

def answerPoll (g : Gateway) : List Bytes :=
  g.setup.bindings.map fun b => pollReply g.setup b (g.setup.replyIp.getD g.ip) g.port

def uidsOn (g : Gateway) (bindIndex address : UInt8) : List Rdm.Uid :=
  (g.attached.filter fun a => a.bindIndex == bindIndex && a.address == address).map
    fun a => a.responder.uid

def blockOf? (g : Gateway) (q : TableQuery) (b : Binding) (o : Output) (index : Nat) :
    Option Bytes :=
  let address := g.setup.addressOf o
  let portNumber := UInt8.ofNat (index + 1)
  if !q.addresses.contains address then none
  else if g.habits.refusesTables then
    some (tableBlock q.net portNumber b.bindIndex address 0xff [])
  else some (tableBlock q.net portNumber b.bindIndex address 0 (g.uidsOn b.bindIndex address))

def answerTables (g : Gateway) (q : TableQuery) : List Bytes :=
  if q.net ≠ g.setup.net then []
  else g.setup.bindings.flatMap fun b =>
    (b.outputs.zipIdx).filterMap fun entry => g.blockOf? q b entry.1 entry.2

def isFor (r : Request) (a : Attached) : Bool :=
  a.address == r.address && a.responder.uid == r.destination

/-- The answers to an RDM request, the late one first. -/
def answersTo (habits : Habits) (r : Request) (answer : Except Refusal Bytes) : List Bytes :=
  let late := if habits.answersLate then [response r (r.transaction - 1) 0 []] else []
  late ++ [match answer with
    | .ok data => response r r.transaction 0 data
    | .error e => refusal r e.code]

/-- Answers an RDM request for one of the responders: the first one it is for. -/
def answerRequest (habits : Habits) (r : Request) : List Attached → List Bytes × List Attached
  | [] => ([], [])
  | a :: rest =>
    if isFor r a then
      let (answer, responder) := a.responder.respond r
      (answersTo habits r answer, { a with responder } :: rest)
    else
      let (answers, rest) := answerRequest habits r rest
      (answers, a :: rest)

def answer (g : Gateway) (op : UInt16) (b : Bytes) : List Bytes × Gateway :=
  if op = 0x2000 then (g.answerPoll, g)
  else if op = 0x8200 ∨ op = 0x8000 then
    match tableQuery? b with
    | some q => (g.answerTables q, g)
    | none => ([], g)
  else if op = 0x8300 then
    match request? b with
    | some r =>
      if r.net ≠ g.setup.net then ([], g)
      else
        let (answers, attached) := answerRequest g.habits r g.attached
        (answers, { g with attached })
    | none => ([], g)
  else ([], g)

/-- Takes a datagram: the answers in order, and the gateway after it. -/
def receive (g : Gateway) (datagram : Bytes) : List Bytes × Gateway :=
  let b := datagram.take maxReceived
  match operation? b with
  | none => ([], g)
  | some op => if g.habits.ignored.contains op then ([], g) else g.answer op b

def responder? (g : Gateway) (u : Rdm.Uid) : Option Responder :=
  (g.attached.find? fun a => a.responder.uid == u).map Attached.responder

end Gateway

end LightingNet.Simulation
