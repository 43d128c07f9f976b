import LightingNet.Discovery.Cycle
import LightingNet.Proofs.Earliest
import Mathlib.Data.List.Induction
/-!
# What a cycle has heard

A cycle is what it has heard: its nodes are the replies in order of arrival, and what it notes of
senders finds the first reply for each socket and bind index. So a block of a table belongs to a node
that the replies before it determine.
-/
namespace LightingNet

/-- A message that reaches a cycle, with its sender and the time since the polls. -/
structure Arrival where
  message : Message
  source : Socket
  elapsed : Nat

namespace Arrival

def node? (a : Arrival) : Option Node :=
  match a.message with
  | .pollReply reply => some (Node.ofReply reply a.source a.elapsed)
  | _ => none

def nodes (as : List Arrival) : List Node := as.filterMap node?

theorem nodes_append (as bs : List Arrival) : nodes (as ++ bs) = nodes as ++ nodes bs :=
  List.filterMap_append

theorem nodes_ignored {m : Message} (hm : ∀ reply, m ≠ .pollReply reply) (source : Socket)
    (elapsed : Nat) : nodes [⟨m, source, elapsed⟩] = [] := by
  rw [nodes, List.filterMap_cons_none, List.filterMap_nil]
  cases m with
  | pollReply reply => exact absurd rfl (hm reply)
  | _ => rfl

end Arrival

namespace Node

def At (socket : Socket) (n : Node) : Prop := n.sender = socket ∨ .v4 n.address.socket = socket

def HasIp (ip : Ipv4) (n : Node) : Prop := n.address.root = ip ∨ n.address.socket.ip = ip

theorem isAt_iff (socket : Socket) (n : Node) : Cycle.isAt socket n = true ↔ n.At socket := by
  simp [Cycle.isAt, At]

theorem hasAddress_iff (ip : Ipv4) (n : Node) : Cycle.hasAddress ip n = true ↔ n.HasIp ip := by
  simp [Cycle.hasAddress, HasIp]

end Node

namespace TodData

variable (d : TodData) (source : Socket)

def SentBy (n : Node) : Prop := n.At source ∧ n.address.bindIndex = max d.bindIndex 1

def PutOutAt (n : Node) : Prop := n.At source ∧ d.universeOf ∈ n.outputs

def PutOutBy (ip : Ipv4) (n : Node) : Prop := n.HasIp ip ∧ d.universeOf ∈ n.outputs

/-- The node that a block belongs to, of those heard before it: the first one that has its socket and
bind index; failing that, the first at its socket that puts the universe out; failing that, the first
with its address that does. -/
inductive BelongsTo (heard : List Node) (n : Node) : Prop
  | sender (h : Earliest (d.SentBy source) heard n)
  | output (hsender : ∀ m ∈ heard, ¬d.SentBy source m)
      (h : Earliest (d.PutOutAt source) heard n)
  | address (ip : Ipv4) (hsender : ∀ m ∈ heard, ¬d.SentBy source m)
      (houtput : ∀ m ∈ heard, ¬d.PutOutAt source m) (hip : source.ipv4? = some ip)
      (h : Earliest (d.PutOutBy ip) heard n)

def ownerNode? (heard : List Node) : Option Node :=
  match heard.find? fun n => Cycle.isAt source n && n.address.bindIndex == max d.bindIndex 1 with
  | some n => some n
  | none =>
    match heard.find? fun n => Cycle.isAt source n && n.outputs.contains d.universeOf with
    | some n => some n
    | none =>
      match source.ipv4? with
      | some ip =>
        heard.find? fun n => Cycle.hasAddress ip n && n.outputs.contains d.universeOf
      | none => none

private theorem sentBy_iff (n : Node) :
    (Cycle.isAt source n && n.address.bindIndex == max d.bindIndex 1) = true ↔ d.SentBy source n := by
  simp [SentBy, Node.isAt_iff]

private theorem putOutAt_iff (n : Node) :
    (Cycle.isAt source n && n.outputs.contains d.universeOf) = true ↔ d.PutOutAt source n := by
  simp [PutOutAt, Node.isAt_iff]

private theorem putOutBy_iff (ip : Ipv4) (n : Node) :
    (Cycle.hasAddress ip n && n.outputs.contains d.universeOf) = true ↔ d.PutOutBy ip n := by
  simp [PutOutBy, Node.hasAddress_iff]

theorem belongsTo_iff (heard : List Node) (n : Node) :
    d.BelongsTo source heard n ↔ d.ownerNode? source heard = some n := by
  rw [ownerNode?]
  have hnone {p : Node → Bool} {P : Node → Prop} (hp : ∀ m, p m = true ↔ P m) :
      heard.find? p = none ↔ ∀ m ∈ heard, ¬P m := by
    simp only [List.find?_eq_none, hp]
  -- A later search is made only when the ones before it found nothing.
  constructor
  · rintro (h | ⟨hsender, h⟩ | ⟨ip, hsender, houtput, hip, h⟩)
    · rw [(earliest_iff_find? (d.sentBy_iff source)).mp h]
    · rw [(hnone (d.sentBy_iff source)).mpr hsender,
        (earliest_iff_find? (d.putOutAt_iff source)).mp h]
    · rw [(hnone (d.sentBy_iff source)).mpr hsender, (hnone (d.putOutAt_iff source)).mpr houtput, hip]
      exact (earliest_iff_find? (d.putOutBy_iff ip)).mp h
  · intro h
    split at h
    · rename_i m hm
      cases h
      exact .sender ((earliest_iff_find? (d.sentBy_iff source)).mpr hm)
    rename_i hsender
    have hsender := (hnone (d.sentBy_iff source)).mp hsender
    split at h
    · rename_i m hm
      cases h
      exact .output hsender ((earliest_iff_find? (d.putOutAt_iff source)).mpr hm)
    rename_i houtput
    have houtput := (hnone (d.putOutAt_iff source)).mp houtput
    split at h
    · rename_i ip hip
      exact .address ip hsender houtput hip ((earliest_iff_find? (d.putOutBy_iff ip)).mpr h)
    · cases h

theorem BelongsTo.mem {heard : List Node} {n : Node} (h : d.BelongsTo source heard n) :
    n ∈ heard := by
  cases h with
  | sender h => exact h.mem
  | output _ h => exact h.mem
  | address _ _ _ _ h => exact h.mem

theorem BelongsTo.unique {heard : List Node} {m n : Node} (hm : d.BelongsTo source heard m)
    (hn : d.BelongsTo source heard n) : m = n := by
  rw [belongsTo_iff] at hm hn
  exact Option.some.inj (hm.symm.trans hn)

end TodData

private theorem senderOf?_noteSender (senders : List SenderEntry) (socket a : Socket)
    (node : NodeAddress) (b : UInt8) :
    senderOf? (noteSender senders socket node) a b =
      (senderOf? senders a b).or (if socket = a ∧ node.bindIndex = b then some node else none) := by
  rw [noteSender]
  split
  · rename_i known hknown
    by_cases hkey : socket = a ∧ node.bindIndex = b
    · obtain ⟨rfl, rfl⟩ := hkey
      simp [hknown]
    · simp [hkey]
  · rename_i hnone
    simp only [senderOf?, List.find?_append, Option.map_or]
    congr 1
    by_cases hkey : socket = a ∧ node.bindIndex = b
    · simp [hkey]
    · rw [if_neg hkey, List.find?_cons_of_neg (by simpa using hkey)]
      rfl

namespace Cycle

/-- Takes messages one after the other, and tells what is sent meanwhile. -/
def takeAll (s : DiscoverySettings) (c : Cycle) : List Arrival → Cycle × List Outgoing
  | [] => (c, [])
  | a :: as =>
    let (next, out) := c.handle s a.message a.source a.elapsed
    let (last, rest) := takeAll s next as
    (last, out ++ rest)

structure Heard (c : Cycle) (heard : List Node) : Prop where
  nodes : c.nodes = heard
  senders : ∀ a b, senderOf? c.senders a b =
    (heard.find? fun n => isAt a n && n.address.bindIndex == b).map Node.address

private theorem heard_empty : Heard empty [] := ⟨rfl, fun _ _ => rfl⟩

private theorem Heard.onReply {c : Cycle} {heard : List Node} (h : c.Heard heard)
    (s : DiscoverySettings) (reply : PollReply) (source : Socket) (elapsed : Nat) :
    (c.onReply s reply source elapsed).1.Heard (heard ++ [Node.ofReply reply source elapsed]) := by
  refine ⟨by rw [← h.nodes]; rfl, ?_⟩
  intro a b
  obtain ⟨n, hn⟩ : ∃ n, n = Node.ofReply reply source elapsed := ⟨_, rfl⟩
  have hsenders : (c.onReply s reply source elapsed).1.senders =
      noteSender (noteSender c.senders n.sender n.address) (.v4 n.address.socket) n.address := by
    rw [hn]
    rfl
  rw [hsenders, ← hn, senderOf?_noteSender, senderOf?_noteSender, h.senders, List.find?_append,
    Option.map_or, Option.or_assoc]
  congr 1
  -- The reply is noted twice, under its sender and under the socket it is reached at.
  by_cases hb : n.address.bindIndex = b
  · by_cases ha : n.At a
    · rw [List.find?_cons_of_pos (by rw [(Node.isAt_iff a n).mpr ha, hb]; simp)]
      rcases ha with ha | ha
      · simp [ha, hb]
      · simp only [ha, hb, and_true, if_true]
        split <;> rfl
    · have hat : ¬isAt a n = true := mt (Node.isAt_iff a n).mp ha
      obtain ⟨hsender, hreached⟩ := not_or.mp ha
      simp [hat, hsender, hreached]
  · simp [hb]

private theorem Heard.onTodData {c : Cycle} {heard : List Node} (h : c.Heard heard) (d : TodData)
    (source : Socket) : (c.onTodData d source).Heard heard := by
  rw [Cycle.onTodData]
  split
  · exact h
  · split
    · exact h
    · exact ⟨h.nodes, h.senders⟩

private theorem Heard.handle {c : Cycle} {as : List Arrival} (h : c.Heard (Arrival.nodes as))
    (s : DiscoverySettings) (a : Arrival) :
    (c.handle s a.message a.source a.elapsed).1.Heard (Arrival.nodes (as ++ [a])) := by
  obtain ⟨m, source, elapsed⟩ := a
  rw [Arrival.nodes_append]
  cases m with
  | pollReply reply => exact h.onReply s reply source elapsed
  | todData d =>
    rw [show Arrival.nodes [⟨.todData d, source, elapsed⟩] = [] from rfl, List.append_nil]
    exact h.onTodData d source
  | _ =>
    rw [Arrival.nodes_ignored (by simp), List.append_nil]
    exact h

theorem takeAll_singleton (s : DiscoverySettings) (c : Cycle) (a : Arrival) :
    takeAll s c [a] = c.handle s a.message a.source a.elapsed :=
  Prod.ext rfl (List.append_nil _)

theorem takeAll_append (s : DiscoverySettings) (c : Cycle) (as bs : List Arrival) :
    takeAll s c (as ++ bs) =
      ((takeAll s (takeAll s c as).1 bs).1,
        (takeAll s c as).2 ++ (takeAll s (takeAll s c as).1 bs).2) := by
  induction as generalizing c with
  | nil => rfl
  | cons a as ih => simp [takeAll, ih]

theorem heard_takeAll (s : DiscoverySettings) (as : List Arrival) :
    (takeAll s empty as).1.Heard (Arrival.nodes as) := by
  -- What was heard grows at the end, so the induction takes the last message away.
  induction as using List.reverseRecOn with
  | nil => exact heard_empty
  | append_singleton as a ih =>
    rw [takeAll_append, takeAll_singleton]
    exact ih.handle s a

theorem Heard.snapshot_nodes {c : Cycle} {heard : List Node} (h : c.Heard heard) (elapsed : Nat) :
    (c.snapshot elapsed).nodes = Ranked.ofList Node.rank heard := by
  rw [← h.nodes]
  rfl

/-- The owner of a block is the node that it belongs to among those heard. -/
theorem Heard.owner?_eq {c : Cycle} {heard : List Node} (h : c.Heard heard) (d : TodData)
    (source : Socket) :
    c.owner? d source = (d.ownerNode? source heard).map Node.address := by
  rw [owner?, TodData.ownerNode?, h.senders, h.nodes]
  cases heard.find? fun n => isAt source n && n.address.bindIndex == max d.bindIndex 1 with
  | some n => rfl
  | none =>
    cases heard.find? fun n => isAt source n && n.outputs.contains d.universeOf with
    | some n => rfl
    | none => cases source.ipv4? <;> rfl

theorem Heard.owner?_eq_some_iff {c : Cycle} {heard : List Node} (h : c.Heard heard) (d : TodData)
    (source : Socket) (a : NodeAddress) :
    c.owner? d source = some a ↔ ∃ n, d.BelongsTo source heard n ∧ n.address = a := by
  simp only [h.owner?_eq, Option.map_eq_some_iff, TodData.belongsTo_iff]

end Cycle

end LightingNet
