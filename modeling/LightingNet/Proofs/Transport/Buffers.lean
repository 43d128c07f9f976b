import LightingNet.Proofs.Transport.Traffic
/-!
# Where send buffers are

However a channel is used and whatever its sockets do, each of its buffers is free or holds a datagram
that waits. What waits was sent, in the order in which it was sent. Every send is counted once, unless
there is a buffer and no socket for it, and a socket is asked about nothing but what is sent.
-/
namespace LightingNet

namespace ChannelAction

def posts : ChannelAction → List Outbound
  | .send p target _ => [⟨p.contents, target⟩]
  | _ => []

def posted (actions : List ChannelAction) : List Outbound := actions.flatMap posts

end ChannelAction

namespace Channel

open ChannelAction (posted)

variable {c : Channel}

private theorem Balanced.sublist_queueOf_put (h : c.Balanced) (socket : SocketBehaviour)
    (p : Parcel) (target : Socket) (i : Nat) :
    ((c.put socket p target).1.queueOf i).Sublist (c.queueOf i ++ [⟨p.contents, target⟩]) := by
  obtain ⟨c', ok, hput, hputs⟩ := h.exists_puts socket p target
  rw [hput]
  cases hputs with
  | @waits rest index hfree hroute hwait =>
    change ((c.setQueue index _).queueOf i).Sublist _
    rw [queueOf_setQueue]
    split
    · rename_i hindex
      obtain ⟨rfl, -⟩ := hindex
      exact List.Sublist.refl _
    · exact List.sublist_append_left _ _
  | _ => exact List.sublist_append_left _ _

private theorem Balanced.sublist_queueOf_flush (h : c.Balanced) (socket : SocketBehaviour)
    (index i : Nat) : ((c.flush socket index).queueOf i).Sublist (c.queueOf i) := by
  obtain ⟨done, rest, sent, errors, hsplit, -, hflush⟩ := h.flush_eq socket index
  rw [hflush]
  change ((c.setQueue index rest).queueOf i).Sublist _
  rw [queueOf_setQueue]
  split
  · rename_i hindex
    rw [← hindex.1, hsplit]
    exact List.sublist_append_right _ _
  · exact List.Sublist.refl _

private theorem Balanced.sublist_queueOf_perform (h : c.Balanced) (a : ChannelAction) (i : Nat) :
    ((c.perform a).queueOf i).Sublist (c.queueOf i ++ a.posts) := by
  cases a with
  | send p target socket => exact h.sublist_queueOf_put socket p target i
  | flush index socket =>
    have hnothing : (ChannelAction.flush index socket).posts = [] := rfl
    rw [hnothing, List.append_nil]
    exact h.sublist_queueOf_flush socket index i
  | read d =>
    have hsame : (c.arrive d).queueOf i = c.queueOf i := by
      rw [arrive]
      split <;> rfl
    simp [Channel.perform, hsame, ChannelAction.posts]
  | _ => simp [Channel.perform, ChannelAction.posts, queueOf, close]

private theorem Balanced.sublist_queueOf_performAll (h : c.Balanced) (actions : List ChannelAction)
    (i : Nat) : ((c.performAll actions).queueOf i).Sublist (c.queueOf i ++ posted actions) := by
  induction actions generalizing c with
  | nil => simp [posted, Channel.performAll]
  | cons a actions ih =>
    have hlater := ih (h.perform a).1
    have hfirst := (h.sublist_queueOf_perform a i).append_right (posted actions)
    rw [List.append_assoc] at hfirst
    exact hlater.trans hfirst

/-- A send is counted once, unless there is a buffer and no socket for it. -/
theorem Puts.counted {socket : SocketBehaviour} {contents : Bytes} {target : Socket} {c' : Channel}
    {ok : Bool} (h : c.Puts socket contents target c' ok) :
    (∃ counter : Option Counter, c'.stats = counter.elim c.stats c.stats.count ∧
        (counter = none ↔ c.free ≠ [] ∧ c.select? target = none)) ∧
      (ok = true ↔ c.stats.sent < c'.stats.sent ∨ c.stats.queued < c'.stats.queued) := by
  cases h with
  | exhausted hfree =>
    exact ⟨⟨some .poolExhausted, rfl, by simp [hfree]⟩, by simp [ChannelStats.count]⟩
  | unroutable hfree hroute => exact ⟨⟨none, rfl, by simp [hfree, hroute]⟩, by simp⟩
  | sent hfree hroute hidle hsocket =>
    exact ⟨⟨some .sent, rfl, by simp [hroute]⟩, by simp [ChannelStats.count]⟩
  | failed hfree hroute hidle hsocket =>
    exact ⟨⟨some .sendErrors, rfl, by simp [hroute]⟩, by simp [ChannelStats.count]⟩
  | waits hfree hroute hwait =>
    exact ⟨⟨some .queued, rfl, by simp [hroute]⟩, by simp [ChannelStats.count]⟩

private theorem Balanced.put_congr (h : c.Balanced) {socket socket' : SocketBehaviour} {p : Parcel}
    {target : Socket} (hsame : socket' target p.contents = socket target p.contents) :
    c.put socket' p target = c.put socket p target := by
  cases hfree : c.free with
  | nil => rw [put_exhausted hfree, put_exhausted hfree]
  | cons buffer rest =>
    obtain rfl : buffer = [] := h.clean buffer (by simp [hfree])
    rw [put_eq hfree, put_eq hfree]
    simp only [submit, hsame]

private theorem flushQueue_congr {socket socket' : SocketBehaviour} (queue : List Outbound)
    (c : Channel) (hsame : ∀ o ∈ queue, socket' o.target o.buffer = socket o.target o.buffer) :
    flushQueue socket' queue c = flushQueue socket queue c := by
  induction queue generalizing c with
  | nil => rfl
  | cons first rest ih =>
    have hrest (c : Channel) := ih c fun o ho => hsame o (List.mem_cons_of_mem _ ho)
    simp only [flushQueue, hsame first List.mem_cons_self, hrest]

private theorem flush_congr (c : Channel) {socket socket' : SocketBehaviour} {index : Nat}
    (hsame : ∀ o ∈ c.queueOf index, socket' o.target o.buffer = socket o.target o.buffer) :
    c.flush socket' index = c.flush socket index := by
  rw [flush, flush, flushQueue_congr _ _ hsame]

/-- Every buffer of a channel is free or waits, whatever was done with it. Another send keeps it so and
ends in one of the five ways, with its own bytes for the socket or the queue; it is counted once, unless
there is a buffer and no socket for it. What a flush gives to a socket was sent before. No message fails
to fit the buffer that is made for it. -/
theorem buffers_conserved {s : ChannelSettings} {interfaces : List Interface}
    {canBind : Ipv4Socket → Bool} {c₀ : Channel} (hbind : bind s interfaces canBind = .ok c₀)
    (actions : List ChannelAction) :
    let c := c₀.performAll actions
    c.free.length + c.waiting = s.sendBuffers ∧
      (∀ i, (c.queueOf i).Sublist (posted actions)) ∧
      (∀ socket socket' index,
        (∀ o ∈ c.queueOf index, socket' o.target o.buffer = socket o.target o.buffer) →
          c.flush socket' index = c.flush socket index) ∧
      (∀ socket p target,
        let after := c.put socket p target
        after.1.free.length + after.1.waiting = s.sendBuffers ∧
          c.Puts socket p.contents target after.1 after.2 ∧
          (∃ counter : Option Counter, after.1.stats = counter.elim c.stats c.stats.count ∧
            (counter = none ↔ c.free ≠ [] ∧ c.select? target = none)) ∧
          (after.2 = true ↔
            c.stats.sent < after.1.stats.sent ∨ c.stats.queued < after.1.stats.queued) ∧
          ∀ socket' : SocketBehaviour, socket' target p.contents = socket target p.contents →
            c.put socket' p target = after) ∧
      ∀ (m : Message) (buffer : Bytes),
        m.encode (resize buffer m.encodedLength) = .ok (m.encodedLength, m.toBytes) := by
  intro c
  obtain ⟨hstart, hsize⟩ := balanced_bind hbind
  obtain ⟨hbalanced, hpool⟩ : c.Balanced ∧ c.poolSize = c₀.poolSize := hstart.performAll actions
  rw [hsize] at hpool
  refine ⟨hbalanced.balance.trans hpool, ?_, fun _ _ _ => c.flush_congr, ?_, encode_resize⟩
  · intro i
    have hsublist := hstart.sublist_queueOf_performAll actions i
    rwa [queueOf_bind hbind, List.nil_append] at hsublist
  · intro socket p target after
    have hputs := hbalanced.puts socket p target
    have hafter := (hbalanced.put socket p target).balance
    rw [(hbalanced.apart_put socket p target).poolSize, hpool] at hafter
    exact ⟨hafter, hputs, hputs.counted.1, hputs.counted.2, fun _ => hbalanced.put_congr⟩

/-- There are two buffers, and the socket blocks. Two datagrams wait, and there is no buffer for the
third; a message gets one and waits when the first datagram is gone. -/
theorem buffers_conserved_blocked :
    let s : ChannelSettings := ⟨[6454], .wildcard, 2, 1500, 100⟩
    let target : Socket := .v4 ⟨.loopback, 6454⟩
    let blocked : SocketBehaviour := fun _ _ => .wouldBlock
    let once : SocketBehaviour := fun _ contents => if contents.length = 3 then .wrote 3 else .wouldBlock
    let sends := [.send (.raw [1, 2, 3]) target blocked, .send (.raw [4]) target blocked,
      .send (.raw [5]) target blocked]
    let actions := sends ++ [.flush 0 once, .send (.message .sync) target blocked]
    let c₀ : Channel := ⟨[⟨none, false, []⟩], [[], []], 2, .empty, ⟨0, 0, 0, 0, 0, 0⟩, true⟩
    bind s [] (fun _ => true) = .ok c₀ ∧
      (c₀.performAll sends).queueOf 0 = [⟨[1, 2, 3], target⟩, ⟨[4], target⟩] ∧
      (c₀.performAll sends).stats.poolExhausted = 1 ∧
      (c₀.performAll actions).queueOf 0 = [⟨[4], target⟩, ⟨Message.sync.toBytes, target⟩] ∧
      (c₀.performAll actions).free.length + (c₀.performAll actions).waiting = s.sendBuffers := by
  intro s target blocked once sends actions c₀
  have hbind : bind s [] (fun _ => true) = .ok c₀ := rfl
  have hconserved := (buffers_conserved hbind actions).1
  refine ⟨hbind, ?_, ?_, ?_, hconserved⟩
  · decide +kernel
  · decide +kernel
  · decide +kernel

end Channel

end LightingNet
