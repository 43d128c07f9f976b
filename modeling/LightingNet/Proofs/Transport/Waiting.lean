import LightingNet.Proofs.Transport.Buffers
import LightingNet.Transport.Listener
import Mathlib.Data.List.TakeWhile
/-!
# Sockets that take everything

Nothing should wait for a socket that takes whatever it is given. So it is as long as datagrams have
contents. Of an empty one a socket takes no bytes, which counts as a socket that blocks: the datagram
waits, no flush gets rid of it, and everything behind it waits as well until the buffers are used up. A
listener sends empty datagrams like others.
-/
namespace LightingNet

def Accepts (socket : SocketBehaviour) : Prop :=
  ∀ target contents, socket target contents = .wrote contents.length

namespace ChannelAction

/-- What is sent goes to an IPv4 address, and the sockets take everything. -/
def Unhindered : ChannelAction → Prop
  | .send _ target socket => target.ipv4? ≠ none ∧ Accepts socket
  | .flush _ socket => Accepts socket
  | _ => True

def direct (actions : List ChannelAction) : List Outbound :=
  (posted actions).takeWhile fun o => !o.buffer.isEmpty

def heldBack (actions : List ChannelAction) : List Outbound :=
  (posted actions).dropWhile fun o => !o.buffer.isEmpty

private theorem direct_append_heldBack (actions : List ChannelAction) :
    direct actions ++ heldBack actions = posted actions := List.takeWhile_append_dropWhile

theorem heldBack_eq_nil_iff (actions : List ChannelAction) :
    heldBack actions = [] ↔ ∀ o ∈ posted actions, o.buffer ≠ [] := by
  simp [heldBack, List.dropWhile_eq_nil_iff]

end ChannelAction

namespace Listener

def put (l : Listener) (socket : SocketBehaviour) (p : Parcel) (target : Socket) : Bool :=
  match p with
  | .message m => l.send socket m target
  | .raw contents => l.sendRaw socket contents target

def answers (l : Listener) (actions : List ChannelAction) : List Bool :=
  actions.flatMap fun
    | .send p target socket => [l.put socket p target]
    | _ => []

private theorem put_of_accepts (l : Listener) {socket : SocketBehaviour} (h : Accepts socket)
    (p : Parcel) (target : Socket) : l.put socket p target = true := by
  cases p <;> simp [put, send, sendRaw, h _ _]

private theorem answers_of_unhindered (l : Listener) {actions : List ChannelAction}
    (h : ∀ a ∈ actions, a.Unhindered) :
    l.answers actions = List.replicate (ChannelAction.posted actions).length true := by
  induction actions with
  | nil => rfl
  | cons a actions ih =>
    have hrest := ih fun b hb => h b (List.mem_cons_of_mem _ hb)
    have ha := h a List.mem_cons_self
    cases a with
    | send p target socket =>
      have hput := l.put_of_accepts ha.2 p target
      simp_all [answers, ChannelAction.posted, ChannelAction.posts, List.replicate_succ]
    | _ => simpa [answers, ChannelAction.posted, ChannelAction.posts] using hrest

end Listener

namespace Channel

open ChannelAction (posted direct heldBack)

def answer (c : Channel) : ChannelAction → List Bool
  | .send p target socket => [(c.put socket p target).2]
  | _ => []

def answers (c : Channel) : List ChannelAction → List Bool
  | [] => []
  | a :: actions => c.answer a ++ (c.perform a).answers actions

/-- A channel with a socket, all of whose sockets are bound to every address. -/
structure Wildcard (c : Channel) : Prop where
  bound : c.routes ≠ []
  everywhere : ∀ route ∈ c.routes, route = (none, false)

private theorem Wildcard.of_routes {c c' : Channel} (h : c.Wildcard)
    (hroutes : c'.routes = c.routes) : c'.Wildcard := by
  refine ⟨?_, ?_⟩
  · rw [hroutes]
    exact h.bound
  · rw [hroutes]
    exact h.everywhere

private theorem Wildcard.select?_eq {c : Channel} (h : c.Wildcard) {target : Socket}
    (htarget : target.ipv4? ≠ none) : c.select? target = some 0 := by
  obtain ⟨ip, hip⟩ := Option.ne_none_iff_exists'.mp htarget
  have hsends : ∀ e ∈ c.endpoints, e.interface = none ∧ e.receiveOnly = false := by
    intro e he
    have hroute := h.everywhere (e.interface, e.receiveOnly) (List.mem_map.mpr ⟨e, he, rfl⟩)
    exact ⟨congrArg Prod.fst hroute, congrArg Prod.snd hroute⟩
  have hfirst : (c.endpoints.findIdx? fun e => !e.receiveOnly) = some 0 := by
    cases hendpoints : c.endpoints with
    | nil => exact absurd (by rw [routes, hendpoints, List.map_nil]) h.bound
    | cons e es =>
      have he := hsends e (by simp [hendpoints])
      simp [List.findIdx?_cons, he]
  rw [select?, hip]
  simp only
  split
  · rename_i index hlocal
    obtain ⟨hindex, hmatch, -⟩ := List.findIdx?_eq_some_iff_getElem.mp hlocal
    simp [hsends _ (List.getElem_mem hindex)] at hmatch
  · exact hfirst

private theorem Balanced.put_of_accepts {c : Channel} (h : c.Balanced) (hwildcard : c.Wildcard)
    {socket : SocketBehaviour} (haccepts : Accepts socket) (p : Parcel) {target : Socket}
    (htarget : target.ipv4? ≠ none) :
    (c.free = [] ∧
        c.put socket p target = ({ c with stats := c.stats.count .poolExhausted }, false)) ∨
      (c.queueOf 0 = [] ∧ p.contents ≠ [] ∧
        c.put socket p target = ({ c with stats := c.stats.count .sent }, true)) ∨
      ∃ rest, c.free = [] :: rest ∧ 0 < c.endpoints.length ∧
        (c.queueOf 0 ≠ [] ∨ p.contents = []) ∧
        c.put socket p target =
          ({ c.setQueue 0 (c.queueOf 0 ++ [⟨p.contents, target⟩]) with
            free := rest, stats := c.stats.count .queued }, true) := by
  have hfirst := hwildcard.select?_eq htarget
  obtain ⟨c', ok, hput, hputs⟩ := h.exists_puts socket p target
  rw [hput]
  cases hputs with
  | exhausted hfree => exact .inl ⟨hfree, rfl⟩
  | unroutable hfree hroute =>
    rw [hfirst] at hroute
    cases hroute
  | @sent rest index count hfree hroute hidle hsocket =>
    rw [hfirst] at hroute
    cases hroute
    have hfilled : p.contents ≠ [] := by
      intro hempty
      rw [haccepts, hempty] at hsocket
      cases hsocket
    rw [h.free_rotated hfree]
    exact .inr (.inl ⟨hidle, hfilled, rfl⟩)
  | failed hfree hroute hidle hsocket =>
    rw [haccepts] at hsocket
    cases hsocket
  | @waits rest index hfree hroute hwait =>
    have hbound := lt_of_select? hroute
    rw [hfirst] at hroute
    cases hroute
    refine .inr (.inr ⟨rest, hfree, hbound, ?_, rfl⟩)
    -- A socket that takes everything and took no bytes was given none.
    rcases hwait with hqueue | hnothing | hblocked
    · exact .inl hqueue
    · rw [haccepts] at hnothing
      exact .inr (List.eq_nil_of_length_eq_zero (SendOutcome.wrote.inj hnothing))
    · rw [haccepts] at hblocked
      cases hblocked

/-- The datagrams went straight to a socket up to the first empty one. That one and those behind it are
held back: as many as there are buffers wait, and the rest was refused. -/
structure Backlog (n : Nat) (c : Channel) (direct held : List Outbound) : Prop where
  filled : ∀ o ∈ direct, o.buffer ≠ []
  empty : ∀ o ∈ held.head?, o.buffer = []
  sent : c.stats.sent = direct.length
  queued : c.stats.queued = min held.length n
  poolExhausted : c.stats.poolExhausted = held.length - n
  sendErrors : c.stats.sendErrors = 0
  queue : c.queueOf 0 = held.take n
  others : ∀ i, i ≠ 0 → c.queueOf i = []
  free : c.free = List.replicate (n - held.length) []

def told (n : Nat) (direct held : List Outbound) : List Bool :=
  List.replicate (direct.length + min held.length n) true ++ List.replicate (held.length - n) false

private theorem told_direct (n : Nat) (direct : List Outbound) (o : Outbound) :
    told n (direct ++ [o]) [] = told n direct [] ++ [true] := by
  simp [told, List.replicate_succ']

private theorem told_waits {n : Nat} {held : List Outbound} (h : held.length < n)
    (direct : List Outbound)
    (o : Outbound) : told n direct (held ++ [o]) = told n direct held ++ [true] := by
  have hall : held.length - n = 0 := by omega
  have hall' : held.length + 1 - n = 0 := by omega
  have hmin : min held.length n = held.length := by omega
  have hmin' : min (held.length + 1) n = held.length + 1 := by omega
  simp [told, hall, hall', hmin, hmin', ← Nat.add_assoc, List.replicate_succ']

private theorem told_refused {n : Nat} {held : List Outbound} (h : n ≤ held.length)
    (direct : List Outbound)
    (o : Outbound) : told n direct (held ++ [o]) = told n direct held ++ [false] := by
  have hmore : held.length + 1 - n = held.length - n + 1 := by omega
  have hmin : min held.length n = n := by omega
  have hmin' : min (held.length + 1) n = n := by omega
  simp [told, hmore, hmin, hmin', List.replicate_succ']

theorem told_eq_iff (n : Nat) (direct held : List Outbound) :
    told n direct held = List.replicate (direct ++ held).length true ↔ held.length ≤ n := by
  constructor
  · intro h
    refine Decidable.byContradiction fun hmore => ?_
    have hfalse : false ∈ told n direct held :=
      List.mem_append_right _ (List.mem_replicate.mpr ⟨by omega, rfl⟩)
    rw [h] at hfalse
    cases (List.mem_replicate.mp hfalse).2
  · intro h
    have hnone : held.length - n = 0 := by omega
    simp [told, hnone, Nat.min_eq_left h]

namespace Backlog

variable {n : Nat} {c : Channel} {direct held : List Outbound} {socket : SocketBehaviour}

/-- A flush hands out the empty datagram in front again, and it stays where it is. -/
theorem flush_eq (h : Backlog n c direct held) (haccepts : Accepts socket) (index : Nat) :
    c.flush socket index = c := by
  have hstays : flushQueue socket (c.queueOf index) c = (c.queueOf index, c) := by
    -- Only the first socket has a queue, and the empty datagram is in front of it.
    cases hqueue : c.queueOf index with
    | nil => rfl
    | cons first rest =>
      have hindex : index = 0 := by
        refine Decidable.byContradiction fun hother => ?_
        rw [h.others index hother] at hqueue
        cases hqueue
      rw [hindex, h.queue] at hqueue
      have hempty : first.buffer = [] := by
        apply h.empty
        cases held with
        | nil => simp at hqueue
        | cons o held =>
          cases n with
          | zero => simp at hqueue
          | succ n => simpa using (List.cons.inj hqueue).1
      rw [flushQueue, haccepts, hempty]
      rfl
  rw [flush, hstays]
  exact c.setQueue_queueOf index

private theorem straight (h : Backlog n c direct []) (o : Outbound) (hfilled : o.buffer ≠ []) :
    Backlog n { c with stats := c.stats.count .sent } (direct ++ [o]) [] := by
  constructor
  · intro o' ho'
    rcases List.mem_append.mp ho' with hold | hnew
    · exact h.filled o' hold
    · rw [List.mem_singleton.mp hnew]
      exact hfilled
  · exact h.empty
  · simp [ChannelStats.count, h.sent]
  · exact h.queued
  · exact h.poolExhausted
  · exact h.sendErrors
  · exact h.queue
  · exact h.others
  · exact h.free

private theorem empty_snoc (h : Backlog n c direct held) {o : Outbound}
    (ho : held ≠ [] ∨ o.buffer = []) : ∀ first ∈ (held ++ [o]).head?, first.buffer = [] := by
  cases held with
  | nil => simpa using ho
  | cons first rest => exact h.empty

private theorem waits (h : Backlog n c direct held) (hbound : 0 < c.endpoints.length) (o : Outbound)
    (ho : held ≠ [] ∨ o.buffer = []) {rest : List Bytes} (hfree : c.free = [] :: rest) :
    held.length < n ∧
      Backlog n { c.setQueue 0 (c.queueOf 0 ++ [o]) with
        free := rest, stats := c.stats.count .queued } direct (held ++ [o]) := by
  have hlength : n - held.length = rest.length + 1 := by
    rw [← List.length_cons (a := ([] : Bytes)), ← hfree, h.free, List.length_replicate]
  have hroom : held.length < n := by omega
  refine ⟨hroom, ?_⟩
  have hqueue (i : Nat) := c.queueOf_setQueue 0 (c.queueOf 0 ++ [o]) i
  constructor
  · exact h.filled
  · exact h.empty_snoc ho
  · exact h.sent
  · simp only [ChannelStats.count, h.queued, List.length_append, List.length_singleton]
    omega
  · simp only [ChannelStats.count, h.poolExhausted, List.length_append, List.length_singleton]
    omega
  · exact h.sendErrors
  · refine (hqueue 0).trans ?_
    rw [if_pos ⟨rfl, hbound⟩, h.queue, List.take_of_length_le (Nat.le_of_lt hroom),
      List.take_of_length_le (by simpa using Nat.succ_le_of_lt hroom)]
  · intro i hi
    refine (hqueue i).trans ?_
    rw [if_neg fun hzero => hi hzero.1.symm, h.others i hi]
  · have hrest : n - (held ++ [o]).length = rest.length := by
      rw [List.length_append, List.length_singleton]
      omega
    rw [hrest]
    have hcons := h.free.symm.trans hfree
    rw [hlength, List.replicate_succ] at hcons
    exact (List.cons.inj hcons).2.symm

private theorem refused (h : Backlog n c direct held) (hn : n ≠ 0) (hfree : c.free = [])
    (o : Outbound) : n ≤ held.length ∧
      Backlog n { c with stats := c.stats.count .poolExhausted } direct (held ++ [o]) := by
  have hfull : n ≤ held.length := by
    rw [h.free] at hfree
    simpa [Nat.sub_eq_zero_iff_le] using hfree
  have hheld : held ≠ [] := by
    rintro rfl
    exact hn (Nat.le_zero.mp hfull)
  refine ⟨hfull, ?_⟩
  constructor
  · exact h.filled
  · exact h.empty_snoc (.inl hheld)
  · exact h.sent
  · simp only [ChannelStats.count, h.queued, List.length_append, List.length_singleton]
    omega
  · simp only [ChannelStats.count, h.poolExhausted, List.length_append, List.length_singleton]
    omega
  · exact h.sendErrors
  · rw [List.take_append_of_le_length hfull]
    exact h.queue
  · exact h.others
  · rw [h.free, List.length_append, List.length_singleton]
    congr 1
    omega

/-- A send goes straight to the socket, is held back, or is refused. -/
theorem put (h : Backlog n c direct held) (hn : n ≠ 0) (hbalanced : c.Balanced)
    (hwildcard : c.Wildcard) (haccepts : Accepts socket) (p : Parcel) {target : Socket}
    (htarget : target.ipv4? ≠ none) :
    ∃ direct' held', direct' ++ held' = direct ++ held ++ [⟨p.contents, target⟩] ∧
      Backlog n (c.put socket p target).1 direct' held' ∧
      told n direct' held' = told n direct held ++ [(c.put socket p target).2] := by
  have hidle_iff : c.queueOf 0 = [] ↔ held = [] := by
    rw [h.queue, List.take_eq_nil_iff]
    exact or_iff_right hn
  obtain ⟨hfree, hput⟩ | ⟨hidle, hfilled, hput⟩ | ⟨rest, hfree, hbound, hwait, hput⟩ :=
    hbalanced.put_of_accepts hwildcard haccepts p htarget
  · obtain ⟨hfull, hbacklog⟩ := h.refused hn hfree ⟨p.contents, target⟩
    rw [hput]
    exact ⟨direct, held ++ [_], by simp, hbacklog, told_refused hfull direct _⟩
  · obtain rfl := hidle_iff.mp hidle
    rw [hput, List.append_nil]
    exact ⟨direct ++ [⟨p.contents, target⟩], [], by simp, h.straight _ hfilled, told_direct n direct _⟩
  · rw [Ne, hidle_iff] at hwait
    obtain ⟨hroom, hbacklog⟩ := h.waits hbound ⟨p.contents, target⟩ hwait hfree
    rw [hput]
    exact ⟨direct, held ++ [_], by simp, hbacklog, told_waits hroom direct _⟩

private theorem put_of_idle (h : Backlog n c direct []) (hn : n ≠ 0) (hbalanced : c.Balanced)
    (hwildcard : c.Wildcard) (haccepts : Accepts socket) {p : Parcel} {target : Socket}
    (htarget : target.ipv4? ≠ none) (hfilled : p.contents ≠ []) :
    c.put socket p target = ({ c with stats := c.stats.count .sent }, true) := by
  obtain ⟨hfree, -⟩ | ⟨-, -, hput⟩ | ⟨rest, -, -, hqueue | hempty, -⟩ :=
    hbalanced.put_of_accepts hwildcard haccepts p htarget
  · rw [h.free, List.length_nil, Nat.sub_zero, List.replicate_eq_nil_iff] at hfree
    exact absurd hfree hn
  · exact hput
  · exact absurd (h.queue.trans List.take_nil) hqueue
  · exact absurd hempty hfilled

private theorem perform (h : Backlog n c direct held) (hn : n ≠ 0) (hbalanced : c.Balanced)
    (hwildcard : c.Wildcard) {a : ChannelAction} (ha : a.Unhindered) :
    ∃ direct' held', direct' ++ held' = direct ++ held ++ a.posts ∧
      Backlog n (c.perform a) direct' held' ∧
      told n direct' held' = told n direct held ++ c.answer a := by
  have hsame : direct ++ held ++ [] = direct ++ held := List.append_nil _
  have hsilent : told n direct held ++ [] = told n direct held := List.append_nil _
  cases a with
  | send p target socket => exact h.put hn hbalanced hwildcard ha.2 p ha.1
  | flush index socket =>
    rw [Channel.perform, h.flush_eq ha index]
    exact ⟨direct, held, hsame.symm, h, hsilent.symm⟩
  | read d =>
    refine ⟨direct, held, hsame.symm, ?_, hsilent.symm⟩
    rw [Channel.perform, arrive]
    split
    · exact ⟨h.filled, h.empty, h.sent, h.queued, h.poolExhausted, h.sendErrors, h.queue, h.others,
        h.free⟩
    · exact h
  | _ =>
    exact ⟨direct, held, hsame.symm, ⟨h.filled, h.empty, h.sent, h.queued, h.poolExhausted,
      h.sendErrors, h.queue, h.others, h.free⟩, hsilent.symm⟩

private theorem performAll (h : Backlog n c direct held) (hn : n ≠ 0) (hbalanced : c.Balanced)
    (hwildcard : c.Wildcard) {actions : List ChannelAction} (hall : ∀ a ∈ actions, a.Unhindered) :
    ∃ direct' held', direct' ++ held' = direct ++ held ++ posted actions ∧
      Backlog n (c.performAll actions) direct' held' ∧
      told n direct' held' = told n direct held ++ c.answers actions := by
  induction actions generalizing c direct held with
  | nil => exact ⟨direct, held, by simp [posted], h, by simp [answers]⟩
  | cons a actions ih =>
    obtain ⟨direct₁, held₁, hposted₁, h₁, htold₁⟩ :=
      h.perform hn hbalanced hwildcard (hall a List.mem_cons_self)
    obtain ⟨direct₂, held₂, hposted₂, h₂, htold₂⟩ := ih h₁ (hbalanced.perform a).1
      (hwildcard.of_routes (hbalanced.routes_perform a))
      fun b hb => hall b (List.mem_cons_of_mem _ hb)
    refine ⟨direct₂, held₂, ?_, h₂, ?_⟩
    · rw [hposted₂, hposted₁, List.append_assoc]
      rfl
    · rw [htold₂, htold₁, List.append_assoc]
      rfl

private theorem unique (h : Backlog n c direct held) {actions : List ChannelAction}
    (hposted : direct ++ held = posted actions) :
    direct = ChannelAction.direct actions ∧ held = heldBack actions := by
  have hfilled : ∀ o ∈ direct, (!o.buffer.isEmpty) = true := by
    intro o ho
    simpa using h.filled o ho
  rw [ChannelAction.direct, heldBack, ← hposted, List.takeWhile_append_of_pos hfilled,
    List.dropWhile_append_of_pos hfilled]
  cases held with
  | nil => simp
  | cons first rest =>
    have hempty : first.buffer = [] := h.empty first rfl
    simp [hempty]

private theorem bind {s : ChannelSettings} {interfaces : List Interface}
    {canBind : Ipv4Socket → Bool}
    (h : Channel.bind s interfaces canBind = .ok c) : Backlog s.sendBuffers c [] [] := by
  have hempty := queueOf_bind h
  obtain ⟨-, rfl⟩ := bind_eq h
  exact ⟨nofun, nofun, rfl, by simp, by simp, rfl, (hempty 0).trans List.take_nil.symm,
    fun i _ => hempty i, rfl⟩

end Backlog

private theorem wildcard_bind {s : ChannelSettings} {interfaces : List Interface}
    {canBind : Ipv4Socket → Bool} {c : Channel} (h : bind s interfaces canBind = .ok c)
    (hmode : s.bindMode = .wildcard) (hbound : c.isEmpty = false) : c.Wildcard := by
  obtain ⟨-, rfl⟩ := bind_eq h
  constructor
  · simpa [routes, isEmpty] using hbound
  · intro route hroute
    simp only [routes, BindPlan.ofSettings, hmode, List.map_map, List.mem_map, List.mem_filter] at hroute
    obtain ⟨plan, ⟨⟨port, -, rfl⟩, -⟩, rfl⟩ := hroute
    rfl

/-- Sockets take everything, and datagrams go to IPv4 addresses. Those before the first empty one go
straight to the socket and leave the channel as it was. From the first empty one on, as many wait as there
are buffers and the rest is refused, and flushes change nothing. So nothing waits when no datagram is
empty; and a channel tells its callers what a listener does just when what is held back fits the
buffers. -/
theorem waits_from_first_empty {s : ChannelSettings} {interfaces : List Interface}
    {canBind : Ipv4Socket → Bool} {c₀ : Channel} (hbind : bind s interfaces canBind = .ok c₀)
    (hmode : s.bindMode = .wildcard) (hbound : c₀.isEmpty = false) {actions : List ChannelAction}
    (hall : ∀ a ∈ actions, a.Unhindered) :
    let c := c₀.performAll actions
    Backlog s.sendBuffers c (direct actions) (heldBack actions) ∧
      c₀.answers actions = told s.sendBuffers (direct actions) (heldBack actions) ∧
      (∀ index socket, Accepts socket → c.flush socket index = c) ∧
      ((∀ o ∈ posted actions, o.buffer ≠ []) →
        c.stats.sent = (posted actions).length ∧ c.stats.queued = 0 ∧ (∀ i, c.queueOf i = []) ∧
          c.free = List.replicate s.sendBuffers [] ∧
          c₀.answers actions = List.replicate (posted actions).length true ∧
          ∀ socket p target, Accepts socket → target.ipv4? ≠ none → p.contents ≠ [] →
            c.put socket p target = ({ c with stats := c.stats.count .sent }, true)) ∧
      ∀ l : Listener, l.answers actions = List.replicate (posted actions).length true ∧
        (c₀.answers actions = l.answers actions ↔ (heldBack actions).length ≤ s.sendBuffers) := by
  intro c
  have hn := (bind_eq hbind).1
  have hbalanced := (balanced_bind hbind).1
  have hwildcard := wildcard_bind hbind hmode hbound
  obtain ⟨direct, held, hposted, hbacklog, htold⟩ :=
    (Backlog.bind hbind).performAll hn hbalanced hwildcard hall
  obtain ⟨rfl, rfl⟩ := hbacklog.unique hposted
  have hanswers : c₀.answers actions = told s.sendBuffers (direct actions) (heldBack actions) := by
    rw [htold]
    simp [told]
  refine ⟨hbacklog, hanswers, fun index socket haccepts => hbacklog.flush_eq haccepts index, ?_, ?_⟩
  · intro hfilled
    have hnone : heldBack actions = [] := (ChannelAction.heldBack_eq_nil_iff actions).mpr hfilled
    have hdirect : direct actions = posted actions := by
      rw [← ChannelAction.direct_append_heldBack, hnone, List.append_nil]
    rw [hnone, hdirect] at hbacklog hanswers
    have hqueue : ∀ i, c.queueOf i = [] := by
      intro i
      by_cases hi : i = 0
      · rw [hi, hbacklog.queue, List.take_nil]
      · exact hbacklog.others i hi
    refine ⟨hbacklog.sent, hbacklog.queued.trans (Nat.zero_min _), hqueue, hbacklog.free, ?_, ?_⟩
    · simpa [told] using hanswers
    · intro socket p target haccepts htarget hcontents
      exact hbacklog.put_of_idle hn (hbalanced.performAll actions).1
        (hwildcard.of_routes (hbalanced.routes_performAll actions)) haccepts htarget hcontents
  · intro l
    have hlistener := l.answers_of_unhindered hall
    refine ⟨hlistener, ?_⟩
    rw [hanswers, hlistener, ← ChannelAction.direct_append_heldBack]
    exact told_eq_iff _ _ _

/-- There are two buffers. The first datagram is sent, the empty one and the one behind it wait, and the
last one is refused. -/
theorem waits_from_first_empty_four :
    let s : ChannelSettings := ⟨[6454], .wildcard, 2, 1500, 100⟩
    let socket : SocketBehaviour := fun _ contents => .wrote contents.length
    let target : Socket := .v4 ⟨.loopback, 6454⟩
    let actions := [[1, 2], [], [3], [4]].map fun contents => .send (.raw contents) target socket
    let c₀ : Channel := ⟨[⟨none, false, []⟩], [[], []], 2, .empty, ⟨0, 0, 0, 0, 0, 0⟩, true⟩
    bind s [] (fun _ => true) = .ok c₀ ∧ c₀.isEmpty = false ∧ (∀ a ∈ actions, a.Unhindered) ∧
      c₀.answers actions = [true, true, true, false] ∧ (c₀.performAll actions).stats.sent = 1 ∧
      (c₀.performAll actions).queueOf 0 = [⟨[], target⟩, ⟨[3], target⟩] ∧
      Listener.answers ⟨.empty, true⟩ actions = [true, true, true, true] := by
  intro s socket target actions c₀
  have hbind : bind s [] (fun _ => true) = .ok c₀ := rfl
  have hall : ∀ a ∈ actions, a.Unhindered := by
    intro a ha
    obtain ⟨contents, -, rfl⟩ := List.mem_map.mp ha
    exact ⟨nofun, fun _ _ => rfl⟩
  obtain ⟨hbacklog, hanswers, -, -, hlistener⟩ := waits_from_first_empty hbind rfl rfl hall
  exact ⟨hbind, rfl, hall, hanswers, hbacklog.sent, hbacklog.queue, (hlistener _).1⟩

/-- A socket takes an empty datagram whole, which is told to be sent and is not counted as such. It waits,
no flush helps, and a datagram behind it waits as well. -/
theorem empty_datagram_waits :
    let socket : SocketBehaviour := fun _ contents => .wrote contents.length
    let target : Socket := .v4 ⟨.loopback, 6454⟩
    let c₀ : Channel :=
      ⟨[⟨none, false, []⟩], List.replicate 32 [], 32, .empty, ⟨0, 0, 0, 0, 0, 0⟩, true⟩
    let actions := [.send (.raw []) target socket, .flush 0 socket, .send (.raw [1]) target socket,
      .flush 0 socket]
    let c := c₀.performAll actions
    bind .usual [] (fun _ => true) = .ok c₀ ∧ c₀.isEmpty = false ∧ Accepts socket ∧
      target.ipv4? ≠ none ∧ c₀.answers actions = [true, true] ∧ c.stats.sent = 0 ∧
      c.stats.queued = 2 ∧ c.free.length = 30 ∧ c.queueOf 0 = [⟨[], target⟩, ⟨[1], target⟩] :=
  ⟨rfl, rfl, fun _ _ => rfl, nofun, rfl, rfl, rfl, rfl, rfl⟩

end Channel

end LightingNet
