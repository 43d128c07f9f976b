import LightingNet.Proofs.Wire.Encoding
import LightingNet.Transport.Listener
import Mathlib.Algebra.GroupWithZero.Nat
/-!
# What becomes of a send

A send ends in one of five ways: there was no buffer, no socket sends to the target, the socket took the
datagram, the socket failed, or the datagram waits. The bytes are those of the message, or those given,
whatever the buffer held before. A flush takes some datagrams off the front of a queue. Every buffer is
in the pool or holds a datagram that waits, and those in the pool are empty.
-/
namespace LightingNet

inductive Parcel where
  | message (message : Message)
  | raw (contents : Bytes)

def Parcel.contents : Parcel → Bytes
  | message m => m.toBytes
  | raw b => b

/-- The counters of what became of a send. -/
inductive Counter where
  | sent
  | queued
  | sendErrors
  | poolExhausted
  deriving DecidableEq, Repr

def ChannelStats.count (s : ChannelStats) : Counter → ChannelStats
  | .sent => { s with sent := s.sent + 1 }
  | .queued => { s with queued := s.queued + 1 }
  | .sendErrors => { s with sendErrors := s.sendErrors + 1 }
  | .poolExhausted => { s with poolExhausted := s.poolExhausted + 1 }

namespace Channel

def put (c : Channel) (socket : SocketBehaviour) (p : Parcel) (target : Socket) : Channel × Bool :=
  match p with
  | .message m => c.send socket m target
  | .raw contents => c.sendRaw socket contents target

def waiting (c : Channel) : Nat := (c.endpoints.map fun e => e.queue.length).sum

/-- Every buffer is in the pool or holds a datagram that waits, and those in the pool are empty. -/
structure Balanced (c : Channel) : Prop where
  clean : ∀ buffer ∈ c.free, buffer = []
  balance : c.free.length + c.waiting = c.poolSize

/-- What becomes of some bytes that are sent to a target, with the channel that is left and whether they
were sent or wait. -/
inductive Puts (c : Channel) (socket : SocketBehaviour) (contents : Bytes) (target : Socket) :
    Channel → Bool → Prop
  | exhausted (hfree : c.free = []) :
    Puts c socket contents target { c with stats := c.stats.count .poolExhausted } false
  | unroutable {rest : List Bytes} (hfree : c.free = [] :: rest) (hroute : c.select? target = none) :
    Puts c socket contents target { c with free := rest ++ [[]] } false
  | sent {rest : List Bytes} {index count : Nat} (hfree : c.free = [] :: rest)
    (hroute : c.select? target = some index) (hidle : c.queueOf index = [])
    (hsocket : socket target contents = .wrote (count + 1)) :
    Puts c socket contents target { c with free := rest ++ [[]], stats := c.stats.count .sent } true
  | failed {rest : List Bytes} {index : Nat} (hfree : c.free = [] :: rest)
    (hroute : c.select? target = some index) (hidle : c.queueOf index = [])
    (hsocket : socket target contents = .failed) :
    Puts c socket contents target
      { c with free := rest ++ [[]], stats := c.stats.count .sendErrors } false
  | waits {rest : List Bytes} {index : Nat} (hfree : c.free = [] :: rest)
    (hroute : c.select? target = some index)
    (hwait : c.queueOf index ≠ [] ∨ socket target contents = .wrote 0 ∨
      socket target contents = .wouldBlock) :
    Puts c socket contents target
      { c.setQueue index (c.queueOf index ++ [⟨contents, target⟩]) with
        free := rest, stats := c.stats.count .queued } true

theorem encode_resize (m : Message) (buffer : Bytes) :
    m.encode (resize buffer m.encodedLength) = .ok (m.encodedLength, m.toBytes) := by
  have hlength : (resize buffer m.encodedLength).length = m.encodedLength := by
    simp only [resize, List.length_append, List.length_take, List.length_replicate]
    omega
  rw [Message.encode, hlength, if_neg (Nat.lt_irrefl _), List.drop_eq_nil_of_le (Nat.le_of_eq hlength),
    List.append_nil, Message.toBytes_eq_image]

theorem put_eq {c : Channel} {rest : List Bytes} (hfree : c.free = [] :: rest)
    (socket : SocketBehaviour) (p : Parcel) (target : Socket) :
    c.put socket p target = { c with free := rest }.submit socket p.contents target := by
  have hacquire : c.acquire = (some [], { c with free := rest }) := by
    simp only [acquire, hfree]
  cases p with
  | message m =>
    have hwhole : m.toBytes.take m.encodedLength = m.toBytes :=
      List.take_of_length_le (Nat.le_of_eq m.length_toBytes)
    simp only [put, send, hacquire, encode_resize, hwhole, Parcel.contents]
  | raw contents => simp only [put, sendRaw, hacquire, List.nil_append, Parcel.contents]

theorem put_exhausted {c : Channel} (hfree : c.free = []) (socket : SocketBehaviour) (p : Parcel)
    (target : Socket) :
    c.put socket p target = ({ c with stats := c.stats.count .poolExhausted }, false) := by
  have hacquire : c.acquire = (none, { c with stats := c.stats.count .poolExhausted }) := by
    simp only [acquire, hfree, ChannelStats.count]
  cases p <;> simp only [put, send, sendRaw, hacquire]

private theorem release_of_lt {c : Channel} (h : c.free.length < c.poolSize) :
    c.release = { c with free := c.free ++ [[]] } := by
  rw [release, if_pos h]

/-! ### Queues -/

theorem lt_of_select? {c : Channel} {target : Socket} {index : Nat}
    (h : c.select? target = some index) : index < c.endpoints.length := by
  have hfind {found : Nat} {p : Endpoint → Bool} (hp : c.endpoints.findIdx? p = some found) :
      found < c.endpoints.length := (List.findIdx?_eq_some_iff_getElem.mp hp).1
  rw [select?] at h
  split at h
  · cases h
  · simp only at h
    split at h
    · rename_i hlocal
      exact hfind (hlocal.trans h)
    · exact hfind h

private theorem queueOf_of_lt {c : Channel} {index : Nat} (h : index < c.endpoints.length) :
    c.queueOf index = c.endpoints[index].queue := by
  simp only [queueOf, List.getElem?_eq_getElem h]

private theorem queueOf_of_le {c : Channel} {index : Nat} (h : c.endpoints.length ≤ index) :
    c.queueOf index = [] := by
  simp only [queueOf, List.getElem?_eq_none h]

theorem queueOf_setQueue (c : Channel) (index : Nat) (queue : List Outbound) (i : Nat) :
    (c.setQueue index queue).queueOf i =
      if index = i ∧ i < c.endpoints.length then queue else c.queueOf i := by
  by_cases hi : i < c.endpoints.length
  · have hi' : i < (c.setQueue index queue).endpoints.length := by
      simpa only [setQueue, List.length_modify] using hi
    rw [queueOf_of_lt hi, queueOf_of_lt hi']
    simp only [setQueue, List.getElem_modify, hi, and_true]
    split <;> rfl
  · have hi' : (c.setQueue index queue).endpoints.length ≤ i := by
      simpa only [setQueue, List.length_modify] using Nat.not_lt.mp hi
    rw [queueOf_of_le hi', queueOf_of_le (Nat.not_lt.mp hi)]
    simp [hi]

private theorem setQueue_of_le {c : Channel} {index : Nat} (h : c.endpoints.length ≤ index)
    (queue : List Outbound) : c.setQueue index queue = c := by
  rw [setQueue, List.modify_eq_self h]

theorem setQueue_queueOf (c : Channel) (index : Nat) :
    c.setQueue index (c.queueOf index) = c := by
  have hsame : (c.endpoints.modify index fun e => { e with queue := c.queueOf index }) =
      c.endpoints := by
    apply List.ext_getElem?
    intro i
    rw [List.getElem?_modify]
    by_cases hi : index = i
    · subst hi
      cases hfound : c.endpoints[index]? with
      | none => simp
      | some e => simp [queueOf, hfound]
    · simp [hi]
  rw [setQueue, hsame]

private theorem sum_modify (es : List Endpoint) {index : Nat} (h : index < es.length)
    (queue : List Outbound) :
    ((es.modify index fun e => { e with queue }).map fun e => e.queue.length).sum +
        es[index].queue.length =
      (es.map fun e => e.queue.length).sum + queue.length := by
  induction es generalizing index with
  | nil => cases h
  | cons e es ih =>
    cases index with
    | zero =>
      simp only [List.modify_zero_cons, List.map_cons, List.sum_cons, List.getElem_cons_zero]
      omega
    | succ index =>
      have hrest := ih (Nat.lt_of_succ_lt_succ h)
      simp only [List.modify_succ_cons, List.map_cons, List.sum_cons, List.getElem_cons_succ]
      omega

private theorem waiting_setQueue {c : Channel} {index : Nat} (h : index < c.endpoints.length)
    (queue : List Outbound) :
    (c.setQueue index queue).waiting + (c.queueOf index).length = c.waiting + queue.length := by
  rw [queueOf_of_lt h]
  exact sum_modify c.endpoints h queue

theorem length_queueOf_le (c : Channel) (index : Nat) : (c.queueOf index).length ≤ c.waiting := by
  by_cases h : index < c.endpoints.length
  · have hcleared := waiting_setQueue h []
    rw [List.length_nil] at hcleared
    omega
  · rw [queueOf_of_le (Nat.not_lt.mp h)]
    exact Nat.zero_le _

/-! ### Sends -/

private theorem Balanced.length_free_le {c : Channel} (h : c.Balanced) :
    c.free.length ≤ c.poolSize := by
  have hbalance := h.balance
  omega

theorem Balanced.free_rotated {c : Channel} (h : c.Balanced) {rest : List Bytes}
    (hfree : c.free = [] :: rest) : rest ++ [[]] = c.free := by
  have hclean : rest = List.replicate rest.length [] := by
    apply List.eq_replicate_of_mem
    intro buffer hbuffer
    exact h.clean buffer (by rw [hfree]; exact List.mem_cons_of_mem _ hbuffer)
  rw [hfree, hclean, ← List.replicate_succ', ← List.replicate_succ]

/-- A send ends in one of the five ways. -/
theorem Balanced.puts {c : Channel} (h : c.Balanced) (socket : SocketBehaviour) (p : Parcel)
    (target : Socket) :
    c.Puts socket p.contents target (c.put socket p target).1 (c.put socket p target).2 := by
  cases hfree : c.free with
  | nil =>
    rw [put_exhausted hfree]
    exact .exhausted hfree
  | cons buffer rest =>
    obtain rfl : buffer = [] := h.clean buffer (by simp [hfree])
    have hroom : rest.length < c.poolSize := by
      have hlength := h.length_free_le
      rw [hfree, List.length_cons] at hlength
      omega
    have hrelease (stats : ChannelStats) : { c with free := rest, stats }.release =
        { c with free := rest ++ [[]], stats } := release_of_lt hroom
    rw [put_eq hfree, submit]
    have hselect : { c with free := rest }.select? target = c.select? target := rfl
    have hqueue (i : Nat) : { c with free := rest }.queueOf i = c.queueOf i := rfl
    rw [hselect]
    cases hroute : c.select? target with
    | none =>
      rw [hrelease c.stats]
      exact .unroutable hfree hroute
    | some index =>
      simp only [hqueue]
      by_cases hidle : c.queueOf index = []
      · rw [if_pos (by simp [hidle])]
        cases hsocket : socket target p.contents with
        | wrote count =>
          cases count with
          | zero => exact .waits hfree hroute (.inr (.inl hsocket))
          | succ count =>
            simp only [countSent, hrelease]
            exact .sent hfree hroute hidle hsocket
        | wouldBlock => exact .waits hfree hroute (.inr (.inr hsocket))
        | failed =>
          simp only [countError, hrelease]
          exact .failed hfree hroute hidle hsocket
      · rw [if_neg (by simp [hidle])]
        exact .waits hfree hroute (.inl hidle)

theorem Balanced.exists_puts {c : Channel} (h : c.Balanced) (socket : SocketBehaviour) (p : Parcel)
    (target : Socket) : ∃ c' ok, c.put socket p target = (c', ok) ∧
      c.Puts socket p.contents target c' ok :=
  ⟨_, _, rfl, h.puts socket p target⟩

theorem Balanced.put {c : Channel} (h : c.Balanced) (socket : SocketBehaviour) (p : Parcel)
    (target : Socket) : (c.put socket p target).1.Balanced := by
  have hbalance := h.balance
  have hreturned {rest : List Bytes} (hfree : c.free = [] :: rest) :
      ∀ buffer ∈ rest ++ [[]], buffer = [] := by
    intro buffer hbuffer
    apply h.clean
    simpa [hfree, or_comm] using hbuffer
  have hrotated {rest : List Bytes} (hfree : c.free = [] :: rest) :
      (rest ++ [[]]).length + c.waiting = c.poolSize := by
    rw [hfree, List.length_cons] at hbalance
    rw [List.length_append, List.length_singleton]
    exact hbalance
  obtain ⟨c', ok, hput, hputs⟩ := h.exists_puts socket p target
  rw [hput]
  cases hputs with
  | exhausted hfree => exact ⟨h.clean, hbalance⟩
  | unroutable hfree hroute => exact ⟨hreturned hfree, hrotated hfree⟩
  | sent hfree hroute hidle hsocket => exact ⟨hreturned hfree, hrotated hfree⟩
  | failed hfree hroute hidle hsocket => exact ⟨hreturned hfree, hrotated hfree⟩
  | @waits rest index hfree hroute hwait =>
    constructor
    · intro buffer hbuffer
      exact h.clean buffer (by rw [hfree]; exact List.mem_cons_of_mem _ hbuffer)
    · have hlonger := waiting_setQueue (lt_of_select? hroute)
        (c.queueOf index ++ [⟨p.contents, target⟩])
      rw [hfree, List.length_cons] at hbalance
      rw [List.length_append, List.length_singleton] at hlonger
      change rest.length + (c.setQueue index _).waiting = c.poolSize
      omega

/-! ### Flushes -/

private theorem flushQueue_eq (socket : SocketBehaviour) (queue : List Outbound) (c : Channel)
    (hroom : c.free.length + queue.length ≤ c.poolSize) :
    ∃ done rest sent errors, queue = done ++ rest ∧ sent + errors = done.length ∧
      flushQueue socket queue c = (rest, { c with
        free := c.free ++ List.replicate done.length []
        stats := { c.stats with
          sent := c.stats.sent + sent, sendErrors := c.stats.sendErrors + errors } }) := by
  induction queue generalizing c with
  | nil => exact ⟨[], [], 0, 0, rfl, rfl, by simp [flushQueue]⟩
  | cons first rest ih =>
    rw [List.length_cons] at hroom
    have hrelease (stats : ChannelStats) : { c with stats }.release =
        { c with free := c.free ++ [[]], stats } :=
      release_of_lt (show c.free.length < c.poolSize by omega)
    have hroom' : (c.free ++ [[]]).length + rest.length ≤ c.poolSize := by
      rw [List.length_append, List.length_singleton]
      omega
    have hnext (stats : ChannelStats) := ih { c with free := c.free ++ [[]], stats } hroom'
    have hreplicate (n : Nat) :
        c.free ++ [[]] ++ List.replicate n ([] : Bytes) = c.free ++ List.replicate (n + 1) [] := by
      rw [List.append_assoc, List.replicate_succ, List.singleton_append]
    rw [flushQueue]
    cases socket first.target first.buffer with
    | wrote count =>
      cases count with
      | zero => exact ⟨[], first :: rest, 0, 0, rfl, rfl, by simp⟩
      | succ count =>
        simp only [countSent, hrelease]
        obtain ⟨done, left, sent, errors, rfl, hdone, hflush⟩ := hnext _
        refine ⟨first :: done, left, sent + 1, errors, rfl, by rw [List.length_cons]; omega, ?_⟩
        rw [hflush, List.length_cons, ← hreplicate]
        simp only [Prod.mk.injEq, mk.injEq, ChannelStats.mk.injEq, true_and, and_true]
        omega
    | wouldBlock => exact ⟨[], first :: rest, 0, 0, rfl, rfl, by simp⟩
    | failed =>
      simp only [countError, hrelease]
      obtain ⟨done, left, sent, errors, rfl, hdone, hflush⟩ := hnext _
      refine ⟨first :: done, left, sent, errors + 1, rfl, by rw [List.length_cons]; omega, ?_⟩
      rw [hflush, List.length_cons, ← hreplicate]
      simp only [Prod.mk.injEq, mk.injEq, ChannelStats.mk.injEq, true_and, and_true]
      omega

/-- A flush takes some datagrams off the front of a queue, sent or failed, and frees their buffers. -/
theorem Balanced.flush_eq {c : Channel} (h : c.Balanced) (socket : SocketBehaviour) (index : Nat) :
    ∃ done rest sent errors, c.queueOf index = done ++ rest ∧ sent + errors = done.length ∧
      c.flush socket index = { c.setQueue index rest with
        free := c.free ++ List.replicate done.length []
        stats := { c.stats with
          sent := c.stats.sent + sent, sendErrors := c.stats.sendErrors + errors } } := by
  have hbalance := h.balance
  have hqueue := c.length_queueOf_le index
  obtain ⟨done, rest, sent, errors, hsplit, hdone, hflush⟩ :=
    flushQueue_eq socket (c.queueOf index) c (by omega)
  refine ⟨done, rest, sent, errors, hsplit, hdone, ?_⟩
  rw [flush, hflush]
  rfl

theorem Balanced.flush {c : Channel} (h : c.Balanced) (socket : SocketBehaviour) (index : Nat) :
    (c.flush socket index).Balanced := by
  have hbalance := h.balance
  obtain ⟨done, rest, sent, errors, hsplit, hdone, hflush⟩ := h.flush_eq socket index
  rw [hflush]
  constructor
  · intro buffer hbuffer
    rcases List.mem_append.mp hbuffer with hold | hnew
    · exact h.clean buffer hold
    · exact List.eq_of_mem_replicate hnew
  · change (c.free ++ List.replicate done.length []).length + (c.setQueue index rest).waiting =
      c.poolSize
    rw [List.length_append, List.length_replicate]
    by_cases hindex : index < c.endpoints.length
    · have hshorter := waiting_setQueue hindex rest
      rw [hsplit, List.length_append] at hshorter
      omega
    · have hempty := queueOf_of_le (Nat.not_lt.mp hindex)
      rw [hempty] at hsplit
      obtain ⟨rfl, -⟩ := List.append_eq_nil_iff.mp hsplit.symm
      rw [setQueue_of_le (Nat.not_lt.mp hindex), List.length_nil]
      omega

end Channel

end LightingNet
