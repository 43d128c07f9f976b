import LightingNet.Proofs.Simulation.Requests
import LightingNet.Proofs.Wire.Places
/-!
# Two readings of a datagram

The simulated gateway looks for a request at fixed places, by checks of its own. It sees one exactly
where the library reads one, and finds the same fields there. The gateway passes over the version, so
this holds of the datagrams whose version the library takes.
-/
namespace LightingNet

open Places
open Simulation (byteAt wordAt)
open Rdm (Packet)
open Rdm.Packet (Intact atPlaces)

theorem OpCode.code_ofCode (c : UInt16) : (ofCode c).code = c := by
  have hrows : ∀ row ∈ table, row.1.code = row.2.1 := by decide
  unfold ofCode
  cases hfound : table.find? fun row => row.2.1 == c with
  | none => rfl
  | some row =>
    have hcode : row.2.1 = c := by simpa using List.find?_some hfound
    exact (hrows row (List.mem_of_find?_eq_some hfound)).trans hcode

namespace Message

section Fields

variable {b : Bytes} (h : 24 ≤ b.length)

include h

private theorem readFields_todRequest :
    readFields .todRequest (b.drop 12) = some (.ok (todRequest
      ⟨byteAt b 21 &&& 0x7f, byteAt b 22, (b.drop 24).take (min (byteAt b 23).toNat 32)⟩)) := by
  have hskip := reads_skip 9 (by decide)
  simp (disch := omega) only [readFields, TodRequest.read, hskip.bind, reads_byte.bind,
    Reader.bind_remaining, getElem?_eq_byteAt, span?_eq_take, Option.bind_some, Option.map_some,
    Reader.pure_apply, Nat.reduceAdd, TodRequest.maxAddresses]

private theorem readFields_todControl :
    readFields .todControl (b.drop 12) = some (.ok (todControl
      ⟨byteAt b 21 &&& 0x7f, TodCommand.ofCode (byteAt b 22), byteAt b 23⟩)) := by
  have hskip := reads_skip 9 (by decide)
  simp (disch := omega) only [readFields, TodControl.read, hskip.bind, reads_byte.bind,
    getElem?_eq_byteAt, span?_eq_take, Option.bind_some, Option.map_some, Reader.pure_apply,
    Nat.reduceAdd]

end Fields

theorem decode_eq_ok_iff {b : Bytes} (hversion : 14 ≤ wordAt b 10) {m : Message} {l : Layout}
    (hl : m.layout? = some l) :
    decode b = .ok m ↔ peekOpCode b = .ok l.opcode ∧ l.minSize ≤ b.length ∧
      readFields l (b.drop l.headerSize) = some (.ok m) := by
  have hcurrent : ¬(l.opcode.hasVersion ∧ wordAt b 10 < protocolVersion) :=
    fun h => absurd h.2 (UInt16.not_lt.mpr hversion)
  constructor
  · intro hread
    have hpeek : peekOpCode b = .ok l.opcode := by
      rw [peekOpCode_of_decode hread, opcode_of_layout? hl]
    exact ⟨hpeek, readFields_of_decode hread hl⟩
  · rintro ⟨hpeek, hlen, hfields⟩
    rw [decode_of_layout hpeek, decodeAs_eq, if_neg (Nat.not_lt.mpr hlen), if_neg hcurrent, hfields,
      Option.getD_some]

variable {b : Bytes} (hversion : 14 ≤ wordAt b 10)

include hversion

theorem decode_eq_rdm_iff (e : Envelope) :
    decode b = .ok (rdm e) ↔ peekOpCode b = .ok .rdm ∧ Intact (b.drop 24) ∧
      e = ⟨byteAt b 12, byteAt b 21 &&& 0x7f, byteAt b 22, byteAt b 23, atPlaces (b.drop 24)⟩ := by
  have hlen : (b.drop 24).length = b.length - 24 := List.length_drop
  rw [decode_eq_ok_iff hversion (l := .rdm) rfl]
  change _ ∧ 24 ≤ b.length ∧ readFields .rdm (b.drop 12) = _ ↔ _
  constructor
  · rintro ⟨hpeek, hsize, hfields⟩
    rw [readFields_rdm hsize] at hfields
    cases hpacket : Packet.decode (b.drop 24) with
    | error err =>
      rw [hpacket] at hfields
      cases hfields
    | ok p =>
      obtain ⟨hintact, rfl⟩ := Packet.decode_eq_ok.mp hpacket
      rw [hpacket] at hfields
      cases hfields
      exact ⟨hpeek, hintact, rfl⟩
  · rintro ⟨hpeek, hintact, rfl⟩
    have hheader := hintact.header
    have hsize : 24 ≤ b.length := by omega
    rw [readFields_rdm hsize, Packet.decode_eq_ok.mpr ⟨hintact, rfl⟩]
    exact ⟨hpeek, hsize, rfl⟩

private theorem decode_eq_ok_iff_of_fields {l : Layout} {found : Message}
    (hfields : l.minSize ≤ b.length → readFields l (b.drop l.headerSize) = some (.ok found))
    {m : Message} (hl : m.layout? = some l) :
    decode b = .ok m ↔ peekOpCode b = .ok l.opcode ∧ l.minSize ≤ b.length ∧ m = found := by
  rw [decode_eq_ok_iff hversion hl]
  apply and_congr_right
  intro _
  apply and_congr_right
  intro hlen
  rw [hfields hlen, Option.some.injEq, Except.ok.injEq]
  exact eq_comm

theorem decode_eq_todRequest_iff (r : TodRequest) :
    decode b = .ok (todRequest r) ↔ peekOpCode b = .ok .todRequest ∧ 24 ≤ b.length ∧
      r = ⟨byteAt b 21 &&& 0x7f, byteAt b 22, (b.drop 24).take (min (byteAt b 23).toNat 32)⟩ := by
  rw [decode_eq_ok_iff_of_fields hversion (l := .todRequest) readFields_todRequest rfl,
    todRequest.injEq]
  exact Iff.rfl

theorem decode_eq_todControl_iff (c : TodControl) :
    decode b = .ok (todControl c) ↔ peekOpCode b = .ok .todControl ∧ 24 ≤ b.length ∧
      c = ⟨byteAt b 21 &&& 0x7f, TodCommand.ofCode (byteAt b 22), byteAt b 23⟩ := by
  rw [decode_eq_ok_iff_of_fields hversion (l := .todControl) readFields_todControl rfl,
    todControl.injEq]
  exact Iff.rfl

/-- A message that asks a node for tables: for those it has, or to find the devices again. -/
def Queries : Message → Prop
  | todRequest _ => True
  | todControl c => c.command = .flush
  | _ => False

end Message

private theorem TodCommand.code_ofCode (c : UInt8) : (ofCode c).code = c := by
  unfold ofCode
  repeat' split
  all_goals first | rfl | exact Eq.symm ‹_›

theorem TodCommand.ofCode_eq_flush_iff (c : UInt8) : ofCode c = flush ↔ c = 1 := by
  refine ⟨?_, fun h => h ▸ rfl⟩
  intro h
  have hcode := TodCommand.code_ofCode c
  rwa [h, eq_comm] at hcode

namespace Simulation

open Message (peekOpCode_eq_ok_iff)

theorem operation?_eq_some_iff (b : Bytes) (c : UInt16) :
    operation? b = some c ↔ ∃ op, peekOpCode b = .ok op ∧ op.code = c := by
  have hcode : (Message.opcodeAt b).code = word16 (byteAt b 9) (byteAt b 8) :=
    OpCode.code_ofCode _
  rw [operation?, opening_eq_identifier]
  constructor
  · intro h
    split at h
    · cases h
    · rename_i hdatagram
      obtain ⟨hlen, hid⟩ := not_or.mp hdatagram
      refine ⟨_, (peekOpCode_eq_ok_iff b _).mpr
        ⟨Decidable.not_not.mp hid, Nat.not_lt.mp hlen, rfl⟩, ?_⟩
      rw [hcode]
      exact Option.some.inj h
  · rintro ⟨op, hpeek, rfl⟩
    obtain ⟨hid, hlen, rfl⟩ := (peekOpCode_eq_ok_iff b _).mp hpeek
    rw [if_neg (not_or.mpr ⟨Nat.not_lt.mpr hlen, not_not_intro hid⟩), hcode]

theorem operation?_eq_layout_iff (b : Bytes) (l : Layout) :
    operation? b = some l.opcode.code ↔ peekOpCode b = .ok l.opcode := by
  rw [operation?_eq_some_iff]
  refine ⟨?_, fun h => ⟨_, h, rfl⟩⟩
  rintro ⟨op, hpeek, hcode⟩
  obtain ⟨-, -, hop⟩ := (peekOpCode_eq_ok_iff b _).mp hpeek
  have hop' : op = OpCode.ofCode op.code := by
    rw [← hop, Message.opcodeAt, OpCode.code_ofCode]
  rw [hpeek, hop', hcode]
  cases l <;> rfl

theorem request?_eq_some_iff (b : Bytes) (r : Request) :
    request? b = some r ↔ peekOpCode b = .ok .rdm ∧ Intact (b.drop 24) ∧
      r = .ofPacket (byteAt b 21) (byteAt b 23) (atPlaces (b.drop 24)) := by
  constructor
  · intro h
    have hop : operation? b = some 0x8300 := by
      by_contra hother
      rw [request?, if_pos (Or.inl hother)] at h
      cases h
    have hintact : Intact (b.drop 24) := by
      by_contra hdamaged
      rw [request?_of_not_intact hdamaged] at h
      cases h
    rw [request?_of_intact hop hintact] at h
    exact ⟨(operation?_eq_layout_iff b .rdm).mp hop, hintact, (Option.some.inj h).symm⟩
  · rintro ⟨hpeek, hintact, rfl⟩
    exact request?_of_intact ((operation?_eq_layout_iff b .rdm).mpr hpeek) hintact

theorem tableQuery?_eq_some_iff (b : Bytes) (q : TableQuery) :
    tableQuery? b = some q ↔
      (peekOpCode b = .ok .todControl ∧ 24 ≤ b.length ∧ byteAt b 22 = 1 ∧
        q = ⟨byteAt b 21, [byteAt b 23]⟩) ∨
      (peekOpCode b = .ok .todRequest ∧ 24 ≤ b.length ∧
        q = ⟨byteAt b 21, (b.drop 24).take (byteAt b 23).toNat⟩) := by
  have hcontrol : operation? b = some 0x8200 ↔ peekOpCode b = .ok .todControl :=
    operation?_eq_layout_iff b .todControl
  have hrequest : operation? b = some 0x8000 ↔ peekOpCode b = .ok .todRequest :=
    operation?_eq_layout_iff b .todRequest
  rw [← hcontrol, ← hrequest, tableQuery?]
  cases operation? b with
  | none => simp
  | some op =>
    by_cases hlen : b.length < 24
    · simp [hlen, Nat.not_le.mpr hlen]
    by_cases hop : op = 0x8200
    · subst hop
      by_cases hflush : byteAt b 22 = 1
      · simp [hlen, hflush, Nat.not_lt.mp hlen, eq_comm]
      · simp [hlen, hflush]
    · simp [hlen, hop, Nat.not_lt.mp hlen, eq_comm]

/-- A request says what an RDM message of the library says; it has all eight bits of the net. -/
structure Request.Agrees (r : Request) (e : Envelope) : Prop where
  net : r.net &&& 0x7f = e.net
  address : r.address = e.address
  destination : r.destination = e.packet.destination
  source : r.source = e.packet.source
  transaction : r.transaction = e.packet.transaction
  subDevice : r.subDevice = e.packet.subDevice
  command : r.command = e.packet.command.code
  pid : r.pid = e.packet.parameter
  data : r.data = e.packet.data

/-- A query says what a message of the library says; it has all eight bits of the net and as many
universes as there are. -/
inductive TableQuery.Agrees (q : TableQuery) : Message → Prop
  | flush {c : TodControl} (net : q.net &&& 0x7f = c.net) (address : q.addresses = [c.address]) :
    Agrees q (.todControl c)
  | request {r : TodRequest} (net : q.net &&& 0x7f = r.net)
    (addresses : q.addresses.take 32 = r.addresses) : Agrees q (.todRequest r)

section Current

variable {b : Bytes} (hversion : 14 ≤ wordAt b 10)

include hversion

theorem exists_request?_iff :
    (∃ r, request? b = some r) ↔ ∃ e, Message.decode b = .ok (.rdm e) := by
  simp only [request?_eq_some_iff, Message.decode_eq_rdm_iff hversion, exists_and_left,
    exists_eq, and_true]

private theorem request?_agrees {r : Request} {e : Envelope} (hr : request? b = some r)
    (he : Message.decode b = .ok (.rdm e)) : r.Agrees e := by
  obtain ⟨-, -, rfl⟩ := (request?_eq_some_iff b r).mp hr
  obtain ⟨-, -, rfl⟩ := (Message.decode_eq_rdm_iff hversion e).mp he
  exact ⟨rfl, rfl, rfl, rfl, rfl, rfl, rfl, rfl, rfl⟩

theorem exists_tableQuery?_iff :
    (∃ q, tableQuery? b = some q) ↔ ∃ m, Message.decode b = .ok m ∧ m.Queries := by
  constructor
  · rintro ⟨q, hq⟩
    rcases (tableQuery?_eq_some_iff b q).mp hq with ⟨hpeek, hlen, hflush, -⟩ | ⟨hpeek, hlen, -⟩
    · have hread := (Message.decode_eq_todControl_iff hversion _).mpr ⟨hpeek, hlen, rfl⟩
      exact ⟨_, hread, (TodCommand.ofCode_eq_flush_iff _).mpr hflush⟩
    · exact ⟨_, (Message.decode_eq_todRequest_iff hversion _).mpr ⟨hpeek, hlen, rfl⟩, trivial⟩
  · rintro ⟨m, hread, hm⟩
    cases m with
    | todControl c =>
      obtain ⟨hpeek, hlen, rfl⟩ := (Message.decode_eq_todControl_iff hversion c).mp hread
      have hflush := (TodCommand.ofCode_eq_flush_iff _).mp hm
      exact ⟨_, (tableQuery?_eq_some_iff b _).mpr (Or.inl ⟨hpeek, hlen, hflush, rfl⟩)⟩
    | todRequest r =>
      obtain ⟨hpeek, hlen, -⟩ := (Message.decode_eq_todRequest_iff hversion r).mp hread
      exact ⟨_, (tableQuery?_eq_some_iff b _).mpr (Or.inr ⟨hpeek, hlen, rfl⟩)⟩
    | _ => exact hm.elim

private theorem tableQuery?_agrees {q : TableQuery} {m : Message} (hq : tableQuery? b = some q)
    (hm : Message.decode b = .ok m) : q.Agrees m := by
  rcases (tableQuery?_eq_some_iff b q).mp hq with ⟨hpeek, hlen, -, rfl⟩ | ⟨hpeek, hlen, rfl⟩
  · have hread := (Message.decode_eq_todControl_iff hversion _).mpr ⟨hpeek, hlen, rfl⟩
    obtain rfl := Except.ok.inj (hm.symm.trans hread)
    exact .flush rfl rfl
  · have hread := (Message.decode_eq_todRequest_iff hversion _).mpr ⟨hpeek, hlen, rfl⟩
    obtain rfl := Except.ok.inj (hm.symm.trans hread)
    exact .request rfl (by rw [List.take_take, Nat.min_comm])

end Current

/-- One datagram is read in one way. The gateway sees the operation that the library sees; and where
the library takes the version, the gateway sees an RDM request or a request for tables exactly where
the library reads one, with the same fields. -/
theorem readings_agree (b : Bytes) :
    (∀ c, operation? b = some c ↔ ∃ op, peekOpCode b = .ok op ∧ op.code = c) ∧
      (14 ≤ wordAt b 10 →
        ((∃ r, request? b = some r) ↔ ∃ e, Message.decode b = .ok (.rdm e)) ∧
        (∀ r e, request? b = some r → Message.decode b = .ok (.rdm e) → r.Agrees e) ∧
        ((∃ q, tableQuery? b = some q) ↔ ∃ m, Message.decode b = .ok m ∧ m.Queries) ∧
        ∀ q m, tableQuery? b = some q → Message.decode b = .ok m → q.Agrees m) :=
  ⟨operation?_eq_some_iff b, fun hversion =>
    ⟨exists_request?_iff hversion, fun _ _ => request?_agrees hversion,
      exists_tableQuery?_iff hversion, fun _ _ => tableQuery?_agrees hversion⟩⟩

/-- A list of 33 universes on a net with its eighth bit set: the gateway sees them all, the library
the first 32 of them. -/
theorem readings_agree_longList :
    let b := identifier ++ [0, 0x80, 0, 14] ++ List.replicate 9 0 ++ [0x85, 0, 33]
      ++ List.replicate 32 7 ++ [9]
    ∃ m, Message.decode b = .ok m ∧
      TableQuery.Agrees ⟨0x85, List.replicate 32 7 ++ [9]⟩ m := by
  intro b
  have hversion : 14 ≤ wordAt b 10 := by decide
  have hquery : tableQuery? b = some ⟨0x85, List.replicate 32 7 ++ [9]⟩ := by decide
  have h := (readings_agree b).2 hversion
  obtain ⟨m, hread, -⟩ := h.2.2.1.mp ⟨_, hquery⟩
  exact ⟨m, hread, h.2.2.2 _ m hquery hread⟩

end Simulation

end LightingNet
