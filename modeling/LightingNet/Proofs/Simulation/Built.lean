import LightingNet.Proofs.Simulation.Tables
/-!
# What the library reads in built datagrams

Every datagram that the simulated gateway builds is one of the library, however the gateway is set
up. A poll reply tells of its binding within the bits and the room of its fields, a block has the
first 200 identifiers, and the answer to a request is the reply that the request calls for.
-/
namespace LightingNet

private theorem Rdm.ResponseType.code_ofCode (c : UInt8) : (ofCode c).code = c := by
  unfold ofCode
  repeat' split
  all_goals first | rfl | exact Eq.symm ‹_›

namespace Simulation

open Rdm (Packet)

private theorem fieldText_nameBytes {width : Nat} (h : 0 < width) (s : String) :
    fieldText (nameBytes width s) = keptText (width - 1) s := by
  have hroom : ((Utf8.ofString s).take (width - 1)).length ≤ width - 1 := List.length_take_le _ _
  obtain ⟨k, hk⟩ := Nat.exists_eq_succ_of_ne_zero
    (show width - ((Utf8.ofString s).take (width - 1)).length ≠ 0 by omega)
  simp only [nameBytes, hk, List.replicate_succ]
  rw [fieldText, untilNul_append_zero, ← untilNul_map_asciiByte]
  rfl

private theorem fourField_take {α : Type} (f : α → UInt8) (xs : List α) :
    fourField f (xs.take 4) = fourField f xs := by
  have hfour : fourOf f (xs.take 4) = fourOf f xs := by
    simp only [fourOf, List.take_take, Nat.min_self]
  simp only [fourField, hfour]

/-- A poll reply tells of a binding: its address and identity as they are, its net and sub-net within
their bits, its names within their fields, and its first four outputs in order. -/
structure Tells (r : PollReply) (s : Setup) (b : Binding) (ip : Ipv4) (port : UInt16) : Prop where
  ip : r.ip = ip
  port : r.port = port
  bindIp : r.bindIp = s.bindIp
  bindIndex : r.bindIndex = b.bindIndex
  net : r.netSwitch = s.net &&& 0x7f
  subnet : r.subSwitch = s.subnet &&& 0x0f
  estaManufacturer : r.estaManufacturer = s.estaManufacturer
  shortName : r.shortName = keptText 17 s.shortName
  longName : r.longName = keptText 63 s.longName
  outputs : r.outputs = (b.outputs.take 4).map fun o => PortAddress.masked s.net s.subnet o.uni

namespace Setup

variable (s : Setup) (b : Binding) (ip : Ipv4) (port : UInt16)

private theorem replyOf_within :
    s.replyOf b ip port =
      (s.onNet s.net s.subnet).replyOf { b with outputs := b.outputs.take 4 } ip port := by
  have hcount : min (b.outputs.take 4).length 4 = min b.outputs.length 4 := by
    rw [List.length_take]
    omega
  simp only [replyOf, onNet, lowNibble, fourField_take, hcount, and_mask_idem]

private theorem outputs_replyOf_masked :
    (s.replyOf b ip port).outputs =
      (b.outputs.take 4).map fun o => PortAddress.masked s.net s.subnet o.uni := by
  have hnet : (s.onNet s.net s.subnet).net ≤ 0x7f :=
    (and_seven_bits_iff _).mp (and_mask_idem s.net 0x7f)
  have hsubnet : (s.onNet s.net s.subnet).subnet ≤ 0x0f :=
    (and_four_bits_iff _).mp (and_mask_idem s.subnet 0x0f)
  rw [replyOf_within, outputs_replyOf hnet hsubnet (List.length_take_le 4 b.outputs)]
  rfl

private theorem tells_replyOf : Tells (s.replyOf b ip port) s b ip port where
  ip := rfl
  port := rfl
  bindIp := rfl
  bindIndex := rfl
  net := rfl
  subnet := rfl
  estaManufacturer := rfl
  shortName := fieldText_nameBytes (by decide) s.shortName
  longName := fieldText_nameBytes (by decide) s.longName
  outputs := s.outputs_replyOf_masked b ip port

end Setup

private theorem answer_ofPacket {p : Packet} (h : p.command = .get ∨ p.command = .set)
    (net address c : UInt8) (data : Bytes) :
    (Request.ofPacket net address p.kept).answer p.transaction c data = p.reply (.ofCode c) data := by
  have hcode : p.kept.command.code = p.command.code := Rdm.CommandClass.code_ofCode p.command.code
  have hclass : (if p.kept.command.code = 0x30 then Rdm.CommandClass.setResponse else .getResponse) =
      p.command.response?.getD p.command := by
    rw [hcode]
    rcases h with h | h <;> rw [h] <;> rfl
  rw [Packet.reply, Rdm.ResponseType.code_ofCode, ← hclass]
  rfl

private theorem answers_reply {p : Packet} (h : p.command = .get ∨ p.command = .set)
    (type : Rdm.ResponseType) (data : Bytes) : (p.reply type data).answers p = true := by
  rcases h with h | h <;> simp [Packet.answers, Packet.reply, Packet.isResponse, h,
    Rdm.CommandClass.response?, Rdm.CommandClass.isResponse]

/-- Datagrams are read as what they were built from. A poll reply tells of its binding, a block has
its fields and the first 200 of its identifiers, and a gateway sees a request in the datagram of one
and answers it, with whatever kind and data, by a datagram of the library's reply, which the
requester takes. -/
theorem built_datagrams_read :
    (∀ (s : Setup) (b : Binding) (ip : Ipv4) (port : UInt16),
      ∃ r, Message.decode (pollReply s b ip port) = .ok (.pollReply r) ∧ Tells r s b ip port) ∧
    (∀ (net portNumber bindIndex address response : UInt8) (uids : List Rdm.Uid),
      Message.decode (tableBlock net portNumber bindIndex address response uids) =
        .ok (.todData ⟨1, portNumber, bindIndex, net &&& 0x7f, .ofCode response, address,
          UInt16.ofNat (min uids.length 200), 0, uids.take 200⟩)) ∧
    ∀ e : Envelope, e.net ≤ 0x7f → (e.packet.command = .get ∨ e.packet.command = .set) →
      ∃ r, request? (Message.rdm e).toBytes = some r ∧ ∀ (c : UInt8) (data : Bytes),
        let reply := e.packet.reply (.ofCode c) (data.take 231)
        Message.decode (response r e.packet.transaction c data) =
            .ok (.rdm ⟨1, e.net, 0, e.address, reply⟩) ∧
          reply.answers e.packet = true := by
  refine ⟨?_, ?_, ?_⟩
  · intro s b ip port
    exact ⟨_, s.decode_pollReply b ip port, s.tells_replyOf b ip port⟩
  · intro net portNumber bindIndex address response uids
    have htotal : (uids.take 200).length = min uids.length 200 := by
      rw [List.length_take, Nat.min_comm]
    rw [decode_tableBlock, blockData, List.take_take, Nat.min_self, htotal]
  · intro e hnet hcommand
    refine ⟨_, request?_toBytes e, ?_⟩
    intro c data reply
    have hsame : e.net &&& 0x7f = e.net := (and_seven_bits_iff _).mpr hnet
    refine ⟨?_, answers_reply hcommand _ _⟩
    rw [hsame, decode_response _ hnet, answer_ofPacket hcommand]
    rfl

/-- A request whose data does not fit a message is answered with data that do not fit either. -/
theorem built_datagrams_read_long :
    let e : Envelope := ⟨1, 5, 0, 0x12,
      ⟨⟨0x4c55, 7⟩, ⟨0x7ff0, 1⟩, 200, 1, 0, 3, .set, 0xf0, List.replicate 300 9⟩⟩
    e.net ≤ 0x7f ∧ (e.packet.command = .get ∨ e.packet.command = .set) ∧
      ∃ r, request? (Message.rdm e).toBytes = some r ∧
        Message.decode (response r 200 0 (List.replicate 300 4)) =
          .ok (.rdm ⟨1, 5, 0, 0x12, e.packet.reply .ack (List.replicate 231 4)⟩) := by
  intro e
  have hnet : e.net ≤ 0x7f := by decide
  have hcommand : e.packet.command = .get ∨ e.packet.command = .set := Or.inr rfl
  have hcut : (List.replicate 300 (4 : UInt8)).take 231 = List.replicate 231 4 := by
    rw [List.take_replicate]
    rfl
  obtain ⟨r, hr, hanswers⟩ := built_datagrams_read.2.2 e hnet hcommand
  have hread := (hanswers 0 (List.replicate 300 4)).1
  rw [hcut] at hread
  exact ⟨hnet, hcommand, r, hr, hread⟩

end Simulation

end LightingNet
