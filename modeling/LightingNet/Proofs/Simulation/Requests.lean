import LightingNet.Proofs.Wire.Damage
import LightingNet.Proofs.Wire.RoundTrip
/-!
# RDM between the library and the simulation

The simulated gateway reads requests and builds answers by rules of its own. It finds in a request
what the library wrote there, and what it builds is the datagram of an RDM message of the library.
-/
namespace LightingNet.Simulation

open Rdm (Packet)
open Rdm.Packet (Intact atPlaces declaredSize)

theorem opening_eq_identifier : opening = identifier := by decide

private theorem versioned_eq_header (op : OpCode) (h : op.hasVersion = true) :
    versioned op.code = Message.header op := by
  rw [versioned, Message.header, if_pos h, opening_eq_identifier]
  rfl

theorem operation?_header (op : OpCode) (c : Bytes) :
    operation? (Message.header op ++ c) = some op.code := by
  have hlen : 10 ≤ (Message.header op ++ c).length := by
    have hid : identifier.length = 8 := rfl
    simp only [Message.header_append, List.length_append, length_le16, hid]
    omega
  have hopening : (Message.header op ++ c).take 8 = opening := by
    rw [Message.header_append, opening_eq_identifier]
    rfl
  have hcode : word16 (byteAt (Message.header op ++ c) 9) (byteAt (Message.header op ++ c) 8) =
      op.code := by
    rw [Message.header_append]
    exact word16_of_halves op.code
  have hdatagram : ¬((Message.header op ++ c).length < 10 ∨
      (Message.header op ++ c).take 8 ≠ opening) := by
    simp only [hopening, ne_eq, not_true_eq_false, or_false]
    omega
  rw [operation?, if_neg hdatagram, hcode]

namespace Request

def ofPacket (net address : UInt8) (p : Packet) : Request :=
  ⟨net, address, p.destination, p.source, p.transaction, p.subDevice, p.command.code, p.parameter,
    p.data⟩

def answer (r : Request) (transaction kind : UInt8) (data : Bytes) : Packet :=
  ⟨r.source, r.destination, transaction, kind, 0, r.subDevice,
    if r.command = 0x30 then .setResponse else .getResponse, r.pid, data⟩

end Request

theorem request?_of_intact {b : Bytes} (hop : operation? b = some 0x8300) (h : Intact (b.drop 24)) :
    request? b = some (.ofPacket (byteAt b 21) (byteAt b 23) (atPlaces (b.drop 24))) := by
  have hlen : (b.drop 24).length = b.length - 24 := List.length_drop
  have hheader := h.header
  have hsize : ¬((b.drop 24).length < 25 + (byteAt (b.drop 24) 22).toNat ∨
      (byteAt (b.drop 24) 1).toNat ≠ 24 + (byteAt (b.drop 24) 22).toNat) := by
    have hlength := h.messageLength
    have hwhole := h.whole
    rw [declaredSize] at hlength hwhole
    omega
  have hsum : sumOf ((b.drop 24).take (23 + (byteAt (b.drop 24) 22).toNat)) =
      wordAt (b.drop 24) (23 + (byteAt (b.drop 24) 22).toNat) := by
    rw [Rdm.sumOf_eq_checksum]
    exact (Packet.summed_iff _ _ _).mpr h.summed
  simp only [request?, hop, ne_eq, not_true_eq_false, false_or, if_neg hsize, h.subStart, hsum,
    if_false, if_neg (show ¬b.length < 49 by omega), Request.ofPacket, atPlaces, declaredSize,
    Rdm.CommandClass.code_ofCode]

theorem request?_toBytes (e : Envelope) :
    request? (Message.rdm e).toBytes =
      some (.ofPacket (e.net &&& 0x7f) e.address e.packet.kept) := by
  have hbytes := Message.toBytes_rdm e
  have hfront := Message.length_envelopeFront e
  have hop : operation? (Message.rdm e).toBytes = some 0x8300 := by
    rw [hbytes, Message.envelopeFront]
    simp only [List.append_assoc]
    exact operation?_header .rdm _
  have hpacket : (Message.rdm e).toBytes.drop 24 = e.packet.toBytes ++ [] := by
    rw [hbytes, List.drop_left' hfront, List.append_nil]
  have hnet : byteAt (Message.rdm e).toBytes 21 = e.net &&& 0x7f := by
    rw [hbytes]
    rfl
  have haddress : byteAt (Message.rdm e).toBytes 23 = e.address := by
    rw [hbytes]
    rfl
  rw [request?_of_intact hop (hpacket ▸ e.packet.intact_toBytes []), hpacket,
    e.packet.atPlaces_toBytes, hnet, haddress]

/-- What a gateway answers is the datagram of a message. -/
theorem response_eq_toBytes (r : Request) (hnet : r.net ≤ 0x7f) (transaction kind : UInt8)
    (data : Bytes) :
    response r transaction kind data =
      (Message.rdm ⟨1, r.net, 0, r.address, r.answer transaction kind data⟩).toBytes := by
  have hclass : (r.answer transaction kind data).command.code =
      if r.command = 0x30 then 0x31 else 0x21 := by
    simp only [Request.answer]
    split <;> rfl
  rw [Message.toBytes_rdm, Packet.toBytes, ← Rdm.sumOf_eq_checksum, Packet.covered,
    Message.envelopeFront, ← versioned_eq_header .rdm rfl, (and_seven_bits_iff _).mpr hnet, hclass]
  simp only [response, List.append_assoc]
  rfl

theorem decode_response (r : Request) (hnet : r.net ≤ 0x7f) (transaction kind : UInt8)
    (data : Bytes) :
    Message.decode (response r transaction kind data) =
      .ok (.rdm ⟨1, r.net, 0, r.address, r.answer transaction kind (data.take 231)⟩) := by
  have hread := Message.decode_toBytes
    (m := .rdm ⟨1, r.net, 0, r.address, r.answer transaction kind data⟩) trivial []
  have hclass : Rdm.CommandClass.ofCode (r.answer transaction kind data).command.code =
      (r.answer transaction kind data).command := by
    simp only [Request.answer]
    split <;> rfl
  rw [List.append_nil] at hread
  rw [response_eq_toBytes r hnet, hread]
  simp only [Message.kept, Envelope.kept, Packet.kept, (and_seven_bits_iff _).mpr hnet, hclass]
  rfl

end LightingNet.Simulation
