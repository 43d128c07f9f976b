import LightingNet.Proofs.Rdm.Damage
import LightingNet.Proofs.Wire.Encoding
import LightingNet.Proofs.Wire.Header
/-!
# Damaged datagrams

An RDM datagram carries its message from the 25th byte on. A replaced byte there makes the readers of
both sides refuse the datagram: the codec with an error, the simulated gateway without an answer.
-/
namespace LightingNet

open Rdm (Packet)
open Rdm.Packet (Intact declaredSize)
open Simulation (byteAt wordAt)

theorem Simulation.request?_of_not_intact {b : Bytes} (h : ¬Intact (b.drop 24)) :
    request? b = none := by
  have hlen : (b.drop 24).length = b.length - 24 := List.length_drop
  by_cases hop : operation? b ≠ some 0x8300 ∨ b.length < 49
  · rw [request?, if_pos hop]
  by_cases hsub : byteAt (b.drop 24) 0 ≠ 1
  · simp only [request?, if_neg hop, if_pos hsub]
  by_cases hsize : (b.drop 24).length < 25 + (byteAt (b.drop 24) 22).toNat ∨
      (byteAt (b.drop 24) 1).toNat ≠ 24 + (byteAt (b.drop 24) 22).toNat
  · simp only [request?, if_neg hop, if_neg hsub, if_pos hsize]
  by_cases hsum : sumOf ((b.drop 24).take (23 + (byteAt (b.drop 24) 22).toNat)) ≠
      wordAt (b.drop 24) (23 + (byteAt (b.drop 24) 22).toNat)
  · simp only [request?, if_neg hop, if_neg hsub, if_neg hsize, if_pos hsum]
  have hheader := fun hshort => hop (Or.inr hshort)
  have hwhole := fun hshort => hsize (Or.inl hshort)
  rw [Rdm.sumOf_eq_checksum, Decidable.not_not] at hsum
  exact absurd ⟨by omega, Decidable.not_not.mp hsub,
    Decidable.not_not.mp fun hne => hsize (Or.inr hne), Nat.not_lt.mp hwhole,
    (Packet.summed_iff _ _ _).mp hsum⟩ h

namespace Message

def envelopeFront (e : Envelope) : Bytes :=
  header .rdm ++ [e.rdmVersion] ++ List.replicate 8 0 ++ [e.net &&& 0x7f, e.command, e.address]

theorem length_envelopeFront (e : Envelope) : (envelopeFront e).length = 24 := by
  have hheader : (header .rdm).length = 12 := rfl
  simp only [envelopeFront, List.length_append, hheader, List.length_replicate, List.length_cons,
    List.length_nil]

theorem toBytes_rdm (e : Envelope) : (rdm e).toBytes = envelopeFront e ++ e.packet.toBytes := by
  simp only [toBytes_eq_image, image, Envelope.body, envelopeFront, List.append_assoc]

/-- A reader of an RDM datagram fails as the reader of the message in it does. -/
theorem decode_envelopeFront (e : Envelope) {c : Bytes} {err : CodecError}
    (h : Packet.decode c = .error err) : decode (envelopeFront e ++ c) = .error err := by
  have hfront : envelopeFront e ++ c = header Layout.rdm.opcode ++ (e.rdmVersion ::
      (List.replicate 8 0 ++ ((e.net &&& 0x7f) :: e.command :: e.address :: c))) := by
    simp only [envelopeFront, List.append_assoc, List.cons_append, List.nil_append]
    rfl
  have hfields : readFields .rdm (e.rdmVersion ::
      (List.replicate 8 0 ++ ((e.net &&& 0x7f) :: e.command :: e.address :: c))) =
        some (.error err) := by
    simp only [readFields, Envelope.fields, Reader.bind_byte_cons,
      Reader.bind_skip_append _ List.length_replicate, Reader.bind_remaining, Reader.pure_apply,
      Option.map_some, h]
  rw [hfront, decode_header, hfields, Option.getD_some]
  simp only [List.length_cons, List.length_append, List.length_replicate, Layout.minSize]
  have hsize : Layout.rdm.headerSize = 12 := rfl
  omega

end Message

/-- A replaced byte is noticed. Whatever message is written, at whatever place of it a byte is
replaced by another one, and whatever stands behind it, a reader of the message fails; and in its
datagram a reader of the datagram fails, and the simulated gateway sees no request. -/
theorem replaced_byte_rejected :
    (∀ (p : Packet) (i : Nat) (v : UInt8) (t : Bytes), i < p.encodedLength →
      p.toBytes[i]? ≠ some v → ∃ err, Packet.decode (p.toBytes.set i v ++ t) = .error err) ∧
    (∀ (e : Envelope) (i : Nat) (v : UInt8) (t : Bytes), 24 ≤ i →
      i < (Message.rdm e).encodedLength → (Message.rdm e).toBytes[i]? ≠ some v →
      (∃ err, Message.decode ((Message.rdm e).toBytes.set i v ++ t) = .error err) ∧
        Simulation.request? ((Message.rdm e).toBytes.set i v ++ t) = none) := by
  refine ⟨?_, ?_⟩
  · intro p i v t hi hv
    exact Packet.exists_error_of_not_intact (p.not_intact_toBytes_set hi hv t)
  · intro e i v t hfrom hi hv
    -- The place is one of the message: what stands in front of it is not touched.
    obtain ⟨k, rfl⟩ := Nat.exists_eq_add_of_le hfrom
    have hfront := Message.length_envelopeFront e
    have hset : (Message.rdm e).toBytes.set (24 + k) v ++ t =
        Message.envelopeFront e ++ (e.packet.toBytes.set k v ++ t) := by
      rw [Message.toBytes_rdm, List.set_append_right _ _ (by omega), hfront, Nat.add_sub_cancel_left,
        List.append_assoc]
    have hk : k < e.packet.encodedLength := Nat.add_lt_add_iff_left.mp hi
    have hvk : e.packet.toBytes[k]? ≠ some v := by
      rwa [Message.toBytes_rdm, List.getElem?_append_right (by omega), hfront,
        Nat.add_sub_cancel_left] at hv
    have hdamaged := e.packet.not_intact_toBytes_set hk hvk t
    obtain ⟨err, herr⟩ := Packet.exists_error_of_not_intact hdamaged
    rw [hset]
    refine ⟨⟨err, Message.decode_envelopeFront e herr⟩, Simulation.request?_of_not_intact ?_⟩
    rwa [List.drop_left' hfront]

theorem replaced_byte_rejected_length :
    let e := Envelope.ofPort ⟨0, 1, 2⟩
      (Packet.request ⟨0x4c55, 7⟩ ⟨0x7ff0, 1⟩ 9 .set 0xf0 [0, 0x21])
    (∃ err, Packet.decode (e.packet.toBytes.set 22 1 ++ [0xff]) = .error err) ∧
      Simulation.request? ((Message.rdm e).toBytes.set 46 1 ++ [0xff]) = none := by
  intro e
  have hpacket : e.packet.toBytes[22]? ≠ some 1 := by decide
  have hdatagram : (Message.rdm e).toBytes[46]? ≠ some 1 := by
    rw [Message.toBytes_rdm, List.getElem?_append_right (by decide)]
    exact hpacket
  exact ⟨replaced_byte_rejected.1 e.packet 22 1 [0xff] (by decide) hpacket,
    (replaced_byte_rejected.2 e 46 1 [0xff] (by decide) (by decide) hdatagram).2⟩

end LightingNet
