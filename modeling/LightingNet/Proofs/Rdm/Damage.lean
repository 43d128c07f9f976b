import LightingNet.Proofs.Rdm.Packet
/-!
# Damaged messages

One replaced byte is always noticed. The sub-start code and the message length are compared
directly; the declared size has to agree with the message length; any other byte moves either the
checksum that is computed or the one that is carried.
-/
namespace LightingNet.Rdm.Packet

open Places
open Simulation (byteAt wordAt)

private theorem declaredSize_set {i : Nat} (h : i ≠ 22) (b : Bytes) (v : UInt8) :
    declaredSize (b.set i v) = declaredSize b := by
  rw [declaredSize, byteAt_set_ne h, declaredSize]

/-- Behind the lengths, a replaced byte either moves the computed checksum and leaves the carried one
or moves the carried one and leaves the computed one. -/
private theorem summed_set {b : Bytes} {i size : Nat} (hwhole : 25 + size ≤ b.length)
    (hi : i < 25 + size) {v : UInt8} (hv : v ≠ byteAt b i)
    (hsum : checksum (b.take (23 + size)) = wordAt b (23 + size)) :
    checksum ((b.set i v).take (23 + size)) ≠ wordAt (b.set i v) (23 + size) := by
  by_cases hcovered : i < 23 + size
  · have htake : i < (b.take (23 + size)).length := by
      rw [List.length_take]
      omega
    rw [wordAt_set_of_lt hcovered, List.take_set, ← hsum]
    exact checksum_set_ne htake (by rwa [byteAt_take hcovered])
  · have hword := wordAt_set_ne (j := 23 + size) (show i < b.length by omega) (by omega) hv
    rw [List.take_set_of_le (Nat.not_lt.mp hcovered), hsum]
    exact hword.symm

private theorem Intact.not_set {b : Bytes} (h : Intact b) {i : Nat} (hi : i < 25 + declaredSize b)
    {v : UInt8} (hv : v ≠ byteAt b i) : ¬Intact (b.set i v) := by
  intro h'
  have hwhole := h.whole
  have hself : byteAt (b.set i v) i = v := byteAt_set_self (by omega) v
  -- The three bytes that are compared with a fixed value or with each other come first; the
  -- declared size has to be known to be the same before the two checksums can be compared.
  by_cases hsub : i = 0
  · subst hsub
    have hone := h'.subStart
    rw [hself, ← h.subStart] at hone
    exact hv hone
  by_cases hsize : i = 22
  · subst hsize
    have hlen := h'.messageLength
    have hdeclared : declaredSize (b.set 22 v) = v.toNat := by rw [declaredSize, hself]
    rw [byteAt_set_ne (by decide), h.messageLength, hdeclared] at hlen
    exact hv (UInt8.toNat_inj.mp (Nat.add_left_cancel hlen).symm)
  have hsame := declaredSize_set hsize b v
  by_cases hlength : i = 1
  · subst hlength
    have hlen := h'.messageLength
    rw [hself, hsame, ← h.messageLength] at hlen
    exact hv (UInt8.toNat_inj.mp hlen)
  have hsum := (summed_iff _ _ _).mpr h.summed
  have hsum' := (summed_iff _ _ _).mpr h'.summed
  rw [hsame] at hsum'
  exact summed_set hwhole hi hv hsum hsum'

theorem not_intact_toBytes_set (p : Packet) {i : Nat} (hi : i < p.encodedLength) {v : UInt8}
    (hv : p.toBytes[i]? ≠ some v) (t : Bytes) : ¬Intact (p.toBytes.set i v ++ t) := by
  have hlen : i < p.toBytes.length := by rwa [length_toBytes]
  have hsize : i < 25 + declaredSize (p.toBytes ++ t) := by
    rwa [declaredSize_toBytes, ← encodedLength_eq]
  have hbyte : v ≠ byteAt (p.toBytes ++ t) i := by
    intro heq
    apply hv
    have hi' : i < (p.toBytes ++ t).length := by
      rw [List.length_append]
      omega
    rw [heq, ← getElem?_eq_byteAt hi', List.getElem?_append_left hlen]
  rw [← List.set_append_left i v hlen]
  exact (intact_toBytes p t).not_set hsize hbyte

theorem exists_error_of_not_intact {b : Bytes} (h : ¬Intact b) : ∃ e, decode b = .error e := by
  cases hd : decode b with
  | error e => exact ⟨e, rfl⟩
  | ok p => exact absurd (decode_eq_ok.mp hd).1 h

end LightingNet.Rdm.Packet
