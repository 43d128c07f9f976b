import LightingNet.Proofs.Rdm.Checksum
/-!
# Reading and writing RDM messages

A reader accepts exactly the bytes that open with an undamaged message, and the message it finds is
spelled by fixed places. Writing that message again gives the same bytes; reading a written message
gives it back up to what the wire does not carry. A writer fills its part of a buffer completely, so
nothing that the buffer held before shows in the length bytes or in the checksum.
-/
namespace LightingNet.Rdm

open Places
open Simulation (byteAt wordAt uidAt)

theorem CommandClass.code_ofCode (c : UInt8) : (CommandClass.ofCode c).code = c := by
  unfold CommandClass.ofCode
  repeat' split
  all_goals first | rfl | exact Eq.symm ‹_›

namespace Packet

def declaredSize (b : Bytes) : Nat := (byteAt b 22).toNat

/-- Some bytes open with a whole message whose lengths and checksum agree with what it holds. -/
structure Intact (b : Bytes) : Prop where
  header : 25 ≤ b.length
  subStart : byteAt b 0 = 1
  messageLength : (byteAt b 1).toNat = 24 + declaredSize b
  whole : 25 + declaredSize b ≤ b.length
  summed : (wordAt b (23 + declaredSize b)).toNat =
    (0xcc + total (b.take (23 + declaredSize b))) % 65536

/-- The message that the places of some bytes spell. -/
def atPlaces (b : Bytes) : Packet where
  destination := uidAt b 2
  source := uidAt b 8
  transaction := byteAt b 14
  portOrResponse := byteAt b 15
  messageCount := byteAt b 16
  subDevice := wordAt b 17
  command := CommandClass.ofCode (byteAt b 19)
  parameter := wordAt b 20
  data := (b.drop 23).take (declaredSize b)

theorem data_atPlaces (b : Bytes) : (atPlaces b).data = (b.drop 23).take (declaredSize b) := rfl

def kept (p : Packet) : Packet :=
  { p with command := CommandClass.ofCode p.command.code, data := p.data.take 231 }

private theorem heading_eq {b : Bytes} (h : 25 ≤ b.length) :
    heading b = some (⟨byteAt b 0, byteAt b 1, { atPlaces b with data := [] }, byteAt b 22⟩,
      b.drop 23) := by
  have hread : heading (b.drop 0) = some (⟨byteAt b 0, byteAt b 1, { atPlaces b with data := [] },
      byteAt b 22⟩, b.drop 23) := by
    simp (disch := omega) only [heading, reads_byte.bind, reads_uid.bind, reads_beWord.bind,
      getElem?_eq_byteAt, uid?_eq_uidAt, beWord?_eq_wordAt, Option.bind_some, Reader.pure_apply,
      Nat.reduceAdd, atPlaces]
  exact hread

private theorem checked_eq {b : Bytes} (h : 25 + declaredSize b ≤ b.length) (hd : Heading)
    (hsize : hd.dataLength = byteAt b 22) :
    checked b hd (b.drop 23) =
      if checksum (b.take (23 + declaredSize b)) = wordAt b (23 + declaredSize b) then
        .ok { hd.packet with data := (b.drop 23).take (declaredSize b) }
      else .error (.checksumMismatch (checksum (b.take (23 + declaredSize b)))
        (wordAt b (23 + declaredSize b))) := by
  have hword : Reader.beWord (b.drop (23 + declaredSize b)) =
      some (wordAt b (23 + declaredSize b), b.drop (23 + declaredSize b + 2)) := by
    rw [reads_beWord, beWord?_eq_wordAt (by omega)]
    rfl
  simp only [checked, hsize, List.drop_drop]
  rw [← declaredSize, hword]

theorem decode_of_short {b : Bytes} (h : b.length < 25) :
    decode b = .error (.tooShort 25 b.length) := by
  simp only [decode, ensureLength, if_pos h]
  rfl

theorem decode_eq {b : Bytes} (h : 25 ≤ b.length) :
    decode b =
      if byteAt b 0 ≠ 1 then .error .badSubStartCode
      else if (byteAt b 1).toNat ≠ 24 + declaredSize b then .error .badMessageLength
      else if b.length < 25 + declaredSize b then
        .error (.tooShort (25 + declaredSize b) b.length)
      else if checksum (b.take (23 + declaredSize b)) = wordAt b (23 + declaredSize b) then
        .ok (atPlaces b)
      else .error (.checksumMismatch (checksum (b.take (23 + declaredSize b)))
        (wordAt b (23 + declaredSize b))) := by
  have hsize : (byteAt b 22).toNat = declaredSize b := rfl
  have hstart : decode b =
      if byteAt b 0 ≠ 1 then .error .badSubStartCode
      else if (byteAt b 1).toNat ≠ 24 + declaredSize b then .error .badMessageLength
      else ensureLength b (25 + declaredSize b) >>= fun _ =>
        checked b ⟨byteAt b 0, byteAt b 1, { atPlaces b with data := [] }, byteAt b 22⟩
          (b.drop 23) := by
    simp only [decode, ensureLength, if_neg (Nat.not_lt.mpr h), heading_eq h, ← hsize]
    rfl
  rw [hstart]
  by_cases hsub : byteAt b 0 ≠ 1
  · simp only [if_pos hsub]
  by_cases hlen : (byteAt b 1).toNat ≠ 24 + declaredSize b
  · simp only [if_neg hsub, if_pos hlen]
  by_cases hwhole : b.length < 25 + declaredSize b
  · simp only [if_neg hsub, if_neg hlen, ensureLength, if_pos hwhole]
    rfl
  simp only [if_neg hsub, if_neg hlen, ensureLength, if_neg hwhole]
  exact checked_eq (Nat.not_lt.mp hwhole) _ rfl

theorem decode_error {b : Bytes} {e : CodecError} (h : decode b = .error e) :
    (∃ n, 25 ≤ n ∧ e = .tooShort n b.length) ∨
      (∃ computed carried, e = .checksumMismatch computed carried) ∨
      e = .badSubStartCode ∨ e = .badMessageLength := by
  by_cases hshort : b.length < 25
  · rw [decode_of_short hshort] at h
    cases h
    exact Or.inl ⟨25, Nat.le_refl 25, rfl⟩
  rw [decode_eq (Nat.not_lt.mp hshort)] at h
  split at h
  · cases h
    exact Or.inr (Or.inr (Or.inl rfl))
  split at h
  · cases h
    exact Or.inr (Or.inr (Or.inr rfl))
  split at h
  · cases h
    exact Or.inl ⟨_, Nat.le_add_right 25 _, rfl⟩
  split at h
  · cases h
  · cases h
    exact Or.inr (Or.inl ⟨_, _, rfl⟩)

theorem summed_iff (b : Bytes) (n i : Nat) :
    checksum (b.take n) = wordAt b i ↔ (wordAt b i).toNat = (0xcc + total (b.take n)) % 65536 := by
  rw [← UInt16.toNat_inj, toNat_checksum]
  exact eq_comm

/-- A reader accepts what opens with an undamaged message, and nothing else. -/
theorem decode_eq_ok {b : Bytes} {p : Packet} : decode b = .ok p ↔ Intact b ∧ p = atPlaces b := by
  by_cases hshort : b.length < 25
  · rw [decode_of_short hshort]
    constructor
    · intro h
      cases h
    · intro h
      exact absurd h.1.header (Nat.not_le.mpr hshort)
  have hheader := Nat.not_lt.mp hshort
  rw [decode_eq hheader]
  constructor
  · intro h
    split at h
    · cases h
    split at h
    · cases h
    split at h
    · cases h
    split at h
    · rename_i hsub hlen hwhole hsum
      cases h
      exact ⟨⟨hheader, Decidable.not_not.mp hsub, Decidable.not_not.mp hlen, Nat.not_lt.mp hwhole,
        (summed_iff _ _ _).mp hsum⟩, rfl⟩
    · cases h
  · rintro ⟨hb, rfl⟩
    rw [if_neg (not_not_intro hb.subStart), if_neg (not_not_intro hb.messageLength),
      if_neg (Nat.not_lt.mpr hb.whole), if_pos ((summed_iff _ _ _).mpr hb.summed)]

private theorem length_carried (p : Packet) : p.carried.length = min p.data.length 231 := by
  rw [carried, List.length_take, maxData, Nat.min_comm]

theorem length_carried_le (p : Packet) : p.carried.length ≤ 231 := by
  rw [length_carried]
  exact Nat.min_le_right _ _

theorem encodedLength_eq (p : Packet) : p.encodedLength = 25 + p.carried.length := by
  rw [length_carried]
  rfl

def front (p : Packet) : Bytes :=
  [1, UInt8.ofNat (24 + p.carried.length)] ++ p.destination.bytes ++ p.source.bytes
    ++ [p.transaction, p.portOrResponse, p.messageCount] ++ be16 p.subDevice ++ [p.command.code]
    ++ be16 p.parameter ++ [UInt8.ofNat p.carried.length]

private theorem length_front (p : Packet) : p.front.length = 23 := rfl

private theorem covered_eq (p : Packet) : p.covered = p.front ++ p.carried := rfl

private theorem length_covered (p : Packet) : p.covered.length = 23 + p.carried.length := by
  rw [covered_eq, List.length_append, length_front]

theorem length_toBytes (p : Packet) : p.toBytes.length = p.encodedLength := by
  rw [toBytes, List.length_append, length_covered, length_be16, encodedLength_eq]
  omega

private theorem toBytes_append (p : Packet) (t : Bytes) :
    p.toBytes ++ t = p.front ++ (p.carried ++ (be16 (checksum p.covered) ++ t)) := by
  rw [toBytes, covered_eq, List.append_assoc, List.append_assoc]

theorem declaredSize_toBytes (p : Packet) (t : Bytes) :
    declaredSize (p.toBytes ++ t) = p.carried.length := by
  have hle := length_carried_le p
  have hbyte : declaredSize (p.toBytes ++ t) = (UInt8.ofNat p.carried.length).toNat := by
    rw [toBytes_append]
    rfl
  rw [hbyte, UInt8.toNat_ofNat', Nat.mod_eq_of_lt (by omega)]

private theorem heading_front (p : Packet) (rest : Bytes) :
    heading (p.front ++ rest) =
      some (⟨1, UInt8.ofNat (24 + p.carried.length), { p.kept with data := [] },
        UInt8.ofNat p.carried.length⟩, rest) := by
  simp only [heading, front, List.append_assoc, List.cons_append, List.nil_append,
    Reader.bind_byte_cons, Reader.undoes_uid.bind, Reader.undoes_beWord.bind, Reader.pure_apply]
  rfl

private theorem eq_of_rest_eq {p q : Packet} (hrest : { p with data := [] } = { q with data := [] })
    (hdata : p.data = q.data) : p = q :=
  calc p
    _ = { { p with data := [] } with data := p.data } := rfl
    _ = { { q with data := [] } with data := q.data } := by rw [hrest, hdata]
    _ = q := rfl

/-- The places of a written message spell what the wire keeps of it: a reader that goes through the
fields in order finds the same. -/
theorem atPlaces_toBytes (p : Packet) (t : Bytes) : atPlaces (p.toBytes ++ t) = p.kept := by
  have hdata : (atPlaces (p.toBytes ++ t)).data = p.kept.data := by
    rw [data_atPlaces, declaredSize_toBytes, toBytes_append, List.drop_left' (length_front p),
      List.take_left' rfl]
    rfl
  have hplaces := heading_eq (b := p.toBytes ++ t) (by
    rw [List.length_append, length_toBytes, encodedLength_eq]
    omega)
  rw [toBytes_append, heading_front, ← toBytes_append] at hplaces
  simp only [Option.some.injEq, Prod.mk.injEq, Heading.mk.injEq] at hplaces
  exact eq_of_rest_eq hplaces.1.2.2.1.symm hdata

theorem intact_toBytes (p : Packet) (t : Bytes) : Intact (p.toBytes ++ t) := by
  have hle := length_carried_le p
  have hsize := declaredSize_toBytes p t
  have hlength : (p.toBytes ++ t).length = 25 + p.carried.length + t.length := by
    rw [List.length_append, length_toBytes, encodedLength_eq]
  have hcovered : (p.toBytes ++ t).take (23 + p.carried.length) = p.covered := by
    rw [toBytes, List.append_assoc, List.take_left' (length_covered p)]
  have hword : wordAt (p.toBytes ++ t) (23 + p.carried.length) = checksum p.covered := by
    rw [toBytes, List.append_assoc, wordAt_append_be16 (length_covered p)]
  constructor
  · omega
  · rw [toBytes_append]
    rfl
  · have hbyte : byteAt (p.toBytes ++ t) 1 = UInt8.ofNat (24 + p.carried.length) := by
      rw [toBytes_append]
      rfl
    rw [hsize, hbyte, UInt8.toNat_ofNat', Nat.mod_eq_of_lt (by omega)]
  · omega
  · rw [hsize, hcovered, hword, toNat_checksum]

theorem decode_toBytes (p : Packet) (t : Bytes) : decode (p.toBytes ++ t) = .ok p.kept :=
  decode_eq_ok.mpr ⟨intact_toBytes p t, (atPlaces_toBytes p t).symm⟩

theorem Intact.declaredSize_le {b : Bytes} (h : Intact b) : declaredSize b ≤ 231 := by
  have hlen := h.messageLength
  have hlt := (byteAt b 1).toNat_lt
  omega

private theorem Intact.carried_atPlaces {b : Bytes} (h : Intact b) :
    (atPlaces b).carried = (b.drop 23).take (declaredSize b) := by
  have hle := h.declaredSize_le
  rw [carried, atPlaces, List.take_take, maxData, Nat.min_eq_right hle]

theorem Intact.length_carried_atPlaces {b : Bytes} (h : Intact b) :
    (atPlaces b).carried.length = declaredSize b := by
  have hwhole := h.whole
  rw [h.carried_atPlaces, List.length_take, List.length_drop]
  omega

private theorem Intact.front_atPlaces {b : Bytes} (h : Intact b) :
    (atPlaces b).front = b.take 23 := by
  have hheader := h.header
  have hone : UInt8.ofNat (24 + declaredSize b) = byteAt b 1 := by
    rw [← h.messageLength, UInt8.ofNat_toNat]
  have hsize : UInt8.ofNat (declaredSize b) = byteAt b 22 := UInt8.ofNat_toNat
  rw [take_eq_map_byteAt (by omega), front, h.length_carried_atPlaces, hone, hsize]
  simp only [atPlaces, Uid.bytes, uidAt, wordAt, be16_word16, be32_word32,
    CommandClass.code_ofCode, ← h.subStart]
  rfl

theorem Intact.toBytes_atPlaces {b : Bytes} (h : Intact b) :
    (atPlaces b).toBytes = b.take (25 + declaredSize b) := by
  have hwhole := h.whole
  have hcovered : (atPlaces b).covered = b.take (23 + declaredSize b) := by
    rw [covered_eq, h.front_atPlaces, h.carried_atPlaces, ← List.take_add]
  have hsum : checksum (b.take (23 + declaredSize b)) = wordAt b (23 + declaredSize b) :=
    (summed_iff _ _ _).mpr h.summed
  rw [toBytes, hcovered, hsum, ← take_two_eq_be16 (by omega), ← List.take_add]
  congr 1
  omega

private theorem adjoin_fields (p : Packet) : Adjoin 0 (23 + p.carried.length) p.fields :=
  ⟨rfl, rfl, rfl, rfl, rfl, rfl, rfl, rfl, rfl, rfl, rfl, rfl, rfl⟩

private theorem flatMap_fields (p : Packet) : p.fields.flatMap Prod.snd = p.covered := by
  simp only [fields, List.flatMap_cons, List.flatMap_nil, List.append_nil, covered,
    List.append_assoc, List.cons_append, List.nil_append]

/-- Whatever a buffer held, a writer leaves a message in it that depends on the fields alone. -/
theorem fill?_eq {p : Packet} {buffer : Bytes} (h : p.encodedLength ≤ buffer.length) :
    fill? p buffer = some (p.toBytes ++ buffer.drop p.encodedLength) := by
  rw [encodedLength_eq] at h ⊢
  have hfields : putAll? buffer p.fields =
      some (p.covered ++ buffer.drop (23 + p.carried.length)) := by
    have hall := putAll?_adjoin (b := buffer) List.length_nil p.adjoin_fields (by omega)
    rwa [List.nil_append, List.nil_append, List.drop_zero, flatMap_fields] at hall
  have htake : (p.covered ++ buffer.drop (23 + p.carried.length)).take (23 + p.carried.length) =
      p.covered := List.take_left' (length_covered p)
  have hsum := put?_next (length_covered p) buffer (be16 (checksum p.covered))
    (show 23 + p.carried.length + 2 ≤ buffer.length by omega)
  have hstop : 25 + p.carried.length = 23 + p.carried.length + 2 := by omega
  simp only [fill?, hfields, Option.bind_eq_bind, Option.bind_some, htake, hsum, toBytes,
    length_be16, hstop]

/-- Reading and writing are inverse to each other: a reader accepts exactly the bytes that open with
an undamaged message, these bytes are what its message is written as, and a written message is read
back up to what the wire does not carry. A message fills its part of a buffer with bytes, lengths and
checksum included, that depend on its fields alone. -/
theorem codec_bijection (b t buffer : Bytes) (p : Packet) :
    ((∃ q, decode b = .ok q) ↔ Intact b) ∧
      (∀ q, decode b = .ok q →
        q.data.length ≤ 231 ∧ q.toBytes = b.take (25 + declaredSize b)) ∧
      decode (p.toBytes ++ t) = .ok p.kept ∧
      (p.encodedLength ≤ buffer.length →
        fill? p buffer = some (p.toBytes ++ buffer.drop p.encodedLength) ∧
          p.encode buffer = .ok (p.encodedLength, p.toBytes ++ buffer.drop p.encodedLength)) := by
  refine ⟨⟨?_, ?_⟩, ?_, decode_toBytes p t, ?_⟩
  · rintro ⟨q, hq⟩
    exact (decode_eq_ok.mp hq).1
  · intro h
    exact ⟨_, decode_eq_ok.mpr ⟨h, rfl⟩⟩
  · intro q hq
    obtain ⟨h, rfl⟩ := decode_eq_ok.mp hq
    refine ⟨?_, h.toBytes_atPlaces⟩
    exact Nat.le_trans (List.length_take_le _ _) h.declaredSize_le
  · intro h
    exact ⟨fill?_eq h, if_neg (Nat.not_lt.mpr h)⟩

theorem codec_bijection_set :
    let p := request ⟨0x4c55, 0x102⟩ ⟨0x7ff0, 1⟩ 0x2a .set 0xf0 [0, 0x21]
    p.toBytes = (p.toBytes ++ [0xff]).take 27 ∧
      fill? p (List.replicate 30 0xee) = some (p.toBytes ++ [0xee, 0xee, 0xee]) := by
  intro p
  have hread : decode (p.toBytes ++ [0xff]) = .ok p := decode_toBytes p [0xff]
  have hsize : declaredSize (p.toBytes ++ [0xff]) = 2 := declaredSize_toBytes p [0xff]
  have hroom : p.encodedLength ≤ (List.replicate 30 (0xee : UInt8)).length := by decide
  have h := codec_bijection (p.toBytes ++ [0xff]) [] (List.replicate 30 0xee) p
  have hbytes := (h.2.1 p hread).2
  rw [hsize] at hbytes
  exact ⟨hbytes, (h.2.2.2 hroom).1⟩

end Packet

end LightingNet.Rdm
