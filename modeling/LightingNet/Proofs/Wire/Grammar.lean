import LightingNet.Proofs.Wire.Places
/-!
# What is a datagram

A datagram is judged by its identifier, its operation, its length and its version, in that order; an
RDM datagram then by the message in it. Whatever passes is read as a message of the operation that
it names.
-/
namespace LightingNet

open Places
open Simulation (byteAt wordAt)

theorem OpCode.hasVersion_iff (op : OpCode) : op.hasVersion ↔ op ≠ .pollReply := bne_iff_ne

private theorem Layout.ofOpCode?_self (l : Layout) : ofOpCode? l.opcode = some l := by
  cases l <;> rfl

theorem Layout.opcode_eq_pollReply_iff (l : Layout) : l.opcode = .pollReply ↔ l = .pollReply := by
  cases l <;> decide

namespace Message

/-- What becomes of a datagram: the operation of the message that it is read as, or why it is not
read. -/
def verdict (b : Bytes) : Except CodecError OpCode :=
  if b.length < 8 ∨ b.take 8 ≠ identifier then .error .missingIdentifier
  else if b.length < 10 then .error (.tooShort 10 b.length)
  else match Layout.ofOpCode? (opcodeAt b) with
    | none => .ok (opcodeAt b)
    | some l =>
      if b.length < l.minSize then .error (.tooShort l.minSize b.length)
      else if l ≠ .pollReply ∧ wordAt b 10 < 14 then .error (.oldVersion (wordAt b 10))
      else if l = .rdm then (Rdm.Packet.decode (b.drop 24)).map fun _ => opcodeAt b
      else .ok (opcodeAt b)

theorem not_identified_iff (b : Bytes) :
    (b.length < 8 ∨ b.take 8 ≠ identifier) ↔ b.take 8 ≠ identifier := by
  refine ⟨?_, Or.inr⟩
  rintro (hshort | hid)
  · exact fun hid => Nat.not_le.mpr hshort (length_of_identifier hid)
  · exact hid

private theorem map_opcode_decodeAs {l : Layout} {b : Bytes} {op : OpCode} (hop : l.opcode = op) :
    (decodeAs l b).map opcode =
      if b.length < l.minSize then .error (.tooShort l.minSize b.length)
      else if l ≠ .pollReply ∧ wordAt b 10 < 14 then .error (.oldVersion (wordAt b 10))
      else if l = .rdm then (Rdm.Packet.decode (b.drop 24)).map fun _ => op
      else .ok op := by
  have hversion : (l.opcode.hasVersion ∧ wordAt b 10 < protocolVersion) ↔
      (l ≠ .pollReply ∧ wordAt b 10 < 14) := by
    rw [OpCode.hasVersion_iff, Ne, l.opcode_eq_pollReply_iff]
    exact Iff.rfl
  rw [decodeAs_eq]
  by_cases hlen : b.length < l.minSize
  · rw [if_pos hlen, if_pos hlen]
    rfl
  rw [if_neg hlen, if_neg hlen]
  by_cases hold : l ≠ .pollReply ∧ wordAt b 10 < 14
  · rw [if_pos (hversion.mpr hold), if_pos hold]
    rfl
  rw [if_neg (mt hversion.mp hold), if_neg hold]
  by_cases hrdm : l = .rdm
  · subst hrdm hop
    rw [if_pos rfl]
    change Except.map opcode ((readFields .rdm (b.drop 12)).getD _) = _
    rw [readFields_rdm (Nat.not_lt.mp hlen), Option.getD_some]
    cases Rdm.Packet.decode (b.drop 24) <;> rfl
  · obtain ⟨result, -, hread⟩ := fields?_eq_readFields (Nat.not_lt.mp hlen)
    rw [if_neg hrdm, hread, Option.getD_some]
    obtain ⟨m, rfl⟩ := exists_ok_of_readFields hrdm hread
    change Except.ok m.opcode = _
    rw [opcode_of_layout? (layout?_of_readFields hread), hop]

private theorem map_opcode_decode (b : Bytes) : (decode b).map opcode = verdict b := by
  rw [decode_eq, verdict]
  by_cases hid : b.take 8 ≠ identifier
  · rw [if_pos hid, if_pos (Or.inr hid)]
    rfl
  by_cases hlen : b.length < 10
  · rw [if_neg hid, if_neg (mt (not_identified_iff b).mp hid), if_pos hlen, if_pos hlen]
    rfl
  rw [if_neg hid, if_neg (mt (not_identified_iff b).mp hid), if_neg hlen, if_neg hlen]
  cases hlayout : Layout.ofOpCode? (opcodeAt b) with
  | none => rfl
  | some l => exact map_opcode_decodeAs (Layout.opcode_of_ofOpCode? hlayout)

theorem decode_eq_error_iff (b : Bytes) (e : CodecError) :
    decode b = .error e ↔ verdict b = .error e := by
  rw [← map_opcode_decode]
  cases decode b with
  | error found =>
    change _ ↔ Except.error found = Except.error e
    rw [Except.error.injEq, Except.error.injEq]
  | ok m =>
    constructor
    · intro h
      cases h
    · intro h
      cases h

private theorem verdict_of_layout {b : Bytes} {l : Layout} (h : peekOpCode b = .ok l.opcode) :
    verdict b =
      if b.length < l.minSize then .error (.tooShort l.minSize b.length)
      else if l ≠ .pollReply ∧ wordAt b 10 < 14 then .error (.oldVersion (wordAt b 10))
      else if l = .rdm then (Rdm.Packet.decode (b.drop 24)).map fun _ => l.opcode
      else .ok l.opcode := by
  obtain ⟨hid, hlen, hop⟩ := (peekOpCode_eq_ok_iff b _).mp h
  have hid' : ¬(b.length < 8 ∨ b.take 8 ≠ identifier) :=
    mt (not_identified_iff b).mp (not_not_intro hid)
  rw [verdict, if_neg hid', if_neg (Nat.not_lt.mpr hlen), hop, l.ofOpCode?_self]

private theorem ne_of_rdm_error {b : Bytes} {op : OpCode} {e : CodecError}
    (h : ((Rdm.Packet.decode b).map fun _ => op) = .error e) :
    e ≠ .missingIdentifier ∧ (∀ v, e ≠ .oldVersion v) ∧ ∀ n k, e = .tooShort n k → 25 ≤ n := by
  have herror : Rdm.Packet.decode b = .error e := by
    cases hd : Rdm.Packet.decode b with
    | error found =>
      rw [hd] at h
      cases h
      rfl
    | ok p =>
      rw [hd] at h
      cases h
  obtain ⟨n, hn, rfl⟩ | ⟨_, _, rfl⟩ | rfl | rfl := Rdm.Packet.decode_error herror
  · refine ⟨nofun, nofun, ?_⟩
    intro n' k heq
    cases heq
    exact hn
  all_goals exact ⟨nofun, nofun, nofun⟩

theorem decode_missingIdentifier_iff (b : Bytes) :
    decode b = .error .missingIdentifier ↔ b.length < 8 ∨ b.take 8 ≠ identifier := by
  rw [decode_eq_error_iff]
  by_cases hid : b.length < 8 ∨ b.take 8 ≠ identifier
  · rw [verdict, if_pos hid]
    exact iff_of_true rfl hid
  refine iff_of_false ?_ hid
  intro h
  rw [verdict, if_neg hid] at h
  split at h
  · cases h
  split at h
  · cases h
  split at h
  · cases h
  split at h
  · cases h
  split at h
  · exact (ne_of_rdm_error h).1 rfl
  · cases h

theorem decode_tooShort_header_iff {b : Bytes} (hid : b.take 8 = identifier) :
    decode b = .error (.tooShort 10 b.length) ↔ b.length < 10 := by
  have hid' := mt (not_identified_iff b).mp (not_not_intro hid)
  rw [decode_eq_error_iff, verdict, if_neg hid']
  by_cases hlen : b.length < 10
  · rw [if_pos hlen]
    exact iff_of_true rfl hlen
  refine iff_of_false ?_ hlen
  intro h
  rw [if_neg hlen] at h
  split at h
  · cases h
  · rename_i l _
    have hmin : l.minSize ≠ 10 := by cases l <;> decide
    split at h
    · injection h with h
      injection h with hneeded _
      exact hmin hneeded
    split at h
    · cases h
    split at h
    · exact absurd ((ne_of_rdm_error h).2.2 _ _ rfl) (by decide)
    · cases h

theorem decode_tooShort_iff {b : Bytes} {l : Layout} (hl : peekOpCode b = .ok l.opcode) :
    decode b = .error (.tooShort l.minSize b.length) ↔ b.length < l.minSize := by
  rw [decode_eq_error_iff, verdict_of_layout hl]
  by_cases hlen : b.length < l.minSize
  · rw [if_pos hlen]
    exact iff_of_true rfl hlen
  refine iff_of_false ?_ hlen
  intro h
  rw [if_neg hlen] at h
  split at h
  · cases h
  split at h
  · rename_i hrdm
    subst hrdm
    exact absurd ((ne_of_rdm_error h).2.2 _ _ rfl) (by decide)
  · cases h

theorem decode_oldVersion_iff {b : Bytes} {l : Layout} (hl : peekOpCode b = .ok l.opcode)
    (v : UInt16) :
    decode b = .error (.oldVersion v) ↔
      l.minSize ≤ b.length ∧ l ≠ .pollReply ∧ v = wordAt b 10 ∧ v < 14 := by
  rw [decode_eq_error_iff, verdict_of_layout hl]
  by_cases hlen : b.length < l.minSize
  · rw [if_pos hlen]
    exact iff_of_false nofun fun h => Nat.not_le.mpr hlen h.1
  by_cases hold : l ≠ .pollReply ∧ wordAt b 10 < 14
  · rw [if_neg hlen, if_pos hold]
    constructor
    · intro h
      cases h
      exact ⟨Nat.not_lt.mp hlen, hold.1, rfl, hold.2⟩
    · rintro ⟨-, -, rfl, -⟩
      rfl
  refine iff_of_false ?_ ?_
  · intro h
    rw [if_neg hlen, if_neg hold] at h
    split at h
    · exact (ne_of_rdm_error h).2.1 v rfl
    · cases h
  · rintro ⟨-, hreply, rfl, hlt⟩
    exact hold ⟨hreply, hlt⟩

/-- What a reader of datagrams decides, and in which order. The verdict goes through the identifier,
the length of a header, the operation, the least size of its layout, the version and, for RDM, the
message behind the first 24 bytes; each refusal stands for exactly its own reason. What is read is of
the operation that the datagram names, or the datagram itself where that has no layout. No access on
the way is out of range, by whatever layout a datagram is read. -/
theorem decode_decided (b : Bytes) :
    (decode b).map opcode = verdict b ∧
      (decode b = .error .missingIdentifier ↔ b.length < 8 ∨ b.take 8 ≠ identifier) ∧
      (b.take 8 = identifier → (decode b = .error (.tooShort 10 b.length) ↔ b.length < 10)) ∧
      (∀ l : Layout, peekOpCode b = .ok l.opcode →
        (decode b = .error (.tooShort l.minSize b.length) ↔ b.length < l.minSize) ∧
        ∀ v, decode b = .error (.oldVersion v) ↔
          l.minSize ≤ b.length ∧ l ≠ .pollReply ∧ v = wordAt b 10 ∧ v < 14) ∧
      (∀ m, decode b = .ok m → peekOpCode b = .ok m.opcode) ∧
      (∀ op d, decode b = .ok (unsupported op d) ↔
        peekOpCode b = .ok op ∧ Layout.ofOpCode? op = none ∧ d = b) ∧
      decode? b = some (decode b) ∧
      ∀ l, decodeAs? l b = some (decodeAs l b) :=
  ⟨map_opcode_decode b, decode_missingIdentifier_iff b, decode_tooShort_header_iff,
    fun _ hl => ⟨decode_tooShort_iff hl, decode_oldVersion_iff hl⟩, fun _ => peekOpCode_of_decode,
    fun _ _ => decode_eq_unsupported, decode?_eq b, fun l => decodeAs?_eq l b⟩

theorem decode_decided_oldVersion :
    let b := identifier ++ [0, 0x50, 0, 13, 0, 0, 0, 0, 0xff, 0xff]
    decode b = .error (.oldVersion 13) ∧ decode (b.take 9) = .error (.tooShort 10 9) := by
  intro b
  have hpeek : peekOpCode b = .ok Layout.dmx.opcode := by rfl
  have hold := ((decode_decided b).2.2.2.1 .dmx hpeek).2 13
  have hshort := (decode_decided (b.take 9)).2.2.1 (by rfl)
  exact ⟨hold.mpr ⟨by decide, by decide, by decide, by decide⟩, hshort.mpr (by decide)⟩

end Message

end LightingNet
