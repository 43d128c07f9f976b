import LightingNet.Proofs.Bytes.Places
import LightingNet.Wire.Message
/-!
# Headers

What a reader finds out about a datagram before it reads any field: the identifier, the operation,
the size that the layout needs and the version, in that order.
-/
namespace LightingNet

open Places
open Simulation (byteAt wordAt)

namespace Layout

private theorem ofOpCode?_opcode (l : Layout) :
    ofOpCode? (OpCode.ofCode l.opcode.code) = some l := by
  cases l <;> rfl

theorem opcode_of_ofOpCode? {op : OpCode} {l : Layout} (h : ofOpCode? op = some l) :
    l.opcode = op := by
  unfold ofOpCode? at h
  split at h
  all_goals cases h
  all_goals rfl

theorem length_header (l : Layout) : (Message.header l.opcode).length = l.headerSize := by
  cases l <;> rfl

theorem headerSize_le (l : Layout) : 10 ≤ l.headerSize ∧ l.headerSize ≤ l.minSize := by
  cases l <;> decide

end Layout

theorem length_of_identifier {b : Bytes} (h : b.take 8 = identifier) : 8 ≤ b.length := by
  have hlen : (b.take 8).length = 8 := congrArg List.length h
  rw [List.length_take] at hlen
  omega

namespace Message

def opcodeAt (b : Bytes) : OpCode := OpCode.ofCode (word16 (byteAt b 9) (byteAt b 8))

private theorem peekOpCode_eq (b : Bytes) :
    peekOpCode b =
      if b.take 8 ≠ identifier then .error .missingIdentifier
      else if b.length < 10 then .error (.tooShort 10 b.length)
      else .ok (opcodeAt b) := by
  by_cases hid : b.take 8 ≠ identifier
  · rw [peekOpCode, if_pos hid, if_pos hid]
  rw [peekOpCode, if_neg hid, if_neg hid, reads_leWord]
  by_cases hlen : b.length < 10
  · have hnone : leWord? b 8 = none := by
      rw [leWord?, List.getElem?_eq_none (show b.length ≤ 8 + 1 by omega)]
      cases b[8]? <;> rfl
    rw [if_pos hlen, hnone]
    rfl
  · rw [if_neg hlen, leWord?_eq_word16 (by omega)]
    rfl

theorem peekOpCode_eq_ok_iff (b : Bytes) (op : OpCode) :
    peekOpCode b = .ok op ↔ b.take 8 = identifier ∧ 10 ≤ b.length ∧ opcodeAt b = op := by
  rw [peekOpCode_eq]
  by_cases hid : b.take 8 ≠ identifier
  · rw [if_pos hid]
    constructor
    · intro h
      cases h
    · intro h
      exact absurd h.1 hid
  by_cases hlen : b.length < 10
  · rw [if_neg hid, if_pos hlen]
    constructor
    · intro h
      cases h
    · intro h
      exact absurd h.2.1 (Nat.not_le.mpr hlen)
  rw [if_neg hid, if_neg hlen, Except.ok.injEq]
  exact ⟨fun h => ⟨Decidable.not_not.mp hid, Nat.not_lt.mp hlen, h⟩, fun h => h.2.2⟩

theorem decodeAs_eq (l : Layout) (b : Bytes) :
    decodeAs l b =
      if b.length < l.minSize then .error (.tooShort l.minSize b.length)
      else if l.opcode.hasVersion ∧ wordAt b 10 < protocolVersion then
        .error (.oldVersion (wordAt b 10))
      else (readFields l (b.drop l.headerSize)).getD (.error (.tooShort l.minSize b.length)) := by
  by_cases hlen : b.length < l.minSize
  · simp only [decodeAs, ensureLength, if_pos hlen]
    rfl
  have hstart : decodeAs l b = checkVersion l b >>= fun _ =>
      (readFields l (b.drop l.headerSize)).getD (.error (.tooShort l.minSize b.length)) := by
    simp only [decodeAs, ensureLength, if_neg hlen]
    cases readFields l (b.drop l.headerSize) <;> rfl
  rw [hstart, if_neg hlen, checkVersion]
  cases hv : l.opcode.hasVersion with
  | false =>
    rw [if_neg Bool.false_ne_true, if_neg fun h => Bool.false_ne_true h.1]
    rfl
  | true =>
    have hword : Reader.beWord (b.drop 10) = some (wordAt b 10, b.drop 12) := by
      have hmin : 12 ≤ l.minSize := by
        have hle := l.headerSize_le.2
        rwa [Layout.headerSize, if_pos hv] at hle
      rw [reads_beWord, beWord?_eq_wordAt (by omega)]
      rfl
    rw [if_pos rfl, hword]
    by_cases hold : wordAt b 10 < protocolVersion
    · rw [if_pos ⟨rfl, hold⟩]
      simp only [if_pos hold]
      rfl
    · rw [if_neg fun h => hold h.2]
      simp only [if_neg hold]
      rfl

/-- The checks of a reader in their order, up to the choice of a layout. -/
theorem decode_eq (b : Bytes) :
    decode b =
      if b.take 8 ≠ identifier then .error .missingIdentifier
      else if b.length < 10 then .error (.tooShort 10 b.length)
      else match Layout.ofOpCode? (opcodeAt b) with
        | some l => decodeAs l b
        | none => .ok (unsupported (opcodeAt b) b) := by
  rw [decode, peekOpCode_eq]
  by_cases hid : b.take 8 ≠ identifier
  · rw [if_pos hid, if_pos hid]
    rfl
  by_cases hlen : b.length < 10
  · rw [if_neg hid, if_neg hid, if_pos hlen, if_pos hlen]
    rfl
  · rw [if_neg hid, if_neg hid, if_neg hlen, if_neg hlen]
    rfl

def layout? : Message → Option Layout
  | poll _ => some .poll
  | pollReply _ => some .pollReply
  | diagnostic _ => some .diagnostic
  | dmx _ => some .dmx
  | sync => some .sync
  | programming _ => some .programming
  | todRequest _ => some .todRequest
  | todData _ => some .todData
  | todControl _ => some .todControl
  | rdm _ => some .rdm
  | unsupported _ _ => none

theorem opcode_of_layout? {m : Message} {l : Layout} (h : m.layout? = some l) :
    m.opcode = l.opcode := by
  cases m <;> cases h <;> rfl

theorem layout?_of_readFields {l : Layout} {b : Bytes} {m : Message}
    (h : readFields l b = some (.ok m)) : m.layout? = some l := by
  cases l with
  | sync =>
    cases h
    rfl
  | rdm =>
    simp only [readFields, Option.map_eq_some_iff] at h
    obtain ⟨r, -, h⟩ := h
    split at h
    · cases h
      rfl
    · cases h
  | _ =>
    simp only [readFields, Option.map_eq_some_iff] at h
    obtain ⟨r, -, h⟩ := h
    cases h
    rfl

theorem exists_ok_of_readFields {l : Layout} (hl : l ≠ .rdm) {b : Bytes}
    {result : Except CodecError Message} (h : readFields l b = some result) :
    ∃ m, result = .ok m := by
  cases l with
  | rdm => exact absurd rfl hl
  | sync =>
    cases h
    exact ⟨sync, rfl⟩
  | _ =>
    simp only [readFields, Option.map_eq_some_iff] at h
    obtain ⟨r, -, rfl⟩ := h
    exact ⟨_, rfl⟩

private theorem readFields_of_decodeAs {l : Layout} {b : Bytes} {m : Message}
    (h : decodeAs l b = .ok m) :
    l.minSize ≤ b.length ∧ readFields l (b.drop l.headerSize) = some (.ok m) := by
  rw [decodeAs_eq] at h
  by_cases hlen : b.length < l.minSize
  · rw [if_pos hlen] at h
    cases h
  by_cases hold : l.opcode.hasVersion ∧ wordAt b 10 < protocolVersion
  · rw [if_neg hlen, if_pos hold] at h
    cases h
  rw [if_neg hlen, if_neg hold] at h
  cases hread : readFields l (b.drop l.headerSize) with
  | none =>
    rw [hread] at h
    cases h
  | some result =>
    rw [hread, Option.getD_some] at h
    exact ⟨Nat.not_lt.mp hlen, congrArg some h⟩

private theorem layout?_of_decodeAs {l : Layout} {b : Bytes} {m : Message}
    (h : decodeAs l b = .ok m) : m.layout? = some l :=
  layout?_of_readFields (readFields_of_decodeAs h).2

theorem peekOpCode_of_decode {b : Bytes} {m : Message} (h : decode b = .ok m) :
    peekOpCode b = .ok m.opcode := by
  rw [decode_eq] at h
  by_cases hid : b.take 8 ≠ identifier
  · rw [if_pos hid] at h
    cases h
  by_cases hlen : b.length < 10
  · rw [if_neg hid, if_pos hlen] at h
    cases h
  rw [if_neg hid, if_neg hlen] at h
  rw [peekOpCode_eq, if_neg hid, if_neg hlen]
  cases hlayout : Layout.ofOpCode? (opcodeAt b) with
  | none =>
    rw [hlayout] at h
    cases h
    rfl
  | some l =>
    rw [hlayout] at h
    rw [opcode_of_layout? (layout?_of_decodeAs h), Layout.opcode_of_ofOpCode? hlayout]

theorem decode_of_layout {b : Bytes} {l : Layout} (h : peekOpCode b = .ok l.opcode) :
    decode b = decodeAs l b := by
  obtain ⟨hid, hheader, hop⟩ := (peekOpCode_eq_ok_iff b _).mp h
  rw [decode_eq, if_neg (not_not_intro hid), if_neg (Nat.not_lt.mpr hheader), hop]
  cases l <;> rfl

theorem readFields_of_decode {b : Bytes} {m : Message} {l : Layout} (h : decode b = .ok m)
    (hl : m.layout? = some l) :
    l.minSize ≤ b.length ∧ readFields l (b.drop l.headerSize) = some (.ok m) := by
  have hpeek : peekOpCode b = .ok l.opcode := by
    rw [peekOpCode_of_decode h, opcode_of_layout? hl]
  rw [decode_of_layout hpeek] at h
  exact readFields_of_decodeAs h

/-- A datagram is kept whole exactly when its operation has no layout, and then as it is. -/
theorem decode_eq_unsupported {b d : Bytes} {op : OpCode} :
    decode b = .ok (unsupported op d) ↔
      peekOpCode b = .ok op ∧ Layout.ofOpCode? op = none ∧ d = b := by
  rw [decode]
  cases hpeek : peekOpCode b with
  | error e =>
    constructor
    · intro h
      cases h
    · intro h
      cases h.1
  | ok found =>
    change (match Layout.ofOpCode? found with
      | some l => decodeAs l b
      | none => .ok (unsupported found b)) = _ ↔ _
    cases hlayout : Layout.ofOpCode? found with
    | none =>
      constructor
      · intro h
        cases h
        exact ⟨rfl, hlayout, rfl⟩
      · rintro ⟨hop, -, rfl⟩
        cases hop
        rfl
    | some l =>
      constructor
      · intro h
        cases layout?_of_decodeAs h
      · rintro ⟨hop, hnone, -⟩
        cases hop
        rw [hlayout] at hnone
        cases hnone

theorem header_append (op : OpCode) (c : Bytes) :
    header op ++ c =
      identifier ++
        (le16 op.code ++ ((if op.hasVersion then be16 protocolVersion else []) ++ c)) := by
  simp only [header, List.append_assoc]

private theorem opcodeAt_header (op : OpCode) (c : Bytes) :
    opcodeAt (header op ++ c) = OpCode.ofCode op.code := by
  have hcode : ∀ rest, word16 (byteAt (identifier ++ (le16 op.code ++ rest)) 9)
      (byteAt (identifier ++ (le16 op.code ++ rest)) 8) = op.code :=
    fun _ => word16_of_halves op.code
  rw [opcodeAt, header_append, hcode]

private theorem wordAt_header {op : OpCode} (h : op.hasVersion) (c : Bytes) :
    wordAt (header op ++ c) 10 = protocolVersion := by
  rw [header_append, if_pos h, ← List.append_assoc]
  exact wordAt_append_be16 rfl protocolVersion c

theorem decode_header (l : Layout) (c : Bytes) (h : l.minSize ≤ l.headerSize + c.length) :
    decode (header l.opcode ++ c) =
      (readFields l c).getD (.error (.tooShort l.minSize (l.headerSize + c.length))) := by
  have hlen : (header l.opcode ++ c).length = l.headerSize + c.length := by
    rw [List.length_append, l.length_header]
  have hmin := l.headerSize_le
  have hid : (header l.opcode ++ c).take 8 = identifier := by rw [header_append]; rfl
  have hversion : ¬(l.opcode.hasVersion ∧ wordAt (header l.opcode ++ c) 10 < protocolVersion) := by
    rintro ⟨hv, hold⟩
    rw [wordAt_header hv] at hold
    exact absurd hold (by decide)
  have hchoice : decode (header l.opcode ++ c) = decodeAs l (header l.opcode ++ c) := by
    rw [decode_eq, if_neg (not_not_intro hid), if_neg (by omega), opcodeAt_header,
      l.ofOpCode?_opcode]
  rw [hchoice, decodeAs_eq, if_neg (by omega), if_neg hversion, List.drop_left' l.length_header,
    hlen]

end Message

end LightingNet
