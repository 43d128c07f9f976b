import LightingNet.Proofs.Wire.Damage
import LightingNet.Proofs.Wire.Places
/-!
# Writing into a buffer

A message is written into its part of a buffer field by field, each field at its place; the part is
cleared first, since the fields leave gaps. Every write lies in that part and together they make up
the bytes of the message, so nothing that the buffer held before shows there, and nothing outside
changes. A buffer that is too short stays as it was.
-/
namespace LightingNet

open Places

namespace Places

def Ordered (stop : Nat) : Nat → List (Nat × Bytes) → Prop
  | i, [] => i ≤ stop
  | i, (j, xs) :: fields => i ≤ j ∧ Ordered stop (j + xs.length) fields

def spread (stop : Nat) : Nat → List (Nat × Bytes) → Bytes
  | i, [] => List.replicate (stop - i) 0
  | i, (j, xs) :: fields => List.replicate (j - i) 0 ++ xs ++ spread stop (j + xs.length) fields

/-- Some fields are in order, and in a cleared buffer they make up some bytes from `i` to `stop`. -/
structure Laid (stop i : Nat) (fields : List (Nat × Bytes)) (bytes : Bytes) : Prop where
  ordered : Ordered stop i fields
  spread : spread stop i fields = bytes

private theorem Ordered.le {stop i : Nat} {fields : List (Nat × Bytes)}
    (h : Ordered stop i fields) : i ≤ stop := by
  induction fields generalizing i with
  | nil => exact h
  | cons field fields ih =>
    have hrest := ih h.2
    have hplace := h.1
    omega

private theorem putAll?_cleared {done : Bytes} {i stop : Nat} {fields : List (Nat × Bytes)}
    (hi : done.length = i) (h : Ordered stop i fields) :
    putAll? (done ++ List.replicate (stop - i) 0) fields = some (done ++ spread stop i fields) := by
  induction fields generalizing done i with
  | nil => rfl
  | cons field fields ih =>
    obtain ⟨j, xs⟩ := field
    obtain ⟨hplace, hrest⟩ := h
    have hstop := hrest.le
    have hgap : (done ++ List.replicate (j - i) 0).length = j := by
      rw [List.length_append, List.length_replicate]
      omega
    have hsplit : done ++ List.replicate (stop - i) (0 : UInt8) =
        (done ++ List.replicate (j - i) 0) ++ (List.replicate stop 0).drop j := by
      rw [List.drop_replicate, List.append_assoc, List.replicate_append_replicate]
      congr 2
      omega
    have hroom : j + xs.length ≤ (List.replicate stop (0 : UInt8)).length := by
      rw [List.length_replicate]
      exact hstop
    have hlen : ((done ++ List.replicate (j - i) 0) ++ xs).length = j + xs.length := by
      rw [List.length_append, hgap]
    rw [putAll?, hsplit, put?_next hgap _ _ hroom, Option.bind_some, List.drop_replicate,
      ih hlen hrest, spread]
    simp only [List.append_assoc]

private theorem putAll?_zeros {stop : Nat} {fields : List (Nat × Bytes)}
    (h : Ordered stop 0 fields) :
    putAll? (List.replicate stop 0) fields = some (spread stop 0 fields) :=
  putAll?_cleared List.length_nil h

end Places

namespace Message

private theorem ordered_header (l : Layout) (n : Nat) (fields : List (Nat × Bytes)) :
    Ordered n 0 (headerWrites l.opcode ++ fields) ↔ Ordered n l.headerSize fields := by
  have hid : identifier.length = 8 := rfl
  rw [headerWrites, Layout.headerSize]
  split <;> simp [Ordered, hid]

private theorem spread_header (l : Layout) (n : Nat) (fields : List (Nat × Bytes)) :
    spread n 0 (headerWrites l.opcode ++ fields) =
      header l.opcode ++ spread n l.headerSize fields := by
  have hid : identifier.length = 8 := rfl
  rw [headerWrites, header, Layout.headerSize]
  split <;> simp [spread, hid]

private theorem fillFields?_eq {l : Layout} {fields : List (Nat × Bytes)} {buffer body : Bytes}
    (h : Laid buffer.length l.headerSize fields body) :
    fillFields? l fields buffer = some (header l.opcode ++ body) := by
  rw [fillFields?, putAll?_zeros ((ordered_header _ _ _).mpr h.ordered), spread_header, h.spread]

end Message

private theorem Poll.laid_writes (p : Poll) : Laid 22 12 p.writes p.body := by
  constructor
  · simp [Ordered, writes]
  · rfl

private theorem PollReply.laid_writes (r : PollReply) : Laid 239 10 r.writes r.body := by
  constructor
  · simp [Ordered, writes, Ipv4.numbers, length_textField]
  · unfold body
    simp [writes, spread, Ipv4.numbers, length_textField]

private theorem Diagnostic.laid_writes (d : Diagnostic) :
    Laid (18 + d.carried.length + 1) 12 d.writes d.body := by
  constructor
  · simp [Ordered, writes]
  · have hlast : 18 + (d.carried.length + 1) - (18 + d.carried.length) = 1 := by omega
    simp [writes, spread, body, Nat.add_assoc, hlast]

private theorem DmxFrame.laid_writes (f : DmxFrame) :
    Laid (18 + f.carried.length) 12 f.writes f.body := by
  constructor
  · simp [Ordered, writes]
  · simp [writes, spread, body]

private theorem NodeProgramming.laid_writes (p : NodeProgramming) :
    Laid 107 12 p.writes p.body := by
  constructor
  · simp [Ordered, writes, length_textField]
  · simp [writes, spread, body, length_textField]

private theorem TodRequest.laid_writes (r : TodRequest) :
    Laid (24 + r.carried.length) 12 r.writes r.body := by
  constructor
  · simp [Ordered, writes]
  · simp [writes, spread, body]

private theorem Rdm.Uid.laid_slots (i : Nat) (us : List Uid) :
    Laid (i + us.length * 6) i (slots i us) (us.flatMap bytes) := by
  induction us generalizing i with
  | nil => exact ⟨Nat.le_refl i, by simp [slots, spread]⟩
  | cons u us ih =>
    have hstop : i + (u :: us).length * 6 = i + 6 + us.length * 6 := by
      rw [List.length_cons]
      omega
    obtain ⟨hordered, hspread⟩ := ih (i + 6)
    rw [hstop]
    constructor
    · exact ⟨Nat.le_refl i, hordered⟩
    · rw [slots, Places.spread, length_bytes, hspread]
      simp

private theorem TodData.laid_writes (d : TodData) :
    Laid (28 + d.carried.length * 6) 12 d.writes d.body := by
  obtain ⟨hordered, hspread⟩ := Rdm.Uid.laid_slots 28 d.carried
  constructor
  · simp [Ordered, writes, hordered]
  · simp [writes, spread, body, hspread]

private theorem TodControl.laid_writes (c : TodControl) : Laid 24 12 c.writes c.body := by
  constructor
  · simp [Ordered, writes]
  · simp [writes, spread, body]

private theorem Envelope.laid_writes (e : Envelope) {n : Nat} (hn : 24 ≤ n) :
    Laid n 12 e.writes ([e.rdmVersion] ++ List.replicate 8 0
      ++ [e.net &&& 0x7f, e.command, e.address] ++ List.replicate (n - 24) 0) := by
  constructor
  · simp [Ordered, writes, hn]
  · simp [writes, spread]

namespace Message

/-- All the writes of a message lie in a buffer of its length, and fill it with its bytes. -/
theorem fill?_eq {m : Message} {buffer : Bytes} (h : buffer.length = m.encodedLength) :
    m.fill? buffer = some m.toBytes := by
  rw [toBytes_eq_image]
  cases m with
  | poll p => exact fillFields?_eq (h ▸ p.laid_writes)
  | pollReply r => exact fillFields?_eq (h ▸ r.laid_writes)
  | diagnostic d =>
    have hlen : buffer.length = 18 + d.carried.length + 1 := by
      rw [h, encodedLength, Diagnostic.carried, length_wireText]
    exact fillFields?_eq (hlen ▸ d.laid_writes)
  | dmx f =>
    have hlen : buffer.length = 18 + f.carried.length := by
      rw [h, encodedLength, DmxFrame.carried, List.length_take, Nat.min_comm]
    exact fillFields?_eq (hlen ▸ f.laid_writes)
  | sync =>
    have hlaid : Laid buffer.length 12 [] [0, 0] := by
      rw [h]
      exact ⟨show 12 ≤ 14 by decide, rfl⟩
    exact fillFields?_eq hlaid
  | programming p => exact fillFields?_eq (h ▸ p.laid_writes)
  | todRequest r =>
    have hlen : buffer.length = 24 + r.carried.length := by
      rw [h, encodedLength, TodRequest.carried, List.length_take, Nat.min_comm]
    exact fillFields?_eq (hlen ▸ r.laid_writes)
  | todData d =>
    have hlen : buffer.length = 28 + d.carried.length * 6 := by
      rw [h, encodedLength, TodData.carried, List.length_take, Nat.min_comm]
    exact fillFields?_eq (hlen ▸ d.laid_writes)
  | todControl c => exact fillFields?_eq (h ▸ c.laid_writes)
  | rdm e =>
    have hlen : buffer.length = 24 + e.packet.encodedLength := h
    have hwritten : fillFields? .rdm e.writes buffer =
        some (envelopeFront e ++ List.replicate e.packet.encodedLength 0) := by
      rw [fillFields?_eq (e.laid_writes (by omega)), hlen, Nat.add_sub_cancel_left]
      simp only [envelopeFront, List.append_assoc]
      rfl
    have hrest : tail? (envelopeFront e ++ List.replicate e.packet.encodedLength 0) 24 =
        some (List.replicate e.packet.encodedLength 0) := by
      rw [tail?_eq_drop (by simp [length_envelopeFront]), List.drop_left' (length_envelopeFront e)]
    have hpacket : e.packet.fill? (List.replicate e.packet.encodedLength 0) =
        some e.packet.toBytes := by
      rw [Rdm.Packet.fill?_eq (by simp), List.drop_replicate, Nat.sub_self, List.replicate_zero,
        List.append_nil]
    simp only [fill?, hwritten, hrest, hpacket, Option.bind_eq_bind, Option.bind_some,
      List.take_left' (length_envelopeFront e)]
    rw [← toBytes_rdm, toBytes_eq_image]
    rfl
  | unsupported op d =>
    have hlen : buffer.length = d.length := h
    rw [fill?, put?, if_pos (by omega), List.take_zero, List.nil_append,
      List.drop_eq_nil_of_le (by omega), List.append_nil]
    rfl

end Message

namespace Places

/-- The outcome of an encoder that gives the buffer back only when it succeeds. -/
def settled (buffer : Bytes) : Except CodecError (Nat × Bytes) → Except CodecError Nat × Bytes
  | .ok (written, after) => (.ok written, after)
  | .error e => (.error e, buffer)

/-- A buffer differs from what it was before only in a window, which holds an image. -/
structure Overwritten (before : Bytes) (offset : Nat) (image after : Bytes) : Prop where
  length : after.length = before.length
  window : (after.drop offset).take image.length = image
  outside : ∀ i, i < offset ∨ offset + image.length ≤ i → after[i]? = before[i]?

/-- A call puts an image into every buffer that has room for it from an offset on, and tells where
it ends. Any other buffer is left alone. -/
structure FillsWindow (write : Overwrite) (offset : Nat) (image : Bytes) : Prop where
  written : ∀ buffer, offset + image.length ≤ buffer.length →
    ∃ after, write buffer = some (.ok (offset + image.length), after) ∧
      Overwritten buffer offset image after
  refused : ∀ buffer, buffer.length < offset + image.length →
    ∃ needed available, write buffer = some (.error (.bufferTooSmall needed available), buffer)

private theorem overwritten_splice {before : Bytes} {offset : Nat} {image : Bytes}
    (h : offset + image.length ≤ before.length) :
    Overwritten before offset image
      (before.take offset ++ image ++ before.drop (offset + image.length)) := by
  have hfront : (before.take offset).length = offset := by
    rw [List.length_take, Nat.min_eq_left (by omega)]
  have hwindow : (before.take offset ++ image).length = offset + image.length := by
    rw [List.length_append, hfront]
  constructor
  · rw [List.length_append, hwindow, List.length_drop]
    omega
  · rw [List.append_assoc, List.drop_left' hfront, List.take_left' rfl]
  · rintro i (hi | hi)
    · rw [List.append_assoc, List.getElem?_append_left (by omega), List.getElem?_take_of_lt hi]
    · rw [List.getElem?_append_right (by omega), hwindow, List.getElem?_drop]
      congr 1
      omega

section

variable {fill? : Bytes → Option Bytes} {image : Bytes}

private theorem overwrite?_eq
    (hfill : ∀ window, window.length = image.length → fill? window = some image) (buffer : Bytes) :
    overwrite? image.length fill? buffer = some (
      if image.length ≤ buffer.length then
        (.ok image.length, image ++ buffer.drop image.length)
      else (.error (.bufferTooSmall image.length buffer.length), buffer)) := by
  by_cases hroom : image.length ≤ buffer.length
  · have hwindow : (buffer.take image.length).length = image.length := by
      rw [List.length_take, Nat.min_eq_left hroom]
    rw [overwrite?, if_neg (Nat.not_lt.mpr hroom), hfill _ hwindow, if_pos hroom]
    rfl
  · rw [overwrite?, if_pos (Nat.not_le.mp hroom), if_neg hroom]

private theorem overwriteAt?_eq
    (hfill : ∀ window, window.length = image.length → fill? window = some image)
    (offset : Nat) (buffer : Bytes) :
    overwriteAt? image.length fill? offset buffer = some (
      if offset + image.length ≤ buffer.length then
        (.ok (offset + image.length),
          buffer.take offset ++ image ++ buffer.drop (offset + image.length))
      else if offset ≤ buffer.length then
        (.error (.bufferTooSmall image.length (buffer.length - offset)), buffer)
      else (.error (.bufferTooSmall (offset + image.length) buffer.length), buffer)) := by
  by_cases hoffset : offset ≤ buffer.length
  · simp only [overwriteAt?, tail?_eq_drop hoffset, overwrite?_eq hfill, List.length_drop,
      Option.bind_eq_bind, Option.bind_some]
    by_cases hroom : offset + image.length ≤ buffer.length
    · rw [if_pos (by omega), if_pos hroom, List.drop_drop, List.append_assoc]
      rfl
    · rw [if_neg (by omega), if_neg hroom, if_pos hoffset, List.take_append_drop]
      rfl
  · rw [overwriteAt?, tail?, if_neg hoffset, if_neg (by omega), if_neg hoffset]

private theorem overwriteAt?_zero (length : Nat) (fill? : Bytes → Option Bytes) :
    overwriteAt? length fill? 0 = overwrite? length fill? := by
  funext buffer
  simp only [overwriteAt?, tail?_eq_drop (Nat.zero_le _), List.drop_zero, Option.bind_eq_bind]
  cases overwrite? length fill? buffer with
  | none => rfl
  | some result =>
    obtain ⟨outcome, after⟩ := result
    cases outcome with
    | error e => rfl
    | ok written => simp [Except.map]

private theorem fillsWindow_overwriteAt?
    (hfill : ∀ window, window.length = image.length → fill? window = some image) (offset : Nat) :
    FillsWindow (overwriteAt? image.length fill? offset) offset image := by
  constructor
  · intro buffer hroom
    refine ⟨_, ?_, overwritten_splice hroom⟩
    rw [overwriteAt?_eq hfill, if_pos hroom]
  · intro buffer hshort
    rw [overwriteAt?_eq hfill, if_neg (by omega)]
    split
    · exact ⟨_, _, rfl⟩
    · exact ⟨_, _, rfl⟩

end

end Places

namespace Rdm.Packet

private theorem fill?_window (p : Packet) {window : Bytes} (h : window.length = p.toBytes.length) :
    p.fill? window = some p.toBytes := by
  rw [length_toBytes] at h
  rw [fill?_eq (Nat.le_of_eq h.symm), List.drop_eq_nil_of_le (Nat.le_of_eq h), List.append_nil]

private theorem overwrite?_settled (p : Packet) (buffer : Bytes) :
    p.overwrite? buffer = some (settled buffer (p.encode buffer)) := by
  rw [overwrite?, ← length_toBytes, overwrite?_eq fun _ => p.fill?_window, encode, length_toBytes]
  by_cases hroom : p.encodedLength ≤ buffer.length
  · rw [if_pos hroom, if_neg (Nat.not_lt.mpr hroom)]
    rfl
  · rw [if_neg hroom, if_pos (Nat.not_le.mp hroom)]
    rfl

end Rdm.Packet

namespace Message

private theorem encode_eq (m : Message) (buffer : Bytes) :
    m.encode buffer =
      if m.encodedLength ≤ buffer.length then
        .ok (m.encodedLength, m.toBytes ++ buffer.drop m.encodedLength)
      else .error (.bufferTooSmall m.encodedLength buffer.length) := by
  rw [encode, toBytes_eq_image]
  by_cases hroom : m.encodedLength ≤ buffer.length
  · rw [if_pos hroom, if_neg (Nat.not_lt.mpr hroom)]
  · rw [if_neg hroom, if_pos (Nat.not_le.mp hroom)]

private theorem encodeAt_eq (m : Message) (buffer : Bytes) (offset : Nat) :
    m.encodeAt buffer offset =
      if offset + m.encodedLength ≤ buffer.length then
        .ok (offset + m.encodedLength,
          buffer.take offset ++ m.toBytes ++ buffer.drop (offset + m.encodedLength))
      else if offset ≤ buffer.length then
        .error (.bufferTooSmall m.encodedLength (buffer.length - offset))
      else .error (.bufferTooSmall (offset + m.encodedLength) buffer.length) := by
  by_cases hoffset : offset ≤ buffer.length
  · simp only [encodeAt, if_neg (Nat.not_lt.mpr hoffset), encode_eq, List.length_drop]
    by_cases hroom : offset + m.encodedLength ≤ buffer.length
    · rw [if_pos (by omega), if_pos hroom, List.drop_drop, List.append_assoc]
    · rw [if_neg (by omega), if_neg hroom, if_pos hoffset]
  · rw [encodeAt, if_pos (Nat.not_le.mp hoffset), if_neg (by omega), if_neg hoffset]

private theorem overwriteAt?_settled (m : Message) (offset : Nat) (buffer : Bytes) :
    m.overwriteAt? offset buffer = some (settled buffer (m.encodeAt buffer offset)) := by
  have hfill : ∀ window : Bytes, window.length = m.toBytes.length →
      m.fill? window = some m.toBytes := fun _ h => fill?_eq (h.trans m.length_toBytes)
  rw [overwriteAt?, ← length_toBytes, overwriteAt?_eq hfill, encodeAt_eq, length_toBytes]
  split
  · rfl
  split
  · rfl
  · rfl

end Message

/-- Encoding fills its window and leaves the rest of a buffer alone. Written field by field, a
message takes the window from an offset on whenever the buffer has room for it; no write is out of
range, and the outcome and the buffer are those of the encoder. At the front of a buffer the error
tells the two lengths. A buffer of the announced length is always enough. The same holds of an RDM
message by itself. -/
theorem encoding_fills_window (m : Message) (p : Rdm.Packet) (offset : Nat) (buffer : Bytes) :
    FillsWindow (m.overwriteAt? offset) offset m.toBytes ∧
      m.overwriteAt? offset buffer = some (settled buffer (m.encodeAt buffer offset)) ∧
      m.encode buffer = m.encodeAt buffer 0 ∧
      (buffer.length < m.encodedLength →
        m.encode buffer = .error (.bufferTooSmall m.encodedLength buffer.length)) ∧
      m.toBytes.length = m.encodedLength ∧
      m.encode (List.replicate m.encodedLength 0) = .ok (m.encodedLength, m.toBytes) ∧
      FillsWindow p.overwrite? 0 p.toBytes ∧
      p.overwrite? buffer = some (settled buffer (p.encode buffer)) ∧
      (buffer.length < p.encodedLength →
        p.encode buffer = .error (.bufferTooSmall p.encodedLength buffer.length)) ∧
      p.toBytes.length = p.encodedLength := by
  refine ⟨?_, m.overwriteAt?_settled offset buffer, ?_, ?_, m.length_toBytes, ?_, ?_,
    p.overwrite?_settled buffer, ?_, p.length_toBytes⟩
  · rw [Message.overwriteAt?, ← m.length_toBytes]
    exact fillsWindow_overwriteAt? (fun _ h => Message.fill?_eq (h.trans m.length_toBytes)) offset
  · rw [Message.encode_eq, Message.encodeAt_eq, if_pos (Nat.zero_le _), Nat.zero_add, Nat.sub_zero,
      List.take_zero, List.nil_append]
  · intro hshort
    rw [Message.encode_eq, if_neg (Nat.not_le.mpr hshort)]
  · rw [Message.encode_eq, List.length_replicate, if_pos (Nat.le_refl _), List.drop_replicate,
      Nat.sub_self, List.replicate_zero, List.append_nil]
  · rw [Rdm.Packet.overwrite?, ← p.length_toBytes, ← overwriteAt?_zero]
    exact fillsWindow_overwriteAt? (fun _ => p.fill?_window) 0
  · exact fun hshort => if_pos hshort

theorem encoding_fills_window_sync :
    let buffer := List.replicate 17 (0xee : UInt8)
    (∃ after, Message.sync.overwriteAt? 2 buffer = some (.ok 16, after) ∧
        Overwritten buffer 2 Message.sync.toBytes after) ∧
      (buffer.take 13).length < Message.sync.encodedLength ∧
      Message.sync.encode (buffer.take 13) = .error (.bufferTooSmall 14 13) := by
  intro buffer
  let p := Rdm.Packet.request ⟨0x4c55, 1⟩ ⟨0x7ff0, 1⟩ 0 .get 0xf0 []
  have hshort : (buffer.take 13).length < Message.sync.encodedLength := by decide
  have hwindow := (encoding_fills_window .sync p 2 buffer).1
  have herror := (encoding_fills_window .sync p 0 (buffer.take 13)).2.2.2.1 hshort
  exact ⟨hwindow.written buffer (by decide), hshort, herror⟩

namespace Message

def maxPacketSize : Nat := 1024

private theorem encodedLength_le {m : Message} {l : Layout} (hl : m.layout? = some l)
    (hd : l ≠ .todData) : m.encodedLength ≤ 530 := by
  cases m with
  | todData d =>
    cases hl
    exact absurd rfl hd
  | unsupported op d => cases hl
  | rdm e =>
    rw [encodedLength, Rdm.Packet.encodedLength, Rdm.Packet.maxData]
    omega
  | todRequest r =>
    rw [encodedLength, TodRequest.maxAddresses]
    omega
  | _ =>
    rw [encodedLength]
    omega

theorem encodedLength_le_iff {m : Message} {l : Layout} (hl : m.layout? = some l) :
    m.encodedLength ≤ maxPacketSize ↔ ∀ d, m = todData d → d.uids.length ≤ 166 := by
  rw [maxPacketSize]
  by_cases hd : l = .todData
  · subst hd
    cases m with
    | todData d =>
      simp only [encodedLength, TodData.maxUids, todData.injEq, forall_eq']
      omega
    | _ => cases hl
  · have hle := encodedLength_le hl hd
    refine iff_of_true (by omega) ?_
    rintro d rfl
    exact absurd (Option.some.inj hl).symm hd

/-- How far the size given out as the largest is kept. A message with a layout has at most 1228
bytes, and a table of 200 identifiers has them; every other one has at most 530. So a message fits
into a buffer of that size unless it is a block of a table with more than 166 identifiers, and such
a block is refused. -/
theorem packet_size_kept_iff {m : Message} {l : Layout} (hl : m.layout? = some l) {buffer : Bytes}
    (hb : buffer.length = maxPacketSize) :
    m.encodedLength ≤ 1228 ∧
      (∀ d, m = todData d → 200 ≤ d.uids.length → m.encodedLength = 1228) ∧
      (l ≠ .todData → m.encodedLength ≤ 530) ∧
      (m.encodedLength ≤ maxPacketSize ↔ ∀ d, m = todData d → d.uids.length ≤ 166) ∧
      ((∃ written after, m.encode buffer = .ok (written, after)) ↔
        ∀ d, m = todData d → d.uids.length ≤ 166) := by
  have hfits := encodedLength_le_iff hl
  refine ⟨?_, ?_, encodedLength_le hl, hfits, ?_⟩
  · by_cases hd : l = .todData
    · subst hd
      cases m with
      | todData d =>
        rw [encodedLength, TodData.maxUids]
        omega
      | _ => cases hl
    · exact Nat.le_trans (encodedLength_le hl hd) (by decide)
  · rintro d rfl hfull
    rw [encodedLength, TodData.maxUids]
    omega
  · rw [← hfits, encode_eq, hb]
    constructor
    · rintro ⟨written, after, hencode⟩
      by_cases hroom : m.encodedLength ≤ maxPacketSize
      · exact hroom
      · rw [if_neg hroom] at hencode
        cases hencode
    · intro hroom
      exact ⟨_, _, if_pos hroom⟩

/-- A block of 167 identifiers is the shortest that does not fit. -/
theorem table_exceeds_packet_size :
    let d : TodData := ⟨1, 1, 1, 0, .full, 0, 167, 0, List.replicate 167 ⟨0x4c55, 1⟩⟩
    let buffer := List.replicate maxPacketSize (0xee : UInt8)
    (todData d).layout? = some .todData ∧ ¬(todData d).encodedLength ≤ maxPacketSize ∧
      (todData d).encode buffer = .error (.bufferTooSmall 1030 1024) := by
  intro d buffer
  have huids : d.uids.length = 167 := List.length_replicate
  have hlong : (todData d).encodedLength = 1030 := by
    rw [encodedLength, huids]
    rfl
  have hroom : buffer.length = 1024 := List.length_replicate
  refine ⟨rfl, ?_, ?_⟩
  · rw [hlong]
    decide
  · rw [encode_eq, hlong, hroom]
    rfl

theorem packet_size_kept_iff_most :
    let d : TodData := ⟨1, 1, 1, 0, .full, 0, 166, 0, List.replicate 166 ⟨0x4c55, 1⟩⟩
    let buffer := List.replicate maxPacketSize (0xee : UInt8)
    (todData d).layout? = some .todData ∧ buffer.length = maxPacketSize ∧
      (todData d).encodedLength = maxPacketSize ∧
      ∃ written after, (todData d).encode buffer = .ok (written, after) := by
  intro d buffer
  have huids : d.uids.length = 166 := List.length_replicate
  have hroom : buffer.length = maxPacketSize := List.length_replicate
  have hkept := packet_size_kept_iff (m := todData d) rfl hroom
  refine ⟨rfl, hroom, ?_, ?_⟩
  · rw [encodedLength, huids]
    rfl
  · apply hkept.2.2.2.2.mpr
    intro d' hd'
    obtain rfl := todData.inj hd'
    exact Nat.le_of_eq huids

end Message

end LightingNet
