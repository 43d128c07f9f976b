import LightingNet.Proofs.Wire.Encoding
import LightingNet.Proofs.Wire.Header
import LightingNet.Proofs.Wire.Kept
/-!
# Reading back a written message

A message is read back as what the wire keeps of it, whatever stands behind its datagram. Each layout
is read field by field, and each field undoes what was written; the fields of variable length are
bounded by a length that fits its own field.
-/
namespace LightingNet

theorem and_mask_idem (x mask : UInt8) : x &&& mask &&& mask = x &&& mask := by
  rw [UInt8.and_assoc, UInt8.and_self]

private theorem Poll.read_body (p : Poll) (t : Bytes) : Poll.read (p.body ++ t) = some (p, t) := by
  simp only [Poll.read, Poll.body, List.append_assoc, List.cons_append, List.nil_append,
    Reader.bind_byte_cons, Reader.undoes_beWordOrZero.bind, Reader.pure_apply]

private theorem PollReply.read_body (r : PollReply) (t : Bytes) :
    PollReply.read (r.body ++ t) = some (r.kept, List.replicate 11 0 ++ t) := by
  have hskip : ∀ (f : Unit → Reader PollReply) (rest : Bytes),
      (Reader.skip 3 >>= f) (0 :: 0 :: 0 :: rest) = f () rest :=
    fun f rest => @Reader.bind_skip_append _ f 3 [0, 0, 0] rfl rest
  unfold PollReply.body
  simp only [PollReply.read, List.append_assoc, List.cons_append, List.nil_append,
    Reader.undoes_ipv4.bind, Reader.undoes_leWord.bind, Reader.undoes_beWord.bind,
    Reader.bind_byte_cons, Reader.bind_text_textField _ 18 (by decide),
    Reader.bind_text_textField _ 64 (by decide), (Reader.undoes_octets 4).bind, hskip,
    (Reader.undoes_octets 6).bind, Reader.undoes_ipv4OrZero.bind, Reader.bind_byteOrZero_cons,
    (Reader.undoes_octetsOrZero 4).bind, Reader.undoes_uidOrZero.bind,
    Reader.undoes_beWordOrZero.bind, Reader.pure_apply, and_mask_idem]
  rfl

private theorem NodeProgramming.read_body (p : NodeProgramming) (t : Bytes) :
    NodeProgramming.read (p.body ++ t) = some (p.kept, t) := by
  simp only [NodeProgramming.read, NodeProgramming.body, List.append_assoc, List.cons_append,
    List.nil_append, Reader.bind_byte_cons, Reader.bind_text_textField _ 18 (by decide),
    Reader.bind_text_textField _ 64 (by decide), (Reader.undoes_octets 4).bind, Reader.pure_apply]
  rfl

private theorem Diagnostic.read_body (d : Diagnostic) (t : Bytes) :
    Diagnostic.read (d.body ++ t) = some (d.kept, []) := by
  have hskip : ∀ (f : Unit → Reader Diagnostic) (x : UInt8) (rest : Bytes),
      (Reader.skip 1 >>= f) (x :: rest) = f () rest :=
    fun f x rest => @Reader.bind_skip_append _ f 1 [x] rfl rest
  have hroom : d.carried.length ≤ 511 := length_wireText_le 511 d.text
  have hdeclared : min (UInt16.ofNat (d.carried.length + 1)).toNat 512 =
      (d.carried ++ [0]).length := by
    rw [UInt16.toNat_ofNat_of_lt' (show _ < 65536 by omega), List.length_append]
    exact Nat.min_eq_left (by omega)
  have htext : fieldText ((d.carried ++ 0 :: t).take (d.carried ++ [0]).length) =
      keptText 511 d.text := by
    rw [List.append_cons d.carried 0 t, List.take_left' rfl]
    exact fieldText_wireText 511 d.text []
  simp only [Diagnostic.read, Diagnostic.body, List.append_assoc, List.cons_append, List.nil_append,
    hskip, Reader.bind_byte_cons, Reader.undoes_beWord.bind, Reader.bind_remaining,
    Reader.pure_apply, hdeclared, htext]
  rfl

theorem PortAddress.masked_inRange (net subnet uni : UInt8) : (masked net subnet uni).InRange := by
  have hseven : (net &&& 0x7f) &&& 0x7f = net &&& 0x7f := and_mask_idem net 0x7f
  have hsubnet : (subnet &&& 0x0f) &&& 0x0f = subnet &&& 0x0f := and_mask_idem subnet 0x0f
  have huni : (uni &&& 0x0f) &&& 0x0f = uni &&& 0x0f := and_mask_idem uni 0x0f
  exact ⟨(and_seven_bits_iff _).mp hseven, (and_four_bits_iff _).mp hsubnet,
    (and_four_bits_iff _).mp huni⟩

theorem PortAddress.InRange.toNat_le {p : PortAddress} (h : p.InRange) :
    p.net.toNat ≤ 127 ∧ p.subnet.toNat ≤ 15 ∧ p.uni.toNat ≤ 15 := h

private theorem PortAddress.toNat_short {p : PortAddress} (h : p.InRange) :
    p.short.toNat = p.subnet.toNat * 16 + p.uni.toNat := by
  obtain ⟨-, hsubnet, huni⟩ := h.toNat_le
  have hadd := Nat.shiftLeft_add_eq_or_of_lt (show p.uni.toNat < 2 ^ 4 by omega) p.subnet.toNat
  have hshift : (p.subnet <<< 4).toNat = p.subnet.toNat <<< 4 := by
    rw [UInt8.toNat_shiftLeft]
    apply Nat.mod_eq_of_lt
    rw [Nat.shiftLeft_eq]
    change p.subnet.toNat * 2 ^ 4 < 2 ^ 8
    omega
  rw [short, UInt8.toNat_or, hshift, ← hadd, Nat.shiftLeft_eq]

theorem PortAddress.ofShort_short {p : PortAddress} (h : p.InRange) :
    PortAddress.ofShort p.net p.short = p := by
  obtain ⟨-, hsubnet, huni⟩ := h.toNat_le
  have hshort := toNat_short h
  have hhigh : (p.short >>> 4).toNat = p.short.toNat / 16 := by
    rw [UInt8.toNat_shiftRight, Nat.shiftRight_eq_div_pow]
    rfl
  have hsubnetBack : p.short >>> 4 &&& 0x0f = p.subnet := by
    apply UInt8.toNat_inj.mp
    rw [toNat_and_four_bits, hhigh, hshort]
    omega
  have huniBack : p.short &&& 0x0f = p.uni := by
    apply UInt8.toNat_inj.mp
    rw [toNat_and_four_bits, hshort]
    omega
  rw [ofShort, masked, (and_seven_bits_iff _).mpr h.1, hsubnetBack, huniBack]

private theorem DmxFrame.read_body {f : DmxFrame} (h : f.port.InRange) (t : Bytes) :
    DmxFrame.read (f.body ++ t) = some (f.kept, []) := by
  have hroom : f.carried.length ≤ 512 := List.length_take_le 512 f.levels
  have hdeclared : min (UInt16.ofNat f.carried.length).toNat 512 = f.carried.length := by
    rw [UInt16.toNat_ofNat_of_lt' (show _ < 65536 by omega), Nat.min_eq_left hroom]
  simp only [DmxFrame.read, DmxFrame.body, List.append_assoc, List.cons_append, List.nil_append,
    Reader.bind_byte_cons, Reader.undoes_beWord.bind, Reader.bind_remaining, Reader.pure_apply,
    hdeclared, List.take_left' rfl, PortAddress.ofShort_short h]
  rfl

private theorem TodRequest.read_body (r : TodRequest) (t : Bytes) :
    TodRequest.read (r.body ++ t) = some (r.kept, []) := by
  have hroom : r.carried.length ≤ 32 := List.length_take_le 32 r.addresses
  have hcount : min (UInt8.ofNat r.carried.length).toNat maxAddresses = r.carried.length := by
    rw [UInt8.toNat_ofNat_of_lt' (show _ < 256 by omega), maxAddresses, Nat.min_eq_left hroom]
  simp only [TodRequest.read, TodRequest.body, List.append_assoc, List.cons_append, List.nil_append,
    Reader.bind_skip_append _ List.length_replicate, Reader.bind_byte_cons, Reader.bind_remaining,
    Reader.pure_apply, hcount, List.take_left' rfl, and_mask_idem]
  rfl

theorem TodData.uidsFrom_flatMap (us : List Rdm.Uid) (t : Bytes) :
    uidsFrom us.length (us.flatMap Rdm.Uid.bytes ++ t) = us := by
  induction us with
  | nil => rfl
  | cons u us ih =>
    rw [List.flatMap_cons, List.append_assoc, List.length_cons, uidsFrom, Reader.undoes_uid]
    exact congrArg (u :: ·) ih

private theorem TodData.read_body (d : TodData) (t : Bytes) :
    TodData.read (d.body ++ t) = some (d.kept, []) := by
  have hroom : d.carried.length ≤ 200 := List.length_take_le 200 d.uids
  have hcount : (UInt8.ofNat d.carried.length).toNat = d.carried.length :=
    UInt8.toNat_ofNat_of_lt' (show _ < 256 by omega)
  have hskip : ∀ (f : Unit → Reader TodData) (rest : Bytes),
      (Reader.skip 6 >>= f) (0 :: 0 :: 0 :: 0 :: 0 :: 0 :: rest) = f () rest :=
    fun f rest => @Reader.bind_skip_append _ f 6 [0, 0, 0, 0, 0, 0] rfl rest
  simp only [TodData.read, TodData.body, List.append_assoc, List.cons_append, List.nil_append,
    Reader.bind_byte_cons, hskip, Reader.undoes_beWord.bind, Reader.bind_remaining,
    Reader.pure_apply, hcount, uidsFrom_flatMap, and_mask_idem]
  rfl

private theorem TodControl.read_body (c : TodControl) (t : Bytes) :
    TodControl.read (c.body ++ t) = some (c.kept, t) := by
  simp only [TodControl.read, TodControl.body, List.append_assoc, List.cons_append, List.nil_append,
    Reader.bind_skip_append _ List.length_replicate, Reader.bind_byte_cons, Reader.pure_apply,
    and_mask_idem]
  rfl

private theorem Envelope.fields_body (e : Envelope) (t : Bytes) :
    Envelope.fields (e.body ++ t) =
      some ((e.rdmVersion, e.net &&& 0x7f, e.command, e.address, e.packet.toBytes ++ t), []) := by
  simp only [Envelope.fields, Envelope.body, List.append_assoc, List.cons_append, List.nil_append,
    Reader.bind_byte_cons, Reader.bind_skip_append _ List.length_replicate, Reader.bind_remaining,
    Reader.pure_apply, and_mask_idem]

namespace Message

/-- A message of some layout; the universe of a frame lies in its ranges. -/
def WellFormed : Message → Prop
  | dmx f => f.port.InRange
  | unsupported _ _ => False
  | _ => True

private theorem decode_toBytes_of_read (m : Message) {m' : Message} (l : Layout) {body : Bytes}
    (himage : m.image = header l.opcode ++ body) (hmin : l.minSize ≤ m.encodedLength) {t : Bytes}
    (hread : readFields l (body ++ t) = some (.ok m')) : decode (m.toBytes ++ t) = .ok m' := by
  have hlen := m.length_image
  rw [himage, List.length_append, l.length_header] at hlen
  have hsize : l.minSize ≤ l.headerSize + (body ++ t).length := by
    rw [List.length_append]
    omega
  rw [toBytes_eq_image, himage, List.append_assoc, decode_header l _ hsize, hread]
  rfl

/-- A written message is read back as what the wire keeps of it, whatever stands behind it. -/
theorem decode_toBytes {m : Message} (h : m.WellFormed) (t : Bytes) :
    decode (m.toBytes ++ t) = .ok m.kept := by
  cases m with
  | poll p =>
    apply decode_toBytes_of_read (poll p) .poll rfl (show 14 ≤ 22 by decide)
    rw [readFields, p.read_body]
    rfl
  | pollReply r =>
    apply decode_toBytes_of_read (pollReply r) .pollReply rfl (show 207 ≤ 239 by decide)
    rw [readFields, r.read_body]
    rfl
  | diagnostic d =>
    apply decode_toBytes_of_read (diagnostic d) .diagnostic rfl (show 18 ≤ 18 + _ + 1 by omega)
    rw [readFields, d.read_body]
    rfl
  | dmx f =>
    apply decode_toBytes_of_read (dmx f) .dmx rfl (Nat.le_add_right 18 _)
    rw [readFields, DmxFrame.read_body h]
    rfl
  | sync => exact decode_toBytes_of_read sync .sync rfl (Nat.le_refl 14) rfl
  | programming p =>
    apply decode_toBytes_of_read (programming p) .programming rfl (Nat.le_refl 107)
    rw [readFields, p.read_body]
    rfl
  | todRequest r =>
    apply decode_toBytes_of_read (todRequest r) .todRequest rfl (Nat.le_add_right 24 _)
    rw [readFields, r.read_body]
    rfl
  | todData d =>
    apply decode_toBytes_of_read (todData d) .todData rfl (Nat.le_add_right 28 _)
    rw [readFields, d.read_body]
    rfl
  | todControl c =>
    apply decode_toBytes_of_read (todControl c) .todControl rfl (Nat.le_refl 24)
    rw [readFields, c.read_body]
    rfl
  | rdm e =>
    apply decode_toBytes_of_read (rdm e) .rdm rfl (Nat.le_add_right 24 _)
    simp only [readFields, e.fields_body, Option.map_some, Rdm.Packet.decode_toBytes]
    rfl
  | unsupported op b => exact h.elim

/-- Reading back what was written. A written message is read back as what the wire keeps of it,
whatever stands behind its datagram, and the wire keeps it as it is exactly within its limits. A
datagram of an operation without a layout is kept whole and written as it came. -/
theorem wire_round_trip (m : Message) (t b d : Bytes) (op : OpCode) :
    (m.WellFormed → decode (m.toBytes ++ t) = .ok m.kept) ∧
      (m.kept = m ↔ m.Fits) ∧
      (m.WellFormed → m.Fits → decode (m.toBytes ++ t) = .ok m) ∧
      (decode b = .ok (unsupported op d) →
        (unsupported op d).toBytes = b ∧
          decode (unsupported op d).toBytes = .ok (unsupported op d)) := by
  refine ⟨fun h => decode_toBytes h t, m.kept_eq_self_iff, ?_, ?_⟩
  · intro h hfits
    have hkept := decode_toBytes h t
    rwa [m.kept_eq_self_iff.mpr hfits] at hkept
  · intro h
    obtain ⟨-, -, rfl⟩ := decode_eq_unsupported.mp h
    have hbytes : (unsupported op d).toBytes = d := toBytes_eq_image _
    rw [hbytes]
    exact ⟨rfl, h⟩

theorem wire_round_trip_dmx :
    let frame := dmx ⟨200, 1, ⟨5, 2, 9⟩, [255, 0, 7]⟩
    let timeCode := identifier ++ [0, 0x97, 0, 14, 1, 2, 3]
    decode (frame.toBytes ++ [0xee]) = .ok frame ∧
      (unsupported .timeCode timeCode).toBytes = timeCode := by
  intro frame timeCode
  have hwell : frame.WellFormed := ⟨by decide, by decide, by decide⟩
  have hfits : frame.Fits := show 3 ≤ 512 by decide
  have hread : decode timeCode = .ok (unsupported .timeCode timeCode) := by rfl
  have h := wire_round_trip frame [0xee] timeCode timeCode .timeCode
  exact ⟨h.2.2.1 hwell hfits, (h.2.2.2 hread).1⟩

end Message

end LightingNet
