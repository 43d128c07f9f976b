import LightingNet.Proofs.Wire.Reencoding
/-!
# Datagrams cut short

A datagram that stops early is still read, from the least size of its layout on. What lies wholly in
front of the cut stays as it was, a field of the optional tail that does not is zero, and a list
ends with its last whole item. Only an RDM message has to be there to its last byte.
-/
namespace LightingNet

open Places
open Simulation (byteAt wordAt)

namespace Places

/-- An access that looks at `size` bytes from its place on, and at nothing else: it finds the same
when the bytes are cut off behind these, and nothing when they are cut off in front of their end. -/
def Local {α : Type} (access : Bytes → Nat → Option α) (size : Nat) : Prop :=
  ∀ b i k, access (b.take k) i = if i + size ≤ k then access b i else none

private theorem local_byte : Local (fun b i => b[i]?) 1 := by
  intro b i k
  exact List.getElem?_take

private theorem local_beWord : Local beWord? 2 := by
  intro b i k
  by_cases h : i + 2 ≤ k
  · simp (disch := omega) only [beWord?, List.getElem?_take, if_pos]
  · simp (disch := omega) only [beWord?, List.getElem?_take, if_neg, Option.bind_eq_bind,
      Option.bind_none, Option.bind_fun_none]

private theorem local_leWord : Local leWord? 2 := by
  intro b i k
  by_cases h : i + 2 ≤ k
  · simp (disch := omega) only [leWord?, List.getElem?_take, if_pos]
  · simp (disch := omega) only [leWord?, List.getElem?_take, if_neg, Option.bind_eq_bind,
      Option.bind_none, Option.bind_fun_none]

private theorem local_beDouble : Local beDouble? 4 := by
  intro b i k
  by_cases h : i + 4 ≤ k
  · simp (disch := omega) only [beDouble?, List.getElem?_take, if_pos]
  · have hlast : (b.take k)[i + 3]? = none := by rw [List.getElem?_take, if_neg (by omega)]
    simp (disch := omega) only [beDouble?, hlast, if_neg, Option.bind_eq_bind, Option.bind_none,
      Option.bind_fun_none]

private theorem local_uid : Local uid? 6 := by
  intro b i k
  by_cases h : i + 6 ≤ k
  · simp (disch := omega) only [uid?, local_beWord b, local_beDouble b, if_pos]
  · simp (disch := omega) only [uid?, local_beDouble b, if_neg, Option.bind_eq_bind,
      Option.bind_none, Option.bind_fun_none]

private theorem slice_take {b : Bytes} {i n k : Nat} (h : i + n ≤ k) :
    ((b.take k).drop i).take n = (b.drop i).take n := by
  rw [List.drop_take, List.take_take, Nat.min_eq_left (by omega)]

private theorem local_octets (n : Nat) : Local (octets? n) n := by
  intro b i k
  by_cases h : i + n ≤ k
  · simp only [octets?, slice_take h, List.length_take, if_pos h]
    by_cases hb : i + n ≤ b.length
    · rw [dif_pos hb, dif_pos (by omega)]
    · rw [dif_neg hb, dif_neg (by omega)]
  · rw [if_neg h, octets?, dif_neg]
    rw [List.length_take]
    omega

private theorem local_span (n : Nat) : Local (span? n) n := by
  intro b i k
  by_cases h : i + n ≤ k
  · simp only [span?, slice_take h, List.length_take, if_pos h]
    by_cases hb : i + n ≤ b.length
    · rw [if_pos hb, if_pos (by omega)]
    · rw [if_neg hb, if_neg (by omega)]
  · rw [if_neg h, span?, if_neg]
    rw [List.length_take]
    omega

private theorem take_clamped_take (b : Bytes) (i k n most : Nat) :
    ((b.take k).drop i).take (min (min n ((b.take k).length - i)) most) =
      ((b.drop i).take (min (min n (b.length - i)) most)).take (k - i) := by
  rw [take_clamped, take_clamped, List.drop_take, List.take_take, List.take_take, Nat.min_comm]

private theorem map_steps {α β γ : Type} (x : Option α) (f : α → Option β) (g : β → γ) :
    (x >>= f).map g = x >>= fun a => (f a).map g := by
  cases x <;> rfl

theorem some_step {α β : Type} (a : α) (f : α → Option β) : (some a >>= f) = f a := rfl

private theorem getD_ite {α : Type} (c : Prop) [Decidable c] (found : Option α) (x : α) :
    (if c then found else none).getD x = if c then found.getD x else x := by
  split <;> rfl

end Places

private theorem untilNul_take (b : Bytes) (n : Nat) :
    untilNul (b.take n) = (untilNul b).take n := by
  induction b generalizing n with
  | nil => rw [List.take_nil, untilNul, List.takeWhile_nil, List.take_nil]
  | cons x b ih =>
    cases n with
    | zero => rw [List.take_zero, List.take_zero, untilNul, List.takeWhile_nil]
    | succ n =>
      by_cases hx : x = 0
      · simp only [hx, untilNul, List.take_succ_cons, List.takeWhile_cons, ne_eq, not_true_eq_false,
          decide_false, Bool.false_eq_true, if_false, List.take_nil]
      · have hrest := ih n
        simp only [untilNul] at hrest
        simp only [hx, untilNul, List.take_succ_cons, List.takeWhile_cons, ne_eq,
          not_false_eq_true, decide_true, if_true, hrest]

def firstChars (n : Nat) (s : String) : String := String.ofList (s.toList.take n)

private theorem fieldText_take (b : Bytes) (n : Nat) :
    fieldText (b.take n) = firstChars n (fieldText b) := by
  simp only [fieldText, firstChars, asciiText, String.toList_ofList, untilNul_take, List.map_take]

namespace TodData

private theorem take_uidsFrom (count : Nat) (b : Bytes) (n : Nat) :
    (uidsFrom count b).take n = uidsFrom (min n count) b := by
  induction count generalizing b n with
  | zero => rw [Nat.min_zero, uidsFrom, List.take_nil]
  | succ count ih =>
    cases n with
    | zero => rw [List.take_zero, Nat.zero_min, uidsFrom]
    | succ n =>
      rw [Nat.add_min_add_right, uidsFrom, uidsFrom]
      cases Reader.uid b with
      | none => rfl
      | some found => simp only [List.take_succ_cons, ih]

private theorem uidsFrom_take_whole {count : Nat} {b : Bytes} {n : Nat} (hn : count * 6 ≤ n)
    (hb : count * 6 ≤ b.length) : uidsFrom count (b.take n) = uidsFrom count b := by
  have hlen : (b.take (count * 6)).length = count * 6 := by
    rw [List.length_take, Nat.min_eq_left hb]
  have hcut := uidsFrom_append hlen ((b.take n).drop (count * 6))
  have hall := uidsFrom_append hlen (b.drop (count * 6))
  have htable : (b.take n).take (count * 6) = b.take (count * 6) := by
    rw [List.take_take, Nat.min_eq_left hn]
  rw [← htable, List.take_append_drop, htable] at hcut
  rw [List.take_append_drop] at hall
  rw [hcut, hall]

private theorem uidsFrom_take (count : Nat) (b : Bytes) (n : Nat) :
    uidsFrom count (b.take n) = (uidsFrom count b).take (n / 6) := by
  have hcount : min count ((b.take n).length / 6) = min (n / 6) (min count (b.length / 6)) := by
    rw [List.length_take]
    omega
  rw [← uidsFrom_whole count (b.take n), ← uidsFrom_whole count b, take_uidsFrom, hcount]
  exact uidsFrom_take_whole (by omega) (by omega)

end TodData

namespace Poll

def upTo (k : Nat) (p : Poll) : Poll :=
  { p with
    targetTop := if 16 ≤ k then p.targetTop else 0
    targetBottom := if 18 ≤ k then p.targetBottom else 0
    estaManufacturer := if 20 ≤ k then p.estaManufacturer else 0
    oem := if 22 ≤ k then p.oem else 0 }

private theorem at?_take {b : Bytes} {k : Nat} (hk : 14 ≤ k) :
    at? (b.take k) = (at? b).map (upTo k) := by
  simp (disch := omega) only [at?, local_beWord b, List.getElem?_take, if_pos, getD_ite,
    Option.pure_def, map_steps, Option.map_some, upTo, Nat.reduceAdd]

end Poll

namespace PollReply

def upTo (k : Nat) (r : PollReply) : PollReply :=
  { r with
    bindIp := if 211 ≤ k then r.bindIp else .unspecified
    bindIndex := if 212 ≤ k then r.bindIndex else 0
    status2 := if 213 ≤ k then r.status2 else 0
    goodOutputB := if 217 ≤ k then r.goodOutputB else Octets.zero 4
    status3 := if 218 ≤ k then r.status3 else 0
    defaultResponder := if 224 ≤ k then r.defaultResponder else Rdm.Uid.zero
    user := if 226 ≤ k then r.user else 0
    refreshRate := if 228 ≤ k then r.refreshRate else 0 }

private theorem at?_take {b : Bytes} {k : Nat} (hk : 207 ≤ k) :
    at? (b.take k) = (at? b).map (upTo k) := by
  have hbyte : ∀ i, (b.take k)[i]? = if i + 1 ≤ k then b[i]? else none := fun i => local_byte b i k
  have hip : ∀ x : UInt32, (⟨if 211 ≤ k then x else 0⟩ : Ipv4) =
      if 211 ≤ k then ⟨x⟩ else .unspecified := by
    intro x
    split <;> rfl
  simp (disch := omega) only [at?, local_beWord b, local_leWord b, local_beDouble b, local_uid b,
    local_octets 4 b, local_octets 6 b, local_span 18 b, local_span 64 b, hbyte, if_pos, getD_ite,
    Option.pure_def, map_steps, Option.map_some, upTo, hip, Nat.reduceAdd]

end PollReply

namespace Diagnostic

def upTo (k : Nat) (d : Diagnostic) : Diagnostic := { d with text := firstChars (k - 18) d.text }

private theorem at?_take {b : Bytes} {k : Nat} (hk : 18 ≤ k) (hb : 18 ≤ b.length) :
    at? (b.take k) = (at? b).map (upTo k) := by
  have hlen : 18 ≤ (b.take k).length := by rw [List.length_take]; omega
  simp (disch := omega) only [at?, local_beWord b, List.getElem?_take, if_pos, room?_eq_sub,
    span?_eq_take, take_clamped_take, text?_eq, fieldText_take, some_step,
    Option.pure_def, map_steps, Option.map_some, upTo]

end Diagnostic

namespace DmxFrame

def upTo (k : Nat) (f : DmxFrame) : DmxFrame := { f with levels := f.levels.take (k - 18) }

private theorem at?_take {b : Bytes} {k : Nat} (hk : 18 ≤ k) (hb : 18 ≤ b.length) :
    at? (b.take k) = (at? b).map (upTo k) := by
  have hlen : 18 ≤ (b.take k).length := by rw [List.length_take]; omega
  simp (disch := omega) only [at?, local_beWord b, List.getElem?_take, if_pos, room?_eq_sub,
    span?_eq_take, take_clamped_take, some_step, Option.pure_def, map_steps, Option.map_some,
    upTo]

end DmxFrame

private theorem NodeProgramming.at?_take {b : Bytes} {k : Nat} (hk : 107 ≤ k) :
    at? (b.take k) = at? b := by
  simp (disch := omega) only [at?, List.getElem?_take, local_octets 4 b, local_span 18 b,
    local_span 64 b, if_pos]

namespace TodRequest

def upTo (k : Nat) (r : TodRequest) : TodRequest :=
  { r with addresses := r.addresses.take (k - 24) }

private theorem at?_take {b : Bytes} {k : Nat} (hk : 24 ≤ k) (hb : 24 ≤ b.length) :
    at? (b.take k) = (at? b).map (upTo k) := by
  have hlen : 24 ≤ (b.take k).length := by rw [List.length_take]; omega
  simp (disch := omega) only [at?, List.getElem?_take, if_pos, room?_eq_sub,
    span?_eq_take, Nat.min_right_comm _ maxAddresses, take_clamped_take, some_step,
    Option.pure_def, map_steps, Option.map_some, upTo]

end TodRequest

namespace TodData

def upTo (k : Nat) (d : TodData) : TodData := { d with uids := d.uids.take ((k - 28) / 6) }

private theorem at?_take {b : Bytes} {k : Nat} (hk : 28 ≤ k) (hb : 28 ≤ b.length) :
    at? (b.take k) = (at? b).map (upTo k) := by
  have hlen : 28 ≤ (b.take k).length := by rw [List.length_take]; omega
  have htable := uids?_table b
  have hcut := uids?_table (b.take k)
  have huids : ∀ n, uidsFrom n ((b.take k).drop 28) =
      (uidsFrom n (b.drop 28)).take ((k - 28) / 6) := by
    intro n
    rw [List.drop_take, uidsFrom_take]
  simp (disch := omega) only [at?, List.getElem?_take, if_pos, local_beWord b, room?_eq_sub,
    span?_eq_take, htable, hcut, huids, some_step, Option.pure_def, map_steps, Option.map_some,
    upTo]

end TodData

private theorem TodControl.at?_take {b : Bytes} {k : Nat} (hk : 24 ≤ k) :
    at? (b.take k) = at? b := by
  simp (disch := omega) only [at?, List.getElem?_take, if_pos]

private theorem Rdm.Packet.decode_take {b : Bytes} {p : Packet} (h : decode b = .ok p) {n : Nat}
    (hn : n ≤ b.length) :
    decode (b.take n) =
      if p.encodedLength ≤ n then .ok p
      else .error (.tooShort (if n < 25 then 25 else p.encodedLength) n) := by
  obtain ⟨hb, rfl⟩ := decode_eq_ok.mp h
  have hlen : (b.take n).length = n := by rw [List.length_take, Nat.min_eq_left hn]
  have hsize : (atPlaces b).encodedLength = 25 + declaredSize b := by
    rw [encodedLength_eq, hb.length_carried_atPlaces]
  rw [hsize]
  by_cases hwhole : 25 + declaredSize b ≤ n
  · rw [if_pos hwhole]
    have hmessage : (b.take n).take (25 + declaredSize b) = (atPlaces b).toBytes := by
      rw [hb.toBytes_atPlaces, List.take_take, Nat.min_eq_left hwhole]
    have hkept := (kept_eq_self_iff _).mpr (fits_of_decode h)
    rw [← List.take_append_drop (25 + declaredSize b) (b.take n), hmessage, decode_toBytes, hkept]
  rw [if_neg hwhole]
  by_cases hshort : n < 25
  · rw [if_pos hshort, decode_of_short (by omega), hlen]
  · have hdeclared : declaredSize (b.take n) = declaredSize b := by
      rw [declaredSize, byteAt_take (by omega), declaredSize]
    rw [if_neg hshort, decode_eq (by omega), hdeclared, byteAt_take (by omega),
      byteAt_take (by omega), if_neg (not_not_intro hb.subStart),
      if_neg (not_not_intro hb.messageLength), if_pos (by omega), hlen]

namespace Message

private theorem peekOpCode_take {b : Bytes} {op : OpCode} (h : peekOpCode b = .ok op) {k : Nat}
    (hk : 10 ≤ k) : peekOpCode (b.take k) = .ok op := by
  obtain ⟨hid, hlen, hop⟩ := (peekOpCode_eq_ok_iff b op).mp h
  refine (peekOpCode_eq_ok_iff _ op).mpr ⟨?_, ?_, ?_⟩
  · rw [List.take_take, Nat.min_eq_left (by omega), hid]
  · rw [List.length_take]
    omega
  · rw [← hop, opcodeAt, byteAt_take (by omega), byteAt_take (by omega), opcodeAt]

private theorem decode_take_of_fields {b : Bytes} {m : Message} {l : Layout} (h : decode b = .ok m)
    (hl : m.layout? = some l) {k : Nat} (hmin : l.minSize ≤ k) (hk : k ≤ b.length)
    {result : Except CodecError Message} (hfields : fields? (b.take k) l = some result) :
    decode (b.take k) = result := by
  have hheader := l.headerSize_le
  have hpeek : peekOpCode b = .ok l.opcode := by
    rw [peekOpCode_of_decode h, opcode_of_layout? hl]
  have hlen : l.minSize ≤ (b.take k).length := by
    rw [List.length_take]
    omega
  have hcurrent : ¬(l.opcode.hasVersion ∧ wordAt (b.take k) 10 < protocolVersion) := by
    rintro ⟨hv, hold⟩
    have hversion : 12 ≤ k := by
      rw [Layout.headerSize, if_pos hv] at hheader
      omega
    rw [wordAt, byteAt_take (by omega), byteAt_take (by omega), ← wordAt] at hold
    rw [decode_of_layout hpeek, decodeAs_eq, if_neg (by omega), if_pos ⟨hv, hold⟩] at h
    cases h
  obtain ⟨result', hplaces, hread⟩ := fields?_eq_readFields hlen
  rw [decode_of_layout (peekOpCode_take hpeek (by omega)), decodeAs_eq, if_neg (by omega),
    if_neg hcurrent, hread, Option.getD_some]
  exact Option.some.inj (hplaces.symm.trans hfields)

/-- What the first `k` bytes of a datagram tell of its message, from the least size of its layout
on. -/
def upTo (k : Nat) : Message → Message
  | poll p => poll (p.upTo k)
  | pollReply r => pollReply (r.upTo k)
  | diagnostic d => diagnostic (d.upTo k)
  | dmx f => dmx (f.upTo k)
  | todRequest r => todRequest (r.upTo k)
  | todData d => todData (d.upTo k)
  | m => m

private theorem some_upTo {α : Type} {found cut : Option α} {f : α → Message} {g : α → α} {k : Nat}
    {m : Message} (hf : ∀ x, (f x).upTo k = f (g x)) (hcut : cut = found.map g)
    (hm : (found.map fun x => (Except.ok (f x) : Except CodecError Message)) = some (.ok m)) :
    (cut.map fun x => (Except.ok (f x) : Except CodecError Message)) = some (.ok (m.upTo k)) := by
  simp only [Option.map_eq_some_iff, Except.ok.injEq] at hm
  obtain ⟨x, rfl, rfl⟩ := hm
  rw [hcut, Option.map_some, Option.map_some, hf]

private theorem fields?_take {b : Bytes} {l : Layout} (hl : l ≠ .rdm) {k : Nat} (hk : l.minSize ≤ k)
    (hb : l.minSize ≤ b.length) {m : Message} (hm : fields? b l = some (.ok m)) :
    fields? (b.take k) l = some (.ok (m.upTo k)) := by
  cases l with
  | poll => exact some_upTo (fun _ => rfl) (Poll.at?_take hk) hm
  | pollReply => exact some_upTo (fun _ => rfl) (PollReply.at?_take hk) hm
  | diagnostic => exact some_upTo (fun _ => rfl) (Diagnostic.at?_take hk hb) hm
  | dmx => exact some_upTo (fun _ => rfl) (DmxFrame.at?_take hk hb) hm
  | sync =>
    cases hm
    rfl
  | programming =>
    have hcut : NodeProgramming.at? (b.take k) = (NodeProgramming.at? b).map id := by
      rw [NodeProgramming.at?_take hk, Option.map_id, id_eq]
    exact some_upTo (fun _ => rfl) hcut hm
  | todRequest => exact some_upTo (fun _ => rfl) (TodRequest.at?_take hk hb) hm
  | todData => exact some_upTo (fun _ => rfl) (TodData.at?_take hk hb) hm
  | todControl =>
    have hcut : TodControl.at? (b.take k) = (TodControl.at? b).map id := by
      rw [TodControl.at?_take hk, Option.map_id, id_eq]
    exact some_upTo (fun _ => rfl) hcut hm
  | rdm => exact absurd rfl hl

private theorem decode_take_rdm {b : Bytes} {e : Envelope} (h : decode b = .ok (rdm e)) {k : Nat}
    (hmin : 24 ≤ k) (hk : k ≤ b.length) :
    decode (b.take k) =
      if 24 + e.packet.encodedLength ≤ k then .ok (rdm e)
      else .error (.tooShort (if k < 49 then 25 else e.packet.encodedLength) (k - 24)) := by
  have hlen : 24 ≤ (b.take k).length := by
    rw [List.length_take]
    omega
  obtain ⟨hb, hfields⟩ := fields?_of_decode h rfl
  rw [fields?, Envelope.at?_eq hb] at hfields
  cases hpacket : Rdm.Packet.decode (b.drop 24) with
  | error found =>
    rw [hpacket] at hfields
    cases hfields
  | ok packet =>
    rw [hpacket] at hfields
    cases hfields
    have hrest : k - 24 ≤ (b.drop 24).length := by
      rw [List.length_drop]
      omega
    have hcut := Rdm.Packet.decode_take hpacket hrest
    rw [← List.drop_take] at hcut
    by_cases hwhole : 24 + packet.encodedLength ≤ k
    · rw [if_pos (by omega)] at hcut
      rw [if_pos hwhole]
      apply decode_take_of_fields h rfl hmin hk
      rw [fields?, Envelope.at?_eq hlen, hcut, byteAt_take (by omega), byteAt_take (by omega),
        byteAt_take (by omega), byteAt_take (by omega)]
      rfl
    · have hshort : k - 24 < 25 ↔ k < 49 := by omega
      rw [if_neg (by omega), if_congr hshort rfl rfl] at hcut
      rw [if_neg hwhole]
      apply decode_take_of_fields h rfl hmin hk
      rw [fields?, Envelope.at?_eq hlen, hcut]
      rfl

/-- The items of the list that a message ends with, each as its bytes. -/
def items : Message → List Bytes
  | diagnostic d => d.text.toList.map fun c => [UInt8.ofNat c.toNat]
  | dmx f => f.levels.map fun level => [level]
  | todRequest r => r.addresses.map fun address => [address]
  | todData d => d.uids.map Rdm.Uid.bytes
  | _ => []

end Message

def Layout.itemSize : Layout → Nat
  | todData => 6
  | _ => 1

namespace Message

/-- A list stands behind all that a layout must have, and what is left of it are its first items. -/
theorem items_upTo {m : Message} {l : Layout} (hl : m.layout? = some l) (k : Nat) :
    (m.upTo k).items = m.items.take ((k - l.minSize) / l.itemSize) := by
  cases m with
  | unsupported op d => cases hl
  | diagnostic d =>
    cases hl
    simp only [upTo, items, Diagnostic.upTo, firstChars, String.toList_ofList, List.map_take,
      Layout.minSize, Layout.itemSize, Nat.div_one]
  | dmx f =>
    cases hl
    simp only [upTo, items, DmxFrame.upTo, List.map_take, Layout.minSize, Layout.itemSize,
      Nat.div_one]
  | todRequest r =>
    cases hl
    simp only [upTo, items, TodRequest.upTo, List.map_take, Layout.minSize, Layout.itemSize,
      Nat.div_one]
  | todData d =>
    cases hl
    simp only [upTo, items, TodData.upTo, List.map_take, Layout.minSize, Layout.itemSize]
  | _ => exact List.take_nil.symm

/-- A datagram may be cut off anywhere behind the least size of its layout. Unless it carries an RDM
message it is still read, and all that changes is what `upTo` says: an optional field of a poll or
of a poll reply is zero when it is not wholly there, and a list is a prefix of what it was, with as
many whole items as there is room for. An RDM message is read when all of it is there, and the rest
is too short for it otherwise. -/
theorem truncation_graceful {b : Bytes} {m : Message} {l : Layout} (h : decode b = .ok m)
    (hl : m.layout? = some l) {k : Nat} (hmin : l.minSize ≤ k) (hk : k ≤ b.length) :
    (l ≠ .rdm → decode (b.take k) = .ok (m.upTo k) ∧ (m.upTo k).items <+: m.items ∧
      (m.upTo k).items.length = min m.items.length ((k - l.minSize) / l.itemSize)) ∧
      ∀ e, m = rdm e → decode (b.take k) =
        if 24 + e.packet.encodedLength ≤ k then .ok m
        else .error (.tooShort (if k < 49 then 25 else e.packet.encodedLength) (k - 24)) := by
  constructor
  · intro hrdm
    obtain ⟨hb, hfields⟩ := fields?_of_decode h hl
    have hread := decode_take_of_fields h hl hmin hk (fields?_take hrdm hmin hb hfields)
    refine ⟨hread, ?_, ?_⟩
    · rw [items_upTo hl]
      exact List.take_prefix _ _
    · rw [items_upTo hl, List.length_take, Nat.min_comm]
  · rintro e rfl
    cases hl
    exact decode_take_rdm h hmin hk

theorem truncation_graceful_table :
    let d : TodData := ⟨1, 1, 1, 4, .full, 0x15, 2, 0, [⟨1, 1⟩, ⟨2, 2⟩]⟩
    let b := (todData d).toBytes
    decode b = .ok (todData d) ∧ b.length = 40 ∧
      decode (b.take 37) = .ok (todData { d with uids := [⟨1, 1⟩] }) := by
  intro d b
  have hread : decode b = .ok (todData d) := by decide
  have hlen : b.length = 40 := by decide
  have hcut := (truncation_graceful hread rfl (k := 37) (by decide) (by decide)).1 (by decide)
  exact ⟨hread, hlen, hcut.1⟩

end Message

end LightingNet
