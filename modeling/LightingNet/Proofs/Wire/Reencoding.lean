import LightingNet.Proofs.Wire.Places
import LightingNet.Proofs.Wire.RoundTrip
import Mathlib.Data.List.TakeWhile
/-!
# Writing again what was read

What a datagram is read as lies within wider limits than a written message keeps: a text may fill
its field to the last byte, a table may have more identifiers than one block takes. Writing and
reading it again cuts just these; from then on nothing changes.
-/
namespace LightingNet

open Places
open Simulation (byteAt wordAt)

private theorem length_asciiText (b : Bytes) : (asciiText b).length = b.length := by
  simp [asciiText]

theorem length_untilNul_eq_iff (b : Bytes) : (untilNul b).length = b.length ↔ 0 ∉ b := by
  have hsub : (untilNul b).Sublist b := List.takeWhile_sublist _
  rw [hsub.length_eq, untilNul, List.takeWhile_eq_self_iff]
  constructor
  · intro h hzero
    simpa using h 0 hzero
  · intro h x hx
    simpa using ne_of_mem_of_not_mem hx h

theorem length_fieldText_eq_iff (b : Bytes) : (fieldText b).length = b.length ↔ 0 ∉ b := by
  rw [fieldText, length_asciiText, List.length_map, length_untilNul_eq_iff]

private theorem fitsText_fieldText (b : Bytes) : FitsText b.length (fieldText b) := by
  constructor
  · rw [fieldText, length_asciiText, List.length_map]
    exact (List.takeWhile_sublist _).length_le
  · intro c hc
    simp only [fieldText, asciiText, String.toList_ofList, List.mem_map] at hc
    obtain ⟨y, ⟨x, hx, rfl⟩, rfl⟩ := hc
    have hlt := asciiByte_lt x
    have hne : asciiByte x ≠ 0 := mt (asciiByte_eq_zero_iff x).mp (ne_zero_of_mem_untilNul hx)
    rw [toNat_charOfByte hlt]
    refine ⟨Nat.pos_of_ne_zero ?_, hlt⟩
    intro hzero
    exact hne (UInt8.toNat_inj.mp hzero)

private theorem FitsText.mono {room room' : Nat} {s : String} (h : FitsText room s)
    (hle : room ≤ room') : FitsText room' s :=
  ⟨Nat.le_trans h.1 hle, h.2⟩

private theorem fitsText_fieldText_take (b : Bytes) (n : Nat) : FitsText n (fieldText (b.take n)) :=
  (fitsText_fieldText (b.take n)).mono (List.length_take_le n b)

/-- A text that leaves its field a terminator, at the price of its last character. -/
def cutText (width : Nat) (s : String) : String :=
  if s.length = width then String.ofList s.toList.dropLast else s

section Cut

variable {room : Nat} {s : String}

private theorem fitsText_cutText (h : FitsText (room + 1) s) :
    FitsText room (cutText (room + 1) s) := by
  by_cases hs : s.length = room + 1
  · rw [cutText, if_pos hs]
    constructor
    · rw [String.length_ofList, List.length_dropLast, String.length_toList, hs]
      exact Nat.le_refl room
    · intro c hc
      rw [String.toList_ofList] at hc
      exact h.2 c (List.dropLast_subset _ hc)
  · rw [cutText, if_neg hs]
    exact ⟨Nat.le_of_lt_succ (Nat.lt_of_le_of_ne h.1 hs), h.2⟩

private theorem wireText_cutText (h : FitsText (room + 1) s) :
    wireText room (cutText (room + 1) s) = wireText room s := by
  by_cases hs : s.length = room + 1
  · have hascii : ∀ c ∈ s.toList, c.toNat < 128 := fun c hc => (h.2 c hc).2
    have hlast : s.toList.dropLast = s.toList.take room := by
      rw [List.dropLast_eq_take, String.length_toList, hs, Nat.add_sub_cancel]
    have hcut : ∀ c ∈ (String.ofList (s.toList.take room)).toList, c.toNat < 128 := by
      intro c hc
      rw [String.toList_ofList] at hc
      exact hascii c (List.mem_of_mem_take hc)
    rw [cutText, if_pos hs, hlast, wireText, wireText, ofString_of_ascii hcut,
      ofString_of_ascii hascii, String.toList_ofList, ← List.map_take, ← List.map_take,
      List.take_take, Nat.min_self]
  · rw [cutText, if_neg hs]

private theorem textField_cutText (h : FitsText (room + 1) s) :
    textField (room + 1) (cutText (room + 1) s) = textField (room + 1) s := by
  rw [textField, textField, Nat.add_sub_cancel, wireText_cutText h]

private theorem keptText_eq_cutText (h : FitsText (room + 1) s) :
    keptText room s = cutText (room + 1) s := by
  have hkept : keptText room s = keptText room (cutText (room + 1) s) := by
    rw [keptText, keptText, wireText_cutText h]
  rw [hkept, keptText_of_fits (fitsText_cutText h)]

end Cut

namespace PollReply

structure Legible (r : PollReply) : Prop where
  netSwitch : r.netSwitch ≤ 0x7f
  subSwitch : r.subSwitch ≤ 0x0f
  shortName : FitsText 18 r.shortName
  longName : FitsText 64 r.longName
  nodeReport : FitsText 64 r.nodeReport

def cut (r : PollReply) : PollReply :=
  { r with
    shortName := cutText 18 r.shortName
    longName := cutText 64 r.longName
    nodeReport := cutText 64 r.nodeReport }

private theorem Legible.kept_eq_cut {r : PollReply} (h : r.Legible) : r.kept = r.cut := by
  rw [kept, cut, (and_seven_bits_iff _).mpr h.netSwitch, (and_four_bits_iff _).mpr h.subSwitch,
    keptText_eq_cutText h.shortName, keptText_eq_cutText h.longName,
    keptText_eq_cutText h.nodeReport]

private theorem Legible.body_cut {r : PollReply} (h : r.Legible) : r.cut.body = r.body := by
  unfold body
  simp only [cut, textField_cutText h.shortName, textField_cutText h.longName,
    textField_cutText h.nodeReport]

private theorem texts_of_at? {b : Bytes} {r : PollReply} (h : 207 ≤ b.length)
    (hr : at? b = some r) :
    r.netSwitch = byteAt b 18 &&& 0x7f ∧ r.subSwitch = byteAt b 19 &&& 0x0f ∧
      r.shortName = fieldText ((b.drop 26).take 18) ∧
      r.longName = fieldText ((b.drop 44).take 64) ∧
      r.nodeReport = fieldText ((b.drop 108).take 64) := by
  simp (disch := omega) only [at?, getElem?_eq_byteAt, beWord?_eq_wordAt, leWord?_eq_word16,
    span?_eq_take, text?_eq, Option.bind_eq_bind, Option.bind_some, Option.pure_def,
    Option.some.injEq] at hr
  subst hr
  exact ⟨rfl, rfl, rfl, rfl, rfl⟩

private theorem legible_of_at? {b : Bytes} {r : PollReply} (h : 207 ≤ b.length)
    (hr : at? b = some r) : r.Legible := by
  obtain ⟨hnet, hsub, hshort, hlong, hreport⟩ := texts_of_at? h hr
  constructor
  · rw [← and_seven_bits_iff, hnet, and_mask_idem]
  · rw [← and_four_bits_iff, hsub, and_mask_idem]
  · rw [hshort]
    exact fitsText_fieldText_take _ 18
  · rw [hlong]
    exact fitsText_fieldText_take _ 64
  · rw [hreport]
    exact fitsText_fieldText_take _ 64

end PollReply

namespace NodeProgramming

structure Legible (p : NodeProgramming) : Prop where
  shortName : FitsText 18 p.shortName
  longName : FitsText 64 p.longName

def cut (p : NodeProgramming) : NodeProgramming :=
  { p with shortName := cutText 18 p.shortName, longName := cutText 64 p.longName }

private theorem Legible.kept_eq_cut {p : NodeProgramming} (h : p.Legible) : p.kept = p.cut := by
  rw [kept, cut, keptText_eq_cutText h.shortName,
    keptText_eq_cutText h.longName]

private theorem Legible.body_cut {p : NodeProgramming} (h : p.Legible) : p.cut.body = p.body := by
  simp only [body, cut, textField_cutText h.shortName, textField_cutText h.longName]

private theorem texts_of_at? {b : Bytes} {p : NodeProgramming} (h : 107 ≤ b.length)
    (hp : at? b = some p) :
    p.shortName = fieldText ((b.drop 14).take 18) ∧
      p.longName = fieldText ((b.drop 32).take 64) := by
  obtain ⟨swIn, hswIn⟩ := octets?_isSome (n := 4) (i := 96) (b := b) (by omega)
  obtain ⟨swOut, hswOut⟩ := octets?_isSome (n := 4) (i := 100) (b := b) (by omega)
  simp (disch := omega) only [at?, hswIn, hswOut, getElem?_eq_byteAt, span?_eq_take, text?_eq,
    Option.bind_eq_bind, Option.bind_some, Option.pure_def, Option.some.injEq] at hp
  subst hp
  exact ⟨rfl, rfl⟩

private theorem legible_of_at? {b : Bytes} {p : NodeProgramming} (h : 107 ≤ b.length)
    (hp : at? b = some p) : p.Legible := by
  obtain ⟨hshort, hlong⟩ := texts_of_at? h hp
  constructor
  · rw [hshort]
    exact fitsText_fieldText_take _ 18
  · rw [hlong]
    exact fitsText_fieldText_take _ 64

end NodeProgramming

namespace Diagnostic

def cut (d : Diagnostic) : Diagnostic := { d with text := cutText 512 d.text }

private theorem kept_eq_cut {d : Diagnostic} (h : FitsText 512 d.text) : d.kept = d.cut := by
  have htext : keptText 511 d.text = cutText 512 d.text := keptText_eq_cutText h
  simp only [kept, cut, htext]

private theorem body_cut {d : Diagnostic} (h : FitsText 512 d.text) : d.cut.body = d.body := by
  simp only [body, carried, cut, wireText_cutText h]

private theorem fits_of_at? {b : Bytes} {d : Diagnostic} (h : 18 ≤ b.length) (hd : at? b = some d) :
    FitsText 512 d.text := by
  simp (disch := omega) only [at?, getElem?_eq_byteAt, beWord?_eq_wordAt, room?_eq_sub,
    span?_eq_take, text?_eq, take_clamped, Option.bind_eq_bind, Option.bind_some, Option.pure_def,
    Option.some.injEq] at hd
  subst hd
  exact (fitsText_fieldText_take _ _).mono (Nat.min_le_right _ _)

end Diagnostic

private theorem DmxFrame.limits_of_at? {b : Bytes} {f : DmxFrame} (h : 18 ≤ b.length)
    (hf : at? b = some f) : f.port.InRange ∧ f.levels.length ≤ 512 := by
  simp (disch := omega) only [at?, getElem?_eq_byteAt, beWord?_eq_wordAt, room?_eq_sub,
    span?_eq_take, Option.bind_eq_bind, Option.bind_some, Option.pure_def,
    Option.some.injEq] at hf
  subst hf
  have hlen := List.length_take_le (min (min (wordAt b 16).toNat (b.length - 18)) 512) (b.drop 18)
  exact ⟨PortAddress.masked_inRange _ _ _, Nat.le_trans hlen (Nat.min_le_right _ _)⟩

private theorem TodRequest.fits_of_at? {b : Bytes} {r : TodRequest} (h : 24 ≤ b.length)
    (hr : at? b = some r) : r.Fits := by
  simp (disch := omega) only [at?, getElem?_eq_byteAt, room?_eq_sub, span?_eq_take,
    Option.bind_eq_bind, Option.bind_some, Option.pure_def, Option.some.injEq] at hr
  subst hr
  constructor
  · rw [← and_seven_bits_iff, and_mask_idem]
  · rw [List.length_take, maxAddresses]
    omega

namespace TodData

def cut (d : TodData) : TodData := { d with uids := d.uids.take maxUids }

private theorem kept_eq_cut {d : TodData} (hnet : d.net ≤ 0x7f) (hresponse : d.response.Named) :
    d.kept = d.cut := by
  rw [kept, cut, (and_seven_bits_iff _).mpr hnet, (TodResponse.ofCode_code_iff _).mpr hresponse]
  rfl

private theorem body_cut (d : TodData) : d.cut.body = d.body := by
  simp only [body, carried, cut, List.take_take, Nat.min_self]

end TodData

private theorem TodResponse.named_ofCode (c : UInt8) : (ofCode c).Named := by
  unfold ofCode
  split_ifs with hfull hnak
  · trivial
  · trivial
  · simp [Named, hfull, hnak]

private theorem TodData.limits_of_at? {b : Bytes} {d : TodData} (h : 28 ≤ b.length)
    (hd : at? b = some d) : d.net ≤ 0x7f ∧ d.response.Named := by
  have htable := uids?_table b
  simp (disch := omega) only [at?, getElem?_eq_byteAt, beWord?_eq_wordAt, room?_eq_sub,
    span?_eq_take, htable, Option.bind_eq_bind, Option.bind_some, Option.pure_def,
    Option.some.injEq] at hd
  subst hd
  constructor
  · rw [← and_seven_bits_iff, and_mask_idem]
  · exact TodResponse.named_ofCode _

private theorem TodCommand.named_ofCode (c : UInt8) : (ofCode c).Named := by
  unfold ofCode
  split_ifs with hnone hflush hfinish hon hoff
  case neg => simp [Named, hnone, hflush, hfinish, hon, hoff]
  all_goals trivial

private theorem TodControl.fits_of_at? {b : Bytes} {c : TodControl} (h : 24 ≤ b.length)
    (hc : at? b = some c) : c.Fits := by
  simp (disch := omega) only [at?, getElem?_eq_byteAt, Option.bind_eq_bind, Option.bind_some,
    Option.pure_def, Option.some.injEq] at hc
  subst hc
  constructor
  · rw [← and_seven_bits_iff, and_mask_idem]
  · exact TodCommand.named_ofCode _

theorem Rdm.Packet.fits_of_decode {b : Bytes} {p : Packet} (h : decode b = .ok p) : p.Fits := by
  obtain ⟨hb, rfl⟩ := decode_eq_ok.mp h
  constructor
  · apply (CommandClass.ofCode_code_iff _).mp
    simp only [atPlaces, CommandClass.code_ofCode]
  · have hsize := hb.declaredSize_le
    rw [data_atPlaces]
    exact Nat.le_trans (List.length_take_le _ _) hsize

namespace Message

def Legible : Message → Prop
  | poll _ => True
  | pollReply r => r.Legible
  | diagnostic d => FitsText 512 d.text
  | dmx f => f.port.InRange ∧ f.levels.length ≤ 512
  | sync => True
  | programming p => p.Legible
  | todRequest r => r.Fits
  | todData d => d.net ≤ 0x7f ∧ d.response.Named
  | todControl c => c.Fits
  | rdm e => e.Fits
  | unsupported _ _ => True

/-- What a message that was read becomes when it is written and read again. -/
def cut : Message → Message
  | pollReply r => pollReply r.cut
  | diagnostic d => diagnostic d.cut
  | programming p => programming p.cut
  | todData d => todData d.cut
  | m => m

private theorem Legible.kept_eq_cut {m : Message} (h : m.Legible) : m.kept = m.cut := by
  cases m with
  | pollReply r => exact congrArg pollReply (PollReply.Legible.kept_eq_cut h)
  | diagnostic d => exact congrArg diagnostic (Diagnostic.kept_eq_cut h)
  | programming p => exact congrArg programming (NodeProgramming.Legible.kept_eq_cut h)
  | todData d => exact congrArg todData (TodData.kept_eq_cut h.1 h.2)
  | dmx f => exact (kept_eq_self_iff _).mpr h.2
  | _ => exact (kept_eq_self_iff _).mpr h

private theorem Legible.toBytes_cut {m : Message} (h : m.Legible) : m.cut.toBytes = m.toBytes := by
  rw [toBytes_eq_image, toBytes_eq_image]
  cases m with
  | pollReply r => rw [cut, image, image, PollReply.Legible.body_cut h]
  | diagnostic d => rw [cut, image, image, Diagnostic.body_cut h]
  | programming p => rw [cut, image, image, NodeProgramming.Legible.body_cut h]
  | todData d => rw [cut, image, image, TodData.body_cut]
  | _ => rfl

private theorem cut_of_layout? {m : Message}
    (h : m.layout? ∉ [some .pollReply, some .diagnostic, some .programming, some .todData]) :
    m.cut = m := by
  cases m with
  | pollReply | diagnostic | programming | todData => simp [layout?] at h
  | _ => rfl

theorem fields?_of_decode {b : Bytes} {m : Message} {l : Layout} (h : decode b = .ok m)
    (hl : m.layout? = some l) : l.minSize ≤ b.length ∧ fields? b l = some (.ok m) := by
  obtain ⟨hlen, hread⟩ := readFields_of_decode h hl
  obtain ⟨result, hplaces, hresult⟩ := fields?_eq_readFields hlen
  rw [hread] at hresult
  rw [hplaces, ← hresult]
  exact ⟨hlen, rfl⟩

private theorem eq_some_of_map {α : Type} {found : Option α} {f : α → Message} {x : α}
    (hf : ∀ y, f y = f x → y = x)
    (h : (found.map fun y => (Except.ok (f y) : Except CodecError Message)) = some (.ok (f x))) :
    found = some x := by
  simp only [Option.map_eq_some_iff, Except.ok.injEq] at h
  obtain ⟨y, hfound, hy⟩ := h
  rw [hfound, hf y hy]

private theorem pollReply_at?_of_decode {b : Bytes} {r : PollReply}
    (h : decode b = .ok (pollReply r)) : 207 ≤ b.length ∧ PollReply.at? b = some r := by
  obtain ⟨hlen, hfields⟩ := fields?_of_decode h rfl
  exact ⟨hlen, eq_some_of_map (fun _ => pollReply.inj) hfields⟩

private theorem programming_at?_of_decode {b : Bytes} {p : NodeProgramming}
    (h : decode b = .ok (programming p)) : 107 ≤ b.length ∧ NodeProgramming.at? b = some p := by
  obtain ⟨hlen, hfields⟩ := fields?_of_decode h rfl
  exact ⟨hlen, eq_some_of_map (fun _ => programming.inj) hfields⟩

/-- What a datagram is read as is legible. -/
theorem legible_of_decode {b : Bytes} {m : Message} (h : decode b = .ok m) : m.Legible := by
  cases m with
  | poll | sync | unsupported => trivial
  | pollReply r =>
    obtain ⟨hlen, hr⟩ := pollReply_at?_of_decode h
    exact r.legible_of_at? hlen hr
  | diagnostic d =>
    obtain ⟨hlen, hfields⟩ := fields?_of_decode h rfl
    exact d.fits_of_at? hlen (eq_some_of_map (fun _ => diagnostic.inj) hfields)
  | dmx f =>
    obtain ⟨hlen, hfields⟩ := fields?_of_decode h rfl
    exact f.limits_of_at? hlen (eq_some_of_map (fun _ => dmx.inj) hfields)
  | programming p =>
    obtain ⟨hlen, hp⟩ := programming_at?_of_decode h
    exact p.legible_of_at? hlen hp
  | todRequest r =>
    obtain ⟨hlen, hfields⟩ := fields?_of_decode h rfl
    exact r.fits_of_at? hlen (eq_some_of_map (fun _ => todRequest.inj) hfields)
  | todData d =>
    obtain ⟨hlen, hfields⟩ := fields?_of_decode h rfl
    exact d.limits_of_at? hlen (eq_some_of_map (fun _ => todData.inj) hfields)
  | todControl c =>
    obtain ⟨hlen, hfields⟩ := fields?_of_decode h rfl
    exact c.fits_of_at? hlen (eq_some_of_map (fun _ => todControl.inj) hfields)
  | rdm e =>
    obtain ⟨hlen, hfields⟩ := fields?_of_decode h rfl
    rw [fields?, Envelope.at?_eq hlen] at hfields
    cases hpacket : Rdm.Packet.decode (b.drop 24) with
    | error found =>
      rw [hpacket] at hfields
      cases hfields
    | ok packet =>
      rw [hpacket] at hfields
      cases hfields
      refine ⟨?_, Rdm.Packet.fits_of_decode hpacket⟩
      rw [← and_seven_bits_iff, and_mask_idem]

private theorem Legible.wellFormed {m : Message} {l : Layout} (h : m.Legible)
    (hl : m.layout? = some l) : m.WellFormed := by
  cases m with
  | dmx f => exact h.1
  | unsupported op d => cases hl
  | _ => trivial

/-- The text fields of a message, each with its place in the datagram and its width. -/
def textFields : Message → List (Nat × Nat × String)
  | pollReply r => [(26, 18, r.shortName), (44, 64, r.longName), (108, 64, r.nodeReport)]
  | programming p => [(14, 18, p.shortName), (32, 64, p.longName)]
  | _ => []

private theorem mem_textFields_of_decode {b : Bytes} {m : Message} (h : decode b = .ok m)
    {place width : Nat} {s : String} (hs : (place, width, s) ∈ m.textFields) :
    place + width ≤ b.length ∧ s = fieldText ((b.drop place).take width) := by
  cases m with
  | pollReply r =>
    obtain ⟨hlen, hr⟩ := pollReply_at?_of_decode h
    obtain ⟨-, -, hshort, hlong, hreport⟩ := PollReply.texts_of_at? hlen hr
    simp only [textFields, List.mem_cons, Prod.mk.injEq, List.not_mem_nil, or_false] at hs
    obtain ⟨rfl, rfl, rfl⟩ | ⟨rfl, rfl, rfl⟩ | ⟨rfl, rfl, rfl⟩ := hs
    · exact ⟨by omega, hshort⟩
    · exact ⟨by omega, hlong⟩
    · exact ⟨by omega, hreport⟩
  | programming p =>
    obtain ⟨hlen, hp⟩ := programming_at?_of_decode h
    obtain ⟨hshort, hlong⟩ := NodeProgramming.texts_of_at? hlen hp
    simp only [textFields, List.mem_cons, Prod.mk.injEq, List.not_mem_nil, or_false] at hs
    obtain ⟨rfl, rfl, rfl⟩ | ⟨rfl, rfl, rfl⟩ := hs
    · exact ⟨by omega, hshort⟩
    · exact ⟨by omega, hlong⟩
  | _ => cases hs

theorem filled_iff {b : Bytes} {m : Message} (h : decode b = .ok m) {place width : Nat}
    {s : String} (hs : (place, width, s) ∈ m.textFields) :
    s.length = width ↔ 0 ∉ (b.drop place).take width := by
  obtain ⟨hlen, rfl⟩ := mem_textFields_of_decode h hs
  have hwidth : ((b.drop place).take width).length = width := by
    rw [List.length_take, List.length_drop]
    omega
  rw [← length_fieldText_eq_iff, hwidth]

private theorem decode_toBytes_of_decode {b : Bytes} {m : Message} (h : decode b = .ok m) :
    decode m.toBytes = .ok m.cut := by
  have hlegible := legible_of_decode h
  cases hl : m.layout? with
  | some l =>
    have hwritten := decode_toBytes (hlegible.wellFormed hl) []
    rwa [List.append_nil, hlegible.kept_eq_cut] at hwritten
  | none =>
    cases m with
    | unsupported op d =>
      obtain ⟨-, -, rfl⟩ := decode_eq_unsupported.mp h
      rwa [toBytes_eq_image]
    | _ => cases hl

/-- Writing what was read and reading it again. Only texts that filled their field without a
terminator, diagnostics of 512 characters and tables of more than 200 identifiers are cut, and what
is cut is written as before. A datagram of an operation without a layout is written as it came. -/
theorem reencoding_projection {b : Bytes} {m : Message} (h : decode b = .ok m) :
    decode m.toBytes = .ok m.cut ∧ m.cut.toBytes = m.toBytes ∧ m.cut.cut = m.cut ∧
      (∀ place width s, (place, width, s) ∈ m.textFields →
        (s.length = width ↔ 0 ∉ (b.drop place).take width)) ∧
      (m.layout? ∉ [some .pollReply, some .diagnostic, some .programming, some .todData] →
        m.cut = m) ∧
      (∀ op d, m = unsupported op d → m.toBytes = b) := by
  have hlegible := legible_of_decode h
  have hagain := decode_toBytes_of_decode h
  refine ⟨hagain, hlegible.toBytes_cut, ?_, fun _ _ _ hs => filled_iff h hs, cut_of_layout?, ?_⟩
  · have hthird := decode_toBytes_of_decode hagain
    rw [hlegible.toBytes_cut, hagain] at hthird
    exact (Except.ok.inj hthird).symm
  · rintro op d rfl
    obtain ⟨-, -, rfl⟩ := decode_eq_unsupported.mp h
    exact toBytes_eq_image _

theorem reencoding_projection_filled :
    let name := List.replicate 18 0x41
    let b := header .address ++ [0, 1] ++ name ++ List.replicate 75 0
    let p := NodeProgramming.rename 1 "AAAAAAAAAAAAAAAAAA" ""
    decode b = .ok (programming p) ∧ decode (programming p).toBytes =
      .ok (programming (NodeProgramming.rename 1 "AAAAAAAAAAAAAAAAA" "")) := by
  intro name b p
  have hread : decode b = .ok (programming p) := by rfl
  have hcut : (programming p).cut =
      programming (NodeProgramming.rename 1 "AAAAAAAAAAAAAAAAA" "") := by decide +kernel
  exact ⟨hread, hcut ▸ (reencoding_projection hread).1⟩

end Message

end LightingNet
