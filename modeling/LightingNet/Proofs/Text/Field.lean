import LightingNet.Proofs.Bytes.Readback
import LightingNet.Text.Field
/-!
# What a text field keeps

A field keeps the first bytes of a text up to a NUL, with a question mark for each byte outside
ASCII. It keeps a text whole exactly when the text is ASCII without NUL and leaves room for the
terminator.
-/
namespace LightingNet

/-- What a field with room for `room` bytes in front of its terminator keeps of a text. -/
def keptText (room : Nat) (s : String) : String := asciiText (untilNul (wireText room s))

def FitsText (room : Nat) (s : String) : Prop :=
  s.length ≤ room ∧ ∀ c ∈ s.toList, 0 < c.toNat ∧ c.toNat < 128

theorem asciiByte_lt (x : UInt8) : asciiByte x < 0x80 := by
  unfold asciiByte
  by_cases h : x < 0x80
  · rw [if_pos h]
    exact h
  · rw [if_neg h]
    decide

theorem asciiByte_of_lt {x : UInt8} (h : x < 0x80) : asciiByte x = x := if_pos h

theorem lt_of_mem_wireText {room : Nat} {s : String} {x : UInt8} (h : x ∈ wireText room s) :
    x < 0x80 := by
  obtain ⟨y, _, rfl⟩ := List.mem_map.mp h
  exact asciiByte_lt y

private theorem mem_of_mem_untilNul {b : Bytes} {x : UInt8} (h : x ∈ untilNul b) : x ∈ b :=
  List.takeWhile_subset _ h

theorem ne_zero_of_mem_untilNul {b : Bytes} {x : UInt8} (h : x ∈ untilNul b) : x ≠ 0 := by
  have hall := List.all_takeWhile (p := fun x : UInt8 => decide (x ≠ 0)) (l := b)
  exact of_decide_eq_true (List.all_eq_true.mp hall x h)

private theorem untilNul_of_ne_zero {b : Bytes} (h : ∀ x ∈ b, x ≠ 0) : untilNul b = b := by
  induction b with
  | nil => rfl
  | cons x b ih =>
    have hx := h x List.mem_cons_self
    have hb := ih fun y hy => h y (List.mem_cons_of_mem x hy)
    rw [untilNul, List.takeWhile_cons_of_pos (by simpa using hx)]
    exact congrArg (x :: ·) hb

theorem untilNul_append_zero (b rest : Bytes) : untilNul (b ++ 0 :: rest) = untilNul b := by
  induction b with
  | nil => rfl
  | cons x b ih =>
    simp only [untilNul, List.cons_append, List.takeWhile_cons] at ih ⊢
    rw [ih]

theorem asciiByte_eq_zero_iff (x : UInt8) : asciiByte x = 0 ↔ x = 0 := by
  unfold asciiByte
  split
  · rfl
  · rename_i h
    constructor
    · intro hmark
      exact absurd hmark (by decide)
    · intro hzero
      exact absurd (show x < 0x80 by rw [hzero]; decide) h

theorem untilNul_map_asciiByte (b : Bytes) :
    untilNul (b.map asciiByte) = (untilNul b).map asciiByte := by
  induction b with
  | nil => rfl
  | cons x b ih =>
    simp only [untilNul] at ih
    simp only [untilNul, List.map_cons, List.takeWhile_cons, ne_eq, asciiByte_eq_zero_iff, ih]
    split <;> simp

/-- Whatever stands behind its terminator, a field is read as what it keeps of the text. -/
theorem fieldText_wireText (room : Nat) (s : String) (rest : Bytes) :
    fieldText (wireText room s ++ 0 :: rest) = keptText room s := by
  have hascii : (untilNul (wireText room s)).map asciiByte = untilNul (wireText room s) := by
    refine (List.map_congr_left ?_).trans (List.map_id _)
    intro x hx
    exact asciiByte_of_lt (lt_of_mem_wireText (mem_of_mem_untilNul hx))
  rw [fieldText, untilNul_append_zero, hascii, keptText]

namespace Reader

private theorem text_textField (width : Nat) (h : 0 < width) (s : String) (rest : Bytes) :
    text width (textField width s ++ rest) = some (keptText (width - 1) s, rest) := by
  have hroom := length_wireText_le (width - 1) s
  have hlen := length_textField width s
  have hspan : span width (textField width s ++ rest) = some (textField width s, rest) := by
    have happend := span_append (textField width s) rest
    rwa [hlen] at happend
  obtain ⟨k, hk⟩ := Nat.exists_eq_succ_of_ne_zero
    (show width - (wireText (width - 1) s).length ≠ 0 by omega)
  have htext : fieldText (textField width s) = keptText (width - 1) s := by
    simp only [textField, hk, List.replicate_succ, fieldText_wireText]
  rw [text, bind_apply, hspan, Option.bind_some, pure_apply, htext]

theorem bind_text_textField {β : Type} (f : String → Reader β) (width : Nat) (h : 0 < width)
    (s : String) (rest : Bytes) :
    (text width >>= f) (textField width s ++ rest) = f (keptText (width - 1) s) rest := by
  rw [bind_apply, text_textField width h]
  rfl

end Reader

theorem toNat_charOfByte {x : UInt8} (h : x < 0x80) : (Char.ofNat x.toNat).toNat = x.toNat := by
  have hx : x.toNat < 128 := h
  have hv : x.toNat.isValidChar := Or.inl (by omega)
  rw [Char.ofNat, dif_pos hv]
  rfl

theorem encode_of_ascii {cs : List Char} (h : ∀ c ∈ cs, c.toNat < 128) :
    Utf8.encode cs = cs.map fun c => UInt8.ofNat c.toNat := by
  unfold Utf8.encode
  induction cs with
  | nil => rfl
  | cons c cs ih =>
    have hc : c.val.toNat ≤ 0x7f := Nat.le_of_lt_succ (h c List.mem_cons_self)
    rw [List.flatMap_cons, ih fun d hd => h d (List.mem_cons_of_mem c hd), String.utf8EncodeChar,
      if_pos hc]
    rfl

theorem ofString_of_ascii {s : String} (h : ∀ c ∈ s.toList, c.toNat < 128) :
    Utf8.ofString s = s.toList.map fun c => UInt8.ofNat c.toNat :=
  encode_of_ascii h

private theorem toNat_byteOfChar {c : Char} (h : c.toNat < 128) :
    (UInt8.ofNat c.toNat).toNat = c.toNat := by
  rw [UInt8.toNat_ofNat', Nat.mod_eq_of_lt (by omega)]

theorem keptText_of_fits {room : Nat} {s : String} (h : FitsText room s) : keptText room s = s := by
  have hascii : ∀ c ∈ s.toList, c.toNat < 128 := fun c hc => (h.2 c hc).2
  have hwire : wireText room s = s.toList.map fun c => UInt8.ofNat c.toNat := by
    rw [wireText, ofString_of_ascii hascii, List.take_of_length_le, List.map_map]
    · apply List.map_congr_left
      intro c hc
      apply asciiByte_of_lt
      rw [UInt8.lt_iff_toNat_lt, toNat_byteOfChar (hascii c hc)]
      exact hascii c hc
    · rw [List.length_map]
      exact h.1
  have hnul : untilNul (wireText room s) = wireText room s := by
    apply untilNul_of_ne_zero
    intro x hx hzero
    rw [hwire] at hx
    obtain ⟨c, hc, rfl⟩ := List.mem_map.mp hx
    have hpos := (h.2 c hc).1
    have hcode := congrArg UInt8.toNat hzero
    rw [toNat_byteOfChar (hascii c hc)] at hcode
    exact absurd hcode (Nat.ne_of_gt hpos)
  have hback : (s.toList.map fun c => UInt8.ofNat c.toNat).map (fun x => Char.ofNat x.toNat) =
      s.toList := by
    rw [List.map_map]
    refine (List.map_congr_left ?_).trans (List.map_id _)
    intro c hc
    change Char.ofNat (UInt8.ofNat c.toNat).toNat = c
    rw [toNat_byteOfChar (hascii c hc), Char.ofNat_toNat]
  rw [keptText, hnul, asciiText, hwire, hback, String.ofList_toList]

theorem keptText_eq_self_iff (room : Nat) (s : String) : keptText room s = s ↔ FitsText room s := by
  refine ⟨?_, keptText_of_fits⟩
  intro h
  have hlist : s.toList = (untilNul (wireText room s)).map fun x => Char.ofNat x.toNat := by
    rw [← String.toList_ofList (l := (untilNul (wireText room s)).map _)]
    exact congrArg String.toList h.symm
  constructor
  · have hsub : (untilNul (wireText room s)).length ≤ (wireText room s).length :=
      (List.takeWhile_sublist _).length_le
    have hroom := length_wireText_le room s
    rw [← String.length_toList, hlist, List.length_map]
    omega
  · intro c hc
    rw [hlist] at hc
    obtain ⟨x, hx, rfl⟩ := List.mem_map.mp hc
    have hlt := lt_of_mem_wireText (mem_of_mem_untilNul hx)
    have hne := ne_zero_of_mem_untilNul hx
    rw [toNat_charOfByte hlt]
    refine ⟨Nat.pos_of_ne_zero ?_, hlt⟩
    intro hz
    exact hne (UInt8.toNat_inj.mp hz)

end LightingNet
