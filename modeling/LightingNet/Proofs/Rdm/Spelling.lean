import LightingNet.Address.Parse
import LightingNet.Proofs.Node.Identity
import LightingNet.Proofs.Text.Blank
import LightingNet.Proofs.Text.Field
import LightingNet.Proofs.Text.Hexadecimal
/-!
# How identifiers are spelled

A text spells an identifier when its first colon stands between two short hexadecimal numbers. These texts
are read and no others. The printed text is one of them, and printed texts stand in the order of the
identifiers, which is that of their bytes.
-/
namespace LightingNet.Rdm.Uid

/-- A hexadecimal number behind one plus sign or none, in one to `most` bytes. -/
def Part (most : Nat) (cs : List Char) (n : Nat) : Prop :=
  1 ≤ (Utf8.encode cs).length ∧ (Utf8.encode cs).length ≤ most ∧
    ∃ sign digits, cs = sign ++ digits ∧ (sign = [] ∨ sign = ['+']) ∧ Numeral.Hexadecimal digits n

/-- A text with a manufacturer before its first colon and a device number behind it. -/
def Spells (s : String) (manufacturer device : Nat) : Prop :=
  ∃ left right, s.toList = left ++ ':' :: right ∧ ':' ∉ left ∧ Part 4 left manufacturer ∧
    Part 8 right device

variable {most bound m d n : Nat} {cs : List Char} {s : String} {u v : Uid}

/-! ### Reading -/

private theorem length_encode_numeral {sign digits : List Char} (hsign : sign = [] ∨ sign = ['+'])
    (hdigits : Numeral.Hexadecimal digits n) :
    (Utf8.encode (sign ++ digits)).length = (sign ++ digits).length := by
  have hascii : ∀ c ∈ sign ++ digits, c.toNat < 128 := by
    intro c hc
    rcases Numeral.eq_plus_or_mem hsign hc with rfl | hc
    · decide
    · exact Numeral.toNat_lt_of_isDigitOf (hdigits.isDigitOf c hc)
  rw [encode_of_ascii hascii, List.length_map]

private theorem Part.lt (h : Part most cs n) : n < 16 ^ most := by
  obtain ⟨-, hmost, sign, digits, rfl, hsign, hdigits⟩ := h
  rw [length_encode_numeral hsign hdigits, List.length_append] at hmost
  exact hdigits.lt.trans_le (Nat.pow_le_pow_right (by decide) (by omega))

/-- No part that is short enough is too large, so nothing but its form is checked. -/
theorem part?_eq_some_iff (hbound : 16 ^ most ≤ bound) :
    part? most bound cs = some n ↔ Part most cs n := by
  rw [part?, Option.ite_none_right_eq_some, Numeral.unsigned?_sixteen]
  constructor
  · rintro ⟨hmost, sign, digits, rfl, hsign, hdigits, -⟩
    refine ⟨?_, hmost, sign, digits, rfl, hsign, hdigits⟩
    have hpos := List.length_pos_of_ne_nil hdigits.1
    rw [length_encode_numeral hsign hdigits, List.length_append]
    omega
  · intro h
    have hlt : n < bound := h.lt.trans_le hbound
    obtain ⟨-, hmost, sign, digits, hcs, hsign, hdigits⟩ := h
    exact ⟨hmost, sign, digits, hcs, hsign, hdigits, hlt⟩

private theorem Spells.lt (h : Spells s m d) : m < 65536 ∧ d < 4294967296 := by
  obtain ⟨left, right, -, -, hleft, hright⟩ := h
  exact ⟨hleft.lt, hright.lt⟩

theorem parse?_eq_some_iff :
    parse? s = some u ↔ Spells s u.manufacturer.toNat u.device.toNat := by
  have hmanufacturer {cs : List Char} {n : Nat} : part? 4 65536 cs = some n ↔ Part 4 cs n :=
    part?_eq_some_iff (by decide)
  have hdevice {cs : List Char} {n : Nat} : part? 8 4294967296 cs = some n ↔ Part 8 cs n :=
    part?_eq_some_iff (by decide)
  simp only [parse?, Option.bind_eq_bind, Option.bind_eq_some_iff, Option.pure_def,
    Option.some.injEq, Prod.exists, splitAtFirst_eq_some_iff, hmanufacturer, hdevice, Spells]
  constructor
  · rintro ⟨left, right, ⟨hsplit, hcolon⟩, m, hleft, d, hright, rfl⟩
    refine ⟨left, right, hsplit, hcolon, ?_, ?_⟩
    · rwa [UInt16.toNat_ofNat_of_lt' hleft.lt]
    · rwa [UInt32.toNat_ofNat_of_lt' hright.lt]
  · rintro ⟨left, right, hsplit, hcolon, hleft, hright⟩
    refine ⟨left, right, ⟨hsplit, hcolon⟩, _, hleft, _, hright, ?_⟩
    rw [UInt16.ofNat_toNat, UInt32.ofNat_toNat]

private theorem parse?_of_spells (h : Spells s m d) :
    parse? s = some ⟨UInt16.ofNat m, UInt32.ofNat d⟩ := by
  rw [parse?_eq_some_iff, UInt16.toNat_ofNat_of_lt' h.lt.1, UInt32.toNat_ofNat_of_lt' h.lt.2]
  exact h

theorem parse_eq_ok_iff : parse s = .ok u ↔ Spells s u.manufacturer.toNat u.device.toNat := by
  rw [parse, ← parse?_eq_some_iff]
  cases parse? s <;> simp

private theorem parse_eq_error (h : ∀ m d, ¬Spells s m d) : parse s = .error (.badUid s) := by
  rw [parse]
  cases hparse : parse? s with
  | none => rfl
  | some u => exact absurd (parse?_eq_some_iff.mp hparse) (h _ _)

/-! ### Printing -/

private theorem toList_text (u : Uid) :
    u.text.toList =
      Numeral.hexDigits 4 u.manufacturer.toNat ++ ':' :: Numeral.hexDigits 8 u.device.toNat := by
  simp [text, Numeral.hex]

private theorem part_hexDigits {width : Nat} (hwidth : width ≠ 0) (h : n < 16 ^ width) :
    Part width (Numeral.hexDigits width n) n := by
  have hnumber := Numeral.hexadecimal_hexDigits hwidth h
  have hlength := length_encode_numeral (.inl rfl) hnumber
  rw [List.nil_append, Numeral.length_hexDigits] at hlength
  refine ⟨?_, hlength.le, [], _, rfl, .inl rfl, hnumber⟩
  rw [hlength]
  exact Nat.pos_of_ne_zero hwidth

private theorem colon_notMem {cs : List Char} (h : Numeral.Hexadecimal cs n) : ':' ∉ cs := by
  intro hmem
  have hdigit := h.isDigitOf ':' hmem
  cases hdigit

theorem spells_text (u : Uid) : Spells u.text u.manufacturer.toNat u.device.toNat := by
  have hmanufacturer : u.manufacturer.toNat < 16 ^ 4 := u.manufacturer.toNat_lt
  have hdevice : u.device.toNat < 16 ^ 8 := u.device.toNat_lt
  exact ⟨_, _, u.toList_text,
    colon_notMem (Numeral.hexadecimal_hexDigits (by decide) hmanufacturer),
    part_hexDigits (by decide) hmanufacturer, part_hexDigits (by decide) hdevice⟩

private theorem parse_text (u : Uid) : parse u.text = .ok u := parse_eq_ok_iff.mpr u.spells_text

private theorem text_injective : Function.Injective text := by
  intro u v h
  have hread := u.parse_text
  rw [h, v.parse_text] at hread
  exact (Except.ok.inj hread).symm

/-! ### Order -/

theorem text_lt_text_iff : u.text < v.text ↔ u.rank < v.rank := by
  have hmanufacturer (w : Uid) : w.manufacturer.toNat ∈ Set.Iio (16 ^ 4) :=
    w.manufacturer.toNat_lt
  have hdevice (w : Uid) : w.device.toNat ∈ Set.Iio (16 ^ 8) := w.device.toNat_lt
  rw [String.lt_iff_toList_lt, toList_text, toList_text, append_lt_append_iff (by simp),
    (Numeral.strictMonoOn_hexDigits 4).lt_iff_lt (hmanufacturer u) (hmanufacturer v),
    (Numeral.strictMonoOn_hexDigits 4).injOn.eq_iff (hmanufacturer u) (hmanufacturer v),
    List.cons_lt_cons_self,
    (Numeral.strictMonoOn_hexDigits 8).lt_iff_lt (hdevice u) (hdevice v), rank_lt_rank_iff,
    UInt16.lt_iff_toNat_lt, UInt32.lt_iff_toNat_lt, UInt16.toNat_inj]

theorem bytes_lt_bytes_iff : u.bytes < v.bytes ↔ u.rank < v.rank := by
  rw [bytes, bytes, append_lt_append_iff (by simp), be16_inj, be16_lt_be16_iff, be32_lt_be32_iff,
    rank_lt_rank_iff]

/-- Just the texts that spell an identifier are read, each as the one that it spells, and no number in
them is too large. What is printed is read back, and no two identifiers are printed alike. One order
is that of the texts, the ranks, the bytes, and the manufacturers with their device numbers. -/
theorem reads_spellings (s : String) (u : Uid) :
    (parse s = .ok u ↔ Spells s u.manufacturer.toNat u.device.toNat) ∧
      (∀ m d, Spells s m d → m < 65536 ∧ d < 4294967296) ∧
      ((∀ m d, ¬Spells s m d) → parse s = .error (.badUid s)) ∧ parse u.text = .ok u ∧
      ∀ v : Uid, (u ≠ v → u.text ≠ v.text) ∧ (u.text < v.text ↔ u.rank < v.rank) ∧
        (u.bytes < v.bytes ↔ u.rank < v.rank) ∧
        (u.rank < v.rank ↔
          u.manufacturer < v.manufacturer ∨
            u.manufacturer = v.manufacturer ∧ u.device < v.device) :=
  ⟨parse_eq_ok_iff, fun _ _ => Spells.lt, parse_eq_error, u.parse_text, fun v =>
    ⟨text_injective.ne, text_lt_text_iff, bytes_lt_bytes_iff, rank_lt_rank_iff u v⟩⟩

/-- Signs and cases are free, also of the two numbers of one text, but there is no third number. -/
theorem reads_spellings_forms :
    let u : Uid := ⟨0x4c, 0xab⟩
    let v : Uid := ⟨0x4c, 0xff000000⟩
    (parse "+4C:+00aB" = .ok u ∧ 0x4c < 65536 ∧ 0xab < 4294967296) ∧
      parse "4c:1:2" = .error (.badUid "4c:1:2") ∧ parse u.text = .ok u ∧ u.text ≠ v.text ∧
      u.text < v.text := by
  intro u v
  have hleft : Part 4 ['+', '4', 'C'] 0x4c :=
    ⟨by decide, by decide, ['+'], ['4', 'C'], rfl, .inr rfl, by simp, [4, 12],
      .cons (by decide) (.cons (by decide) .nil), by decide⟩
  have hright : Part 8 ['+', '0', '0', 'a', 'B'] 0xab :=
    ⟨by decide, by decide, ['+'], ['0', '0', 'a', 'B'], rfl, .inr rfl, by simp, [0, 0, 10, 11],
      .cons (by decide) (.cons (by decide) (.cons (by decide) (.cons (by decide) .nil))), by decide⟩
  have hspells : Spells "+4C:+00aB" 0x4c 0xab := ⟨_, _, by decide, by decide, hleft, hright⟩
  have hthird : ∀ m d, ¬Spells "4c:1:2" m d := by
    intro m d h
    have hread := parse?_of_spells h
    have hnone : parse? "4c:1:2" = none := by decide +kernel
    rw [hnone] at hread
    cases hread
  obtain ⟨hread, hbounds, -, hback, horder⟩ := reads_spellings "+4C:+00aB" u
  obtain ⟨hdistinct, htext, -, hrank⟩ := horder v
  exact ⟨⟨hread.mpr hspells, hbounds _ _ hspells⟩, (reads_spellings "4c:1:2" u).2.2.1 hthird, hback,
    hdistinct (by decide), htext.mpr (hrank.mpr (.inr ⟨rfl, by decide⟩))⟩

end LightingNet.Rdm.Uid
