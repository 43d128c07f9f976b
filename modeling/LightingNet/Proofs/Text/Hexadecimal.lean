import LightingNet.Proofs.Bytes.Order
import LightingNet.Proofs.Text.Numeral
import Mathlib.Data.Nat.Digits.Lemmas
import Mathlib.Data.String.Basic
/-!
# Hexadecimal numbers

A hexadecimal number is a text of digits of either case. In base sixteen just these are read, behind one
plus sign or none. A number printed with a fixed number of digits is such a text, and numbers printed so
stand in their order.
-/
namespace LightingNet.Numeral

def HexDigit (c : Char) (d : Nat) : Prop :=
  "0123456789abcdef".toList[d]? = some c ∨ "0123456789ABCDEF".toList[d]? = some c

instance (c : Char) (d : Nat) : Decidable (HexDigit c d) :=
  inferInstanceAs (Decidable (_ ∨ _))

/-- A hexadecimal number, its most significant digit first. -/
def Hexadecimal (cs : List Char) (n : Nat) : Prop :=
  cs ≠ [] ∧ ∃ ds, List.Forall₂ HexDigit cs ds ∧ Nat.ofDigits 16 ds.reverse = n

variable {bound d m n width : Nat} {c : Char} {cs : List Char} {ds : List Nat}

private theorem HexDigit.lt (h : HexDigit c d) : d < 16 := by
  rcases h with h | h <;> exact (List.getElem?_eq_some_iff.mp h).1

/-! ### Reading -/

private theorem HexDigit.digitValue_eq (h : HexDigit c d) : digitValue c = some d := by
  have table : ∀ d < 16, "0123456789abcdef".toList[d]?.bind digitValue = some d ∧
      "0123456789ABCDEF".toList[d]?.bind digitValue = some d := by decide
  obtain ⟨hlower, hupper⟩ := table d h.lt
  rcases h with h | h
  · rwa [h] at hlower
  · rwa [h] at hupper

theorem hexDigit_iff : HexDigit c d ↔ digitValue c = some d ∧ d < 16 := by
  refine ⟨fun h => ⟨h.digitValue_eq, h.lt⟩, ?_⟩
  rintro ⟨hvalue, hlt⟩
  have table : ∀ d < 16, (d < 10 → HexDigit (Char.ofNat (48 + d)) d) ∧
      (10 ≤ d → HexDigit (Char.ofNat (87 + d)) d ∧ HexDigit (Char.ofNat (55 + d)) d) := by decide
  have hplace : c.toNat = 48 + d ∧ d < 10 ∨ c.toNat = 87 + d ∧ 10 ≤ d ∨
      c.toNat = 55 + d ∧ 10 ≤ d := by
    simp only [digitValue, char_le_iff, Char.reduceToNat] at hvalue
    split_ifs at hvalue <;> simp only [Option.some.injEq] at hvalue <;> omega
  obtain ⟨hdecimal, hletter⟩ := table d hlt
  rw [← Char.ofNat_toNat c]
  rcases hplace with ⟨hc, hd⟩ | ⟨hc, hd⟩ | ⟨hc, hd⟩ <;> rw [hc]
  · exact hdecimal hd
  · exact (hletter hd).1
  · exact (hletter hd).2

theorem forall₂_hexDigit_iff :
    List.Forall₂ HexDigit cs ds ↔
      (∀ c ∈ cs, isDigitOf 16 c) ∧ cs.map (fun c => (digitValue c).getD 0) = ds := by
  induction cs generalizing ds with
  | nil =>
    rw [List.forall₂_nil_left_iff, eq_comm]
    simp
  | cons c cs ih =>
    rw [List.forall₂_cons_left_iff, List.forall_mem_cons, List.map_cons]
    constructor
    · rintro ⟨d, ds, hc, hcs, rfl⟩
      obtain ⟨hvalue, hlt⟩ := hexDigit_iff.mp hc
      obtain ⟨hdigits, hvalues⟩ := ih.mp hcs
      exact ⟨⟨by simp [isDigitOf, hvalue, hlt], hdigits⟩, by rw [hvalue, hvalues]; rfl⟩
    · rintro ⟨⟨hc, hdigits⟩, rfl⟩
      cases hvalue : digitValue c with
      | none => simp [isDigitOf, hvalue] at hc
      | some d =>
        have hlt : d < 16 := by simpa [isDigitOf, hvalue] using hc
        exact ⟨d, _, hexDigit_iff.mpr ⟨hvalue, hlt⟩, ih.mpr ⟨hdigits, rfl⟩, by simp⟩

private theorem valueFrom_zero (base : Nat) (cs : List Char) :
    valueFrom base 0 cs =
      Nat.ofDigits base (cs.map fun c => (digitValue c).getD 0).reverse := by
  rw [valueFrom, Nat.ofDigits_eq_foldr, List.foldr_reverse, List.foldl_map]
  congr 1
  funext v c
  simp [Nat.mul_comm, Nat.add_comm]

private theorem digits?_sixteen : digits? 16 cs = some n ↔ Hexadecimal cs n := by
  simp only [digits?_eq_some_iff, Hexadecimal, forall₂_hexDigit_iff, and_assoc,
    exists_and_left, exists_eq_left', valueFrom_zero]

theorem unsigned?_sixteen :
    unsigned? 16 bound cs = some n ↔
      ∃ sign digits, cs = sign ++ digits ∧ (sign = [] ∨ sign = ['+']) ∧ Hexadecimal digits n ∧
        n < bound := by
  simp only [unsigned?_eq_some_iff, ← digits?_sixteen, digits?_eq_some_iff, and_assoc]

/-! ### Size -/

private theorem lt_of_hexDigits (h : List.Forall₂ HexDigit cs ds) : ∀ d ∈ ds, d < 16 := by
  induction h with
  | nil => nofun
  | cons hc _ ih => exact List.forall_mem_cons.mpr ⟨hc.lt, ih⟩

theorem Hexadecimal.lt (h : Hexadecimal cs n) : n < 16 ^ cs.length := by
  obtain ⟨-, ds, hdigits, rfl⟩ := h
  have hsmall : ∀ d ∈ ds.reverse, d < 16 := by simpa using lt_of_hexDigits hdigits
  have hbelow := Nat.ofDigits_lt_base_pow_length (by decide) hsmall
  rwa [List.length_reverse, ← hdigits.length_eq] at hbelow

theorem Hexadecimal.isDigitOf (h : Hexadecimal cs n) : ∀ c ∈ cs, isDigitOf 16 c :=
  (digits?_eq_some_iff.mp (digits?_sixteen.mpr h)).2.1

theorem toNat_lt_of_isDigitOf {base : Nat} (h : isDigitOf base c) : c.toNat < 128 := by
  simp only [isDigitOf, digitValue, char_le_iff, Char.reduceToNat] at h
  split_ifs at h
  all_goals omega

/-! ### Printing -/

@[simp] theorem length_hexDigits (width n : Nat) : (hexDigits width n).length = width := by
  induction width generalizing n with
  | zero => rfl
  | succ width ih => simp [hexDigits, ih]

private theorem hexDigit_digitChar (h : d < 16) : HexDigit (digitChar d) d := by
  have table : ∀ d < 16, HexDigit (digitChar d) d := by decide
  exact table d h

private theorem exists_hexDigits (width n : Nat) :
    ∃ ds, List.Forall₂ HexDigit (hexDigits width n) ds ∧
      Nat.ofDigits 16 ds.reverse = n % 16 ^ width := by
  induction width generalizing n with
  | zero => exact ⟨[], .nil, by simp [Nat.mod_one]⟩
  | succ width ih =>
    obtain ⟨ds, hdigits, hvalue⟩ := ih (n / 16)
    have hlast : HexDigit (digitChar (n % 16)) (n % 16) :=
      hexDigit_digitChar (Nat.mod_lt n (by decide))
    refine ⟨ds ++ [n % 16], List.rel_append hdigits (.cons hlast .nil), ?_⟩
    rw [List.reverse_append, List.reverse_singleton, List.singleton_append, Nat.ofDigits_cons,
      hvalue, Nat.pow_succ, Nat.mul_comm (16 ^ width) 16, Nat.mod_mul]

theorem hexadecimal_hexDigits (hwidth : width ≠ 0) (h : n < 16 ^ width) :
    Hexadecimal (hexDigits width n) n := by
  obtain ⟨ds, hdigits, hvalue⟩ := exists_hexDigits width n
  rw [Nat.mod_eq_of_lt h] at hvalue
  refine ⟨fun hnil => hwidth ?_, ds, hdigits, hvalue⟩
  rw [← length_hexDigits width n, hnil, List.length_nil]

/-! ### Order -/

private theorem digitChar_lt_digitChar (h : d < m) (hm : m < 16) : digitChar d < digitChar m := by
  have table : ∀ m < 16, ∀ d < m, digitChar d < digitChar m := by decide
  exact table m hm d h

private theorem hexDigits_lt_hexDigits (h : m < n) (hn : n < 16 ^ width) :
    hexDigits width m < hexDigits width n := by
  induction width generalizing m n with
  | zero => simp at hn; omega
  | succ width ih =>
    have hhigh : n / 16 < 16 ^ width := by
      rw [Nat.pow_succ] at hn
      omega
    rw [hexDigits, hexDigits, append_lt_append_iff (by simp)]
    -- Either the digits in front are smaller already, or they agree and the last one is.
    rcases Nat.lt_or_eq_of_le (Nat.div_le_div_right h.le : m / 16 ≤ n / 16) with hlt | heq
    · exact .inl (ih hlt hhigh)
    · have hlast : m % 16 < n % 16 := by omega
      refine .inr ⟨by rw [heq], ?_⟩
      exact List.cons_lt_cons_iff.mpr
        (.inl (digitChar_lt_digitChar hlast (Nat.mod_lt n (by decide))))

theorem strictMonoOn_hexDigits (width : Nat) :
    StrictMonoOn (hexDigits width) (Set.Iio (16 ^ width)) :=
  fun _ _ _ hn h => hexDigits_lt_hexDigits h hn

end LightingNet.Numeral
