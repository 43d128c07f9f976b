import LightingNet.Text.Numeral
import Mathlib.Data.List.Basic
/-!
# What is read as a number

An unsigned number is read off exactly the texts of digits, behind one plus sign or none, whose value is
below the bound. In base ten these are the digits from 0 to 9, and a number in decimal is such a text.
-/
namespace LightingNet.Numeral

variable {base bound value n : Nat} {cs : List Char}

def valueFrom (base value : Nat) (cs : List Char) : Nat :=
  cs.foldl (fun v c => v * base + (digitValue c).getD 0) value

theorem digitsFrom_eq_some_iff :
    digitsFrom base value cs = some n ↔
      (∀ c ∈ cs, isDigitOf base c) ∧ valueFrom base value cs = n := by
  induction cs generalizing value with
  | nil => simp [digitsFrom, valueFrom]
  | cons c cs ih =>
    rw [digitsFrom]
    cases hdigit : digitValue c with
    | none => simp [isDigitOf, hdigit]
    | some d =>
      have hvalue : valueFrom base value (c :: cs) = valueFrom base (value * base + d) cs := by
        simp [valueFrom, hdigit]
      by_cases hlt : d < base
      · simp [isDigitOf, hdigit, hlt, ih, hvalue]
      · simp [isDigitOf, hdigit, hlt]

theorem digits?_eq_some_iff :
    digits? base cs = some n ↔
      cs ≠ [] ∧ (∀ c ∈ cs, isDigitOf base c) ∧ valueFrom base 0 cs = n := by
  cases cs with
  | nil => simp [digits?]
  | cons c cs => simp [digits?, digitsFrom_eq_some_iff]

def afterPlus (cs : List Char) : List Char := if cs.head? = some '+' then cs.tail else cs

private theorem exists_sign (cs : List Char) :
    ∃ sign, cs = sign ++ afterPlus cs ∧ (sign = [] ∨ sign = ['+']) := by
  cases cs with
  | nil => exact ⟨[], rfl, .inl rfl⟩
  | cons c rest =>
    by_cases hc : c = '+'
    · exact ⟨['+'], by simp [afterPlus, hc], .inr rfl⟩
    · exact ⟨[], by simp [afterPlus, hc], .inl rfl⟩

private theorem afterPlus_digits (h : ∀ c ∈ cs, isDigitOf base c) : afterPlus cs = cs := by
  refine if_neg fun hhead => ?_
  have hplus := h '+' (List.mem_of_head? hhead)
  cases hplus

private theorem unsigned?_eq_filter :
    unsigned? base bound cs = (digits? base (afterPlus cs)).filter (· < bound) := by
  cases cs with
  | nil => rfl
  | cons c rest =>
    by_cases hc : c = '+'
    · cases hread : digits? base rest <;> simp [unsigned?, afterPlus, hc, hread, Option.filter_some]
    · cases hread : digits? base (c :: rest) <;>
        simp [unsigned?, afterPlus, hc, hread, Option.filter_some]

theorem unsigned?_eq_some_iff :
    unsigned? base bound cs = some n ↔
      ∃ sign digits, cs = sign ++ digits ∧ (sign = [] ∨ sign = ['+']) ∧ digits ≠ [] ∧
        (∀ c ∈ digits, isDigitOf base c) ∧ valueFrom base 0 digits = n ∧ n < bound := by
  rw [unsigned?_eq_filter, Option.filter_eq_some_iff, digits?_eq_some_iff, decide_eq_true_iff]
  constructor
  · rintro ⟨⟨hne, hdigits, hvalue⟩, hlt⟩
    obtain ⟨sign, hsplit, hsign⟩ := exists_sign cs
    exact ⟨sign, afterPlus cs, hsplit, hsign, hne, hdigits, hvalue, hlt⟩
  · rintro ⟨sign, digits, rfl, hsign, hne, hdigits, hvalue, hlt⟩
    have hbody : afterPlus (sign ++ digits) = digits := by
      rcases hsign with rfl | rfl
      · exact afterPlus_digits hdigits
      · rfl
    rw [hbody]
    exact ⟨⟨hne, hdigits, hvalue⟩, hlt⟩

theorem eq_plus_or_mem {c : Char} {sign digits : List Char} (hsign : sign = [] ∨ sign = ['+'])
    (hc : c ∈ sign ++ digits) : c = '+' ∨ c ∈ digits := by
  rcases hsign with rfl | rfl
  · exact .inr hc
  · exact List.mem_cons.mp hc

theorem char_le_iff (a b : Char) : a ≤ b ↔ a.toNat ≤ b.toNat := Iff.rfl

/-! ### Decimal numbers -/

private theorem digitValue_of_isDigit {c : Char} (h : c.isDigit) :
    digitValue c = some (c.toNat - 48) := by
  obtain ⟨hlow, hhigh⟩ := Char.isDigit_iff_toNat.mp h
  exact if_pos ⟨hlow, hhigh⟩

theorem isDigitOf_ten (c : Char) : isDigitOf 10 c = c.isDigit := by
  rw [Bool.eq_iff_iff, Char.isDigit_iff_toNat]
  simp only [isDigitOf, digitValue, char_le_iff, Char.reduceToNat]
  split_ifs <;> simp <;> omega

theorem valueFrom_ten (h : ∀ c ∈ cs, c.isDigit) :
    valueFrom 10 value cs = Nat.ofDigitChars 10 cs value := by
  induction cs generalizing value with
  | nil => rfl
  | cons c cs ih =>
    have hc : digitValue c = some (c.toNat - 48) := digitValue_of_isDigit (h c List.mem_cons_self)
    rw [Nat.ofDigitChars_cons, ← ih fun c hc => h c (List.mem_cons_of_mem _ hc)]
    simp [valueFrom, hc, Nat.mul_comm]

theorem decimalDigits_eq_toDigits (n : Nat) : decimalDigits n = Nat.toDigits 10 n := by
  have hdigit {d : Nat} (h : d < 10) : digitChar d = Nat.digitChar d := by
    have htable : ∀ d < 10, digitChar d = Nat.digitChar d := by decide
    exact htable d h
  fun_induction decimalDigits n with
  | case1 n h => rw [Nat.toDigits_of_lt_base h, hdigit h]
  | case2 n h ih =>
    rw [Nat.toDigits_of_base_le (by decide) (Nat.le_of_not_lt h), ih,
      hdigit (Nat.mod_lt n (by decide))]

theorem decimalDigits_ne_nil (n : Nat) : decimalDigits n ≠ [] := by
  rw [decimalDigits_eq_toDigits]
  exact Nat.toDigits_ne_nil

theorem isDigit_of_mem_decimalDigits {c : Char} (h : c ∈ decimalDigits n) : c.isDigit := by
  rw [decimalDigits_eq_toDigits] at h
  exact Nat.isDigit_of_mem_toDigits (by decide) (by decide) h

theorem ofDigitChars_decimalDigits (n : Nat) : Nat.ofDigitChars 10 (decimalDigits n) 0 = n := by
  rw [decimalDigits_eq_toDigits]
  exact Nat.ofDigitChars_toDigits (by decide) (by decide)

theorem digits?_decimalDigits (n : Nat) : digits? 10 (decimalDigits n) = some n := by
  have hdigits : ∀ c ∈ decimalDigits n, c.isDigit := fun _ => isDigit_of_mem_decimalDigits
  rw [digits?_eq_some_iff, valueFrom_ten hdigits]
  simp only [isDigitOf_ten]
  exact ⟨decimalDigits_ne_nil n, hdigits, ofDigitChars_decimalDigits n⟩

end LightingNet.Numeral
