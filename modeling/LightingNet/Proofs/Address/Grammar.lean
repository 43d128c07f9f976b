import LightingNet.Proofs.Address.Ranges
import LightingNet.Proofs.Text.Blank
import LightingNet.Proofs.Text.Numeral
import Mathlib.Data.List.Forall2
/-!
# What is read as a port-address

A text names a port-address when one, two or three numbers stand between its full stops, blanks around
them ignored, each within the range of its part. Nothing else is read, and what is printed is read back.
-/
namespace LightingNet

theorem mapM_eq_some_iff {α β : Type} {f : α → Option β} {xs : List α} {ys : List β} :
    xs.mapM f = some ys ↔ List.Forall₂ (fun x y => f x = some y) xs ys := by
  induction xs generalizing ys with
  | nil => simp [eq_comm]
  | cons x xs ih =>
    simp only [List.mapM_cons, Option.bind_eq_bind, Option.bind_eq_some_iff, Option.pure_def,
      Option.some.injEq, ih, List.forall₂_cons_left_iff]
    constructor
    · rintro ⟨y, hy, ys, hys, rfl⟩
      exact ⟨y, ys, hy, hys, rfl⟩
    · rintro ⟨y, ys, hy, hys, rfl⟩
      exact ⟨y, hy, ys, hys, rfl⟩

namespace PortAddress

/-- A number of 16 bits as it may stand in a port-address: decimal digits, behind one plus sign or none,
with blanks around. -/
def Part (cs : List Char) (n : Nat) : Prop :=
  ∃ before sign digits after, cs = before ++ ((sign ++ digits) ++ after) ∧
    (∀ c ∈ before, isBlank c) ∧ (∀ c ∈ after, isBlank c) ∧ (sign = [] ∨ sign = ['+']) ∧
    digits ≠ [] ∧ (∀ c ∈ digits, c.isDigit) ∧ Nat.ofDigitChars 10 digits 0 = n ∧ n < 65536

def Denotes : List Nat → PortAddress → Prop
  | [packed], p => packed ≤ 0x7fff ∧ p = ofPacked (UInt16.ofNat packed)
  | [subnet, uni], p => subnet ≤ 15 ∧ uni ≤ 15 ∧ p = ⟨0, UInt8.ofNat subnet, UInt8.ofNat uni⟩
  | [net, subnet, uni], p =>
    net ≤ 127 ∧ subnet ≤ 15 ∧ uni ≤ 15 ∧ p = ⟨UInt8.ofNat net, UInt8.ofNat subnet, UInt8.ofNat uni⟩
  | _, _ => False

/-- A text that names a port-address: numbers with full stops between them. -/
def Names (s : String) (p : PortAddress) : Prop :=
  ∃ pieces numbers, ['.'].intercalate pieces = s.toList ∧ (∀ piece ∈ pieces, '.' ∉ piece) ∧
    List.Forall₂ Part pieces numbers ∧ Denotes numbers p

variable {cs : List Char} {n : Nat} {numbers : List Nat} {s : String} {p : PortAddress}

theorem part?_eq_some_iff : part? cs = some n ↔ Part cs n := by
  simp only [part?, Numeral.unsigned?_eq_some_iff, Numeral.isDigitOf_ten, Part]
  constructor
  · rintro ⟨sign, digits, hbody, hsign, hne, hdigits, hvalue, hlt⟩
    obtain ⟨before, after, hsplit, hbefore, hafter⟩ := exists_blanks cs
    rw [hbody] at hsplit
    rw [Numeral.valueFrom_ten hdigits] at hvalue
    exact ⟨before, sign, digits, after, hsplit, hbefore, hafter, hsign, hne, hdigits, hvalue, hlt⟩
  · rintro ⟨before, sign, digits, after, rfl, hbefore, hafter, hsign, hne, hdigits, hvalue, hlt⟩
    -- No blank is left to remove between sign and digits, so trimming ends at them.
    have hbody : ∀ c ∈ sign ++ digits, isBlank c = false := by
      intro c hc
      rcases Numeral.eq_plus_or_mem hsign hc with rfl | hc
      · decide
      · exact isBlank_of_isDigit (hdigits c hc)
    rw [trimBlanks_of_blanks hbefore hbody (by simp [hne]) hafter]
    rw [← Numeral.valueFrom_ten hdigits] at hvalue
    exact ⟨sign, digits, rfl, hsign, hne, hdigits, hvalue, hlt⟩

private theorem masked_eq {net subnet uni : Nat} (hnet : net ≤ 127) (hsubnet : subnet ≤ 15)
    (huni : uni ≤ 15) :
    masked (UInt8.ofNat net) (UInt8.ofNat subnet) (UInt8.ofNat uni) =
      ⟨UInt8.ofNat net, UInt8.ofNat subnet, UInt8.ofNat uni⟩ := by
  have hle {n m : Nat} (h : n ≤ m) (hm : m < 256) : UInt8.ofNat n ≤ UInt8.ofNat m := by
    rw [UInt8.le_iff_toNat_le, UInt8.toNat_ofNat_of_lt' hm,
      UInt8.toNat_ofNat_of_lt' (Nat.lt_of_le_of_lt h hm)]
    exact h
  rw [masked, (and_seven_bits_iff _).mpr (hle hnet (by decide)),
    (and_four_bits_iff _).mpr (hle hsubnet (by decide)),
    (and_four_bits_iff _).mpr (hle huni (by decide))]

theorem ofNumbers?_eq_some_iff : ofNumbers? numbers = some p ↔ Denotes numbers p := by
  rcases numbers with _ | ⟨a, _ | ⟨b, _ | ⟨c, _ | ⟨d, rest⟩⟩⟩⟩
  · simp [ofNumbers?, Denotes]
  · simp [ofNumbers?, Denotes, eq_comm]
  · simp only [ofNumbers?, Denotes, Option.ite_none_right_eq_some, Option.some.injEq, and_assoc]
    refine and_congr_right fun ha => and_congr_right fun hb => ?_
    have hmasked := masked_eq (Nat.zero_le 127) ha hb
    rw [eq_comm, ← show UInt8.ofNat 0 = 0 from rfl, hmasked]
  · simp only [ofNumbers?, Denotes, Option.ite_none_right_eq_some, Option.some.injEq, and_assoc]
    refine and_congr_right fun ha => and_congr_right fun hb => and_congr_right fun hc => ?_
    rw [eq_comm, masked_eq ha hb hc]
  · simp [ofNumbers?, Denotes]

theorem parse?_eq_some_iff : parse? s = some p ↔ Names s p := by
  simp only [parse?, Option.bind_eq_bind, Option.bind_eq_some_iff, mapM_eq_some_iff,
    part?_eq_some_iff, ofNumbers?_eq_some_iff, Names]
  constructor
  · rintro ⟨numbers, hparts, hdenotes⟩
    obtain ⟨-, hpieces, hjoin⟩ := piecesAt_eq_iff.mp rfl
    exact ⟨piecesAt '.' s.toList, numbers, hjoin, hpieces, hparts, hdenotes⟩
  · rintro ⟨pieces, numbers, hjoin, hpieces, hparts, hdenotes⟩
    -- Joining no pieces gives the empty text as well as joining one empty piece does.
    have hne : pieces ≠ [] := by
      rintro rfl
      cases hparts
      exact hdenotes
    rw [piecesAt_eq_iff.mpr ⟨hne, hpieces, hjoin⟩]
    exact ⟨numbers, hparts, hdenotes⟩

theorem parse_eq_ok_iff : parse s = .ok p ↔ Names s p := by
  rw [parse, ← parse?_eq_some_iff]
  cases parse? s <;> simp

private theorem parse_eq_error (h : ∀ p, ¬Names s p) : parse s = .error (.badPortAddress s) := by
  rw [parse]
  cases hparse : parse? s with
  | none => rfl
  | some p => exact absurd (parse?_eq_some_iff.mp hparse) (h p)

private theorem part_decimalDigits (h : n < 65536) : Part (Numeral.decimalDigits n) n :=
  ⟨[], [], Numeral.decimalDigits n, [], by simp, nofun, nofun, .inl rfl,
    Numeral.decimalDigits_ne_nil n, fun _ => Numeral.isDigit_of_mem_decimalDigits,
    Numeral.ofDigitChars_decimalDigits n, h⟩

private theorem dot_notMem_decimalDigits (n : Nat) : '.' ∉ Numeral.decimalDigits n := by
  intro hmem
  have hdigit := Numeral.isDigit_of_mem_decimalDigits hmem
  cases hdigit

private theorem names_text (h : p.InRange) : Names p.text p := by
  obtain ⟨hnet, hsubnet, huni⟩ := h.toNat_le
  let numbers := [p.net.toNat, p.subnet.toNat, p.uni.toNat]
  refine ⟨numbers.map Numeral.decimalDigits, numbers, ?_, ?_, ?_, hnet, hsubnet, huni, ?_⟩
  · simp [numbers, text, Numeral.decimal, List.intercalate]
  · simp [numbers, dot_notMem_decimalDigits]
  · have hpart {n : Nat} (h : n ≤ 127) := part_decimalDigits (n := n) (by omega)
    exact .cons (hpart hnet) (.cons (hpart (by omega)) (.cons (hpart (by omega)) .nil))
  · simp

private theorem names_packed (h : p.InRange) : Names (Numeral.decimal p.packed.toNat) p := by
  have hpacked := UInt16.le_iff_toNat_le.mp (packed_le h)
  refine ⟨[Numeral.decimalDigits p.packed.toNat], [p.packed.toNat], ?_, ?_, ?_, hpacked, ?_⟩
  · simp [Numeral.decimal, List.intercalate]
  · simpa using dot_notMem_decimalDigits p.packed.toNat
  · exact .cons (part_decimalDigits p.packed.toNat_lt) .nil
  · rw [UInt16.ofNat_toNat, ofPacked_packed h]

/-- Just the texts that name a port-address are read, each as the one that it names. Every other text is
refused. Printed port-addresses are read back, and so are packed ones in decimal. -/
theorem parse_grammar (s : String) (p : PortAddress) :
    (parse s = .ok p ↔ Names s p) ∧
      ((∀ q, ¬Names s q) → parse s = .error (.badPortAddress s)) ∧
      (p.InRange → parse p.text = .ok p ∧ parse (Numeral.decimal p.packed.toNat) = .ok p) :=
  ⟨parse_eq_ok_iff, parse_eq_error,
    fun h => ⟨parse_eq_ok_iff.mpr (names_text h), parse_eq_ok_iff.mpr (names_packed h)⟩⟩

theorem parse_grammar_forms :
    let p : PortAddress := ⟨3, 2, 1⟩
    parse " +2 . 01" = .ok ⟨0, 2, 1⟩ ∧ parse "3..1" = .error (.badPortAddress "3..1") ∧
      parse p.text = .ok p ∧ parse (Numeral.decimal p.packed.toNat) = .ok p := by
  intro p
  have hsubnet : Part [' ', '+', '2', ' '] 2 :=
    ⟨[' '], ['+'], ['2'], [' '], rfl, by simp [isBlank], by simp [isBlank], .inr rfl, by simp,
      by simp, rfl, by decide⟩
  have huni : Part [' ', '0', '1'] 1 :=
    ⟨[' '], [], ['0', '1'], [], rfl, by simp [isBlank], by simp, .inl rfl, by simp, by simp, rfl,
      by decide⟩
  have hnames : Names " +2 . 01" ⟨0, 2, 1⟩ :=
    ⟨_, [2, 1], by decide, by decide, .cons hsubnet (.cons huni .nil), by decide, by decide, rfl⟩
  have hgap : ∀ q, ¬Names "3..1" q := by
    intro q hq
    have hnone : parse? "3..1" = none := by decide +kernel
    rw [← parse?_eq_some_iff, hnone] at hq
    cases hq
  have hrange : p.InRange := ⟨by decide, by decide, by decide⟩
  exact ⟨(parse_grammar _ _).1.mpr hnames, (parse_grammar _ p).2.1 hgap,
    (parse_grammar "" p).2.2 hrange⟩

end PortAddress

end LightingNet
