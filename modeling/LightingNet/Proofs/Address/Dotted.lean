import LightingNet.Address.Socket
import LightingNet.Proofs.Text.Numeral
import Mathlib.Algebra.Group.Nat.Defs
/-!
# Dotted addresses

The text of an IPv4 address has no leading zeros, so it is read back, alone or in front of a port.
-/
namespace LightingNet

namespace Numeral

variable {most bound n : Nat} {rest : List Char}

private theorem leading?_decimalDigits (hmost : (decimalDigits n).length ≤ most)
    (hbound : n < bound) (hrest : ∀ c ∈ rest.head?, c.isDigit = false) :
    leading? 10 most bound (decimalDigits n ++ rest) = some (n, rest) := by
  have hstop : rest.takeWhile (isDigitOf 10) = [] := by
    cases rest with
    | nil => rfl
    | cons c rest =>
      rw [List.takeWhile_cons_of_neg]
      simp [isDigitOf_ten, hrest c rfl]
  have hrun : (decimalDigits n ++ rest).takeWhile (isDigitOf 10) = decimalDigits n := by
    rw [List.takeWhile_append_of_pos, hstop, List.append_nil]
    intro c hc
    rw [isDigitOf_ten]
    exact isDigit_of_mem_decimalDigits hc
  rw [leading?, hrun, if_pos hmost, digits?_decimalDigits]
  simp [hbound]

private theorem head?_decimalDigits (h : (decimalDigits n).head? = some '0') : n = 0 := by
  fun_induction decimalDigits n with
  | case1 n hlt =>
    have htable : ∀ d < 10, digitChar d = '0' → d = 0 := by decide
    exact htable n hlt (Option.some.inj h)
  | case2 n hge ih =>
    rw [List.head?_append_of_ne_nil _ (decimalDigits_ne_nil (n / 10))] at h
    have hzero := ih h
    omega

private theorem length_decimalDigits_le {k : Nat} (hk : k ≠ 0) (h : n < 10 ^ k) :
    (decimalDigits n).length ≤ k := by
  rw [decimalDigits_eq_toDigits]
  exact (Nat.length_toDigits_le_iff (by decide) (Nat.pos_of_ne_zero hk)).mpr h

end Numeral

namespace Ipv4

variable {rest : List Char}

private theorem number?_decimalDigits (b : UInt8) (hrest : ∀ c ∈ rest.head?, c.isDigit = false) :
    number? (Numeral.decimalDigits b.toNat ++ rest) = some (b, rest) := by
  have hlt := b.toNat_lt
  have hlength : (Numeral.decimalDigits b.toNat).length ≤ 3 :=
    Numeral.length_decimalDigits_le (by decide) (by omega)
  rw [number?, Numeral.leading?_decimalDigits hlength hlt hrest]
  simp only
  rw [if_neg, UInt8.ofNat_toNat]
  rintro ⟨hhead, hlong⟩
  rw [List.head?_append_of_ne_nil _ (Numeral.decimalDigits_ne_nil _)] at hhead
  have hone : (Numeral.decimalDigits b.toNat).length = 1 := by
    rw [Numeral.head?_decimalDigits hhead]
    simp [Numeral.decimalDigits]
  rw [List.length_append, hone] at hlong
  omega

private theorem toList_text (ip : Ipv4) :
    ip.text.toList = ['.'].intercalate (ip.numbers.map fun b => Numeral.decimalDigits b.toNat) := by
  rw [text, String.toList_intercalate, List.map_map]
  congr 2
  funext b
  exact String.toList_ofList

private theorem leading?_text (ip : Ipv4) (hrest : ∀ c ∈ rest.head?, c.isDigit = false) :
    leading? (ip.text.toList ++ rest) = some (ip, rest) := by
  have hdot (b : UInt8) (cs : List Char) :
      number? (Numeral.decimalDigits b.toNat ++ '.' :: cs) = some (b, '.' :: cs) :=
    number?_decimalDigits b (by simp)
  have hword : ofNumbers (UInt8.ofNat (ip.bits.toNat / 16777216))
      (UInt8.ofNat (ip.bits.toNat / 65536)) (UInt8.ofNat (ip.bits.toNat / 256))
      (UInt8.ofNat ip.bits.toNat) = ip := by
    rw [ofNumbers, word32_of_quarters]
  rw [toList_text]
  simp only [numbers, be32, List.map_cons, List.map_nil, List.intercalate, List.intersperse,
    List.flatten_cons, List.flatten_nil, List.append_nil, List.append_assoc, List.cons_append,
    List.nil_append, leading?, hdot, nextNumber?, number?_decimalDigits _ hrest,
    Option.bind_eq_bind, Option.bind_some, Option.pure_def, hword]

theorem parse?_text (ip : Ipv4) : parse? ip.text = some ip := by
  have hread : leading? (ip.text.toList ++ []) = some (ip, []) := ip.leading?_text nofun
  rw [List.append_nil] at hread
  rw [parse?, hread]

end Ipv4

theorem Ipv4Socket.parse?_text (s : Ipv4Socket) : parse? s.text = some s := by
  have htext : s.text.toList = s.ip.text.toList ++ ':' :: Numeral.decimalDigits s.port.toNat := by
    simp [text, Numeral.decimal]
  have hport : Numeral.leading? 10 (Numeral.decimalDigits s.port.toNat).length 65536
      (Numeral.decimalDigits s.port.toNat ++ []) = some (s.port.toNat, []) :=
    Numeral.leading?_decimalDigits (Nat.le_refl _) s.port.toNat_lt nofun
  rw [List.append_nil] at hport
  rw [parse?, htext, s.ip.leading?_text (by simp)]
  simp [port?, hport]

end LightingNet
