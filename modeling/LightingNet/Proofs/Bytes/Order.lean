import LightingNet.Bytes.Word
import Mathlib.Data.List.Basic
/-!
# Bytes in order

Lists that begin with parts of one length compare by these parts first. Words of one width stand in the
order of their bytes, high byte first.
-/
namespace LightingNet

theorem append_lt_append_iff {α : Type} [LT α] {as as' bs bs' : List α}
    (h : as.length = as'.length) :
    as ++ bs < as' ++ bs' ↔ as < as' ∨ as = as' ∧ bs < bs' := by
  induction as generalizing as' with
  | nil =>
    obtain rfl := List.length_eq_zero_iff.mp h.symm
    simp
  | cons a as ih =>
    obtain ⟨a', as', rfl⟩ := List.exists_cons_of_length_eq_add_one h.symm
    have hlength : as.length = as'.length := Nat.succ.inj h
    simp only [List.cons_append, List.cons_lt_cons_iff, ih hlength, List.cons.injEq]
    tauto

theorem be16_inj {w w' : UInt16} : be16 w = be16 w' ↔ w = w' := by
  refine ⟨fun h => ?_, congrArg be16⟩
  obtain ⟨hhigh, hlow⟩ : UInt8.ofNat (w.toNat / 256) = UInt8.ofNat (w'.toNat / 256) ∧
      UInt8.ofNat w.toNat = UInt8.ofNat w'.toNat := by
    simpa [be16] using h
  rw [← word16_of_halves w, ← word16_of_halves w', hhigh, hlow]

theorem be16_lt_be16_iff {w w' : UInt16} : be16 w < be16 w' ↔ w < w' := by
  have hw := w.toNat_lt
  have hw' := w'.toNat_lt
  simp only [be16, List.cons_lt_cons_iff, List.not_lt_nil, and_false, or_false,
    UInt8.lt_iff_toNat_lt, ← UInt8.toNat_inj, UInt8.toNat_ofNat', UInt16.lt_iff_toNat_lt]
  omega

private theorem be32_eq_append (w : UInt32) :
    be32 w = be16 (UInt16.ofNat (w.toNat / 65536)) ++ be16 (UInt16.ofNat w.toNat) := by
  have hw := w.toNat_lt
  simp only [be32, be16, UInt16.toNat_ofNat', List.cons_append, List.nil_append, List.cons.injEq,
    and_true, ← UInt8.toNat_inj, UInt8.toNat_ofNat']
  omega

theorem be32_lt_be32_iff {w w' : UInt32} : be32 w < be32 w' ↔ w < w' := by
  have hw := w.toNat_lt
  have hw' := w'.toNat_lt
  have hlength (v v' : UInt16) : (be16 v).length = (be16 v').length := rfl
  rw [be32_eq_append, be32_eq_append, append_lt_append_iff (hlength _ _), be16_inj,
    be16_lt_be16_iff, be16_lt_be16_iff]
  simp only [UInt16.lt_iff_toNat_lt, ← UInt16.toNat_inj, UInt16.toNat_ofNat',
    UInt32.lt_iff_toNat_lt]
  omega

end LightingNet
