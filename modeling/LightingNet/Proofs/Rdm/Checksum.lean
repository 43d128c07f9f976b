import LightingNet.Proofs.Bytes.Places
import LightingNet.Rdm.Packet
/-!
# The additive checksum

The checksum of an RDM message is the sum of the start code and its bytes modulo 2^16, for senders
and for the simulation alike. A byte that changes moves the sum by less than 256, and so by an amount
that does not vanish modulo 2^16.
-/
namespace LightingNet.Rdm

open Simulation (byteAt sumOf)

def total : Bytes → Nat
  | [] => 0
  | x :: b => x.toNat + total b

private theorem toNat_foldl_add (b : Bytes) (start : UInt16) :
    (b.foldl (fun sum x => sum + x.toUInt16) start).toNat = (start.toNat + total b) % 65536 := by
  induction b generalizing start with
  | nil =>
    have hs := start.toNat_lt
    simp only [List.foldl_nil, total]
    omega
  | cons x rest ih =>
    simp only [List.foldl_cons, ih, UInt16.toNat_add, UInt8.toNat_toUInt16, total]
    omega

theorem toNat_checksum (b : Bytes) : (checksum b).toNat = (0xcc + total b) % 65536 :=
  toNat_foldl_add b 0xcc

private theorem foldl_add_toNat (b : Bytes) (start : Nat) :
    b.foldl (fun sum x => sum + x.toNat) start = start + total b := by
  induction b generalizing start with
  | nil => rfl
  | cons x rest ih =>
    simp only [List.foldl_cons, ih, total, Nat.add_assoc]

/-- The simulation sums as senders do, though it sums without a bound first. -/
theorem sumOf_eq_checksum (b : Bytes) : sumOf b = checksum b := by
  apply UInt16.toNat_inj.mp
  rw [toNat_checksum, sumOf, foldl_add_toNat, UInt16.toNat_ofNat']

private theorem total_set {b : Bytes} {i : Nat} (h : i < b.length) (v : UInt8) :
    total (b.set i v) + (byteAt b i).toNat = total b + v.toNat := by
  induction b generalizing i with
  | nil => cases h
  | cons x rest ih =>
    cases i with
    | zero =>
      simp only [List.set_cons_zero, total, byteAt, List.getD_cons_zero]
      omega
    | succ i =>
      have hrest := ih (i := i) (by simpa only [List.length_cons, Nat.add_lt_add_iff_right] using h)
      simp only [List.set_cons_succ, total, byteAt, List.getD_cons_succ] at hrest ⊢
      omega

theorem checksum_set_ne {b : Bytes} {i : Nat} (h : i < b.length) {v : UInt8} (hv : v ≠ byteAt b i) :
    checksum (b.set i v) ≠ checksum b := by
  intro heq
  have hsum := total_set h v
  have hmod := congrArg UInt16.toNat heq
  have hlt := v.toNat_lt
  have hlt' := (byteAt b i).toNat_lt
  rw [toNat_checksum, toNat_checksum] at hmod
  apply hv
  apply UInt8.toNat_inj.mp
  omega

end LightingNet.Rdm
