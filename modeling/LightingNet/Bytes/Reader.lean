import LightingNet.Bytes.Word
/-!
# Readers

A reader takes a value off the front of some bytes and hands on the rest. The strict readers fail
when the bytes stop short; the lenient ones, named `…OrZero`, read a field that is not wholly there
as zero. Each strict reader undoes the matching writer and leaves what follows alone.
-/
namespace LightingNet

abbrev Octets (n : Nat) := Vector UInt8 n

def Octets.zero (n : Nat) : Octets n := Vector.replicate n 0

/-- Takes a value off the front of some bytes, or fails when they stop short. -/
abbrev Reader (α : Type) := StateT Bytes Option α

namespace Reader

def byte : Reader UInt8
  | [] => none
  | b :: rest => some (b, rest)

def beWord : Reader UInt16
  | hi :: lo :: rest => some (word16 hi lo, rest)
  | _ => none

def leWord : Reader UInt16
  | lo :: hi :: rest => some (word16 hi lo, rest)
  | _ => none

def beDouble : Reader UInt32
  | a :: b :: c :: d :: rest => some (word32 a b c d, rest)
  | _ => none

def span (n : Nat) : Reader Bytes := fun b =>
  if n ≤ b.length then some (b.take n, b.drop n) else none

def skip (n : Nat) : Reader Unit := fun b =>
  if n ≤ b.length then some ((), b.drop n) else none

def octets (n : Nat) : Reader (Octets n) := fun b =>
  if h : n ≤ b.length then
    some (⟨(b.take n).toArray, by simp [List.length_take, Nat.min_eq_left h]⟩, b.drop n)
  else none

def remaining : Reader Bytes := fun b => some (b, [])

def byteOrZero : Reader UInt8 := fun b => some (b.headD 0, b.drop 1)

/-- The next word, or zero when the bytes end before it does. -/
def beWordOrZero : Reader UInt16 := fun b =>
  match b with
  | hi :: lo :: rest => some (word16 hi lo, rest)
  | _ => some (0, [])

def beDoubleOrZero : Reader UInt32 := fun b =>
  match b with
  | p :: q :: r :: s :: rest => some (word32 p q r s, rest)
  | _ => some (0, [])

def octetsOrZero (n : Nat) : Reader (Octets n) := fun b =>
  match octets n b with
  | some found => some found
  | none => some (Octets.zero n, [])

theorem beWord_be16 (w : UInt16) (rest : Bytes) : beWord (be16 w ++ rest) = some (w, rest) := by
  show some (word16 _ _, rest) = _
  rw [word16_of_halves]

theorem leWord_le16 (w : UInt16) (rest : Bytes) : leWord (le16 w ++ rest) = some (w, rest) := by
  show some (word16 _ _, rest) = _
  rw [word16_of_halves]

theorem beDouble_be32 (w : UInt32) (rest : Bytes) :
    beDouble (be32 w ++ rest) = some (w, rest) := by
  show some (word32 _ _ _ _, rest) = _
  rw [word32_of_quarters]

theorem span_append (xs rest : Bytes) : span xs.length (xs ++ rest) = some (xs, rest) := by
  simp [span]

theorem skip_append (xs rest : Bytes) : skip xs.length (xs ++ rest) = some ((), rest) := by
  simp [skip]

theorem octets_append {n : Nat} (v : Octets n) (rest : Bytes) :
    octets n (v.toList ++ rest) = some (v, rest) := by
  have h : v.toList.length = n := by simp
  have ht : (v.toList ++ rest).take n = v.toList := List.take_left' h
  have hd : (v.toList ++ rest).drop n = rest := List.drop_left' h
  unfold octets
  rw [dif_pos (by simp [h])]
  simp only [ht, hd, Option.some.injEq, Prod.mk.injEq, and_true]
  exact Vector.toArray_inj.mp Array.toArray_toList

end Reader

end LightingNet
