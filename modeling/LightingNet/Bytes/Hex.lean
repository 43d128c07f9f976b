import LightingNet.Bytes.Word
import LightingNet.Text.Numeral
/-!
# Bytes in hexadecimal

Two digits for each byte and nothing between them. Reading gives back what was written.
-/
namespace LightingNet.Hex

def digits : Bytes → List Char
  | [] => []
  | x :: rest =>
    Numeral.digitChar (x.toNat / 16) :: Numeral.digitChar (x.toNat % 16) :: digits rest

def encode (b : Bytes) : String := String.ofList (digits b)

def bytes? : List Char → Option Bytes
  | [] => some []
  | [_] => none
  | a :: b :: rest => do
    let high ← Numeral.digits? 16 [a]
    let low ← Numeral.digits? 16 [b]
    return UInt8.ofNat (high * 16 + low) :: (← bytes? rest)

def decode? (s : String) : Option Bytes := bytes? s.toList

private theorem digits?_digitChar {n : Nat} (h : n < 16) :
    Numeral.digits? 16 [Numeral.digitChar n] = some n := by
  have table : ∀ i ∈ List.range 16, Numeral.digits? 16 [Numeral.digitChar i] = some i := by decide
  exact table n (List.mem_range.mpr h)

private theorem bytes?_digits (b : Bytes) : bytes? (digits b) = some b := by
  induction b with
  | nil => rfl
  | cons x rest ih =>
    have hx := x.toNat_lt
    have hhigh := digits?_digitChar (show x.toNat / 16 < 16 by omega)
    have hlow := digits?_digitChar (show x.toNat % 16 < 16 by omega)
    have hsum : UInt8.ofNat (x.toNat / 16 * 16 + x.toNat % 16) = x := by
      rw [show x.toNat / 16 * 16 + x.toNat % 16 = x.toNat by omega, UInt8.ofNat_toNat]
    simp only [digits, bytes?, hhigh, hlow, ih, Option.bind_eq_bind, Option.bind_some, hsum]
    rfl

theorem decode?_encode (b : Bytes) : decode? (encode b) = some b := by
  simp [decode?, encode, bytes?_digits]

end LightingNet.Hex
