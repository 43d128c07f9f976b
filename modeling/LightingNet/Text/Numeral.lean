/-!
# Numerals

Decimal and hexadecimal numerals: printing with no or with a fixed number of digits, and reading an
unsigned number that may open with one plus sign and must stay below a bound.
-/
namespace LightingNet.Numeral

def digitChar (n : Nat) : Char :=
  if n < 10 then Char.ofNat (48 + n) else Char.ofNat (87 + n)

/-- The value of a digit, of either case above nine. -/
def digitValue (c : Char) : Option Nat :=
  if '0' ≤ c ∧ c ≤ '9' then some (c.toNat - 48)
  else if 'a' ≤ c ∧ c ≤ 'z' then some (c.toNat - 87)
  else if 'A' ≤ c ∧ c ≤ 'Z' then some (c.toNat - 55)
  else none

def decimalDigits (n : Nat) : List Char :=
  if n < 10 then [digitChar n] else decimalDigits (n / 10) ++ [digitChar (n % 10)]
termination_by n

def hexDigits : Nat → Nat → List Char
  | 0, _ => []
  | width + 1, n => hexDigits width (n / 16) ++ [digitChar (n % 16)]

def decimal (n : Nat) : String := String.ofList (decimalDigits n)

def hex (width n : Nat) : String := String.ofList (hexDigits width n)

def hexCode (n : UInt16) : String := "0x" ++ hex 4 n.toNat

/-- A number below 65536 in hexadecimal, without leading zeros. -/
def hexNumeral (n : Nat) : List Char :=
  match (hexDigits 4 n).dropWhile (· = '0') with
  | [] => ['0']
  | ds => ds

def digitsFrom (base : Nat) : Nat → List Char → Option Nat
  | value, [] => some value
  | value, c :: cs =>
    match digitValue c with
    | some d => if d < base then digitsFrom base (value * base + d) cs else none
    | none => none

def digits? (base : Nat) : List Char → Option Nat
  | [] => none
  | cs => digitsFrom base 0 cs

/-- Reads digits that may stand behind one plus sign, for a value below `bound`. -/
def unsigned? (base bound : Nat) (cs : List Char) : Option Nat :=
  let body := match cs with
    | '+' :: rest => rest
    | _ => cs
  match digits? base body with
  | some n => if n < bound then some n else none
  | none => none

def isDigitOf (base : Nat) (c : Char) : Bool :=
  match digitValue c with
  | some d => d < base
  | none => false

/-- Reads all the digits at the front, at most `most` of them, for a value below `bound`. -/
def leading? (base most bound : Nat) (cs : List Char) : Option (Nat × List Char) :=
  let run := cs.takeWhile (isDigitOf base)
  if run.length ≤ most then
    match digits? base run with
    | some n => if n < bound then some (n, cs.drop run.length) else none
    | none => none
  else none

end LightingNet.Numeral
