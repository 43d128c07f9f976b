import LightingNet.Bytes.Reader
import LightingNet.Text.Numeral
/-!
# IPv4 addresses

Addresses of 32 bits, their dotted text, and a socket: an address with a UDP port. A written number
has one to three digits and no leading zero.
-/
namespace LightingNet

/-- An IPv4 address, the first number of its text in the high byte. -/
structure Ipv4 where
  bits : UInt32
  deriving DecidableEq, Repr, Inhabited

namespace Ipv4

def ofNumbers (a b c d : UInt8) : Ipv4 := ⟨word32 a b c d⟩

def unspecified : Ipv4 := ⟨0⟩

def broadcast : Ipv4 := ⟨0xffffffff⟩

def loopback : Ipv4 := ofNumbers 127 0 0 1

def numbers (ip : Ipv4) : Bytes := be32 ip.bits

def rank (ip : Ipv4) : Nat := ip.bits.toNat

def text (ip : Ipv4) : String :=
  ".".intercalate (ip.numbers.map fun b => Numeral.decimal b.toNat)

def number? (cs : List Char) : Option (UInt8 × List Char) :=
  match Numeral.leading? 10 3 256 cs with
  | some (n, rest) =>
    if cs.head? = some '0' ∧ rest.length + 1 < cs.length then none else some (UInt8.ofNat n, rest)
  | none => none

def nextNumber? : List Char → Option (UInt8 × List Char)
  | '.' :: cs => number? cs
  | _ => none

def leading? (cs : List Char) : Option (Ipv4 × List Char) := do
  let (a, cs) ← number? cs
  let (b, cs) ← nextNumber? cs
  let (c, cs) ← nextNumber? cs
  let (d, cs) ← nextNumber? cs
  return (ofNumbers a b c d, cs)

def parse? (s : String) : Option Ipv4 :=
  match leading? s.toList with
  | some (ip, []) => some ip
  | _ => none

end Ipv4

structure Ipv4Socket where
  ip : Ipv4
  port : UInt16
  deriving DecidableEq, Repr, Inhabited

namespace Ipv4Socket

def rank (s : Ipv4Socket) : Nat := s.ip.rank * 65536 + s.port.toNat

def text (s : Ipv4Socket) : String := s.ip.text ++ ":" ++ Numeral.decimal s.port.toNat

def port? : List Char → Option UInt16
  | ':' :: cs =>
    match Numeral.leading? 10 cs.length 65536 cs with
    | some (n, []) => some (UInt16.ofNat n)
    | _ => none
  | _ => none

def parse? (s : String) : Option Ipv4Socket := do
  let (ip, rest) ← Ipv4.leading? s.toList
  let port ← port? rest
  return ⟨ip, port⟩

end Ipv4Socket

def Reader.ipv4 : Reader Ipv4 := do return ⟨← Reader.beDouble⟩

/-- Reads an address of four bytes, 0.0.0.0 when they are not all there. -/
def Reader.ipv4OrZero : Reader Ipv4 := do return ⟨← Reader.beDoubleOrZero⟩

end LightingNet
