import LightingNet.Text.Blank
import LightingNet.Text.Numeral
/-!
# Port-addresses

A universe of the lighting network is named by net, sub-net and universe number, of 7, 4 and 4 bits. The
packed form has all 15 bits; the short form leaves the net out.
-/
namespace LightingNet

/-- The name of one universe. -/
structure PortAddress where
  net : UInt8
  subnet : UInt8
  uni : UInt8
  deriving DecidableEq, Repr, Inhabited

namespace PortAddress

def zero : PortAddress := ⟨0, 0, 0⟩

def masked (net subnet uni : UInt8) : PortAddress :=
  ⟨net &&& 0x7f, subnet &&& 0x0f, uni &&& 0x0f⟩

def InRange (p : PortAddress) : Prop := p.net ≤ 0x7f ∧ p.subnet ≤ 0x0f ∧ p.uni ≤ 0x0f

def ofParts? (net subnet uni : UInt8) : Option PortAddress :=
  if net > 0x7f || subnet > 0x0f || uni > 0x0f then none
  else some (masked net subnet uni)

/-- The port-address of a packed form; bit 15 is ignored. -/
def ofPacked (value : UInt16) : PortAddress :=
  masked (value >>> 8).toUInt8 (value >>> 4).toUInt8 value.toUInt8

def ofShort (net short : UInt8) : PortAddress := masked net (short >>> 4) short

def packed (p : PortAddress) : UInt16 :=
  (p.net.toUInt16 <<< 8) ||| (p.subnet.toUInt16 <<< 4) ||| p.uni.toUInt16

/-- The short form: sub-net and universe number in one byte. -/
def short (p : PortAddress) : UInt8 := (p.subnet <<< 4) ||| p.uni

def rank (p : PortAddress) : Nat :=
  (p.net.toNat * 256 + p.subnet.toNat) * 256 + p.uni.toNat

def text (p : PortAddress) : String :=
  Numeral.decimal p.net.toNat ++ "." ++ Numeral.decimal p.subnet.toNat ++ "."
    ++ Numeral.decimal p.uni.toNat

/-- Reads one part of a text: a number of 16 bits, blanks around it ignored. -/
def part? (cs : List Char) : Option Nat := Numeral.unsigned? 10 65536 (trimBlanks cs)

def ofNumbers? : List Nat → Option PortAddress
  | [packed] => if packed ≤ 0x7fff then some (ofPacked (UInt16.ofNat packed)) else none
  | [subnet, uni] =>
    if subnet ≤ 15 ∧ uni ≤ 15 then
      some (masked 0 (UInt8.ofNat subnet) (UInt8.ofNat uni))
    else none
  | [net, subnet, uni] =>
    if net ≤ 127 ∧ subnet ≤ 15 ∧ uni ≤ 15 then
      some (masked (UInt8.ofNat net) (UInt8.ofNat subnet) (UInt8.ofNat uni))
    else none
  | _ => none

/-- Reads `net.subnet.universe`, `subnet.universe` or the packed form. -/
def parse? (s : String) : Option PortAddress := do
  let numbers ← (piecesAt '.' s.toList).mapM part?
  ofNumbers? numbers

end PortAddress

end LightingNet
