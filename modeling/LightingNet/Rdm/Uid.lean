import LightingNet.Bytes.Reader
import LightingNet.Text.Blank
import LightingNet.Text.Numeral
import LightingNet.Text.Utf8
/-!
# Unique identifiers

Every RDM device has an identifier of 48 bits: a manufacturer and a device number. Some identifiers
address more than one device: the broadcast reaches all, a vendorcast those of one manufacturer.
-/
namespace LightingNet.Rdm

structure Uid where
  manufacturer : UInt16
  device : UInt32
  deriving DecidableEq, Repr, Inhabited

namespace Uid

def zero : Uid := ⟨0, 0⟩

def broadcast : Uid := ⟨0xffff, 0xffffffff⟩

def vendorcast (manufacturer : UInt16) : Uid := ⟨manufacturer, 0xffffffff⟩

def isBroadcast (u : Uid) : Bool := u == broadcast

/-- Whether the identifier addresses every device of one manufacturer only. -/
def isVendorcast (u : Uid) : Bool := u.device == 0xffffffff && !u.isBroadcast

/-- Whether a message to one of the two reaches the other. -/
def hits (u v : Uid) : Bool :=
  if u == v || u.isBroadcast || v.isBroadcast then true
  else u.manufacturer == v.manufacturer && (u.isVendorcast || v.isVendorcast)

def bytes (u : Uid) : Bytes := be16 u.manufacturer ++ be32 u.device

def ofBytes? : Bytes → Option Uid
  | [a, b, c, d, e, f] => some ⟨word16 a b, word32 c d e f⟩
  | _ => none

/-- The number that the six bytes denote, by which identifiers are ordered. -/
def rank (u : Uid) : Nat := u.manufacturer.toNat * 4294967296 + u.device.toNat

def text (u : Uid) : String :=
  Numeral.hex 4 u.manufacturer.toNat ++ ":" ++ Numeral.hex 8 u.device.toNat

def part? (most bound : Nat) (cs : List Char) : Option Nat :=
  if (Utf8.encode cs).length ≤ most then Numeral.unsigned? 16 bound cs else none

/-- Reads a text as an identifier: two hexadecimal parts around the first colon. -/
def parse? (s : String) : Option Uid := do
  let (left, right) ← splitAtFirst ':' s.toList
  let manufacturer ← part? 4 65536 left
  let device ← part? 8 4294967296 right
  return ⟨UInt16.ofNat manufacturer, UInt32.ofNat device⟩

@[simp] theorem length_bytes (u : Uid) : u.bytes.length = 6 := rfl

theorem ofBytes?_bytes (u : Uid) : ofBytes? u.bytes = some u := by
  change some (Uid.mk (word16 _ _) (word32 _ _ _ _)) = some u
  rw [word16_of_halves, word32_of_quarters]

end Uid

end LightingNet.Rdm

namespace LightingNet.Reader

def uid : Reader Rdm.Uid := do
  let manufacturer ← beWord
  let device ← beDouble
  return ⟨manufacturer, device⟩

def uidOrZero : Reader Rdm.Uid := fun b =>
  match uid b with
  | some found => some found
  | none => some (Rdm.Uid.zero, [])

end LightingNet.Reader
