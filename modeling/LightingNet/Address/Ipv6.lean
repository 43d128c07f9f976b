import LightingNet.Address.Ipv4
/-!
# IPv6 addresses

Addresses of eight groups. The text leaves out the first of the longest runs of two or more zero
groups and writes an address that maps an IPv4 address with its dotted form.
-/
namespace LightingNet

structure Ipv6 where
  groups : Vector UInt16 8
  deriving DecidableEq, Repr

namespace Ipv6

def ofList? (gs : List UInt16) : Option Ipv6 :=
  if h : gs.length = 8 then some ⟨⟨gs.toArray, by simpa using h⟩⟩ else none

/-- The IPv4 address that an address `::ffff:a.b.c.d` maps. -/
def mapped? (ip : Ipv6) : Option Ipv4 :=
  match ip.groups.toList with
  | [0, 0, 0, 0, 0, 0xffff, hi, lo] => some ⟨UInt32.ofNat (hi.toNat * 65536 + lo.toNat)⟩
  | _ => none

def groupsText (gs : List UInt16) : String :=
  ":".intercalate (gs.map fun g => String.ofList (Numeral.hexNumeral g.toNat))

def zeroRun (gs : List UInt16) : Nat := (gs.takeWhile (· = 0)).length

/-- Start and length of the first longest run of zero groups. -/
def longestZeroRun (gs : List UInt16) : Nat × Nat :=
  (List.range gs.length).foldl
    (fun best i => if best.2 < zeroRun (gs.drop i) then (i, zeroRun (gs.drop i)) else best) (0, 0)

def text (ip : Ipv6) : String :=
  match ip.mapped? with
  | some v4 => "::ffff:" ++ v4.text
  | none =>
    let gs := ip.groups.toList
    let (start, length) := longestZeroRun gs
    if 1 < length then groupsText (gs.take start) ++ "::" ++ groupsText (gs.drop (start + length))
    else groupsText gs

/-- Reads up to `limit` groups with colons between them. The last two may be written as an IPv4
address; whether they were is told too. -/
def leadingGroups : Nat → Bool → List Char → List UInt16 × Bool × List Char
  | 0, _, cs => ([], false, cs)
  | limit + 1, atStart, cs =>
    let body? := if atStart then some cs else
      match cs with
      | ':' :: rest => some rest
      | _ => none
    match body? with
    | none => ([], false, cs)
    | some body =>
      match (if 0 < limit then Ipv4.leading? body else none) with
      | some (ip, rest) =>
        ([UInt16.ofNat (ip.bits.toNat / 65536), UInt16.ofNat ip.bits.toNat], true, rest)
      | none =>
        match Numeral.leading? 16 4 65536 body with
        | some (g, rest) =>
          let (gs, v4, rest) := leadingGroups limit false rest
          (UInt16.ofNat g :: gs, v4, rest)
        | none => ([], false, cs)

def leading? (cs : List Char) : Option (Ipv6 × List Char) :=
  let (front, v4, rest) := leadingGroups 8 true cs
  if front.length = 8 then (ofList? front).map (·, rest)
  else if v4 then none
  else match rest with
    | ':' :: ':' :: rest =>
      let (back, _, rest) := leadingGroups (7 - front.length) true rest
      let zeros := List.replicate (8 - front.length - back.length) 0
      (ofList? (front ++ zeros ++ back)).map (·, rest)
    | _ => none

end Ipv6

end LightingNet
