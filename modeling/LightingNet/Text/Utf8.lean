import LightingNet.Bytes.Word
/-!
# UTF-8

The UTF-8 bytes of a text, and reading bytes that need not be well formed: each longest prefix of a
character that cannot be completed becomes one replacement character.
-/
namespace LightingNet.Utf8

def encode (cs : List Char) : Bytes := cs.flatMap String.utf8EncodeChar

def ofString (s : String) : Bytes := encode s.toList

def replacement : Char := Char.ofNat 0xfffd

def isTail (b : UInt8) : Bool := 0x80 ≤ b && b ≤ 0xbf

def secondOfThree (a b : UInt8) : Bool :=
  if a = 0xe0 then 0xa0 ≤ b && b ≤ 0xbf
  else if a = 0xed then 0x80 ≤ b && b ≤ 0x9f
  else isTail b

def secondOfFour (a b : UInt8) : Bool :=
  if a = 0xf0 then 0x90 ≤ b && b ≤ 0xbf
  else if a = 0xf4 then 0x80 ≤ b && b ≤ 0x8f
  else isTail b

def tailBits (b : UInt8) : Nat := b.toNat % 64

/-- Reads bytes as characters, with a replacement for each ill-formed part. -/
def decodeLossy : Bytes → List Char
  | [] => []
  | a :: r =>
    if a < 0x80 then Char.ofNat a.toNat :: decodeLossy r
    else if 0xc2 ≤ a && a ≤ 0xdf then
      match r with
      | b :: r' =>
        if isTail b then Char.ofNat (a.toNat % 32 * 64 + tailBits b) :: decodeLossy r'
        else replacement :: decodeLossy (b :: r')
      | [] => [replacement]
    else if 0xe0 ≤ a && a ≤ 0xef then
      match r with
      | b :: r' =>
        if secondOfThree a b then
          match r' with
          | c :: r'' =>
            if isTail c then
              Char.ofNat ((a.toNat % 16 * 64 + tailBits b) * 64 + tailBits c) :: decodeLossy r''
            else replacement :: decodeLossy (c :: r'')
          | [] => [replacement]
        else replacement :: decodeLossy (b :: r')
      | [] => [replacement]
    else if 0xf0 ≤ a && a ≤ 0xf4 then
      match r with
      | b :: r' =>
        if secondOfFour a b then
          match r' with
          | c :: r'' =>
            if isTail c then
              match r'' with
              | d :: r''' =>
                if isTail d then
                  Char.ofNat (((a.toNat % 8 * 64 + tailBits b) * 64 + tailBits c) * 64
                    + tailBits d) :: decodeLossy r'''
                else replacement :: decodeLossy (d :: r''')
              | [] => [replacement]
            else replacement :: decodeLossy (c :: r'')
          | [] => [replacement]
        else replacement :: decodeLossy (b :: r')
      | [] => [replacement]
    else replacement :: decodeLossy r
termination_by b => b.length

def toStringLossy (b : Bytes) : String := String.ofList (decodeLossy b)

end LightingNet.Utf8
