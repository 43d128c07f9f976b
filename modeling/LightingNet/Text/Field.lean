import LightingNet.Bytes.Reader
import LightingNet.Text.Utf8
/-!
# Text fields

Texts of a datagram are ASCII, padded or ended with NUL. A byte outside ASCII stands as a question
mark, on the way in and on the way out; a text is cut so that its field keeps a terminator.
-/
namespace LightingNet

def asciiByte (b : UInt8) : UInt8 := if b < 0x80 then b else 0x3f

def untilNul (b : Bytes) : Bytes := b.takeWhile (· ≠ 0)

def asciiText (b : Bytes) : String := String.ofList (b.map fun x => Char.ofNat x.toNat)

/-- The text a field holds: what stands before its first NUL. -/
def fieldText (b : Bytes) : String := asciiText ((untilNul b).map asciiByte)

/-- The bytes of a text on the wire, at most `room` of them. -/
def wireText (room : Nat) (s : String) : Bytes := ((Utf8.ofString s).take room).map asciiByte

/-- A field of `width` bytes with a text and at least one NUL behind it. -/
def textField (width : Nat) (s : String) : Bytes :=
  let text := wireText (width - 1) s
  text ++ List.replicate (width - text.length) 0

def Reader.text (width : Nat) : Reader String := do
  let field ← Reader.span width
  return fieldText field

theorem length_wireText_le (room : Nat) (s : String) : (wireText room s).length ≤ room := by
  simp only [wireText, List.length_map, List.length_take]
  exact Nat.min_le_left _ _

theorem length_textField (width : Nat) (s : String) : (textField width s).length = width := by
  have h := length_wireText_le (width - 1) s
  simp only [textField, List.length_append, List.length_replicate]
  omega

end LightingNet
