import LightingNet.Text.Numeral
/-!
# Codec errors

Why bytes are no datagram or RDM message, or why an encoded one does not fit its buffer.
-/
namespace LightingNet

inductive CodecError where
  | missingIdentifier
  | oldVersion (version : UInt16)
  | tooShort (needed actual : Nat)
  | checksumMismatch (computed carried : UInt16)
  | badSubStartCode
  | badMessageLength
  | bufferTooSmall (needed available : Nat)
  deriving DecidableEq, Repr

namespace CodecError

def message : CodecError → String
  | missingIdentifier => "missing Art-Net packet identifier"
  | oldVersion v => "unsupported Art-Net protocol version " ++ Numeral.decimal v.toNat
  | tooShort needed actual =>
    "packet too short: need " ++ Numeral.decimal needed ++ " bytes, got " ++ Numeral.decimal actual
  | checksumMismatch computed carried =>
    "RDM checksum mismatch: computed " ++ Numeral.hexCode computed ++ ", packet carries "
      ++ Numeral.hexCode carried
  | badSubStartCode => "invalid RDM sub-start code"
  | badMessageLength => "invalid RDM message length"
  | bufferTooSmall needed available =>
    "output buffer too small: need " ++ Numeral.decimal needed ++ " bytes, have "
      ++ Numeral.decimal available

end CodecError

def ensureLength (b : List UInt8) (needed : Nat) : Except CodecError Unit :=
  if b.length < needed then .error (.tooShort needed b.length) else .ok ()

end LightingNet
