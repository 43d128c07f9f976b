import LightingNet.Address.Ipv6
/-!
# Sockets

Where a datagram goes to or comes from: an address of either family with a UDP port.
-/
namespace LightingNet

/-- An address of either family with a UDP port. The flow label that an IPv6 socket can also carry is
left out: no text of a socket shows it and nothing here reads it, so sockets that differ in it alone
are one socket here. -/
inductive Socket where
  | v4 (socket : Ipv4Socket)
  | v6 (ip : Ipv6) (port : UInt16) (scope : UInt32)
  deriving DecidableEq, Repr

namespace Socket

/-- The IPv4 address of a socket, plain or mapped. -/
def ipv4? : Socket → Option Ipv4
  | v4 s => some s.ip
  | v6 ip _ _ => ip.mapped?

def port : Socket → UInt16
  | v4 s => s.port
  | v6 _ p _ => p

/-- The text `a.b.c.d:port`, or `[address]:port` with the scope when there is one. -/
def text : Socket → String
  | v4 s => s.text
  | v6 ip p scope =>
    let zone := if scope = 0 then "" else "%" ++ Numeral.decimal scope.toNat
    "[" ++ ip.text ++ zone ++ "]:" ++ Numeral.decimal p.toNat

def scope? : List Char → Option (UInt32 × List Char)
  | '%' :: cs =>
    match Numeral.leading? 10 cs.length 4294967296 cs with
    | some (n, rest) => some (UInt32.ofNat n, rest)
    | none => none
  | cs => some (0, cs)

def parseV6? (s : String) : Option Socket :=
  match s.toList with
  | '[' :: cs => do
    let (ip, cs) ← Ipv6.leading? cs
    let (scope, cs) ← scope? cs
    match cs with
    | ']' :: cs => (Ipv4Socket.port? cs).map fun p => v6 ip p scope
    | _ => none
  | _ => none

def parse? (s : String) : Option Socket :=
  match Ipv4Socket.parse? s with
  | some socket => some (v4 socket)
  | none => parseV6? s

end Socket

end LightingNet
