import LightingNet.Address.Ipv4
import LightingNet.Simulation.Responder
/-!
# Datagrams of the simulation

The simulated gateway reads and builds datagrams by rules of its own, byte by byte: it looks at fixed
places, copies names without changing them and knows only the operations that it answers.
-/
namespace LightingNet.Simulation

def opening : Bytes := "Art-Net".toList.map (fun c => UInt8.ofNat c.toNat) ++ [0]

def byteAt (b : Bytes) (i : Nat) : UInt8 := b.getD i 0

def wordAt (b : Bytes) (i : Nat) : UInt16 := word16 (byteAt b i) (byteAt b (i + 1))

def uidAt (b : Bytes) (i : Nat) : Rdm.Uid :=
  ⟨wordAt b i, word32 (byteAt b (i + 2)) (byteAt b (i + 3)) (byteAt b (i + 4)) (byteAt b (i + 5))⟩

def operation? (b : Bytes) : Option UInt16 :=
  if b.length < 10 ∨ b.take 8 ≠ opening then none else some (word16 (byteAt b 9) (byteAt b 8))

structure TableQuery where
  net : UInt8
  addresses : Bytes
  deriving DecidableEq, Repr

/-- Reads a request for tables: a command to flush one universe, or a list of universes. -/
def tableQuery? (b : Bytes) : Option TableQuery :=
  match operation? b with
  | none => none
  | some op =>
    if b.length < 24 then none
    else if op = 0x8200 then
      if byteAt b 22 = 1 then some ⟨byteAt b 21, [byteAt b 23]⟩ else none
    else if op = 0x8000 then some ⟨byteAt b 21, (b.drop 24).take (byteAt b 23).toNat⟩
    else none

def sumOf (b : Bytes) : UInt16 := UInt16.ofNat (b.foldl (fun total x => total + x.toNat) 0xcc)

def request? (b : Bytes) : Option Request :=
  if operation? b ≠ some 0x8300 ∨ b.length < 49 then none
  else
    let m := b.drop 24
    let size := (byteAt m 22).toNat
    if byteAt m 0 ≠ 1 then none
    else if m.length < 25 + size ∨ (byteAt m 1).toNat ≠ 24 + size then none
    else if sumOf (m.take (23 + size)) ≠ wordAt m (23 + size) then none
    else some {
      net := byteAt b 21
      address := byteAt b 23
      destination := uidAt m 2
      source := uidAt m 8
      transaction := byteAt m 14
      subDevice := wordAt m 17
      command := byteAt m 19
      pid := wordAt m 20
      data := (m.drop 23).take size }

def versioned (op : UInt16) : Bytes := opening ++ le16 op ++ be16 14

/-- A name in a field of `width` bytes, cut to leave a NUL behind it. -/
def nameBytes (width : Nat) (s : String) : Bytes :=
  let kept := (Utf8.ofString s).take (width - 1)
  kept ++ List.replicate (width - kept.length) 0

/-- Four bytes, one for each of the first four members of a list, zero where there is none. -/
def fourOf {α : Type} (f : α → UInt8) (xs : List α) : Bytes :=
  let kept := (xs.take 4).map f
  kept ++ List.replicate (4 - kept.length) 0

structure Output where
  uni : UInt8
  responders : List Responder
  deriving DecidableEq, Repr

/-- What one poll reply of a simulated gateway describes. -/
structure Binding where
  bindIndex : UInt8
  outputs : List Output
  deriving DecidableEq, Repr

structure Setup where
  shortName : String
  longName : String
  bindIp : Ipv4
  /-- The address it replies with, unless it is its socket's own. -/
  replyIp : Option Ipv4
  net : UInt8
  subnet : UInt8
  estaManufacturer : UInt16
  bindings : List Binding
  deriving DecidableEq, Repr

def lowNibble (b : UInt8) : UInt8 := b &&& 0x0f

namespace Setup

/-- A gateway on the loopback address with one empty output, universe 0 of its sub-net. -/
def usual (shortName : String) : Setup where
  shortName
  longName := shortName ++ " mock Art-Net node"
  bindIp := .loopback
  replyIp := none
  net := 0
  subnet := 0
  estaManufacturer := 0x7ff0
  bindings := [⟨1, [⟨0, []⟩]⟩]

/-- A gateway moved to another net and sub-net, of which it keeps 7 and 4 bits. -/
def onNet (s : Setup) (net subnet : UInt8) : Setup :=
  { s with net := net &&& 0x7f, subnet := lowNibble subnet }

end Setup

def Setup.addressOf (s : Setup) (o : Output) : UInt8 := (s.subnet <<< 4) ||| lowNibble o.uni

def pollReply (s : Setup) (b : Binding) (ip : Ipv4) (port : UInt16) : Bytes :=
  opening ++ le16 0x2100 ++ ip.numbers ++ le16 port ++ be16 0x0100
    ++ [s.net, s.subnet, 0, 0, 0, 2] ++ le16 s.estaManufacturer ++ nameBytes 18 s.shortName
    ++ nameBytes 64 s.longName ++ nameBytes 64 "#0001 [0000] Power On Tests successful"
    ++ be16 (UInt16.ofNat (min b.outputs.length 4)) ++ fourOf (fun _ => 0x80) b.outputs
    ++ List.replicate 4 0 ++ fourOf (fun _ => 0x80) b.outputs ++ List.replicate 4 0
    ++ fourOf (fun o => lowNibble o.uni) b.outputs ++ List.replicate 13 0 ++ s.bindIp.numbers
    ++ [b.bindIndex] ++ List.replicate 27 0

def tableBlock (net portNumber bindIndex address response : UInt8) (uids : List Rdm.Uid) : Bytes :=
  let kept := uids.take 200
  versioned 0x8100 ++ [1, portNumber, 0, 0, 0, 0, 0, 0, bindIndex, net, response, address]
    ++ be16 (UInt16.ofNat kept.length) ++ [0, UInt8.ofNat kept.length]
    ++ kept.flatMap Rdm.Uid.bytes

def response (r : Request) (transaction kind : UInt8) (data : Bytes) : Bytes :=
  let kept := data.take 231
  let summed := [1, UInt8.ofNat (24 + kept.length)] ++ r.source.bytes ++ r.destination.bytes
    ++ [transaction, kind, 0] ++ be16 r.subDevice ++ [if r.command = 0x30 then 0x31 else 0x21]
    ++ be16 r.pid ++ [UInt8.ofNat kept.length] ++ kept
  versioned 0x8300 ++ [1] ++ List.replicate 8 0 ++ [r.net, 0, r.address] ++ summed
    ++ be16 (sumOf summed)

def refusal (r : Request) (reason : UInt16) : Bytes := response r r.transaction 2 (be16 reason)

end LightingNet.Simulation
