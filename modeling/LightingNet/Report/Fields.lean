import LightingNet.Address.Port
import LightingNet.Address.Socket
import LightingNet.Bytes.Hex
import LightingNet.Rdm.Uid
import LightingNet.Report.Record
/-!
# Values in reports

Bytes stand in a report as hexadecimal text, fields of a fixed size as arrays, identifiers and addresses
as their texts, codes as their numbers. A port-address is written as its text but in a frame as its three
parts, and read from its parts.
-/
namespace LightingNet.Json

abbrev Read (α : Type) := Json → Option α

def getOr {α : Type} (read : Read α) (missing : α) (name : String) : Read α := fun j =>
  match j.get? name with
  | some v => read v
  | none => some missing

def optional {α : Type} (read : Read α) (name : String) : Read (Option α) :=
  getOr (fun v => (read v).map some) none name

def required {α : Type} (read : Read α) (name : String) : Read α := fun j =>
  (j.get? name).bind read

def nat? : Read Nat
  | int n => if 0 ≤ n then some n.toNat else none
  | _ => none

def double? (j : Json) : Option UInt32 := (j.natBelow? 4294967296).map UInt32.ofNat

def signed? : Read Int16
  | int n => if -32768 ≤ n ∧ n ≤ 32767 then some (Int16.ofInt n) else none
  | _ => none

def bytes? (j : Json) : Option Bytes := j.text?.bind Hex.decode?

def octets? (n : Nat) (j : Json) : Option (Octets n) := do
  let items ← j.listOf? byte?
  if h : items.length = n then some ⟨items.toArray, by simpa using h⟩ else none

def uid? (j : Json) : Option Rdm.Uid := j.text?.bind Rdm.Uid.parse?

def plainUid? (j : Json) : Option Rdm.Uid := j.bytes?.bind Rdm.Uid.ofBytes?

/-- Reads a port-address from its three parts, of which it keeps 7, 4 and 4 bits. -/
def port? (j : Json) : Option PortAddress := do
  match ← j.listOf? byte? with
  | [net, subnet, uni] => some (.masked net subnet uni)
  | _ => none

def ipv4? (j : Json) : Option Ipv4 := j.text?.bind Ipv4.parse?

def ipv4Socket? (j : Json) : Option Ipv4Socket := j.text?.bind Ipv4Socket.parse?

def socket? (j : Json) : Option Socket := j.text?.bind Socket.parse?

def byteAt : String → Read UInt8 := getOr byte? 0

def wordAt : String → Read UInt16 := getOr word? 0

def doubleAt : String → Read UInt32 := getOr double? 0

def natAt : String → Read Nat := getOr nat? 0

def flagAt : String → Read Bool := getOr bool? false

def textAt : String → Read String := getOr text? ""

def listAt {α : Type} (read : Read α) : String → Read (List α) := getOr (listOf? read) []

def bytesAt : String → Read Bytes := getOr bytes? []

def uidAt : String → Read Rdm.Uid := getOr uid? .zero

def portAt : String → Read PortAddress := getOr port? .zero

def ipv4At : String → Read Ipv4 := getOr ipv4? .unspecified

def byte (b : UInt8) : Json := nat b.toNat

def word (w : UInt16) : Json := nat w.toNat

def double (d : UInt32) : Json := nat d.toNat

def signed (n : Int16) : Json := int n.toInt

def hex (b : Bytes) : Json := text (Hex.encode b)

def list {α : Type} (write : α → Json) (xs : List α) : Json := array (xs.map write)

def octets {n : Nat} (v : Octets n) : Json := list byte v.toList

def orNull {α : Type} (write : α → Json) : Option α → Json
  | some a => write a
  | none => null

def uid (u : Rdm.Uid) : Json := text u.text

def plainUid (u : Rdm.Uid) : Json := hex u.bytes

def port (p : PortAddress) : Json := text p.text

def portParts (p : PortAddress) : Json := list byte [p.net, p.subnet, p.uni]

end LightingNet.Json

namespace LightingNet.Report.Format

variable {α β : Type}

def byte : Format UInt8 := ⟨Json.byte, Json.byte?⟩

def word : Format UInt16 := ⟨Json.word, Json.word?⟩

def double : Format UInt32 := ⟨Json.double, Json.double?⟩

def signed : Format Int16 := ⟨Json.signed, Json.signed?⟩

def text : Format String := ⟨Json.text, Json.text?⟩

def bytes : Format Bytes := ⟨Json.hex, Json.bytes?⟩

def octets (n : Nat) : Format (Octets n) := ⟨Json.octets, Json.octets? n⟩

def uid : Format Rdm.Uid := ⟨Json.uid, Json.uid?⟩

def plainUid : Format Rdm.Uid := ⟨Json.plainUid, Json.plainUid?⟩

def ipv4 : Format Ipv4 := ⟨fun ip => .text ip.text, Json.ipv4?⟩

def ipv4Socket : Format Ipv4Socket := ⟨fun s => .text s.text, Json.ipv4Socket?⟩

def portParts : Format PortAddress := ⟨Json.portParts, Json.port?⟩

def list (f : Format α) : Format (List α) := ⟨Json.list f.write, Json.listOf? f.read⟩

def coded (f : Format β) (code : α → β) (ofCode : β → α) : Format α :=
  ⟨fun a => f.write (code a), fun j => (f.read j).map ofCode⟩

end LightingNet.Report.Format
