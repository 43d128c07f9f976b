/-!
# JSON values

Values of a data file. A number counts as an integer by how it is written: one with a point or an
exponent is none, whatever its value. A record is read from an object by the names of its fields, each
of which must stand there once, other names being passed over, or from an array that has its fields in
order.
-/
namespace LightingNet

inductive Json where
  | null
  | bool (value : Bool)
  /-- A number that is written as an integer. -/
  | int (value : Int)
  /-- A number that is written with a point or an exponent: its digits times a power of ten. -/
  | real (digits : Int) (exponent : Int)
  | text (value : String)
  | array (items : List Json)
  | object (fields : List (String × Json))
  deriving Inhabited

namespace Json

def nat (n : Nat) : Json := int n

def natBelow? (bound : Nat) : Json → Option Nat
  | int n => if 0 ≤ n ∧ n < bound then some n.toNat else none
  | _ => none

def byte? (j : Json) : Option UInt8 := (j.natBelow? 256).map UInt8.ofNat

def word? (j : Json) : Option UInt16 := (j.natBelow? 65536).map UInt16.ofNat

def quad? (j : Json) : Option Nat := j.natBelow? 18446744073709551616

def bool? : Json → Option Bool
  | bool b => some b
  | _ => none

def text? : Json → Option String
  | text s => some s
  | _ => none

def listOf? {α : Type} (item? : Json → Option α) : Json → Option (List α)
  | array items => items.mapM item?
  | _ => none

/-- The value of a field that stands there once. -/
def field? (name : String) (fields : List (String × Json)) : Option Json :=
  match fields.filter fun f => f.1 == name with
  | [f] => some f.2
  | _ => none

def record? (names : List String) : Json → Option (List Json)
  | object fields => names.mapM fun name => field? name fields
  | array items => if items.length = names.length then some items else none
  | _ => none

/-- Reads one of some names, alone or as the only field of an object that holds nothing. -/
def choice? {α : Type} (choices : List (String × α)) : Json → Option α
  | text s => (choices.find? fun c => c.1 == s).map Prod.snd
  | object [(s, null)] => (choices.find? fun c => c.1 == s).map Prod.snd
  | _ => none

end Json

end LightingNet
