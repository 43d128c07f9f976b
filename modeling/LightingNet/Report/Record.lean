import LightingNet.Json
/-!
# Records

A report is a JSON record. One table of fields says how a kind of record is written and how it is read:
each field has a name, a format and its place in the value. A field that a report leaves out, or that
holds null, reads as in the value for a record without fields, unless it is needed. A table has no name
twice and leaves out nothing of the value, so that reports can be read back.
-/
namespace LightingNet

def Json.get? (j : Json) (name : String) : Option Json :=
  match j with
  | object fields =>
    match fields.lookup name with
    | some null => none
    | found => found
  | _ => none

namespace Report

variable {α σ : Type}

/-- How values are written and read. -/
structure Format (α : Type) where
  write : α → Json
  read : Json → Option α

/-- A field of a record. -/
structure Field (σ : Type) where
  {α : Type}
  name : String
  format : Format α
  get : σ → α
  set : σ → α → σ
  needed : Bool

namespace Field

def of (name : String) (format : Format α) (get : σ → α) (set : σ → α → σ) : Field σ :=
  ⟨name, format, get, set, false⟩

def needing (name : String) (format : Format α) (get : σ → α) (set : σ → α → σ) : Field σ :=
  ⟨name, format, get, set, true⟩

def write (f : Field σ) (s : σ) : String × Json := (f.name, f.format.write (f.get s))

def read (f : Field σ) (j : Json) (s : σ) : Option σ :=
  match j.get? f.name with
  | some v => (f.format.read v).map (f.set s)
  | none => if f.needed then none else some s

end Field

/-- A kind of record. -/
structure Record (σ : Type) where
  fields : List (Field σ)
  /-- What a record without fields stands for. -/
  missing : σ
  nodup : (fields.map Field.name).Nodup := by decide
  complete : ∀ s, fields.foldl (fun t f => f.set t (f.get s)) missing = s := by
    intro s
    cases s
    rfl

namespace Record

def write (r : Record σ) (s : σ) : List (String × Json) := r.fields.map fun f => f.write s

def read (r : Record σ) (j : Json) : Option σ := r.fields.foldlM (fun s f => f.read j s) r.missing

def toJson (r : Record σ) (s : σ) : Json := .object (r.write s)

def format (r : Record σ) : Format σ := ⟨r.toJson, r.read⟩

end Record

end Report

end LightingNet
