/-!
# Ranked lists

Lists kept ascending by the rank of their members, with at most one member of a rank. The first
member of a rank stays; a later one changes nothing.
-/
namespace LightingNet.Ranked

/-- Puts a member at its place unless one of its rank is there. -/
def insert {α : Type} (rank : α → Nat) (a : α) : List α → List α
  | [] => [a]
  | b :: rest =>
    if rank a < rank b then a :: b :: rest
    else if rank a = rank b then b :: rest
    else b :: insert rank a rest

/-- The members of a list by rank, the first one of each rank. -/
def ofList {α : Type} (rank : α → Nat) (xs : List α) : List α :=
  xs.foldl (fun kept a => insert rank a kept) []

/-- All the members of a list by rank; those of one rank keep their order. -/
def sort {α : Type} (rank : α → Nat) (xs : List α) : List α :=
  xs.mergeSort fun a b => rank a ≤ rank b

def find? {α : Type} (rank : α → Nat) (r : Nat) (xs : List α) : Option α :=
  xs.find? fun a => rank a == r

/-- Changes the member with the rank of `fresh`, after putting `fresh` at its place if there is
none. -/
def upsert {α : Type} (rank : α → Nat) (fresh : α) (change : α → α) : List α → List α
  | [] => [change fresh]
  | b :: rest =>
    if rank fresh < rank b then change fresh :: b :: rest
    else if rank fresh = rank b then change b :: rest
    else b :: upsert rank fresh change rest

/-- The member of a rank in an ascending list, by halving the list. -/
def search? {α : Type} (rank : α → Nat) (r : Nat) (xs : List α) : Option α :=
  match h : xs.drop (xs.length / 2) with
  | [] => none
  | a :: above =>
    if rank a = r then some a
    else if r < rank a then search? rank r (xs.take (xs.length / 2))
    else search? rank r above
termination_by xs.length
decreasing_by
  all_goals
    have hl := congrArg List.length h
    simp only [List.length_drop, List.length_cons, List.length_take] at hl ⊢
    omega

/-- Ascending by rank, no rank twice. -/
def Ascending {α : Type} (rank : α → Nat) (xs : List α) : Prop :=
  xs.Pairwise fun a b => rank a < rank b

end LightingNet.Ranked
