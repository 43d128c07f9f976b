import Mathlib.Data.List.Basic
/-!
# The first member with a property

The member of a list that has a property while none in front of it has. There is at most one, and
there is one as soon as any member has the property.
-/
namespace LightingNet

variable {α : Type}

/-- A member has a property, and none in front of it has. -/
structure Earliest (P : α → Prop) (xs : List α) (a : α) : Prop where
  holds : P a
  split : ∃ before after, xs = before ++ a :: after ∧ ∀ b ∈ before, ¬P b

theorem earliest_iff_find? {P : α → Prop} {p : α → Bool} (hp : ∀ a, p a = true ↔ P a) {xs : List α}
    {a : α} : Earliest P xs a ↔ xs.find? p = some a := by
  rw [List.find?_eq_some_iff_append, hp]
  constructor
  · rintro ⟨hholds, before, after, rfl, hbefore⟩
    exact ⟨hholds, before, after, rfl, fun b hb => by simpa [← hp] using hbefore b hb⟩
  · rintro ⟨hholds, before, after, rfl, hbefore⟩
    exact ⟨hholds, before, after, rfl, fun b hb => by simpa [← hp] using hbefore b hb⟩

theorem Earliest.mem {P : α → Prop} {xs : List α} {a : α} (h : Earliest P xs a) : a ∈ xs := by
  obtain ⟨before, after, rfl, -⟩ := h.split
  simp

theorem Earliest.unique {P : α → Prop} {xs : List α} {a b : α} (ha : Earliest P xs a)
    (hb : Earliest P xs b) : a = b := by
  classical
  have hp (a : α) : decide (P a) = true ↔ P a := decide_eq_true_iff
  exact Option.some.inj (((earliest_iff_find? hp).mp ha).symm.trans ((earliest_iff_find? hp).mp hb))

theorem Earliest.congr {P Q : α → Prop} {xs : List α} {a : α} (h : Earliest P xs a)
    (hPQ : ∀ b, P b ↔ Q b) : Earliest Q xs a := by
  obtain ⟨before, after, hsplit, hbefore⟩ := h.split
  exact ⟨(hPQ a).mp h.holds, before, after, hsplit, fun b hb => mt (hPQ b).mpr (hbefore b hb)⟩

theorem Earliest.append {P : α → Prop} {xs : List α} {a : α} (h : Earliest P xs a) (ys : List α) :
    Earliest P (xs ++ ys) a := by
  obtain ⟨before, after, rfl, hbefore⟩ := h.split
  exact ⟨h.holds, before, after ++ ys, by simp, hbefore⟩

theorem exists_earliest_iff {P : α → Prop} {xs : List α} :
    (∃ a, Earliest P xs a) ↔ ∃ a ∈ xs, P a := by
  classical
  have hp (a : α) : decide (P a) = true ↔ P a := decide_eq_true_iff
  simp only [earliest_iff_find? hp, ← Option.isSome_iff_exists, List.find?_isSome, hp]

end LightingNet
