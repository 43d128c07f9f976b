import LightingNet.Text.Blank
import Mathlib.Data.List.Basic
/-!
# Texts without their blanks, and in pieces

A text is blanks around what is left when they are removed, and what has no blank is left whole. The
pieces of a text are what a separator joins to it, and no others without a separator in them do. A text
split in two has no separator in its first part.
-/
namespace LightingNet

theorem isBlank_of_isDigit {c : Char} (h : c.isDigit) : isBlank c = false := by
  obtain ⟨hlow, hhigh⟩ := Char.isDigit_iff_toNat.mp h
  simp only [Char.reduceToNat] at hlow hhigh
  simp [isBlank]
  omega

theorem exists_blanks (cs : List Char) :
    ∃ before after, cs = before ++ (trimBlanks cs ++ after) ∧ (∀ c ∈ before, isBlank c) ∧
      ∀ c ∈ after, isBlank c := by
  let rest := cs.dropWhile isBlank
  let after := (rest.reverse.takeWhile isBlank).reverse
  have hrest : trimBlanks cs ++ after = rest := by
    rw [trimBlanks, ← List.reverse_append, List.takeWhile_append_dropWhile, List.reverse_reverse]
  have hblank (l : List Char) : ∀ c ∈ l.takeWhile isBlank, isBlank c :=
    List.all_eq_true.mp List.all_takeWhile
  refine ⟨cs.takeWhile isBlank, after, ?_, hblank cs, fun c hc => ?_⟩
  · rw [hrest, List.takeWhile_append_dropWhile]
  · exact hblank _ c (List.mem_reverse.mp hc)

private theorem dropWhile_blanks {blanks body rest : List Char} (hblanks : ∀ c ∈ blanks, isBlank c)
    (hbody : ∀ c ∈ body, isBlank c = false) (hne : body ≠ []) :
    (blanks ++ (body ++ rest)).dropWhile isBlank = body ++ rest := by
  obtain ⟨c, body, rfl⟩ := List.exists_cons_of_ne_nil hne
  rw [List.dropWhile_append_of_pos hblanks, List.cons_append, List.dropWhile_cons,
    hbody c List.mem_cons_self]
  rfl

theorem trimBlanks_of_blanks {before body after : List Char} (hbefore : ∀ c ∈ before, isBlank c)
    (hbody : ∀ c ∈ body, isBlank c = false) (hne : body ≠ []) (hafter : ∀ c ∈ after, isBlank c) :
    trimBlanks (before ++ (body ++ after)) = body := by
  have hback : (after.reverse ++ (body.reverse ++ [])).dropWhile isBlank = body.reverse ++ [] :=
    dropWhile_blanks (by simpa using hafter) (by simpa using hbody) (by simpa using hne)
  rw [List.append_nil] at hback
  rw [trimBlanks, dropWhile_blanks hbefore hbody hne, List.reverse_append, hback,
    List.reverse_reverse]

private theorem piecesAt_eq_splitOn (sep : Char) (cs : List Char) :
    piecesAt sep cs = cs.splitOn sep := by
  induction cs with
  | nil => rfl
  | cons c cs ih =>
    rw [piecesAt, List.splitOn, List.splitOnP_cons_eq_if_modifyHead, ← List.splitOn, ← ih]
    by_cases hc : c = sep
    · simp [hc]
    · obtain ⟨piece, pieces, hpieces⟩ := List.exists_cons_of_ne_nil (piecesAt_ne_nil sep cs)
      simp [hc, hpieces]

private theorem notMem_of_mem_piecesAt (sep : Char) (cs : List Char) :
    ∀ piece ∈ piecesAt sep cs, sep ∉ piece := by
  induction cs with
  | nil => simp [piecesAt]
  | cons c cs ih =>
    rw [piecesAt]
    by_cases hc : c = sep
    · simpa [hc] using ih
    · obtain ⟨piece, pieces, hpieces⟩ := List.exists_cons_of_ne_nil (piecesAt_ne_nil sep cs)
      rw [hpieces, List.forall_mem_cons] at ih
      simpa [hc, hpieces, Ne.symm hc] using ih

/-- The pieces of a text are the texts without a separator that separators join to it. -/
theorem piecesAt_eq_iff {sep : Char} {cs : List Char} {pieces : List (List Char)} :
    piecesAt sep cs = pieces ↔
      pieces ≠ [] ∧ (∀ piece ∈ pieces, sep ∉ piece) ∧ [sep].intercalate pieces = cs := by
  constructor
  · rintro rfl
    refine ⟨piecesAt_ne_nil sep cs, notMem_of_mem_piecesAt sep cs, ?_⟩
    rw [piecesAt_eq_splitOn, List.intercalate_splitOn]
  · rintro ⟨hne, hpieces, rfl⟩
    rw [piecesAt_eq_splitOn, List.splitOn_intercalate sep hpieces hne]

theorem splitAtFirst_eq_some_iff {sep : Char} {cs left right : List Char} :
    splitAtFirst sep cs = some (left, right) ↔ cs = left ++ sep :: right ∧ sep ∉ left := by
  induction cs generalizing left with
  | nil => simp [splitAtFirst]
  | cons c cs ih =>
    rw [splitAtFirst]
    by_cases hc : c = sep
    · cases left with
      | nil => simp [hc, eq_comm]
      | cons a left => simp +contextual [hc]
    · rw [if_neg hc, Option.map_eq_some_iff]
      constructor
      · rintro ⟨⟨front, back⟩, hsplit, hhalves⟩
        obtain ⟨rfl, rfl⟩ := Prod.mk.inj hhalves
        obtain ⟨rfl, hfront⟩ := ih.mp hsplit
        exact ⟨rfl, List.not_mem_cons_of_ne_of_not_mem (Ne.symm hc) hfront⟩
      · rintro ⟨hcs, hleft⟩
        cases left with
        | nil => exact absurd (List.cons.inj hcs).1 hc
        | cons a left =>
          obtain ⟨rfl, rfl⟩ := List.cons.inj hcs
          exact ⟨(left, right), ih.mpr ⟨rfl, List.not_mem_of_not_mem_cons hleft⟩, rfl⟩

end LightingNet
