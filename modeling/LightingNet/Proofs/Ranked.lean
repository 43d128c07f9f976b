import LightingNet.Ranked
import Mathlib.Data.List.Dedup
import Mathlib.Data.List.Nodup
import Mathlib.Data.List.Perm.Subperm
/-!
# Looking up in ranked lists

What an operation on an ascending list does is told by what is found under each rank: putting a
member in is seen under its own rank only, and the first member of a rank stays.
-/
namespace LightingNet.Ranked

variable {α : Type} {rank : α → Nat}

theorem ascending_nil : Ascending rank [] := List.Pairwise.nil

theorem Ascending.tail {a : α} {xs : List α} (h : Ascending rank (a :: xs)) : Ascending rank xs :=
  List.Pairwise.of_cons h

theorem Ascending.head_lt {a b : α} {xs : List α} (h : Ascending rank (a :: xs)) (hb : b ∈ xs) :
    rank a < rank b :=
  List.rel_of_pairwise_cons h hb

theorem Ascending.cons {a : α} {xs : List α} (h : Ascending rank xs)
    (ha : ∀ b ∈ xs, rank a < rank b) : Ascending rank (a :: xs) :=
  List.Pairwise.cons ha h

theorem Ascending.nodup {xs : List α} (h : Ascending rank xs) : xs.Nodup :=
  List.Pairwise.imp (fun hlt heq => by subst heq; exact Nat.lt_irrefl _ hlt) h

theorem Ascending.eq_of_rank_eq {a b : α} {xs : List α} (h : Ascending rank xs) (ha : a ∈ xs)
    (hb : b ∈ xs) (hrank : rank a = rank b) : a = b := by
  induction xs with
  | nil => cases ha
  | cons c xs ih =>
    rcases List.mem_cons.mp ha with rfl | ha'
    · rcases List.mem_cons.mp hb with rfl | hb'
      · rfl
      · exact absurd hrank (Nat.ne_of_lt (h.head_lt hb'))
    · rcases List.mem_cons.mp hb with rfl | hb'
      · exact absurd hrank (Nat.ne_of_gt (h.head_lt ha'))
      · exact ih h.tail ha' hb'

theorem Ascending.eq_of_mem_iff {xs ys : List α} (hxs : Ascending rank xs) (hys : Ascending rank ys)
    (h : ∀ a, a ∈ xs ↔ a ∈ ys) : xs = ys := by
  have hperm : xs.Perm ys := (List.perm_ext_iff_of_nodup hxs.nodup hys.nodup).mpr h
  apply hperm.eq_of_pairwise ?_ hxs hys
  intro a b _ _ hab hba
  exact absurd hab (Nat.lt_asymm hba)

theorem find?_eq_some {xs : List α} {a : α} {r : Nat} (h : find? rank r xs = some a) :
    a ∈ xs ∧ rank a = r :=
  ⟨List.mem_of_find?_eq_some h, by simpa using List.find?_some h⟩

theorem find?_eq_none_iff {xs : List α} {r : Nat} :
    find? rank r xs = none ↔ ∀ a ∈ xs, rank a ≠ r := by
  simp [find?]

theorem Ascending.mem_iff_find? {xs : List α} (h : Ascending rank xs) {a : α} :
    a ∈ xs ↔ find? rank (rank a) xs = some a := by
  constructor
  · intro ha
    cases hfind : find? rank (rank a) xs with
    | none => exact absurd rfl (find?_eq_none_iff.mp hfind a ha)
    | some b =>
      obtain ⟨hb, hrank⟩ := find?_eq_some hfind
      rw [h.eq_of_rank_eq hb ha hrank]
  · intro hfind
    exact (find?_eq_some hfind).1

theorem find?_append (xs ys : List α) (r : Nat) :
    find? rank r (xs ++ ys) = (find? rank r xs).or (find? rank r ys) :=
  List.find?_append

theorem find?_map {β : Type} {rank' : β → Nat} {f : α → β} (hf : ∀ a, rank' (f a) = rank a)
    (xs : List α) (r : Nat) : find? rank' r (xs.map f) = (find? rank r xs).map f := by
  have hcomp : (fun b => rank' b == r) ∘ f = fun a => rank a == r := by
    funext a
    rw [Function.comp_apply, hf]
  rw [find?, List.find?_map, hcomp]
  rfl

/-- The first member with a property is the one of the least rank. -/
theorem Ascending.find?_eq_some_iff_least {xs : List α} (h : Ascending rank xs) {p : α → Bool}
    {a : α} :
    xs.find? p = some a ↔ a ∈ xs ∧ p a ∧ ∀ b ∈ xs, p b → b = a ∨ rank a < rank b := by
  induction xs with
  | nil => simp
  | cons c xs ih =>
    by_cases hc : p c
    · rw [List.find?_cons_of_pos hc, Option.some.injEq]
      constructor
      · rintro rfl
        refine ⟨List.mem_cons_self, hc, fun b hb _ => ?_⟩
        exact (List.mem_cons.mp hb).imp_right h.head_lt
      · rintro ⟨ha, -, hleast⟩
        rcases hleast c List.mem_cons_self hc with rfl | hlt
        · rfl
        · exact ((List.mem_cons.mp ha).resolve_right fun ha =>
            Nat.lt_asymm hlt (h.head_lt ha)).symm
    · have hne {b : α} (hb : p b) : b ≠ c := by
        rintro rfl
        exact hc hb
      rw [List.find?_cons_of_neg hc, ih h.tail]
      constructor
      · rintro ⟨ha, hp, hleast⟩
        refine ⟨List.mem_cons_of_mem c ha, hp, fun b hb hpb => ?_⟩
        exact hleast b ((List.mem_cons.mp hb).resolve_left (hne hpb)) hpb
      · rintro ⟨ha, hp, hleast⟩
        refine ⟨(List.mem_cons.mp ha).resolve_left (hne hp), hp, fun b hb => ?_⟩
        exact hleast b (List.mem_cons_of_mem c hb)

theorem Ascending.filter_rank {xs : List α} (h : Ascending rank xs) (r : Nat) :
    xs.filter (fun a => rank a == r) = (find? rank r xs).toList := by
  apply Ascending.eq_of_mem_iff (List.Pairwise.filter _ h)
  · cases find? rank r xs <;> simp [Ascending]
  · intro a
    rw [List.mem_filter, Option.mem_toList, h.mem_iff_find?, beq_iff_eq]
    constructor
    · rintro ⟨hfind, rfl⟩
      exact hfind
    · intro hfind
      have hrank : rank a = r := (find?_eq_some hfind).2
      exact ⟨hrank ▸ hfind, hrank⟩

theorem find?_cons (a : α) (xs : List α) (r : Nat) :
    find? rank r (a :: xs) = if rank a = r then some a else find? rank r xs := by
  by_cases h : rank a = r <;> simp [find?, h]

theorem exists_find? (rank : α → Nat) {a : α} {xs : List α} (ha : a ∈ xs) :
    ∃ b, find? rank (rank a) xs = some b := by
  cases hfind : find? rank (rank a) xs with
  | none => exact absurd rfl (find?_eq_none_iff.mp hfind a ha)
  | some b => exact ⟨b, rfl⟩

theorem find?_append_cons {xs : List α} {a b : α} (ha : a ∈ xs) (hrank : rank a = rank b)
    (ys : List α) (r : Nat) : find? rank r (xs ++ b :: ys) = find? rank r (xs ++ ys) := by
  rw [find?_append, find?_append, find?_cons]
  by_cases hr : rank b = r
  · obtain ⟨c, hc⟩ := exists_find? rank ha
    rw [← hr, ← hrank, hc]
    rfl
  · rw [if_neg hr]

theorem find?_perm {xs ys : List α} (h : xs.Perm ys)
    (hsame : ∀ a ∈ ys, ∀ b ∈ ys, rank a = rank b → a = b) (r : Nat) :
    find? rank r xs = find? rank r ys := by
  cases hxs : find? rank r xs with
  | none =>
    symm
    rw [find?_eq_none_iff] at hxs ⊢
    intro a ha
    exact hxs a (h.mem_iff.mpr ha)
  | some a =>
    obtain ⟨ha, rfl⟩ := find?_eq_some hxs
    have hmem : a ∈ ys := h.mem_iff.mp ha
    obtain ⟨b, hb⟩ := exists_find? rank hmem
    obtain ⟨hbmem, hrank⟩ := find?_eq_some hb
    rw [hb, hsame b hbmem a hmem hrank]

theorem find?_eq_none_of_lt {xs : List α} {r : Nat} (h : ∀ a ∈ xs, r < rank a) :
    find? rank r xs = none :=
  find?_eq_none_iff.mpr fun a ha => Nat.ne_of_gt (h a ha)

section Upsert

variable {fresh : α} {change : α → α} (hchange : ∀ a, rank (change a) = rank a)

include hchange

theorem lt_of_mem_upsert {xs : List α} {r : Nat} (hfresh : r < rank fresh)
    (hxs : ∀ a ∈ xs, r < rank a) {a : α} (ha : a ∈ upsert rank fresh change xs) : r < rank a := by
  induction xs with
  | nil =>
    rw [upsert, List.mem_singleton] at ha
    rwa [ha, hchange]
  | cons b xs ih =>
    rw [upsert] at ha
    split at ha
    · rcases List.mem_cons.mp ha with rfl | ha
      · rwa [hchange]
      · exact hxs a ha
    split at ha
    · rcases List.mem_cons.mp ha with rfl | ha
      · rw [hchange]
        exact hxs b List.mem_cons_self
      · exact hxs a (List.mem_cons_of_mem b ha)
    · rcases List.mem_cons.mp ha with rfl | ha
      · exact hxs a List.mem_cons_self
      · exact ih (fun c hc => hxs c (List.mem_cons_of_mem b hc)) ha

theorem Ascending.upsert {xs : List α} (h : Ascending rank xs) :
    Ascending rank (upsert rank fresh change xs) := by
  induction xs with
  | nil => exact List.pairwise_singleton _ _
  | cons b xs ih =>
    rw [Ranked.upsert]
    split
    · rename_i hlt
      refine h.cons fun c hc => ?_
      rw [hchange]
      rcases List.mem_cons.mp hc with rfl | hc
      · exact hlt
      · exact Nat.lt_trans hlt (h.head_lt hc)
    split
    · refine h.tail.cons fun c hc => ?_
      rw [hchange]
      exact h.head_lt hc
    · exact (ih h.tail).cons fun c hc =>
        lt_of_mem_upsert hchange (by omega) (fun a ha => h.head_lt ha) hc

theorem Ascending.find?_upsert {xs : List α} (h : Ascending rank xs) (r : Nat) :
    find? rank r (Ranked.upsert rank fresh change xs) =
      if rank fresh = r then some (change ((find? rank r xs).getD fresh)) else find? rank r xs := by
  induction xs with
  | nil => simp [Ranked.upsert, hchange, find?]
  | cons b xs ih =>
    rw [Ranked.upsert]
    split
    · rename_i hlt
      rw [find?_cons, hchange]
      by_cases hr : rank fresh = r
      · have hnone : find? rank r (b :: xs) = none := by
          refine find?_eq_none_of_lt fun a ha => ?_
          rcases List.mem_cons.mp ha with rfl | ha
          · omega
          · have := h.head_lt ha
            omega
        rw [if_pos hr, if_pos hr, hnone]
        rfl
      · rw [if_neg hr, if_neg hr]
    split
    · rename_i heq
      rw [find?_cons, hchange, find?_cons, heq]
      split <;> simp_all
    · rename_i hlt hne
      rw [find?_cons, find?_cons, ih h.tail]
      by_cases hb : rank b = r
      · rw [if_pos hb, if_pos hb, if_neg (by omega)]
      · rw [if_neg hb, if_neg hb]

end Upsert

theorem insert_eq_upsert (a : α) (xs : List α) : insert rank a xs = upsert rank a id xs := by
  induction xs with
  | nil => rfl
  | cons b xs ih => rw [insert, upsert, ih]; rfl

theorem Ascending.insert {xs : List α} (h : Ascending rank xs) (a : α) :
    Ascending rank (insert rank a xs) := by
  rw [insert_eq_upsert]
  exact h.upsert fun _ => rfl

theorem Ascending.find?_insert {xs : List α} (h : Ascending rank xs) (a : α) (r : Nat) :
    find? rank r (Ranked.insert rank a xs) =
      (find? rank r xs).or (if rank a = r then some a else none) := by
  have hkeep (b : α) : rank (id b) = rank b := rfl
  rw [insert_eq_upsert, h.find?_upsert hkeep]
  cases find? rank r xs <;> split <;> simp

theorem insertAll_ascending (as : List α) {xs : List α} (h : Ascending rank xs) :
    Ascending rank (as.foldl (fun kept a => insert rank a kept) xs) := by
  induction as generalizing xs with
  | nil => exact h
  | cons a as ih => exact ih (h.insert a)

theorem find?_insertAll (as : List α) {xs : List α} (h : Ascending rank xs) (r : Nat) :
    find? rank r (as.foldl (fun kept a => insert rank a kept) xs) =
      (find? rank r xs).or (find? rank r as) := by
  induction as generalizing xs with
  | nil => simp [find?]
  | cons a as ih =>
    rw [List.foldl_cons, ih (h.insert a), h.find?_insert, find?_cons, Option.or_assoc]
    split <;> rfl

theorem ascending_ofList (xs : List α) : Ascending rank (ofList rank xs) :=
  insertAll_ascending xs ascending_nil

/-- Under each rank, a ranked list has the first member of the list that it is made of. -/
theorem find?_ofList (xs : List α) (r : Nat) : find? rank r (ofList rank xs) = find? rank r xs :=
  find?_insertAll xs ascending_nil r

theorem mem_ofList {xs : List α} {a : α} :
    a ∈ ofList rank xs ↔ find? rank (rank a) xs = some a := by
  rw [(ascending_ofList xs).mem_iff_find?, find?_ofList]

theorem mem_of_mem_ofList {xs : List α} {a : α} (h : a ∈ ofList rank xs) : a ∈ xs :=
  (find?_eq_some (mem_ofList.mp h)).1

theorem length_ofList_le {xs ys : List α} (h : xs ⊆ ys) : (ofList rank xs).length ≤ ys.length := by
  have hsub : ofList rank xs ⊆ ys := fun _ ha => h (mem_of_mem_ofList ha)
  exact (List.subperm_of_subset (ascending_ofList xs).nodup hsub).length_le

theorem mem_insertAll_of_injective (hrank : Function.Injective rank) (as : List α) {xs : List α}
    (h : Ascending rank xs) {b : α} :
    b ∈ as.foldl (fun kept a => insert rank a kept) xs ↔ b ∈ xs ∨ b ∈ as := by
  have hfound (ys : List α) : b ∈ ys ↔ (find? rank (rank b) ys).isSome := by
    constructor
    · intro hb
      cases hfind : find? rank (rank b) ys with
      | none => exact absurd rfl (find?_eq_none_iff.mp hfind b hb)
      | some c => rfl
    · intro hsome
      obtain ⟨c, hc⟩ := Option.isSome_iff_exists.mp hsome
      obtain ⟨hmem, heq⟩ := find?_eq_some hc
      rwa [← hrank heq]
  rw [hfound, hfound xs, hfound as, find?_insertAll as h, Option.isSome_or, Bool.or_eq_true]

theorem mem_ofList_of_injective (hrank : Function.Injective rank) {xs : List α} {a : α} :
    a ∈ ofList rank xs ↔ a ∈ xs := by
  rw [ofList, mem_insertAll_of_injective hrank xs ascending_nil]
  simp

theorem Ascending.ofList_eq {xs : List α} (h : Ascending rank xs) : ofList rank xs = xs := by
  apply (ascending_ofList xs).eq_of_mem_iff h
  intro a
  rw [mem_ofList, ← h.mem_iff_find?]

/-- A ranked list is what occurs in the list that it is made of, sorted. -/
theorem ofList_eq_sort_dedup [DecidableEq α] (hrank : Function.Injective rank) (xs : List α) :
    ofList rank xs = sort rank xs.dedup := by
  have hsorted : (sort rank xs.dedup).Pairwise fun a b => rank a ≤ rank b := by
    have hmerged : (sort rank xs.dedup).Pairwise fun a b => decide (rank a ≤ rank b) := by
      apply List.pairwise_mergeSort
      · simpa using fun a b c => Nat.le_trans
      · simpa using fun a b => Nat.le_total _ _
    simpa using hmerged
  have hnodup : (sort rank xs.dedup).Nodup :=
    (List.mergeSort_perm xs.dedup _).nodup_iff.mpr (List.nodup_dedup xs)
  have hascending : Ascending rank (sort rank xs.dedup) := by
    refine (hsorted.and hnodup).imp ?_
    rintro a b ⟨hle, hne⟩
    exact Nat.lt_of_le_of_ne hle (hrank.ne hne)
  apply (ascending_ofList xs).eq_of_mem_iff hascending
  intro a
  simp [mem_ofList_of_injective hrank, sort]

theorem Ascending.find?_split {low above : List α} {a : α} (h : Ascending rank (low ++ a :: above))
    (r : Nat) :
    find? rank r (low ++ a :: above) =
      if rank a = r then some a else if r < rank a then find? rank r low else find? rank r above := by
  obtain ⟨-, habove, hlow⟩ := List.pairwise_append.mp h
  have hnone (hle : rank a ≤ r) : find? rank r low = none := by
    rw [find?_eq_none_iff]
    intro b hb
    have hlt := hlow b hb a List.mem_cons_self
    omega
  rw [find?_append, find?_cons]
  by_cases hrank : rank a = r
  · rw [if_pos hrank, if_pos hrank, hnone (Nat.le_of_eq hrank), Option.none_or]
  rw [if_neg hrank, if_neg hrank]
  by_cases hlt : r < rank a
  · have hbehind : find? rank r above = none := by
      apply find?_eq_none_of_lt
      intro b hb
      exact Nat.lt_trans hlt (head_lt habove hb)
    rw [if_pos hlt, hbehind, Option.or_none]
  · rw [if_neg hlt, hnone (Nat.not_lt.mp hlt), Option.none_or]

/-- Halving an ascending list never misses the member of a rank. -/
theorem Ascending.search?_eq_find? {xs : List α} (h : Ascending rank xs) (r : Nat) :
    search? rank r xs = find? rank r xs := by
  have hparts {xs : List α} (h : Ascending rank xs) {a : α} {above : List α}
      (hdrop : xs.drop (xs.length / 2) = a :: above) :
      Ascending rank (xs.take (xs.length / 2)) ∧ Ascending rank above ∧
        find? rank r xs = if rank a = r then some a
          else if r < rank a then find? rank r (xs.take (xs.length / 2)) else find? rank r above := by
    have hsplit := List.take_append_drop (xs.length / 2) xs
    rw [hdrop] at hsplit
    rw [← hsplit] at h
    obtain ⟨hlow, habove, -⟩ := List.pairwise_append.mp h
    refine ⟨hlow, habove.tail, ?_⟩
    rw [← h.find?_split, hsplit]
  fun_induction search? rank r xs with
  | case1 xs hdrop =>
    have hlength := List.drop_eq_nil_iff.mp hdrop
    rw [List.length_eq_zero_iff.mp (show xs.length = 0 by omega)]
    rfl
  | case2 xs a above hdrop hrank => rw [(hparts h hdrop).2.2, if_pos hrank]
  | case3 xs a above hdrop hrank hlt ih =>
    obtain ⟨hlow, -, hfind⟩ := hparts h hdrop
    rw [ih hlow, hfind, if_neg hrank, if_pos hlt]
  | case4 xs a above hdrop hrank hge ih =>
    obtain ⟨-, habove, hfind⟩ := hparts h hdrop
    rw [ih habove, hfind, if_neg hrank, if_neg hge]

end LightingNet.Ranked
