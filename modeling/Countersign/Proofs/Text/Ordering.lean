import Countersign.Text.Basic
/-! Sorting and squeezing keep the members of a list; a sorted and squeezed list of
texts is determined by them. -/

namespace Countersign.Text

/-- Lists have one sorted form when they hold the same elements equally often. -/
theorem mergeSort_inj {α : Type} {r : α → α → Bool}
    (trans : ∀ a b c, r a b = true → r b c = true → r a c = true)
    (total : ∀ a b, (r a b || r b a) = true)
    (antisymm : ∀ a b, r a b = true → r b a = true → a = b) {xs ys : List α} :
    xs.mergeSort r = ys.mergeSort r ↔ xs.Perm ys := by
  refine ⟨fun h => ?_, fun h => ?_⟩
  · exact (List.mergeSort_perm xs r).symm.trans (h ▸ List.mergeSort_perm ys r)
  · have hperm : (xs.mergeSort r).Perm (ys.mergeSort r) :=
      ((List.mergeSort_perm xs r).trans h).trans (List.mergeSort_perm ys r).symm
    exact hperm.eq_of_pairwise (fun a b _ _ => antisymm a b)
      (List.pairwise_mergeSort trans total xs) (List.pairwise_mergeSort trans total ys)

theorem le_cons_self (a : Char) (s t : Text) : le (a :: s) (a :: t) = le s t := by
  rw [le, if_pos rfl]

theorem le_cons_ne {a b : Char} (h : a ≠ b) (s t : Text) : le (a :: s) (b :: t) = decide (a < b) := by
  rw [le, if_neg h]

theorem le_antisymm {s t : Text} (hst : le s t = true) (hts : le t s = true) : s = t := by
  induction s generalizing t with
  | nil =>
    cases t with
    | nil => rfl
    | cons b t => cases hts
  | cons a s ih =>
    cases t with
    | nil => cases hst
    | cons b t =>
      by_cases hab : a = b
      · subst hab
        rw [le_cons_self] at hst hts
        rw [ih hst hts]
      · rw [le_cons_ne hab, decide_eq_true_eq] at hst
        rw [le_cons_ne (Ne.symm hab), decide_eq_true_eq] at hts
        exact absurd hts (Char.lt_asymm hst)

theorem le_trans {s t u : Text} (hst : le s t = true) (htu : le t u = true) : le s u = true := by
  induction s generalizing t u with
  | nil => rfl
  | cons a s ih =>
    cases t with
    | nil => cases hst
    | cons b t =>
      cases u with
      | nil => cases htu
      | cons c u =>
        by_cases hab : a = b
        · subst hab
          rw [le_cons_self] at hst
          by_cases hac : a = c
          · subst hac
            rw [le_cons_self] at htu ⊢
            exact ih hst htu
          · rwa [le_cons_ne hac] at htu ⊢
        · rw [le_cons_ne hab, decide_eq_true_eq] at hst
          by_cases hbc : b = c
          · subst hbc
            rwa [le_cons_ne hab, decide_eq_true_eq]
          · rw [le_cons_ne hbc, decide_eq_true_eq] at htu
            have hac : a < c := Char.lt_trans hst htu
            rwa [le_cons_ne fun h => Char.lt_irrefl _ (h ▸ hac), decide_eq_true_eq]

theorem le_total (s t : Text) : (le s t || le t s) = true := by
  induction s generalizing t with
  | nil => rfl
  | cons a s ih =>
    cases t with
    | nil => rfl
    | cons b t =>
      by_cases hab : a = b
      · subst hab
        rw [le_cons_self, le_cons_self]
        exact ih t
      · rw [le_cons_ne hab, le_cons_ne (Ne.symm hab), Bool.or_eq_true, decide_eq_true_eq,
          decide_eq_true_eq]
        refine Decidable.or_iff_not_imp_left.2 fun h => Decidable.byContradiction ?_
        intro h'
        exact hab (Char.le_antisymm (Char.not_lt.1 h') (Char.not_lt.1 h))

theorem sorted_sort (xs : List Text) : (sort xs).Pairwise (le · ·) :=
  @List.pairwise_mergeSort _ le (fun _ _ _ => le_trans) le_total xs

theorem mem_squeeze {x : Text} {xs : List Text} : x ∈ squeeze xs ↔ x ∈ xs := by
  fun_induction squeeze xs with
  | case1 | case2 => rfl
  | case3 y ys ih => simp [ih]
  | case4 y z zs h ih => simp [ih]

theorem sorted_squeeze {xs : List Text} (h : xs.Pairwise (le · ·)) :
    (squeeze xs).Pairwise (le · ·) := by
  fun_induction squeeze xs with
  | case1 => exact .nil
  | case2 x => exact List.pairwise_singleton _ x
  | case3 y ys ih => exact ih h.tail
  | case4 x y ys hxy ih =>
    exact List.pairwise_cons.2
      ⟨fun z hz => (List.pairwise_cons.1 h).1 z (mem_squeeze.1 hz), ih h.tail⟩

theorem nodup_squeeze {xs : List Text} (h : xs.Pairwise (le · ·)) : (squeeze xs).Nodup := by
  fun_induction squeeze xs with
  | case1 => exact .nil
  | case2 x => exact List.pairwise_singleton _ x
  | case3 y ys ih => exact ih h.tail
  | case4 x y ys hxy ih =>
    refine List.nodup_cons.2 ⟨fun hmem => ?_, ih h.tail⟩
    obtain ⟨hx, hys⟩ := List.pairwise_cons.1 h
    rcases List.mem_cons.1 (mem_squeeze.1 hmem) with rfl | hmem
    · exact hxy rfl
    · exact hxy (le_antisymm (hx y (by simp)) ((List.pairwise_cons.1 hys).1 x hmem))

theorem mem_squeeze_sort {x : Text} {xs : List Text} : x ∈ squeeze (sort xs) ↔ x ∈ xs :=
  mem_squeeze.trans List.mem_mergeSort

/-- Sorted and squeezed lists are equal when their members are. -/
theorem squeeze_sort_inj {xs ys : List Text} :
    squeeze (sort xs) = squeeze (sort ys) ↔ ∀ x, x ∈ xs ↔ x ∈ ys := by
  refine ⟨fun h x => ?_, fun h => ?_⟩
  · rw [← mem_squeeze_sort, h, mem_squeeze_sort]
  · have hperm : (squeeze (sort xs)).Perm (squeeze (sort ys)) := by
      rw [List.perm_ext_iff_of_nodup (nodup_squeeze (sorted_sort xs))
        (nodup_squeeze (sorted_sort ys))]
      intro x
      rw [mem_squeeze_sort, mem_squeeze_sort, h x]
    exact hperm.eq_of_pairwise (fun _ _ _ _ => le_antisymm) (sorted_squeeze (sorted_sort xs))
      (sorted_squeeze (sorted_sort ys))

end Countersign.Text
