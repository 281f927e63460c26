import Mathlib.Data.List.DropRight
import Countersign.Proofs.Text.Characters
import Countersign.Text.Blank
import Countersign.Text.Decimal
/-! Trimming takes the blanks off both ends of a text and nothing else, and leaves a text
alone that has none there. -/

namespace Countersign.Text

variable {t u w w' : Text}

/-- No blank at either end. -/
structure Trimmed (t : Text) : Prop where
  head : ∀ c ∈ t.head?, isBlank c = false
  last : ∀ c ∈ t.getLast?, isBlank c = false

/-! ## One end -/

theorem trimLeft_append (hblank : ∀ c ∈ u, isBlank c = true)
    (ht : ∀ c ∈ t.head?, isBlank c = false) : trimLeft (u ++ t) = t := by
  rw [trimLeft, List.dropWhile_append_of_pos hblank]
  cases t with
  | nil => rfl
  | cons c t => simp [ht c rfl]

/-- What is cut off in front are blanks. -/
theorem exists_blanks (t : Text) : ∃ blanks, (∀ c ∈ blanks, isBlank c = true) ∧
    t = blanks ++ trimLeft t :=
  ⟨t.takeWhile isBlank, fun _ => List.all_eq_true.1 List.all_takeWhile _,
    List.takeWhile_append_dropWhile.symm⟩

theorem head_trimLeft (t : Text) : ∀ c ∈ (trimLeft t).head?, isBlank c = false := by
  intro c hc
  have hhead := List.head?_dropWhile_not isBlank t
  rw [← trimLeft, hc] at hhead
  exact hhead

/-! ## Both ends -/

theorem trimmed_trim (t : Text) : Trimmed (trim t) where
  head := by
    intro c hc
    obtain ⟨rest, hrest⟩ : trim t <+: trimLeft t := List.rdropWhile_prefix isBlank _
    refine head_trimLeft t c ?_
    rw [← hrest, List.head?_append, hc]
    rfl
  last := by
    rw [trim, List.getLast?_reverse]
    exact head_trimLeft _

theorem exists_trim (t : Text) : ∃ w w', (∀ c ∈ w, isBlank c = true) ∧
    (∀ c ∈ w', isBlank c = true) ∧ t = w ++ trim t ++ w' := by
  obtain ⟨w, hw, ht⟩ := exists_blanks t
  obtain ⟨w', hw', hrest⟩ := exists_blanks (trimLeft t).reverse
  refine ⟨w, w'.reverse, hw, fun c hc => hw' c (List.mem_reverse.1 hc), ?_⟩
  have hleft : trimLeft t = trim t ++ w'.reverse := by
    rw [trim, ← List.reverse_append, ← hrest, List.reverse_reverse]
  rw [List.append_assoc, ← hleft, ← ht]

theorem trim_between (hw : ∀ c ∈ w, isBlank c = true) (hw' : ∀ c ∈ w', isBlank c = true)
    (hu : Trimmed u) : trim (w ++ u ++ w') = u := by
  by_cases hnil : u = []
  · subst hnil
    have hall : ∀ c ∈ w ++ w', isBlank c = true := List.forall_mem_append.2 ⟨hw, hw'⟩
    have hnone : trimLeft (w ++ w') = [] := List.dropWhile_eq_nil_iff.2 hall
    rw [List.append_nil, trim, hnone]
    rfl
  · have hfront : trimLeft (w ++ (u ++ w')) = u ++ w' := by
      refine trimLeft_append hw fun c hc => hu.head c ?_
      rwa [List.head?_append_of_ne_nil _ hnil] at hc
    have hback : trimLeft (w'.reverse ++ u.reverse) = u.reverse := by
      refine trimLeft_append (fun c hc => hw' c (List.mem_reverse.1 hc)) ?_
      rw [List.head?_reverse]
      exact hu.last
    rw [List.append_assoc, trim, hfront, List.reverse_append, hback, List.reverse_reverse]

theorem trim_of_trimmed (h : Trimmed t) : trim t = t := by
  have hnone : ∀ c ∈ ([] : Text), isBlank c = true := nofun
  have htrim := trim_between hnone hnone h
  rwa [List.nil_append, List.append_nil] at htrim

/-- A text without any blank. -/
theorem trimmed_of_free (h : ∀ c ∈ t, isBlank c = false) : Trimmed t :=
  ⟨fun c hc => h c (List.mem_of_mem_head? hc), fun c hc => h c (List.mem_of_mem_getLast? hc)⟩

/-! ## What is no blank -/

theorem isBlank_toLower (c : Char) : isBlank c.toLower = isBlank c := apply_toLower (by decide) c

theorem Trimmed.lower (h : Trimmed t) : Trimmed (lower t) where
  head := by
    intro c hc
    rw [Text.lower, List.head?_map] at hc
    obtain ⟨d, hd, rfl⟩ := Option.map_eq_some_iff.1 hc
    rw [isBlank_toLower]
    exact h.head d hd
  last := by
    intro c hc
    rw [Text.lower, List.getLast?_map] at hc
    obtain ⟨d, hd, rfl⟩ := Option.map_eq_some_iff.1 hc
    rw [isBlank_toLower]
    exact h.last d hd

/-- No blank is visible ASCII. -/
theorem isBlank_of_visible {c : Char} (hlow : 32 < c.toNat) (hhigh : c.toNat < 127) :
    isBlank c = false := by
  -- every range of blanks lies below, or above
  have hranges : ∀ r ∈ blankRanges, r.2 ≤ 32 ∨ 127 ≤ r.1 := by decide
  simp only [isBlank, Ranges.has, List.any_eq_false, decide_eq_true_eq]
  intro r hr
  have := hranges r hr
  omega

theorem isBlank_of_isDigit {c : Char} (h : Decimal.isDigit c = true) : isBlank c = false := by
  have hdigit : '0' ≤ c ∧ c ≤ '9' := by simpa [Decimal.isDigit] using h
  have hrange : 48 ≤ c.toNat ∧ c.toNat ≤ 57 := hdigit
  exact isBlank_of_visible (by omega) (by omega)

end Countersign.Text
