import Countersign.Text.Blank
/-! Cutting and joining undo each other: a list of pieces free of the separator can
be read back from the text that joins them. -/

namespace Countersign.Text

variable {p : Char → Bool} {t u v : Text}

/-- No character of the text satisfies `p`. -/
def FreeOf (p : Char → Bool) (t : Text) : Prop := ∀ c ∈ t, p c = false

instance : Decidable (FreeOf p t) :=
  decidable_of_iff (t.all (!p ·) = true) (by simp [FreeOf])

@[simp] theorem freeOf_nil : FreeOf p [] := fun _ hc => nomatch hc

@[simp] theorem freeOf_cons {c : Char} : FreeOf p (c :: t) ↔ p c = false ∧ FreeOf p t :=
  List.forall_mem_cons

@[simp] theorem freeOf_append : FreeOf p (u ++ v) ↔ FreeOf p u ∧ FreeOf p v :=
  List.forall_mem_append

theorem freeOf_beq {c : Char} : FreeOf (· == c) t ↔ c ∉ t := by
  simp only [FreeOf, beq_eq_false_iff_ne]
  exact ⟨fun h hc => h c hc rfl, fun h d hd e => h (e ▸ hd)⟩

theorem piecesBy_sep {c : Char} (hc : p c = true) (t : Text) :
    piecesBy p (c :: t) = [] :: piecesBy p t := by
  rw [piecesBy, if_pos hc]

theorem piecesBy_cons {c : Char} {q : Text} {qs : List Text} (hc : p c = false)
    (h : piecesBy p t = q :: qs) : piecesBy p (c :: t) = (c :: q) :: qs := by
  rw [piecesBy, h]
  simp [hc]

theorem piecesBy_of_free (hu : FreeOf p u) : piecesBy p u = [u] := by
  induction u with
  | nil => rfl
  | cons c u ih =>
    rw [freeOf_cons] at hu
    exact piecesBy_cons hu.1 (ih hu.2)

/-- No piece goes over a separator. -/
theorem piecesBy_append_sep {c : Char} (hc : p c = true) (u t : Text) :
    piecesBy p (u ++ c :: t) = piecesBy p u ++ piecesBy p t := by
  induction u with
  | nil => exact piecesBy_sep hc t
  | cons d u ih =>
    obtain ⟨q, qs, hq⟩ := List.exists_cons_of_ne_nil (piecesBy_ne_nil p u)
    cases hd : p d with
    | true => rw [List.cons_append, piecesBy_sep hd, ih, piecesBy_sep hd, List.cons_append]
    | false =>
      rw [hq, List.cons_append] at ih
      rw [List.cons_append, piecesBy_cons hd ih, piecesBy_cons hd hq, List.cons_append]

/-- Induction on the pieces of a text. -/
theorem pieces_induction {motive : Text → Prop} (last : ∀ q, FreeOf p q → motive q)
    (more : ∀ q c t, FreeOf p q → p c = true → motive t → motive (q ++ c :: t)) (t : Text) :
    motive t := by
  suffices h : ∀ u, FreeOf p u → motive (u ++ t) from h [] freeOf_nil
  induction t with
  | nil =>
    intro u hu
    simpa using last u hu
  | cons c t ih =>
    intro u hu
    cases hc : p c with
    | true => exact more u c t hu hc (ih [] freeOf_nil)
    | false => simpa using ih (u ++ [c]) (freeOf_append.2 ⟨hu, by simp [hc]⟩)

theorem freeOf_of_mem_piecesBy {q : Text} (h : q ∈ piecesBy p t) : FreeOf p q := by
  induction t using pieces_induction (p := p) with
  | last u hu =>
    rw [piecesBy_of_free hu, List.mem_singleton] at h
    exact h ▸ hu
  | more u c t hu hc ih =>
    rw [piecesBy_append_sep hc, piecesBy_of_free hu] at h
    rcases List.mem_cons.1 h with rfl | h
    · exact hu
    · exact ih h

/-- A stretch of a text from one separator, or the start, to the next, or the end. -/
def Between (sep : Char) (t q : Text) : Prop :=
  sep ∉ q ∧ ∃ before after, t = before ++ q ++ after ∧
    (before = [] ∨ ∃ b, before = b ++ [sep]) ∧ (after = [] ∨ ∃ a, after = sep :: a)

theorem mem_pieces_iff {sep : Char} {q : Text} : q ∈ pieces sep t ↔ Between sep t q := by
  constructor
  · intro h
    refine ⟨freeOf_beq.1 (freeOf_of_mem_piecesBy h), ?_⟩
    unfold pieces at h
    induction t using pieces_induction (p := (· == sep)) with
    | last u hu =>
      rw [piecesBy_of_free hu, List.mem_singleton] at h
      exact ⟨[], [], by simp [h], .inl rfl, .inl rfl⟩
    | more u c t hu hc ih =>
      rw [piecesBy_append_sep (p := (· == sep)) hc, piecesBy_of_free hu] at h
      obtain rfl : c = sep := by simpa using hc
      rcases List.mem_cons.1 h with rfl | h
      · exact ⟨[], c :: t, by simp, .inl rfl, .inr ⟨t, rfl⟩⟩
      · obtain ⟨before, after, rfl, hbefore, hafter⟩ := ih h
        refine ⟨u ++ c :: before, after, by simp, .inr ?_, hafter⟩
        rcases hbefore with rfl | ⟨b, rfl⟩
        · exact ⟨u, rfl⟩
        · exact ⟨u ++ c :: b, by simp⟩
  · rintro ⟨hq, before, after, rfl, hbefore, hafter⟩
    have hback : q ∈ pieces sep (q ++ after) := by
      rcases hafter with rfl | ⟨a, rfl⟩
      · rw [List.append_nil, pieces, piecesBy_of_free (freeOf_beq.2 hq)]
        exact List.mem_singleton_self q
      · rw [pieces, piecesBy_append_sep (by simp), piecesBy_of_free (freeOf_beq.2 hq)]
        exact List.mem_cons_self
    rcases hbefore with rfl | ⟨b, rfl⟩
    · simpa using hback
    · rw [List.append_assoc, List.append_assoc, List.singleton_append, pieces,
        piecesBy_append_sep (by simp)]
      exact List.mem_append_right _ hback

theorem mem_tokensBy {q : Text} (h : q ∈ tokensBy p t) : q ≠ [] ∧ FreeOf p q := by
  obtain ⟨hq, hne⟩ := List.mem_filter.1 h
  exact ⟨by simpa using hne, freeOf_of_mem_piecesBy hq⟩

theorem tokensBy_of_free (hu : FreeOf p u) (hne : u ≠ []) : tokensBy p u = [u] := by
  simp [tokensBy, piecesBy_of_free hu, hne]

theorem tokensBy_append_sep {c : Char} (hc : p c = true) (u t : Text) :
    tokensBy p (u ++ c :: t) = tokensBy p u ++ tokensBy p t := by
  rw [tokensBy, piecesBy_append_sep hc, List.filter_append, tokensBy, tokensBy]

theorem tokensBy_seps {w : Text} (hw : ∀ c ∈ w, p c = true) (t : Text) :
    tokensBy p (w ++ t) = tokensBy p t := by
  induction w with
  | nil => rfl
  | cons c w ih =>
    obtain ⟨hc, hw⟩ := List.forall_mem_cons.1 hw
    rw [List.cons_append, ← List.nil_append (c :: (w ++ t)), tokensBy_append_sep hc, ih hw]
    rfl

/-- How many separators stand between two texts does not matter, and at an end there may be
none. -/
theorem tokensBy_between {w : Text} (hw : ∀ c ∈ w, p c = true)
    (h : w ≠ [] ∨ u = [] ∨ t = []) :
    tokensBy p (u ++ w ++ t) = tokensBy p u ++ tokensBy p t := by
  cases w with
  | nil =>
    rcases h with h | rfl | rfl
    · exact absurd rfl h
    · rfl
    · rw [List.append_nil, List.append_nil]
      exact (List.append_nil _).symm
  | cons c w =>
    obtain ⟨hc, hw⟩ := List.forall_mem_cons.1 hw
    rw [List.append_assoc, List.cons_append, tokensBy_append_sep hc, tokensBy_seps hw]

theorem mem_of_mem_piecesBy {q : Text} {c : Char} (h : q ∈ piecesBy p t) (hc : c ∈ q) : c ∈ t := by
  induction t using pieces_induction (p := p) with
  | last u hu =>
    rw [piecesBy_of_free hu, List.mem_singleton] at h
    exact h ▸ hc
  | more u d t hu hd ih =>
    rw [piecesBy_append_sep hd, piecesBy_of_free hu] at h
    rcases List.mem_cons.1 h with rfl | h
    · exact List.mem_append_left _ hc
    · exact List.mem_append_right _ (List.mem_cons_of_mem _ (ih h))

theorem mem_of_mem_tokensBy {q : Text} {c : Char} (h : q ∈ tokensBy p t) (hc : c ∈ q) : c ∈ t :=
  mem_of_mem_piecesBy (List.mem_filter.1 h).1 hc

/-- Only separators are lost. -/
theorem exists_token_of_mem {c : Char} (hc : c ∈ t) (hp : p c = false) :
    ∃ q ∈ tokensBy p t, c ∈ q := by
  have htoken : ∀ u, FreeOf p u → c ∈ u → ∃ q ∈ tokensBy p u, c ∈ q := by
    intro u hu hcu
    rw [tokensBy, piecesBy_of_free hu, List.filter_cons_of_pos]
    · exact ⟨u, by simp, hcu⟩
    · simpa using List.ne_nil_of_mem hcu
  induction t using pieces_induction (p := p) with
  | last u hu => exact htoken u hu hc
  | more u d t hu hd ih =>
    rw [tokensBy_append_sep hd]
    rcases List.mem_append.1 hc with hc | hc
    · obtain ⟨q, hq, hcq⟩ := htoken u hu hc
      exact ⟨q, List.mem_append_left _ hq, hcq⟩
    · rcases List.mem_cons.1 hc with rfl | hc
      · rw [hd] at hp
        cases hp
      · obtain ⟨q, hq, hcq⟩ := ih hc
        exact ⟨q, List.mem_append_right _ hq, hcq⟩

theorem piecesBy_congr {q : Char → Bool} (h : ∀ c ∈ t, p c = q c) : piecesBy p t = piecesBy q t := by
  induction t with
  | nil => rfl
  | cons c t ih =>
    obtain ⟨hc, ht⟩ := List.forall_mem_cons.1 h
    rw [piecesBy, piecesBy, hc, ih ht]

theorem tokensBy_congr {q : Char → Bool} (h : ∀ c ∈ t, p c = q c) : tokensBy p t = tokensBy q t := by
  rw [tokensBy, piecesBy_congr h, tokensBy]

theorem mem_of_mem_trim {c : Char} (h : c ∈ trim t) : c ∈ t := by
  have hleft : ∀ u : Text, c ∈ trimLeft u → c ∈ u := fun u => (List.dropWhile_sublist isBlank).mem
  exact hleft t (List.mem_reverse.1 (hleft _ (List.mem_reverse.1 h)))

theorem join_cons (sep q : Text) {qs : List Text} (h : qs ≠ []) :
    join sep (q :: qs) = q ++ sep ++ join sep qs := by
  cases qs with
  | nil => exact absurd rfl h
  | cons r qs => rfl

theorem join_concat (sep q : Text) {qs : List Text} (h : qs ≠ []) :
    join sep (qs ++ [q]) = join sep qs ++ sep ++ q := by
  induction qs with
  | nil => exact absurd rfl h
  | cons r qs ih =>
    by_cases hqs : qs = []
    · subst hqs
      rfl
    · rw [List.cons_append, join_cons sep r (by simp), ih hqs, join_cons sep r hqs]
      simp

theorem mem_join {sep : Text} {qs : List Text} {c : Char} (h : c ∈ join sep qs) :
    c ∈ sep ∨ ∃ q ∈ qs, c ∈ q := by
  induction qs with
  | nil => exact nomatch h
  | cons q qs ih =>
    by_cases hqs : qs = []
    · subst hqs
      exact .inr ⟨q, by simp, h⟩
    · rw [join_cons sep q hqs, List.mem_append, List.mem_append] at h
      rcases h with (h | h) | h
      · exact .inr ⟨q, by simp, h⟩
      · exact .inl h
      · rcases ih h with h | ⟨r, hr, hc⟩
        · exact .inl h
        · exact .inr ⟨r, by simp [hr], hc⟩

theorem mem_join_of_mem {sep q : Text} {qs : List Text} {c : Char} (hq : q ∈ qs) (hc : c ∈ q) :
    c ∈ join sep qs := by
  induction qs with
  | nil => cases hq
  | cons r qs ih =>
    by_cases hqs : qs = []
    · subst hqs
      rwa [← List.mem_singleton.1 hq]
    · rw [join_cons sep r hqs]
      rcases List.mem_cons.1 hq with rfl | hq
      · exact List.mem_append_left _ (List.mem_append_left _ hc)
      · exact List.mem_append_right _ (ih hq)

theorem pieces_join {sep : Char} {qs : List Text} (hne : qs ≠ []) (h : ∀ q ∈ qs, sep ∉ q) :
    pieces sep (join [sep] qs) = qs := by
  induction qs with
  | nil => exact absurd rfl hne
  | cons q qs ih =>
    have hq : FreeOf (· == sep) q := freeOf_beq.2 (h q (by simp))
    by_cases hqs : qs = []
    · subst hqs
      exact piecesBy_of_free hq
    · rw [join_cons _ _ hqs, List.append_assoc, List.singleton_append, pieces,
        piecesBy_append_sep (by simp), piecesBy_of_free hq]
      exact congrArg (q :: ·) (ih hqs fun r hr => h r (by simp [hr]))

/-- Of pieces that are joined, the empty ones are no tokens. -/
theorem tokensBy_join_of_free {sep : Char} {qs : List Text} (h : ∀ q ∈ qs, sep ∉ q) :
    tokensBy (· == sep) (join [sep] qs) = qs.filter (!·.isEmpty) := by
  by_cases hqs : qs = []
  · subst hqs
    rfl
  · exact congrArg (List.filter _) (pieces_join hqs h)

/-- Tokens are pieces that are not empty; joined, they are read back. -/
theorem tokensBy_join {sep : Char} {qs : List Text} (h : ∀ q ∈ qs, q ≠ [] ∧ sep ∉ q) :
    tokensBy (· == sep) (join [sep] qs) = qs := by
  rw [tokensBy_join_of_free fun q hq => (h q hq).2, List.filter_eq_self]
  intro q hq
  simpa using (h q hq).1

/-- Pieces free of the separator are determined by the text that joins them. -/
theorem join_inj {sep : Char} {qs rs : List Text} (hqs : qs ≠ []) (hrs : rs ≠ [])
    (hq : ∀ q ∈ qs, sep ∉ q) (hr : ∀ r ∈ rs, sep ∉ r) (h : join [sep] qs = join [sep] rs) :
    qs = rs := by
  rw [← pieces_join hqs hq, h, pieces_join hrs hr]

theorem cut?_eq_some {sep : Char} {t u v : Text} :
    cut? sep t = some (u, v) ↔ t = u ++ sep :: v ∧ sep ∉ u := by
  induction t generalizing u with
  | nil => simp [cut?]
  | cons c t ih =>
    rw [cut?]
    by_cases hc : c = sep
    · subst hc
      rw [if_pos rfl]
      constructor
      · intro h
        obtain ⟨rfl, rfl⟩ : [] = u ∧ t = v := by simpa using h
        simp
      · rintro ⟨h, hu⟩
        cases u with
        | nil => simpa using h
        | cons d u => exact absurd (List.cons.inj h).1 fun e => hu (by simp [e])
    · rw [if_neg hc]
      cases u with
      | nil =>
        refine iff_of_false (by simp) ?_
        intro h
        exact hc (List.cons.inj h.1).1
      | cons d u =>
        constructor
        · intro h
          obtain ⟨⟨x, y⟩, hcut, hxy⟩ := Option.map_eq_some_iff.1 h
          obtain ⟨⟨rfl, rfl⟩, rfl⟩ : (c = d ∧ x = u) ∧ y = v := by simpa using hxy
          obtain ⟨rfl, hx⟩ := ih.1 hcut
          exact ⟨rfl, by simp [hx, Ne.symm hc]⟩
        · rintro ⟨h, hu⟩
          obtain ⟨rfl, hrest⟩ := List.cons.inj h
          rw [ih.2 ⟨hrest, fun hm => hu (by simp [hm])⟩]
          rfl

theorem cut?_eq_none {sep : Char} : cut? sep t = none ↔ sep ∉ t := by
  constructor
  · intro h hmem
    obtain ⟨u, v, rfl, hu⟩ := List.eq_append_cons_of_mem hmem
    rw [cut?_eq_some.2 ⟨rfl, hu⟩] at h
    cases h
  · intro h
    refine Option.eq_none_iff_forall_ne_some.2 fun ⟨u, v⟩ hcut => h ?_
    rw [(cut?_eq_some.1 hcut).1]
    simp

theorem cutLast?_eq_none {sep : Char} : cutLast? sep t = none ↔ sep ∉ t := by
  induction t with
  | nil => simp [cutLast?]
  | cons c t ih =>
    unfold cutLast?
    cases h : cutLast? sep t with
    | some p =>
      have hmem : sep ∈ t := by
        rw [h] at ih
        exact Classical.not_not.1 fun hfree => nomatch ih.2 hfree
      simp [hmem]
    | none =>
      have hfree := ih.1 h
      by_cases hc : c = sep
      · simp [hc]
      · simp [hc, hfree, Ne.symm hc]

theorem cutLast?_append {sep : Char} (hv : sep ∉ v) (u : Text) :
    cutLast? sep (u ++ sep :: v) = some (u, v) := by
  induction u with
  | nil => simp [cutLast?, cutLast?_eq_none.2 hv]
  | cons c u ih => rw [List.cons_append, cutLast?, ih]

theorem cutLast?_eq_some {sep : Char} :
    cutLast? sep t = some (u, v) ↔ t = u ++ sep :: v ∧ sep ∉ v := by
  refine ⟨fun h => ?_, fun ⟨ht, hv⟩ => ht ▸ cutLast?_append hv u⟩
  induction t generalizing u with
  | nil => cases h
  | cons c t ih =>
    unfold cutLast? at h
    split at h
    · next hlast =>
      obtain ⟨rfl, rfl⟩ := Prod.mk.inj (Option.some.inj h)
      obtain ⟨rfl, hv⟩ := ih hlast
      exact ⟨rfl, hv⟩
    · next hnone =>
      split at h
      · next hc =>
        obtain ⟨rfl, rfl⟩ := Prod.mk.inj (Option.some.inj h)
        exact ⟨by rw [hc, List.nil_append], cutLast?_eq_none.1 hnone⟩
      · cases h

/-- A start without separators ends before the first separator. -/
theorem append_eq_append_sep {c : Char} {x y : Text} (hu : FreeOf p u) (hc : p c = true)
    (h : u ++ x = v ++ c :: y) : ∃ w, v = u ++ w ∧ x = w ++ c :: y := by
  rcases List.append_eq_append_iff.1 h with ⟨w, hv, hx⟩ | ⟨w, hu', hy⟩
  · exact ⟨w, hv, hx⟩
  · cases w with
    | nil => exact ⟨[], by simp [hu'], by simp_all⟩
    | cons d w =>
      obtain ⟨rfl, -⟩ := List.cons.inj hy
      rw [hu', freeOf_append, freeOf_cons] at hu
      rw [hu.2.1] at hc
      exact nomatch hc

/-- Two cuts at the first separator are the same cut. -/
theorem append_sep_inj {sep : Char} {u' v' : Text} (hu : sep ∉ u) (hu' : sep ∉ u') :
    u ++ sep :: v = u' ++ sep :: v' ↔ u = u' ∧ v = v' := by
  refine ⟨fun h => ?_, fun ⟨hu, hv⟩ => by rw [hu, hv]⟩
  induction u generalizing u' with
  | nil =>
    cases u' with
    | nil => exact ⟨rfl, (List.cons.inj h).2⟩
    | cons c u' => exact absurd (List.cons.inj h).1 fun e => hu' (by simp [e])
  | cons c u ih =>
    cases u' with
    | nil => exact absurd (List.cons.inj h).1 fun e => hu (by simp [e])
    | cons d u' =>
      obtain ⟨rfl, hrest⟩ := List.cons.inj h
      rw [List.mem_cons, not_or] at hu hu'
      obtain ⟨rfl, rfl⟩ := ih hu.2 hu'.2 hrest
      exact ⟨rfl, rfl⟩

/-- Two cuts at the last separator are the same cut. -/
theorem sep_append_inj {sep : Char} {u' v' : Text} (hv : sep ∉ v) (hv' : sep ∉ v') :
    u ++ sep :: v = u' ++ sep :: v' ↔ u = u' ∧ v = v' := by
  rw [← List.reverse_inj]
  simp only [List.reverse_append, List.reverse_cons, List.append_assoc, List.singleton_append]
  rw [append_sep_inj (by simpa using hv) (by simpa using hv'), List.reverse_inj, List.reverse_inj,
    and_comm]

end Countersign.Text
