import Countersign.Http.Uri
import Countersign.Proofs.Fallible
import Countersign.Proofs.Http.HeaderText
/-! Paths, queries and authorities in the texts that they are written in: what can be read, and
what is read of what was written. -/

namespace Countersign.Http

namespace PathQuery

variable {t p : Text} {q : Option Text} {pq : PathQuery}

/-- A path that begins with its slash, and a query, of characters that stand as they are. -/
structure Whole (pq : PathQuery) : Prop where
  rooted : ∃ r, pq.path = '/' :: r
  path : ∀ c ∈ pq.path, isPathChar c = true
  query : ∀ q, pq.query = some q → ∀ c ∈ q, isQueryChar c = true

theorem whole_root : root.Whole := by
  refine ⟨⟨[], rfl⟩, ?_, nofun⟩
  change ∀ c ∈ ['/'], isPathChar c = true
  exact List.forall_mem_singleton.2 rfl

/-- The path of the asterisk form. -/
def star : PathQuery := ⟨"*", none⟩

theorem mem_readQuery {r : Text} (h : readQuery t = some r) : ∀ c ∈ r, isQueryChar c = true := by
  induction t generalizing r with
  | nil =>
    obtain rfl := Option.some.inj h
    nofun
  | cons c t ih =>
    unfold readQuery at h
    split at h
    · obtain rfl := Option.some.inj h
      nofun
    · split at h
      · next hc =>
        obtain ⟨s, hs, rfl⟩ := Option.map_eq_some_iff.1 h
        exact List.forall_mem_cons.2 ⟨hc, ih hs⟩
      · cases h

theorem readQuery_self (h : ∀ c ∈ t, isQueryChar c = true) : readQuery t = some t := by
  induction t with
  | nil => rfl
  | cons c t ih =>
    obtain ⟨hc, ht⟩ := List.forall_mem_cons.1 h
    have hne : c ≠ '#' := by
      rintro rfl
      exact absurd hc (by decide)
    rw [readQuery, if_neg hne, if_pos hc, ih ht]
    rfl

theorem mem_readPath (h : readPath t = some (p, q)) :
    (∀ c ∈ p, isPathChar c = true) ∧ ∀ r, q = some r → ∀ c ∈ r, isQueryChar c = true := by
  induction t generalizing p with
  | nil =>
    obtain ⟨rfl, rfl⟩ := Prod.mk.inj (Option.some.inj h)
    exact ⟨nofun, nofun⟩
  | cons c t ih =>
    unfold readPath at h
    split at h
    · obtain ⟨rfl, rfl⟩ := Prod.mk.inj (Option.some.inj h)
      exact ⟨nofun, nofun⟩
    · split at h
      · obtain ⟨s, hs, h⟩ := Option.map_eq_some_iff.1 h
        obtain ⟨rfl, rfl⟩ := Prod.mk.inj h
        refine ⟨nofun, ?_⟩
        rintro r hr
        obtain rfl := Option.some.inj hr
        exact mem_readQuery hs
      · split at h
        · next hc =>
          obtain ⟨⟨p', q'⟩, hread, h⟩ := Option.map_eq_some_iff.1 h
          obtain ⟨rfl, rfl⟩ := Prod.mk.inj h
          obtain ⟨hp, hq⟩ := ih hread
          exact ⟨List.forall_mem_cons.2 ⟨hc, hp⟩, hq⟩
        · cases h

/-- A path is read up to its query, and the query to its end. -/
theorem readPath_render (hp : ∀ c ∈ p, isPathChar c = true)
    (hq : ∀ r, q = some r → ∀ c ∈ r, isQueryChar c = true) :
    readPath (render ⟨p, q⟩) = some (p, q) := by
  induction p with
  | nil =>
    cases q with
    | none => rfl
    | some r =>
      have hread : readQuery r = some r := readQuery_self (hq r rfl)
      change readPath ('?' :: r) = some ([], some r)
      rw [readPath, if_neg (by decide), if_pos rfl, hread]
      rfl
  | cons c p ih =>
    obtain ⟨hc, hp⟩ := List.forall_mem_cons.1 hp
    have hfragment : c ≠ '#' := by
      rintro rfl
      exact absurd hc (by decide)
    have hquery : c ≠ '?' := by
      rintro rfl
      exact absurd hc (by decide)
    change readPath (c :: render ⟨p, q⟩) = some (c :: p, q)
    rw [readPath, if_neg hfragment, if_neg hquery, if_pos hc, ih hp]
    rfl

theorem Whole.ofTail?_render (h : pq.Whole) : ofTail? pq.render = some pq := by
  obtain ⟨r, hr⟩ := h.rooted
  have hparts : ofParts pq.path pq.query = pq := by
    have hne : pq.path ≠ [] := by
      rw [hr]
      nofun
    unfold ofParts
    rw [if_neg hne]
  rw [ofTail?, readPath_render h.path h.query]
  exact congrArg some hparts

/-- What is read where an authority ends. -/
theorem whole_of_ofTail? (h : ofTail? t = some pq)
    (ht : t = [] ∨ ∃ c r, t = c :: r ∧ Authority.isEnd c = true) : pq.Whole := by
  obtain ⟨⟨p, q⟩, hread, rfl⟩ := Option.map_eq_some_iff.1 h
  obtain ⟨hp, hq⟩ := mem_readPath hread
  have hrooted : p = [] ∨ ∃ r, p = '/' :: r := by
    obtain rfl | ⟨c, r, rfl, hc⟩ := ht
    · obtain ⟨rfl, -⟩ := Prod.mk.inj (Option.some.inj hread)
      exact .inl rfl
    · simp only [Authority.isEnd, Bool.or_eq_true, beq_iff_eq] at hc
      unfold readPath at hread
      obtain (rfl | rfl) | rfl := hc
      · obtain ⟨⟨p', q'⟩, -, hsame⟩ := Option.map_eq_some_iff.1 hread
        obtain ⟨rfl, -⟩ := Prod.mk.inj hsame
        exact .inr ⟨p', rfl⟩
      · obtain ⟨r', -, hsame⟩ := Option.map_eq_some_iff.1 hread
        exact .inl (Prod.mk.inj hsame).1.symm
      · exact .inl (Prod.mk.inj (Option.some.inj hread)).1.symm
  obtain rfl | ⟨r, rfl⟩ := hrooted
  · exact ⟨⟨[], rfl⟩, whole_root.path, hq⟩
  · exact ⟨⟨r, rfl⟩, hp, hq⟩

/-- On their own they are whole too, but for the asterisk form. -/
theorem whole_of_ofText? (h : ofText? t = some pq) : pq.Whole ∨ pq = star := by
  unfold ofText? at h
  split at h
  · cases h
  · split at h
    · next c r hc =>
      have hends (hc : Authority.isEnd c = true) : pq.Whole ∨ pq = star :=
        .inl (whole_of_ofTail? h (.inr ⟨c, r, rfl, hc⟩))
      obtain rfl | rfl | rfl | ⟨rfl, rfl⟩ := hc
      · exact hends rfl
      · exact hends rfl
      · exact hends rfl
      · exact .inr (Option.some.inj h).symm
    · cases h

end PathQuery

namespace Authority

variable {c : Char} {s s' : Scan} {t a rest : Text}

theorem isTextChar_of_isAuthorityChar (h : isAuthorityChar c = true) :
    Header.isTextChar c = true := by
  have hmarks : "!$&'()*+,-.;=_~".toList.all Header.isTextChar = true := by decide
  rcases (Bool.or_eq_true _ _).mp h with h | h
  · have hrange : ' '.toNat ≤ c.toNat ∧ c.toNat ≤ '~'.toNat := by
      have hends : ' '.toNat = 32 ∧ '~'.toNat = 126 := by decide
      have := Text.toNat_of_isAlphanum h
      omega
    rw [Header.isTextChar, Bool.or_eq_true, Bool.and_eq_true, decide_eq_true_eq, decide_eq_true_eq]
    exact .inr hrange
  · exact List.all_eq_true.1 hmarks c (List.contains_iff_mem.1 h)

theorem isTextChar_of_step (h : s.step c = .ok s') : Header.isTextChar c = true := by
  unfold Scan.step at h
  dsimp only at h
  split at h
  · next hc => exact hc ▸ by decide
  split at h
  · next hc => exact hc ▸ by decide
  split at h
  · next hc => exact hc ▸ by decide
  split at h
  · next hc => exact hc ▸ by decide
  split at h
  · next hc => exact hc ▸ by decide
  split at h
  · next hc => exact isTextChar_of_isAuthorityChar hc
  · cases h

/-- An authority is text, and it ends where the whole does, or at one of three characters. -/
theorem parts_of_split (h : split s t = .ok (a, rest)) :
    t = a ++ rest ∧ Header.IsText a ∧ (rest = [] ∨ ∃ c r, rest = c :: r ∧ isEnd c = true) := by
  induction t generalizing s a with
  | nil =>
    obtain ⟨-, -, h⟩ := bind_eq_ok.1 h
    obtain ⟨rfl, rfl⟩ := Prod.mk.inj (Except.ok.inj h)
    exact ⟨rfl, nofun, .inl rfl⟩
  | cons c t ih =>
    unfold split at h
    split at h
    · next hc =>
      obtain ⟨-, -, h⟩ := bind_eq_ok.1 h
      obtain ⟨rfl, rfl⟩ := Prod.mk.inj (Except.ok.inj h)
      exact ⟨rfl, nofun, .inr ⟨c, t, rfl, hc⟩⟩
    · obtain ⟨s', hs', h⟩ := bind_eq_ok.1 h
      obtain ⟨⟨b, rest'⟩, hb, h⟩ := bind_eq_ok.1 h
      obtain ⟨rfl, rfl⟩ := Prod.mk.inj (Except.ok.inj h)
      obtain ⟨rfl, htext, hend⟩ := ih hb
      exact ⟨rfl, List.forall_mem_cons.2 ⟨isTextChar_of_step hs', htext⟩, hend⟩

theorem split_of_check (h : check t = .ok ()) : t ≠ [] ∧ split {} t = .ok (t, []) := by
  unfold check at h
  split at h
  · cases h
  next hne =>
  obtain ⟨⟨a, rest⟩, hsplit, hend⟩ := bind_eq_ok.1 h
  have hrest : rest = [] := by
    dsimp only at hend
    split at hend
    · next h => exact h
    · cases hend
  obtain rfl : t = a := by
    rw [(parts_of_split hsplit).1, hrest, List.append_nil]
  exact ⟨hne, hrest ▸ hsplit⟩

/-- An authority may always stand as a header's value. -/
theorem value?_of_check (h : check t = .ok ()) : Header.value? t = some (Text.Utf8.encode t) := by
  obtain ⟨-, htext, -⟩ := parts_of_split (split_of_check h).2
  obtain ⟨v, hv, -⟩ := Header.value?_of_isText htext
  rw [hv, Header.eq_encode_of_value? hv]

/-- Every character of an authority takes the scan further. -/
theorem split_cons_whole : split s (c :: t) = .ok (c :: t, []) ↔
    isEnd c = false ∧ ∃ s', s.step c = .ok s' ∧ split s' t = .ok (t, []) := by
  cases hc : isEnd c with
  | true =>
    refine iff_of_false (fun h => ?_) (fun h => nomatch h.1)
    rw [split, if_pos hc] at h
    obtain ⟨-, -, h⟩ := bind_eq_ok.1 h
    exact nomatch (Prod.mk.inj (Except.ok.inj h)).1
  | false =>
    rw [split, if_neg (by rw [hc]; nofun), bind_eq_ok]
    refine Iff.trans ?_ (and_iff_right rfl).symm
    refine exists_congr fun s' => and_congr_right fun _ => ?_
    rw [bind_eq_ok]
    constructor
    · rintro ⟨⟨b, rest⟩, hb, h⟩
      obtain ⟨hsame, rfl⟩ := Prod.mk.inj (Except.ok.inj h)
      rw [hb, (List.cons.inj hsame).2]
    · exact fun h => ⟨_, h, rfl⟩

/-- A text that is an authority is cut off where another one ends. -/
theorem split_append_end (h : split s t = .ok (t, [])) (hc : isEnd c = true) (r : Text) :
    split s (t ++ c :: r) = .ok (t, c :: r) := by
  induction t generalizing s with
  | nil =>
    obtain ⟨_, hfinish, -⟩ := bind_eq_ok.1 h
    rw [List.nil_append, split, if_pos hc, hfinish]
    rfl
  | cons d t ih =>
    obtain ⟨hd, s', hstep, h⟩ := split_cons_whole.1 h
    rw [List.cons_append, split, if_neg (by rw [hd]; nofun)]
    exact bind_eq_ok.2 ⟨s', hstep, bind_eq_ok.2 ⟨_, ih h, rfl⟩⟩

/-- An asterisk may stand in an authority, so it does not end one. -/
theorem split_append_star (h : split s t = .ok (t, [])) :
    split s (t ++ ['*']) = .ok (t ++ ['*'], []) := by
  induction t generalizing s with
  | nil =>
    obtain ⟨_, hfinish, -⟩ := bind_eq_ok.1 h
    refine split_cons_whole.2 ⟨rfl, { s with atEnd := false }, rfl, ?_⟩
    refine bind_eq_ok.2 ⟨(), ?_, rfl⟩
    unfold Scan.finish at hfinish ⊢
    cases s
    simp_all
  | cons d t ih =>
    obtain ⟨hd, s', hstep, h⟩ := split_cons_whole.1 h
    exact split_cons_whole.2 ⟨hd, s', hstep, ih h⟩

end Authority

namespace Uri

variable {t : Text} {v : Uri} {pq : PathQuery}

theorem length_of_ofText (h : ofText t = .ok v) : (Text.Utf8.encode t).length ≤ maxBytes := by
  unfold ofText at h
  split at h
  · cases h
  next hlength => exact Nat.le_of_not_lt hlength

theorem ofText_of_oversized (h : maxBytes < (Text.Utf8.encode t).length) :
    ofText t = .error .tooLong := by
  unfold ofText
  exact if_pos h

/-- What a request target has of path and query is whole, but for the asterisk form. -/
theorem whole_of_ofText (h : ofText t = .ok v) (hv : v.pathQuery? = some pq) :
    pq.Whole ∨ pq = .star := by
  unfold ofText at h
  split at h
  · cases h
  split at h
  · cases h
  · obtain rfl := Except.ok.inj h
    exact .inr (Option.some.inj hv).symm
  · split at h
    · next hread =>
      obtain rfl := Except.ok.inj h
      obtain rfl := Option.some.inj hv
      exact .inl (PathQuery.whole_of_ofTail? hread (.inr ⟨'/', _, rfl, rfl⟩))
    · cases h
  · split at h
    · obtain ⟨⟨a, rest⟩, -, h⟩ := bind_eq_ok.1 h
      dsimp only at h
      split at h
      · obtain rfl := Except.ok.inj h
        cases hv
      · cases h
    · dsimp only at h
      split at h
      · cases h
      obtain ⟨⟨a, rest⟩, hsplit, h⟩ := bind_eq_ok.1 h
      dsimp only at h
      split at h
      · cases h
      split at h
      · next hread =>
        obtain rfl := Except.ok.inj h
        obtain rfl := Option.some.inj hv
        exact .inl (PathQuery.whole_of_ofTail? hread (Authority.parts_of_split hsplit).2.2)
      · cases h

end Uri

end Countersign.Http
