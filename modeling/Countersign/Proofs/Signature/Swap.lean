import Countersign.Proofs.Signature.Reading
import Countersign.Signature.Resigning
/-! Two readers of one `Authorization` value. The swap takes the first place that
declares a signature, wherever it stands in a token; the reader takes the last token
whose name is the field's. What is read after a swap is what was swapped in exactly
when both mean the same token. -/

namespace Countersign.Signature

open Authorization (Gives field? isSeparator ofText under)
open Text (FreeOf tokensBy)

variable {s t u : Text} {a : Authorization}

abbrev label : Text := "Signature="

/-- A text that is one token of an `Authorization` value. -/
def IsToken (s : Text) : Prop := s ≠ [] ∧ FreeOf isSeparator s

instance (s : Text) : Decidable (IsToken s) := inferInstanceAs (Decidable (_ ∧ _))

/-- The label stands somewhere in the token, and something follows it. -/
def Declares (k : Text) : Prop := ∃ x y, y ≠ [] ∧ k = x ++ label ++ y

/-- The first token that declares a signature is the field of that name, and no later
token is. -/
def FirstIsRead (t : Text) : Prop :=
  ∃ before x after, tokensBy isSeparator t = before ++ (label ++ x) :: after ∧ x ≠ [] ∧
    (∀ k ∈ before, ¬ Declares k) ∧ ∀ k ∈ after, ¬ label <+: k

theorem freeOf_label : FreeOf isSeparator label := by decide

theorem after?_eq_some {start rest : Text} :
    Text.after? start t = some rest ↔ t = start ++ rest := by
  unfold Text.after?
  constructor
  · intro h
    split at h
    · next hp =>
      obtain ⟨x, rfl⟩ := List.isPrefixOf_iff_prefix.1 hp
      simpa using h
    · cases h
  · rintro rfl
    simp

/-! ## The swap -/

theorem swap_here {x : Text} (hx : x.takeWhile (!isSeparator ·) ≠ []) :
    swapSignature? s (label ++ x) = some (label ++ s ++ x.dropWhile (!isSeparator ·)) := by
  have h : Text.after? label (label ++ x) = some x := after?_eq_some.2 rfl
  rw [show label ++ x = 'S' :: ("ignature=".toList ++ x) from rfl] at h ⊢
  simp only [swapSignature?, h]
  rw [if_neg (by simpa using hx)]

theorem swap_later {c : Char}
    (h : ∀ x, c :: t = label ++ x → x.takeWhile (!isSeparator ·) = []) :
    swapSignature? s (c :: t) = (swapSignature? s t).map (c :: ·) := by
  rw [swapSignature?]
  split
  · rfl
  · next x hx => simp [h x (after?_eq_some.1 hx)]

theorem takeWhile_of_free {x : Text} (hx : FreeOf isSeparator x) :
    x.takeWhile (!isSeparator ·) = x ∧ x.dropWhile (!isSeparator ·) = [] := by
  have h : ∀ c ∈ x, (!isSeparator c) = true := fun c hc => by simp [hx c hc]
  rw [← List.append_nil x, List.takeWhile_append_of_pos h, List.dropWhile_append_of_pos h]
  exact ⟨rfl, rfl⟩

theorem takeWhile_append_sep {x : Text} {c : Char} (hx : FreeOf isSeparator x)
    (hc : isSeparator c = true) (t : Text) :
    (x ++ c :: t).takeWhile (!isSeparator ·) = x ∧
      (x ++ c :: t).dropWhile (!isSeparator ·) = c :: t := by
  have h : ∀ c ∈ x, (!isSeparator c) = true := fun c hc => by simp [hx c hc]
  rw [List.takeWhile_append_of_pos h, List.dropWhile_append_of_pos h]
  simp [hc]

/-- A token ends where the next separator stands. -/
theorem takeWhile_append_dropWhile (hs : FreeOf isSeparator s) (x : Text) :
    (s ++ x.dropWhile (!isSeparator ·)).takeWhile (!isSeparator ·) = s ∧
      (s ++ x.dropWhile (!isSeparator ·)).dropWhile (!isSeparator ·) =
        x.dropWhile (!isSeparator ·) := by
  cases h : x.dropWhile (!isSeparator ·) with
  | nil =>
    rw [List.append_nil]
    exact takeWhile_of_free hs
  | cons c t =>
    have hc : isSeparator c = true := by
      have hne : x.dropWhile (!isSeparator ·) ≠ [] := h ▸ List.cons_ne_nil c t
      have hhead := List.head_dropWhile_not (!isSeparator ·) hne
      simpa [h] using hhead
    exact takeWhile_append_sep hs hc t

/-- The swap happens here, or it is left to what follows. -/
theorem swap_cons (s : Text) (c : Char) (t : Text) :
    (∃ x, c :: t = label ++ x ∧ x.takeWhile (!isSeparator ·) ≠ [] ∧
      swapSignature? s (c :: t) = some (label ++ s ++ x.dropWhile (!isSeparator ·))) ∨
    (∀ x, c :: t = label ++ x → x.takeWhile (!isSeparator ·) = []) ∧
      swapSignature? s (c :: t) = (swapSignature? s t).map (c :: ·) := by
  by_cases h : ∃ x, c :: t = label ++ x ∧ x.takeWhile (!isSeparator ·) ≠ []
  · obtain ⟨x, hx, hne⟩ := h
    exact .inl ⟨x, hx, hne, hx ▸ swap_here hne⟩
  · have hnone : ∀ x, c :: t = label ++ x → x.takeWhile (!isSeparator ·) = [] := by
      intro x hx
      exact Decidable.byContradiction fun hne => h ⟨x, hx, hne⟩
    exact .inr ⟨hnone, swap_later hnone⟩

/-- The swap looks at what stands before a separator, and then at what follows. -/
theorem swap_append_sep {c : Char} (hu : FreeOf isSeparator u) (hc : isSeparator c = true) :
    swapSignature? s (u ++ c :: t) =
      ((swapSignature? s u).map (· ++ c :: t)).or
        ((swapSignature? s t).map fun t' => u ++ c :: t') := by
  induction u with
  | nil =>
    refine (swap_later fun x hx => ?_).trans rfl
    have hS : c = 'S' := (List.cons.inj hx).1
    subst hS
    exact absurd hc (by decide)
  | cons d u ih =>
    rcases swap_cons s d u with ⟨x, hx, hne, hswap⟩ | ⟨hnone, hswap⟩
    · have hfree : FreeOf isSeparator x := (Text.freeOf_append.1 (hx ▸ hu)).2
      obtain ⟨hall, hend⟩ := takeWhile_of_free hfree
      obtain ⟨hstop, hrest⟩ := takeWhile_append_sep hfree hc t
      rw [hall] at hne
      rw [hswap, hend, hx, List.append_assoc, swap_here (hstop.symm ▸ hne), hrest]
      simp
    · have hlater : ∀ y, d :: (u ++ c :: t) = label ++ y → y.takeWhile (!isSeparator ·) = [] := by
        intro y hy
        obtain ⟨w, hw, rfl⟩ := Text.append_eq_append_sep (v := d :: u) freeOf_label hc hy.symm
        have hfree : FreeOf isSeparator w := (Text.freeOf_append.1 (hw ▸ hu)).2
        rw [(takeWhile_append_sep hfree hc t).1, ← (takeWhile_of_free hfree).1, hnone w hw]
      rw [List.cons_append, swap_later hlater, hswap, ih (Text.freeOf_cons.1 hu).2]
      cases swapSignature? s u <;> simp [Function.comp_def]

/-- What a swap leaves: the text before the label and after the token stays. -/
theorem swap_eq_some (h : swapSignature? s t = some u) :
    ∃ w x, t = w ++ label ++ x ∧ u = w ++ label ++ (s ++ x.dropWhile (!isSeparator ·)) := by
  induction t generalizing u with
  | nil => cases h
  | cons c t ih =>
    rcases swap_cons s c t with ⟨x, hx, -, hswap⟩ | ⟨-, hswap⟩
    · refine ⟨[], x, hx, ?_⟩
      rw [← List.append_assoc]
      exact Option.some.inj (h.symm.trans hswap)
    · obtain ⟨u, hu, rfl⟩ := Option.map_eq_some_iff.1 (hswap.symm.trans h)
      obtain ⟨w, x, rfl, rfl⟩ := ih hu
      exact ⟨c :: w, x, rfl, rfl⟩

/-- Whether a signature is declared at some place does not depend on what follows a label
further on. -/
theorem undeclared_before {c : Char} {w x : Text}
    (h : ∀ y, c :: (w ++ label ++ x) = label ++ y → y.takeWhile (!isSeparator ·) = []) (x' : Text) :
    ∀ y, c :: (w ++ label ++ x') = label ++ y → y.takeWhile (!isSeparator ·) = [] := by
  intro y hy
  have hlength : label.length < (c :: w ++ label).length := by
    rw [List.cons_append, List.length_cons, List.length_append]
    omega
  have hprefix : label <+: c :: w ++ label :=
    List.prefix_of_prefix_length_le ⟨y, hy.symm⟩ (List.prefix_append _ x')
      (Nat.le_of_lt hlength)
  obtain ⟨m, hm⟩ := hprefix
  obtain ⟨d, m, rfl⟩ : ∃ d m', m = d :: m' := by
    refine List.exists_cons_of_ne_nil ?_
    rintro rfl
    rw [← hm, List.append_nil] at hlength
    exact Nat.lt_irrefl _ hlength
  have hsame (z : Text) : c :: (w ++ label ++ z) = label ++ (d :: m ++ z) := by
    rw [← List.append_assoc, hm]
    rfl
  have hsep := h _ (hsame x)
  obtain rfl : d :: m ++ x' = y := List.append_cancel_left ((hsame x').symm.trans hy)
  simpa [List.takeWhile_cons] using hsep

/-- A second swap undoes the first: it finds the same place, and takes all that the first put
there. -/
theorem swap_swap {s' : Text} (hs : IsToken s) (h : swapSignature? s t = some u) :
    swapSignature? s' u = swapSignature? s' t := by
  induction t generalizing u with
  | nil => cases h
  | cons c t ih =>
    rcases swap_cons s c t with ⟨x, hx, hne, hswap⟩ | ⟨hnone, hswap⟩
    · obtain rfl := Option.some.inj (h.symm.trans hswap)
      obtain ⟨htake, hdrop⟩ := takeWhile_append_dropWhile hs.2 x
      rw [hx, List.append_assoc, swap_here (htake.symm ▸ hs.1), hdrop, swap_here hne]
    · obtain ⟨u, hu, rfl⟩ := Option.map_eq_some_iff.1 (hswap.symm.trans h)
      obtain ⟨w, x, rfl, rfl⟩ := swap_eq_some hu
      rw [swap_later (undeclared_before hnone _), swap_later hnone, ih hu]

/-- In one token: either nothing is declared, or what follows the first label goes. -/
theorem swap_token {k : Text} (hk : FreeOf isSeparator k) :
    swapSignature? s k = none ∧ ¬ Declares k ∨
      ∃ x y, y ≠ [] ∧ k = x ++ label ++ y ∧ swapSignature? s k = some (x ++ label ++ s) ∧
        (x ≠ [] → ¬ label <+: k) := by
  induction k with
  | nil => exact .inl ⟨rfl, fun ⟨x, y, _, h⟩ => by simp at h⟩
  | cons c k ih =>
    have hafter : ∀ y, c :: k = label ++ y → FreeOf isSeparator y := fun y hy =>
      (Text.freeOf_append.1 (hy ▸ hk)).2
    rcases swap_cons s c k with ⟨y, hy, hne, hswap⟩ | ⟨hnone, hswap⟩
    · obtain ⟨hall, hend⟩ := takeWhile_of_free (hafter y hy)
      rw [hall] at hne
      rw [hend, List.append_nil] at hswap
      exact .inr ⟨[], y, hne, hy, hswap, fun h => absurd rfl h⟩
    · have hshort : ∀ y, c :: k = label ++ y → y = [] := by
        intro y hy
        rw [← (takeWhile_of_free (hafter y hy)).1, hnone y hy]
      rw [hswap]
      rcases ih (Text.freeOf_cons.1 hk).2 with ⟨hno, hdeclares⟩ | ⟨x, y, hne, hky, hsome, -⟩
      · refine .inl ⟨by simp [hno], ?_⟩
        rintro ⟨x, y, hne, hx⟩
        cases x with
        | nil => exact hne (hshort y hx)
        | cons d x => exact hdeclares ⟨x, y, hne, (List.cons.inj hx).2⟩
      · refine .inr ⟨c :: x, y, hne, by simp [hky], by simp [hsome], ?_⟩
        -- A bare label is too short to hold another one.
        rintro - ⟨z, hz⟩
        obtain rfl : z = [] := hshort z hz.symm
        have hlen := congrArg List.length hz
        simp [hky] at hlen
        omega

/-- Nothing is declared and nothing swapped, or the first token that declares a
signature is swapped and every other token stays. -/
def SwapsFirst (s t : Text) : Prop :=
  (swapSignature? s t = none ∧ ∀ k ∈ tokensBy isSeparator t, ¬ Declares k) ∨
    ∃ before x y after t', tokensBy isSeparator t = before ++ (x ++ label ++ y) :: after ∧
      y ≠ [] ∧ (∀ k ∈ before, ¬ Declares k) ∧ (x ≠ [] → ¬ label <+: x ++ label ++ y) ∧
      swapSignature? s t = some t' ∧
      tokensBy isSeparator t' = before ++ (x ++ label ++ s) :: after

theorem swapsFirst_of_free (hs : FreeOf isSeparator s) (hu : FreeOf isSeparator u) :
    SwapsFirst s u := by
  rcases swap_token (s := s) hu with ⟨hnone, hno⟩ | ⟨x, y, hne, rfl, hsome, hx⟩
  · refine .inl ⟨hnone, ?_⟩
    intro k hk
    have hmem := (List.mem_filter.1 hk).1
    rw [Text.piecesBy_of_free hu, List.mem_singleton] at hmem
    exact hmem ▸ hno
  · have hnew : FreeOf isSeparator (x ++ label ++ s) := by
      rw [Text.freeOf_append] at hu ⊢
      exact ⟨hu.1, hs⟩
    exact .inr ⟨[], x, y, [], _, Text.tokensBy_of_free hu (by simp), hne, by simp, hx, hsome,
      Text.tokensBy_of_free hnew (by simp)⟩

theorem SwapsFirst.append_sep {c : Char} (hu : FreeOf isSeparator u) (hc : isSeparator c = true)
    (hfirst : SwapsFirst s u) (hrest : SwapsFirst s t) : SwapsFirst s (u ++ c :: t) := by
  unfold SwapsFirst
  rw [Text.tokensBy_append_sep hc, swap_append_sep hu hc]
  rcases hfirst with ⟨hnone, hno⟩ | ⟨before, x, y, after, u', htok, hne, hb, hx, hsome, htok'⟩
  · rw [hnone]
    rcases hrest with ⟨hnone', hno'⟩ | ⟨before, x, y, after, t', htok, hne, hb, hx, hsome, htok'⟩
    · refine .inl ⟨by simp [hnone'], ?_⟩
      exact List.forall_mem_append.2 ⟨hno, hno'⟩
    · refine .inr ⟨tokensBy isSeparator u ++ before, x, y, after, u ++ c :: t', ?_, hne,
        List.forall_mem_append.2 ⟨hno, hb⟩, hx, by simp [hsome], ?_⟩
      · rw [htok]
        exact (List.append_assoc ..).symm
      · rw [Text.tokensBy_append_sep hc, htok']
        exact (List.append_assoc ..).symm
  · refine .inr ⟨before, x, y, after ++ tokensBy isSeparator t, u' ++ c :: t, ?_, hne, hb, hx,
      by simp [hsome], ?_⟩
    · rw [htok, List.append_assoc, List.cons_append]
    · rw [Text.tokensBy_append_sep hc, htok', List.append_assoc, List.cons_append]

theorem swapsFirst (hs : FreeOf isSeparator s) (t : Text) : SwapsFirst s t := by
  induction t using Text.pieces_induction (p := isSeparator) with
  | last u hu => exact swapsFirst_of_free hs hu
  | more u c t hu hc ih => exact (swapsFirst_of_free hs hu).append_sep hu hc ih

/-! ## What is read after it -/

theorem under_signature {k v : Text} : under "Signature" k = some v ↔ k = label ++ v :=
  Authorization.under_eq_some (by decide)

theorem under_signature_eq_none {k : Text} : under "Signature" k = none ↔ ¬ label <+: k := by
  rw [Option.eq_none_iff_forall_ne_some]
  exact ⟨fun h ⟨v, hv⟩ => h v (under_signature.2 hv.symm),
    fun h v hv => h ⟨v, (under_signature.1 hv).symm⟩⟩

/-- The text in front of a label holds a label in front whatever follows. -/
theorem label_stays {x y : Text} (h : label <+: x ++ label ++ y) (z : Text) :
    label <+: x ++ label ++ z := by
  have hx : label <+: x ++ label :=
    List.prefix_of_prefix_length_le h (List.prefix_append ..) (by simp)
  exact hx.trans (List.prefix_append ..)

/-- Two splits at the first element that satisfies `P` are the same split. -/
theorem split_unique {α : Type} {P : α → Prop} {xs ys xs' ys' : List α} {a a' : α}
    (h : xs ++ a :: ys = xs' ++ a' :: ys') (ha : P a) (ha' : P a') (hx : ∀ x ∈ xs, ¬ P x)
    (hx' : ∀ x ∈ xs', ¬ P x) : xs = xs' ∧ a = a' ∧ ys = ys' := by
  induction xs generalizing xs' with
  | nil =>
    cases xs' with
    | nil => exact ⟨rfl, List.cons.inj h⟩
    | cons b xs' =>
      obtain ⟨rfl, -⟩ := List.cons.inj h
      exact absurd ha (hx' a (by simp))
  | cons b xs ih =>
    cases xs' with
    | nil =>
      obtain ⟨rfl, -⟩ := List.cons.inj h
      exact absurd ha' (hx b (by simp))
    | cons c xs' =>
      obtain ⟨rfl, hrest⟩ := List.cons.inj h
      obtain ⟨rfl, hsame⟩ := ih hrest (fun x hm => hx x (by simp [hm]))
        fun x hm => hx' x (by simp [hm])
      exact ⟨rfl, hsame⟩

/-- How a readable value and its swapped form read, token by token. -/
structure Swapped (s t t' : Text) (a : Authorization) (before : List Text) (x y : Text)
    (after : List Text) : Prop where
  old : tokensBy isSeparator t = algorithm :: (before ++ (x ++ label ++ y) :: after)
  new : tokensBy isSeparator t' = algorithm :: (before ++ (x ++ label ++ s) :: after)
  value : y ≠ []
  first : ∀ k ∈ before, ¬ Declares k
  leftmost : x ≠ [] → ¬ label <+: x ++ label ++ y
  gives : Gives (before ++ (x ++ label ++ y) :: after) a

theorem not_declares_algorithm : ¬ Declares algorithm := by
  rintro ⟨x, y, -, h⟩
  have heq : '=' ∈ label := by decide
  have : '=' ∈ algorithm := h ▸ by simp only [List.mem_append, heq, true_or, or_true]
  exact absurd this (by decide)

/-- A value that can be read declares a signature, so the swap succeeds. -/
theorem exists_swapped (hs : FreeOf isSeparator s) (ha : ofText t = .ok a) :
    ∃ t' before x y after, swapSignature? s t = some t' ∧ Swapped s t t' a before x y after := by
  obtain ⟨tokens, htok, hg⟩ := Authorization.ofText_eq_ok.1 ha
  rcases swapsFirst hs t with ⟨-, hno⟩ | ⟨before, x, y, after, t', hold, hy, hb, hx, hsome, hnew⟩
  · obtain ⟨k, hk, hu⟩ := Authorization.field?_eq_some hg.signature
    exact absurd ⟨[], _, hg.nonempty, under_signature.1 hu⟩ (hno k (by simp [htok, hk]))
  · cases before with
    | nil =>
      obtain ⟨halg, -⟩ := List.cons.inj (htok.symm.trans hold)
      exact absurd ⟨x, y, hy, halg⟩ not_declares_algorithm
    | cons k before =>
      obtain ⟨rfl, rfl⟩ := List.cons.inj (htok.symm.trans hold)
      exact ⟨t', before, x, y, after, hsome, hold, hnew, hy, fun k hk => hb k (by simp [hk]), hx, hg⟩

namespace Swapped

variable {t' : Text} {before after : List Text} {x y : Text}

theorem firstIsRead_iff (h : Swapped s t t' a before x y after) :
    FirstIsRead t ↔ x = [] ∧ ∀ k ∈ after, ¬ label <+: k := by
  have hfirst : ∀ k ∈ algorithm :: before, ¬ Declares k :=
    List.forall_mem_cons.2 ⟨not_declares_algorithm, h.first⟩
  constructor
  · rintro ⟨before', z, after', htok, hz, hb, ha⟩
    obtain ⟨-, hk, rfl⟩ := split_unique ((h.old.symm.trans htok : algorithm :: before ++ _ = _))
      ⟨x, y, h.value, rfl⟩ ⟨[], z, hz, rfl⟩ hfirst hb
    refine ⟨Decidable.byContradiction fun hx => h.leftmost hx ?_, ha⟩
    exact hk ▸ List.prefix_append ..
  · rintro ⟨rfl, ha⟩
    exact ⟨algorithm :: before, y, after, h.old, h.value, hfirst, ha⟩

/-- Under another name than the swapped token's, the same is read. -/
theorem field?_same (name k k' : Text) (h : under name k = under name k')
    (before after : List Text) :
    field? name (before ++ k :: after) = field? name (before ++ k' :: after) := by
  simp only [Authorization.field?_append, Authorization.field?_cons, h]

theorem reads_new (h : Swapped s t t' a before [] y after) (hs : s ≠ [])
    (ha : ∀ k ∈ after, ¬ label <+: k) : ofText t' = .ok { a with signature := s } := by
  have hnone : field? "Signature" after = none :=
    Authorization.field?_eq_none.2 fun k hk => under_signature_eq_none.2 (ha k hk)
  have hcred := field?_same "Credential" (label ++ s) (label ++ y) rfl before after
  have hnames := field?_same "SignedHeaders" (label ++ s) (label ++ y) rfl before after
  obtain ⟨c, hc, hc'⟩ := h.gives.credential
  obtain ⟨n, hn, hn'⟩ := h.gives.names
  refine Authorization.ofText_eq_ok.2 ⟨_, h.new,
    ⟨c, hcred.trans hc, hc'⟩, ⟨n, hnames.trans hn, hn'⟩, h.gives.signed, ?_, hs⟩
  rw [Authorization.field?_append, Authorization.field?_cons, hnone,
    show under "Signature" ([] ++ label ++ s) = some s from under_signature.2 rfl]
  rfl

/-- Unless the swapped token is the one that is read, the old signature is read. -/
theorem reads_old (h : Swapped s t t' a before x y after)
    (hread : ¬ (x = [] ∧ ∀ k ∈ after, ¬ label <+: k)) {a' : Authorization}
    (ha' : ofText t' = .ok a') : a'.signature = a.signature := by
  obtain ⟨tokens, htok, hg⟩ := Authorization.ofText_eq_ok.1 ha'
  obtain rfl := (List.cons.inj (h.new.symm.trans htok)).2
  have hsame : field? "Signature" (before ++ (x ++ label ++ s) :: after) =
      field? "Signature" (before ++ (x ++ label ++ y) :: after) := by
    by_cases hx : x = []
    · have hlater : field? "Signature" after ≠ none := fun hnone =>
        hread ⟨hx, fun k hk =>
          under_signature_eq_none.1 (Authorization.field?_eq_none.1 hnone k hk)⟩
      obtain ⟨v, hv⟩ := Option.ne_none_iff_exists'.1 hlater
      simp only [Authorization.field?_append, Authorization.field?_cons, hv, Option.some_or]
    · refine field?_same _ _ _ ?_ before after
      rw [under_signature_eq_none.2 (h.leftmost hx),
        under_signature_eq_none.2 fun hp => h.leftmost hx (label_stays hp y)]
  exact Option.some.inj (hg.signature.symm.trans (hsame.trans h.gives.signature))

end Swapped

/-- The value that stands for `t` after the swap reads as `a` with that signature. -/
def Resigns (t : Text) (a : Authorization) (s : Text) : Prop :=
  ∃ t', swapSignature? s t = some t' ∧ ofText t' = .ok { a with signature := s }

/-- Who reads `t` finds the signature `s`. -/
def Reads (t s : Text) : Prop := ∃ a, ofText t = .ok a ∧ a.signature = s

variable {t' : Text}

theorem ofText_swapped (ha : ofText t = .ok a) (hs : IsToken s)
    (hswap : swapSignature? s t = some t') (hfirst : FirstIsRead t) :
    ofText t' = .ok { a with signature := s } := by
  obtain ⟨u, before, x, y, after, hu, h⟩ := exists_swapped hs.2 ha
  obtain rfl : t' = u := Option.some.inj (hswap.symm.trans hu)
  obtain ⟨rfl, hafter⟩ := h.firstIsRead_iff.1 hfirst
  exact h.reads_new hs.1 hafter

/-- A new signature is read exactly when the token that is swapped is the one read. -/
theorem reads_swapped_iff (ha : ofText t = .ok a) (hs : IsToken s) (hne : s ≠ a.signature)
    (hswap : swapSignature? s t = some t') : Reads t' s ↔ FirstIsRead t := by
  constructor
  · rintro ⟨b, hb, hbs⟩
    obtain ⟨u, before, x, y, after, hu, h⟩ := exists_swapped hs.2 ha
    obtain rfl : t' = u := Option.some.inj (hswap.symm.trans hu)
    rw [h.firstIsRead_iff]
    refine Decidable.byContradiction fun hread => hne ?_
    rw [← hbs, h.reads_old hread hb]
  · intro hfirst
    exact ⟨_, ofText_swapped ha hs hswap hfirst, rfl⟩

theorem resigns_of_firstIsRead (ha : ofText t = .ok a) (hs : IsToken s) (hfirst : FirstIsRead t) :
    Resigns t a s := by
  obtain ⟨t', _, _, _, _, hswap, -⟩ := exists_swapped hs.2 ha
  exact ⟨t', hswap, ofText_swapped ha hs hswap hfirst⟩

theorem resigns_iff (ha : ofText t = .ok a) (hs : IsToken s) (hne : s ≠ a.signature) :
    Resigns t a s ↔ FirstIsRead t := by
  constructor
  · rintro ⟨t', hswap, ht'⟩
    exact (reads_swapped_iff ha hs hne hswap).1 ⟨_, ht', rfl⟩
  · exact resigns_of_firstIsRead ha hs

/-- There is always a token that is not yet the signature. -/
theorem exists_isToken_ne (s : Text) : ∃ u, IsToken u ∧ u ≠ s := by
  by_cases h : ("0" : Text) = s
  · exact ⟨"1", by decide, h ▸ by decide⟩
  · exact ⟨"0", by decide, h⟩

end Countersign.Signature
