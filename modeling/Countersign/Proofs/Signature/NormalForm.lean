import Mathlib.Logic.Relation
import Countersign.Proofs.Signature.Resource
/-! Canonical paths and queries are normal forms. They hold nothing but unreserved
characters, escapes and the separators that are kept; to take the form of a form changes
nothing; and whatever the client may choose, the order of items, empty items, an absent
value or how a byte is written, leaves no trace. -/

namespace Countersign.Signature.Canonical

open Relation (EqvGen)
open Text (join pieces tokensBy)
open Text.Percent (encode respell spelled)

/-! ## The alphabet -/

/-- The characters that need no escape. -/
def unreserved : Text := "ABCDEFGHIJKLMNOPQRSTUVWXYZabcdefghijklmnopqrstuvwxyz0123456789-._~"

def capitalDigits : Text := "0123456789ABCDEF"

/-- Characters that are kept, unreserved ones, and escapes in capital digits of bytes that
need one. -/
inductive Spelt (kept : Text) : Text → Prop
  | nil : Spelt kept []
  | kept {c : Char} {t : Text} (hc : c ∈ kept) (ht : Spelt kept t) : Spelt kept (c :: t)
  | unreserved {c : Char} {t : Text} (hc : c ∈ unreserved) (ht : Spelt kept t) :
      Spelt kept (c :: t)
  | escape {h l : Nat} {d e : Char} {t : Text} (hd : capitalDigits[h]? = some d)
      (he : capitalDigits[l]? = some e) (hbyte : Char.ofNat (h * 16 + l) ∉ unreserved)
      (ht : Spelt kept t) : Spelt kept ('%' :: d :: e :: t)

variable {kept s t : Text}

theorem Spelt.append (hs : Spelt kept s) (ht : Spelt kept t) : Spelt kept (s ++ t) := by
  induction hs with
  | nil => exact ht
  | kept hc _ ih => exact .kept hc ih
  | unreserved hc _ ih => exact .unreserved hc ih
  | escape hd he hbyte _ ih => exact .escape hd he hbyte ih

theorem Spelt.join {sep : Text} {qs : List Text} (hsep : ∀ c ∈ sep, c ∈ kept)
    (h : ∀ q ∈ qs, Spelt kept q) : Spelt kept (join sep qs) := by
  have hsep' : Spelt kept sep := by
    induction sep with
    | nil => exact .nil
    | cons c sep ih => exact .kept (hsep c (by simp)) (ih fun d hd => hsep d (by simp [hd]))
  induction qs with
  | nil => exact .nil
  | cons q qs ih =>
    obtain ⟨hq, hqs⟩ := List.forall_mem_cons.1 h
    by_cases hne : qs = []
    · subst hne
      exact hq
    · rw [Text.join_cons sep q hne]
      exact (hq.append hsep').append (ih hqs)

theorem spelt_encodeByte (kept : Text) (b : UInt8) : Spelt kept (Text.Percent.encodeByte b) := by
  have hself : ∀ b, Text.Percent.isUnreserved b = decide (Char.ofNat b.toNat ∈ unreserved) :=
    Text.of_every_byte (by decide +kernel)
  have hdigit : ∀ n < 16, capitalDigits[n]? = some (Text.Hex.digitUpper n) := by decide
  have hb := b.toNat_lt
  unfold Text.Percent.encodeByte
  split
  · next h => exact .unreserved (by simpa [hself] using h) .nil
  · next h =>
    refine .escape (hdigit (b.toNat / 16) (by omega)) (hdigit (b.toNat % 16) (by omega)) ?_ .nil
    rw [Nat.div_add_mod']
    simpa [hself] using h

theorem spelt_encode (kept : Text) (bs : Bytes) : Spelt kept (encode bs) := by
  induction bs with
  | nil => exact .nil
  | cons b bs ih =>
    rw [encode, List.flatMap_cons]
    exact (spelt_encodeByte kept b).append ih

/-! ## Paths -/

theorem spelled_respell (t : Text) : spelled (respell t) = spelled t :=
  (Text.Percent.spelled_encode _).trans (Text.Utf8.decodeLossy_encode _)

/-- Every segment keeps its place. -/
theorem pieces_uri {path : Text} (h : path ≠ []) :
    pieces '/' (uri path) = (pieces '/' path).map respell := by
  rw [uri, if_neg h]
  refine Text.pieces_join (fun hnil => Text.piecesBy_ne_nil _ path (List.map_eq_nil_iff.1 hnil)) ?_
  intro q hq
  obtain ⟨s, -, rfl⟩ := List.mem_map.1 hq
  exact slash_not_mem_encode _

theorem segmentTexts_uri {path : Text} (h : path ≠ []) :
    segmentTexts (uri path) = segmentTexts path := by
  rw [segmentTexts, pieces_uri h, List.map_map, segmentTexts]
  exact List.map_congr_left fun s _ => spelled_respell s

theorem uri_ne_nil (path : Text) : uri path ≠ [] := by
  by_cases h : path = []
  · subst h
    decide
  · -- The form of no text is empty, so a single empty segment comes from an empty path.
    intro hnil
    have htexts := segmentTexts_uri h
    rw [hnil] at htexts
    obtain ⟨s, hs, hspelled⟩ := List.map_eq_singleton_iff.1 htexts.symm
    rw [Text.Percent.spelled_eq_nil.1 hspelled] at hs
    exact h ((Text.join_pieces '/' path).symm.trans (congrArg (join "/") hs))

theorem uri_uri (path : Text) : uri (uri path) = uri path := by
  by_cases h : path = []
  · subst h
    rfl
  · exact (uri_eq_iff h (uri_ne_nil path)).2 (segmentTexts_uri h)

theorem spelt_uri (path : Text) : Spelt "/" (uri path) := by
  unfold uri
  split
  · exact .kept (by decide) .nil
  · refine Spelt.join (fun c hc => hc) fun q hq => ?_
    obtain ⟨s, -, rfl⟩ := List.mem_map.1 hq
    exact spelt_encode _ _

/-! ## Queries -/

/-- The spelled items of a query, in the order of its form. -/
def formItems (q : Text) : List Item :=
  ((queryItems q).map (Prod.map respell respell)).mergeSort pairLe

theorem query_eq_formItems (q : Text) : query q = written (formItems q) := rfl

theorem queryItems_form (q : Text) : queryItems (query q) = formItems q := by
  rw [queryItems_query, itemTexts, List.map_map]
  rfl

theorem query_query (q : Text) : query (query q) = query q := by
  rw [query_eq_iff, itemTexts, queryItems_form, itemTexts]
  refine ((List.mergeSort_perm _ _).map _).trans ?_
  rw [List.map_map]
  refine .of_eq (List.map_congr_left fun i _ => ?_)
  exact Prod.ext (spelled_respell i.1) (spelled_respell i.2)

theorem spelt_query (q : Text) : Spelt "&=" (query q) := by
  rw [query_eq_formItems]
  refine Spelt.join (fun c hc => List.mem_singleton.1 hc ▸ .head _) fun item hitem => ?_
  obtain ⟨i, hi, rfl⟩ := List.mem_map.1 hitem
  obtain ⟨j, -, rfl⟩ := List.mem_map.1 (List.mem_mergeSort.1 hi)
  exact (spelt_encode _ _).append (.kept (.tail _ (.head _)) (spelt_encode _ _))

/-- The order of texts by their code points. -/
def Before (s t : Text) : Prop := List.Lex (fun a b : Char => a.toNat < b.toNat) s t

theorem le_iff {s t : Text} : Text.le s t = true ↔ Before s t ∨ s = t := by
  unfold Before
  induction s generalizing t with
  | nil => cases t <;> simp [Text.le]
  | cons a s ih =>
    cases t with
    | nil => simp [Text.le]
    | cons b t =>
      rw [List.cons_lex_cons_iff, List.cons.injEq]
      by_cases h : a = b
      · subst h
        simp [Text.le_cons_self, ih]
      · have hlt : a < b ↔ a.toNat < b.toNat := Iff.rfl
        simp [Text.le_cons_ne h, h, hlt]

theorem not_before_self (s : Text) : ¬ Before s s := by
  unfold Before
  induction s with
  | nil => nofun
  | cons a s ih => simp [List.cons_lex_cons_iff, ih]

/-- Pairs stand by name, and under one name by value. -/
theorem pairLe_iff {i j : Item} : pairLe i j = true ↔
    Before i.1 j.1 ∨ i.1 = j.1 ∧ (Before i.2 j.2 ∨ i.2 = j.2) := by
  obtain ⟨n, v⟩ := i
  obtain ⟨m, w⟩ := j
  by_cases h : n = m
  · subst h
    rw [pairLe_self_name, le_iff]
    simp [not_before_self]
  · rw [pairLe_of_ne h, le_iff]
    simp [h]

theorem sorted_formItems (q : Text) : (formItems q).Pairwise fun i j =>
    Before i.1 j.1 ∨ i.1 = j.1 ∧ (Before i.2 j.2 ∨ i.2 = j.2) :=
  (@List.pairwise_mergeSort _ pairLe (fun _ _ _ => pairLe_trans) pairLe_total _).imp pairLe_iff.1

theorem spelt_formItems {q : Text} {i : Item} (hi : i ∈ formItems q) :
    Spelt [] i.1 ∧ Spelt [] i.2 := by
  obtain ⟨j, -, rfl⟩ := List.mem_map.1 (List.mem_mergeSort.1 hi)
  exact ⟨spelt_encode _ _, spelt_encode _ _⟩

theorem perm_formItems (q : Text) : (formItems q).Perm
    (((pieces '&' q).filter (· ≠ [])).map fun item => Prod.map respell respell (queryItem item)) := by
  have htokens : tokensBy (· == '&') q = (pieces '&' q).filter (· ≠ []) :=
    List.filter_congr fun item _ => by cases item <;> rfl
  rw [← htokens]
  refine (List.mergeSort_perm _ _).trans ?_
  rw [queryItems, List.map_map]
  exact .refl _

/-! ## What leaves no trace -/

/-- Another way to write the items of a query. -/
inductive Reitemed : Text → Text → Prop
  /-- In another order. -/
  | permuted (items : List Text) {items' : List Text} (hitems : ∀ i ∈ items, '&' ∉ i)
      (hperm : items.Perm items') : Reitemed (join "&" items) (join "&" items')
  /-- With one more empty item. -/
  | empty (before after : List Text) (hitems : ∀ i ∈ before ++ after, '&' ∉ i) :
      Reitemed (join "&" (before ++ after)) (join "&" (before ++ [] :: after))
  /-- With an empty value where there was none. -/
  | valueless (name : Text) (before after : List Text)
      (hitems : ∀ i ∈ before ++ name :: after, '&' ∉ i) (hname : name ≠ [] ∧ '=' ∉ name) :
      Reitemed (join "&" (before ++ name :: after)) (join "&" (before ++ (name ++ ['=']) :: after))

theorem queryItems_join {items : List Text} (h : ∀ i ∈ items, '&' ∉ i) :
    queryItems (join "&" items) = (items.filter (!·.isEmpty)).map queryItem :=
  congrArg (List.map queryItem) (Text.tokensBy_join_of_free h)

theorem Reitemed.queryItems_perm {q q' : Text} (h : Reitemed q q') :
    (queryItems q).Perm (queryItems q') := by
  cases h with
  | permuted _ hitems hperm =>
    rw [queryItems_join hitems, queryItems_join fun i hi => hitems i (hperm.mem_iff.2 hi)]
    exact (hperm.filter _).map _
  | empty before after hitems =>
    have hitems' : ∀ i ∈ before ++ [] :: after, '&' ∉ i := by
      rw [List.forall_mem_append, List.forall_mem_cons]
      rw [List.forall_mem_append] at hitems
      exact ⟨hitems.1, List.not_mem_nil, hitems.2⟩
    rw [queryItems_join hitems, queryItems_join hitems', List.filter_append, List.filter_append]
    exact .refl _
  | @valueless name before after hitems hname =>
    have hitems' : ∀ i ∈ before ++ (name ++ ['=']) :: after, '&' ∉ i :=
      forall_mem_exchange hitems (by simpa using hitems name (by simp))
    have hitem : queryItem (name ++ ['=']) = queryItem name := by
      rw [queryItem_of_parts hname.2 [], queryItem, Text.cut?_eq_none.2 hname.2, Option.getD_none]
    have hne : name.isEmpty = false := by simpa using hname.1
    rw [queryItems_join hitems, queryItems_join hitems']
    simp [hne, hitem]

theorem queryItems_perm_of_reitemed {q q' : Text} (h : EqvGen Reitemed q q') :
    (queryItems q).Perm (queryItems q') := by
  induction h with
  | rel q q' h => exact h.queryItems_perm
  | refl q => exact .refl _
  | symm q q' _ ih => exact ih.symm
  | trans p q r _ _ ih ih' => exact ih.trans ih'

/-! ## Normal forms -/

/-- What holds of the form of a path. -/
structure PathForm (path : Text) : Prop where
  stable : uri (uri path) = uri path
  alphabet : Spelt "/" (uri path)
  /-- Of each segment only the bytes count that it stands for. -/
  bytes : ∀ other, segmentBytes other = segmentBytes path → uri other = uri path

/-- What holds of the form of a query. -/
structure QueryForm (q : Text) : Prop where
  stable : query (query q) = query q
  alphabet : Spelt "&=" (query q)
  /-- One pair for each item that is not empty, by name and then by value. -/
  pairs : ∃ pairs : List Item, query q = join "&" (pairs.map fun i => i.1 ++ "=" ++ i.2) ∧
    pairs.Perm (((pieces '&' q).filter (· ≠ [])).map fun item =>
      Prod.map respell respell (queryItem item)) ∧
    pairs.Pairwise (fun i j =>
      Before i.1 j.1 ∨ i.1 = j.1 ∧ (Before i.2 j.2 ∨ i.2 = j.2)) ∧
    ∀ i ∈ pairs, Spelt [] i.1 ∧ Spelt [] i.2
  rearranged : ∀ other, EqvGen Reitemed other q → query other = query q
  /-- Of each name and value only the bytes count that it stands for. -/
  bytes : ∀ other, (itemBytes other).Perm (itemBytes q) → query other = query q

/-- The forms of a path and of a query are normal. -/
theorem forms_are_normal (path q : Text) : PathForm path ∧ QueryForm q := by
  refine ⟨?_, ?_⟩
  · exact {
      stable := uri_uri path
      alphabet := spelt_uri path
      bytes := fun _ => uri_of_segmentBytes }
  · exact {
      stable := query_query q
      alphabet := spelt_query q
      pairs := by
        refine ⟨formItems q, ?_, perm_formItems q, sorted_formItems q, fun i => spelt_formItems⟩
        rw [query_eq_formItems, written]
        simp
      rearranged := fun _ h => query_of_itemBytes ((queryItems_perm_of_reitemed h).map _)
      bytes := fun _ => query_of_itemBytes }

/-- An empty item, a name without a value and another order; and a small hex digit. -/
theorem forms_are_normal_of_untidy :
    EqvGen Reitemed "&b=1=2&a" "a=&b=1=2" ∧ query "&b=1=2&a" = query "a=&b=1=2" ∧
      segmentBytes "/%7e" = segmentBytes "/~" ∧ uri "/%7e" = uri "/~" := by
  have hempty : Reitemed "b=1=2&a" "&b=1=2&a" :=
    .empty [] ["b=1=2".toList, "a".toList] (by decide)
  have hvalue : Reitemed "b=1=2&a" "b=1=2&a=" :=
    .valueless "a" ["b=1=2".toList] [] (by decide) (by decide)
  have horder : Reitemed "b=1=2&a=" "a=&b=1=2" :=
    .permuted ["b=1=2".toList, "a=".toList] (by decide) (.swap ..)
  have hquery : EqvGen Reitemed "&b=1=2&a" "a=&b=1=2" :=
    .trans _ _ _ (.symm _ _ (.rel _ _ hempty)) <|
      .trans _ _ _ (.rel _ _ hvalue) (.rel _ _ horder)
  have hpath : segmentBytes "/%7e" = segmentBytes "/~" := by decide +kernel
  obtain ⟨hforms, hqueries⟩ := forms_are_normal "/~" "a=&b=1=2"
  exact ⟨hquery, hqueries.rearranged _ hquery, hpath, hforms.bytes _ hpath⟩

end Countersign.Signature.Canonical
