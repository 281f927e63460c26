import Mathlib.Data.List.Perm.Basic
import Mathlib.Data.Prod.Basic
import Countersign.Proofs.Text.Cutting
import Countersign.Proofs.Text.Ordering
import Countersign.Proofs.Text.Percent
import Countersign.Signature.Canonical
/-! Which paths and which queries share a canonical form: those whose segments, or whose
items in some order, spell the same texts. The bytes of a resource can be told from its
form exactly when none of its components spells the replacement character. -/

namespace Countersign.Signature.Canonical

open Text (join pieces tokensBy)
open Text.Percent (decode encode respell spelled)

/-- The one spelling of a text. -/
def spelling (t : Text) : Text := encode (Text.Utf8.encode t)

theorem spelling_injective : Function.Injective spelling := fun _ _ h =>
  Text.Utf8.encode_inj.1 (Text.Percent.encode_inj.1 h)

/-- The members of a list of which one was exchanged. -/
theorem forall_mem_exchange {α : Type} {P : α → Prop} {before after : List α} {a b : α}
    (h : ∀ x ∈ before ++ a :: after, P x) (hb : P b) : ∀ x ∈ before ++ b :: after, P x := by
  rw [List.forall_mem_append, List.forall_mem_cons] at h ⊢
  exact ⟨h.1, hb, h.2.2⟩

/-! ## Paths -/

def segmentTexts (path : Text) : List Text := (pieces '/' path).map spelled

def segmentBytes (path : Text) : List Bytes := (pieces '/' path).map decode

theorem slash_not_mem_encode (bs : Bytes) : '/' ∉ encode bs :=
  Text.Percent.not_mem_encode (Text.of_every_byte (by decide +kernel)) bs

theorem slash_not_mem_segment {path s : Text} (h : s ∈ pieces '/' path) : '/' ∉ s :=
  Text.freeOf_beq.1 (Text.freeOf_of_mem_piecesBy h)

theorem uri_eq_iff {p q : Text} (hp : p ≠ []) (hq : q ≠ []) :
    uri q = uri p ↔ segmentTexts q = segmentTexts p := by
  have hne : ∀ t : Text, (pieces '/' t).map respell ≠ [] := fun t h =>
    Text.piecesBy_ne_nil _ t (List.map_eq_nil_iff.1 h)
  have hfree : ∀ t : Text, ∀ s ∈ (pieces '/' t).map respell, '/' ∉ s := by
    intro t s hs
    obtain ⟨u, -, rfl⟩ := List.mem_map.1 hs
    exact slash_not_mem_encode _
  have hform : uri q = uri p ↔ (pieces '/' q).map respell = (pieces '/' p).map respell := by
    rw [uri, uri, if_neg hq, if_neg hp]
    exact ⟨Text.join_inj (hne q) (hne p) (hfree q) (hfree p), congrArg (join "/")⟩
  have hspell : ∀ t : Text, (pieces '/' t).map respell = (segmentTexts t).map spelling := by
    intro t
    rw [segmentTexts, List.map_map]
    rfl
  rw [hform, hspell, hspell, List.map_inj_right]
  exact fun _ _ h => spelling_injective h

theorem segmentBytes_eq_nil {p : Text} : segmentBytes p = [[]] ↔ p = [] := by
  refine ⟨fun h => ?_, fun h => h ▸ rfl⟩
  obtain ⟨s, hpieces, hs⟩ := List.map_eq_singleton_iff.1 h
  rw [Text.Percent.decode_eq_nil.1 hs] at hpieces
  rw [← Text.join_pieces '/' p, hpieces]
  rfl

/-- The same bytes have one form. -/
theorem uri_of_segmentBytes {p q : Text} (h : segmentBytes p = segmentBytes q) :
    uri p = uri q := by
  have htexts : ∀ t, segmentTexts t = (segmentBytes t).map Text.Utf8.decodeLossy := fun t =>
    (List.map_map ..).symm
  by_cases hp : p = []
  · subst hp
    rw [segmentBytes_eq_nil.1 h.symm]
  · have hq : q ≠ [] := fun hq => hp (segmentBytes_eq_nil.1 (h.trans (segmentBytes_eq_nil.2 hq)))
    rw [uri_eq_iff hq hp, htexts, htexts, h]

/-- No other path of the same form stands for other bytes. -/
def TellsSegments (path : Text) : Prop :=
  ∀ other, other ≠ [] → uri other = uri path → segmentBytes other = segmentBytes path

theorem segmentBytes_of_legible {p : Text} (h : ∀ t ∈ segmentTexts p, '\uFFFD' ∉ t) :
    segmentBytes p = (segmentTexts p).map Text.Utf8.encode := by
  rw [segmentBytes, segmentTexts, List.map_map]
  refine List.map_congr_left fun s hs => ?_
  exact Text.Percent.decode_eq_of_spelled (h _ (List.mem_map_of_mem hs))

theorem tellsSegments_iff {p : Text} (hp : p ≠ []) :
    TellsSegments p ↔ ∀ t ∈ segmentTexts p, '\uFFFD' ∉ t := by
  constructor
  · intro h t ht hill
    obtain ⟨s, hs, rfl⟩ := List.mem_map.1 ht
    obtain ⟨bs, htext, hbytes⟩ := Text.Percent.exists_companion hill
    obtain ⟨before, after, hsplit⟩ := List.append_of_mem hs
    -- The same path with that segment written as its companion.
    generalize hother : join "/" (before ++ encode bs :: after) = other
    have hpieces : pieces '/' other = before ++ encode bs :: after := by
      rw [← hother]
      refine Text.pieces_join (by simp) ?_
      refine forall_mem_exchange (a := s) ?_ (slash_not_mem_encode bs)
      rw [← hsplit]
      exact fun _ => slash_not_mem_segment
    have hne : other ≠ [] := by
      rintro rfl
      have hnil : encode bs ∈ pieces '/' [] := by simp [hpieces]
      rw [List.mem_singleton.1 hnil] at htext
      rw [← htext] at hill
      cases hill
    have hform : segmentTexts other = segmentTexts p := by
      rw [segmentTexts, segmentTexts, hpieces, hsplit, List.map_append, List.map_append,
        List.map_cons, List.map_cons, htext]
    have hsame := h other hne ((uri_eq_iff hp hne).2 hform)
    rw [segmentBytes, segmentBytes, hpieces, hsplit, List.map_append, List.map_append,
      List.map_cons, List.map_cons, Text.Percent.decode_encode] at hsame
    exact hbytes (List.cons.inj (List.append_cancel_left hsame)).1
  · intro h q hq hform
    rw [uri_eq_iff hp hq] at hform
    rw [segmentBytes_of_legible h, segmentBytes_of_legible (hform ▸ h), hform]

/-! ## Queries -/

abbrev Item := Text × Text

def itemTexts (query : Text) : List Item := (queryItems query).map (Prod.map spelled spelled)

def itemBytes (query : Text) : List (Bytes × Bytes) :=
  (queryItems query).map (Prod.map decode decode)

theorem queryItem_of_parts {n : Text} (hn : '=' ∉ n) (v : Text) :
    queryItem (n ++ '=' :: v) = (n, v) := by
  rw [queryItem, Text.cut?_eq_some.2 ⟨rfl, hn⟩, Option.getD_some]

/-- No separator is left in the name, nor the one between items in the value. -/
theorem queryItem_free {item : Text} (h : '&' ∉ item) :
    '=' ∉ (queryItem item).1 ∧ '&' ∉ (queryItem item).1 ∧ '&' ∉ (queryItem item).2 := by
  unfold queryItem
  cases hcut : Text.cut? '=' item with
  | none => exact ⟨Text.cut?_eq_none.1 hcut, h, by simp⟩
  | some nv =>
    obtain ⟨rfl, hn⟩ := Text.cut?_eq_some.1 hcut
    rw [List.mem_append, List.mem_cons, not_or, not_or] at h
    exact ⟨hn, h.1, h.2.2⟩

theorem ampersand_not_mem_encode (bs : Bytes) : '&' ∉ encode bs :=
  Text.Percent.not_mem_encode (Text.of_every_byte (by decide +kernel)) bs

theorem equals_not_mem_encode (bs : Bytes) : '=' ∉ encode bs :=
  Text.Percent.not_mem_encode (Text.of_every_byte (by decide +kernel)) bs

/-- A query of given items, none of which holds a separator that it may not hold. -/
def written (items : List Item) : Text := join "&" (items.map fun i => i.1 ++ '=' :: i.2)

theorem queryItems_written {items : List Item}
    (h : ∀ i ∈ items, '=' ∉ i.1 ∧ '&' ∉ i.1 ∧ '&' ∉ i.2) : queryItems (written items) = items := by
  have htokens : tokensBy (· == '&') (written items) = items.map fun i => i.1 ++ '=' :: i.2 := by
    refine Text.tokensBy_join fun q hq => ?_
    obtain ⟨i, hi, rfl⟩ := List.mem_map.1 hq
    obtain ⟨-, hn, hv⟩ := h i hi
    exact ⟨by simp, by simp [hn, hv]⟩
  rw [queryItems, htokens, List.map_map]
  refine (List.map_congr_left fun i hi => ?_).trans (List.map_id _)
  exact queryItem_of_parts (h i hi).1 i.2

theorem queryItems_free {query : Text} :
    ∀ i ∈ queryItems query, '=' ∉ i.1 ∧ '&' ∉ i.1 ∧ '&' ∉ i.2 := by
  intro i hi
  obtain ⟨item, hitem, rfl⟩ := List.mem_map.1 hi
  exact queryItem_free (Text.freeOf_beq.1 (Text.mem_tokensBy hitem).2)

theorem pairLe_self_name (n v w : Text) : pairLe (n, v) (n, w) = Text.le v w := by
  rw [pairLe, if_pos rfl]

theorem pairLe_of_ne {n m : Text} (h : n ≠ m) (v w : Text) :
    pairLe (n, v) (m, w) = Text.le n m := by
  rw [pairLe, if_neg h]

theorem pairLe_antisymm {i j : Item} (hij : pairLe i j = true) (hji : pairLe j i = true) :
    i = j := by
  obtain ⟨n, v⟩ := i
  obtain ⟨m, w⟩ := j
  by_cases h : n = m
  · subst h
    rw [pairLe_self_name] at hij hji
    rw [Text.le_antisymm hij hji]
  · rw [pairLe_of_ne h] at hij
    rw [pairLe_of_ne (Ne.symm h)] at hji
    exact absurd (Text.le_antisymm hij hji) h

theorem pairLe_total (i j : Item) : (pairLe i j || pairLe j i) = true := by
  obtain ⟨n, v⟩ := i
  obtain ⟨m, w⟩ := j
  by_cases h : n = m
  · subst h
    rw [pairLe_self_name, pairLe_self_name]
    exact Text.le_total v w
  · rw [pairLe_of_ne h, pairLe_of_ne (Ne.symm h)]
    exact Text.le_total n m

theorem pairLe_trans {i j k : Item} (hij : pairLe i j = true) (hjk : pairLe j k = true) :
    pairLe i k = true := by
  obtain ⟨n, v⟩ := i
  obtain ⟨m, w⟩ := j
  obtain ⟨l, x⟩ := k
  by_cases hnm : n = m
  · subst hnm
    by_cases hnl : n = l
    · subst hnl
      rw [pairLe_self_name] at hij hjk ⊢
      exact Text.le_trans hij hjk
    · rwa [pairLe_of_ne hnl] at hjk ⊢
  · rw [pairLe_of_ne hnm] at hij
    by_cases hml : m = l
    · subst hml
      rwa [pairLe_of_ne hnm]
    · rw [pairLe_of_ne hml] at hjk
      by_cases hnl : n = l
      · subst hnl
        exact absurd (Text.le_antisymm hij hjk) hnm
      · rw [pairLe_of_ne hnl]
        exact Text.le_trans hij hjk

theorem query_eq_written (q : Text) : query q =
    written (((itemTexts q).map (Prod.map spelling spelling)).mergeSort pairLe) := by
  rw [itemTexts, List.map_map]
  rfl

/-- The form of a query is a query itself, of the same items in order. -/
theorem queryItems_query (q : Text) : queryItems (query q) =
    ((itemTexts q).map (Prod.map spelling spelling)).mergeSort pairLe := by
  rw [query_eq_written]
  refine queryItems_written fun i hi => ?_
  obtain ⟨j, -, rfl⟩ := List.mem_map.1 (List.mem_mergeSort.1 hi)
  exact ⟨equals_not_mem_encode _, ampersand_not_mem_encode _, ampersand_not_mem_encode _⟩

theorem query_eq_iff {p q : Text} : query q = query p ↔ (itemTexts q).Perm (itemTexts p) := by
  have hsorted : query q = query p ↔
      ((itemTexts q).map (Prod.map spelling spelling)).mergeSort pairLe =
        ((itemTexts p).map (Prod.map spelling spelling)).mergeSort pairLe := by
    refine ⟨fun h => ?_, fun h => ?_⟩
    · rw [← queryItems_query, h, queryItems_query]
    · rw [query_eq_written, h, query_eq_written]
  rw [hsorted, Text.mergeSort_inj (r := pairLe) (fun _ _ _ => pairLe_trans) pairLe_total
    (fun _ _ => pairLe_antisymm),
    List.map_perm_map_iff (spelling_injective.prodMap spelling_injective)]

theorem query_of_itemBytes {p q : Text} (h : (itemBytes p).Perm (itemBytes q)) :
    query p = query q := by
  have htexts : ∀ t, itemTexts t =
      (itemBytes t).map (Prod.map Text.Utf8.decodeLossy Text.Utf8.decodeLossy) := by
    intro t
    rw [itemTexts, itemBytes, List.map_map]
    rfl
  rw [query_eq_iff, htexts, htexts]
  exact h.map _

/-- No other query of the same form stands for other bytes. -/
def TellsItems (query : Text) : Prop :=
  ∀ other, Canonical.query other = Canonical.query query →
    (itemBytes other).Perm (itemBytes query)

theorem itemBytes_of_legible {p : Text}
    (h : ∀ i ∈ itemTexts p, '\uFFFD' ∉ i.1 ∧ '\uFFFD' ∉ i.2) :
    itemBytes p = (itemTexts p).map (Prod.map Text.Utf8.encode Text.Utf8.encode) := by
  rw [itemBytes, itemTexts, List.map_map]
  refine List.map_congr_left fun i hi => ?_
  obtain ⟨hn, hv⟩ := h _ (List.mem_map_of_mem hi)
  exact Prod.ext (Text.Percent.decode_eq_of_spelled hn) (Text.Percent.decode_eq_of_spelled hv)

/-- An item that spells the same as another, but with other bytes, goes unnoticed in its
place. -/
theorem not_tellsItems_of_companion {p : Text} {i j : Item} (hi : i ∈ queryItems p)
    (hfree : '=' ∉ j.1 ∧ '&' ∉ j.1 ∧ '&' ∉ j.2)
    (htext : Prod.map spelled spelled j = Prod.map spelled spelled i)
    (hbytes : Prod.map decode decode j ≠ Prod.map decode decode i) : ¬ TellsItems p := by
  intro h
  obtain ⟨before, after, hsplit⟩ := List.append_of_mem hi
  generalize hother : written (before ++ j :: after) = other
  have hitems : queryItems other = before ++ j :: after := by
    rw [← hother]
    refine queryItems_written (forall_mem_exchange (a := i) ?_ hfree)
    rw [← hsplit]
    exact queryItems_free
  have hform : itemTexts other = itemTexts p := by
    rw [itemTexts, itemTexts, hitems, hsplit, List.map_append, List.map_append, List.map_cons,
      List.map_cons, htext]
  have hsame := h other (query_eq_iff.2 (hform ▸ .refl _))
  rw [itemBytes, itemBytes, hitems, hsplit, List.map_append, List.map_append, List.map_cons,
    List.map_cons, List.perm_append_left_iff] at hsame
  have hone : [Prod.map decode decode j].Perm [Prod.map decode decode i] :=
    (List.perm_append_right_iff (after.map _)).1 hsame
  exact hbytes (List.singleton_perm_singleton.1 hone)

theorem tellsItems_iff {p : Text} :
    TellsItems p ↔ ∀ i ∈ itemTexts p, '\uFFFD' ∉ i.1 ∧ '\uFFFD' ∉ i.2 := by
  constructor
  · intro h i hi
    obtain ⟨⟨n, v⟩, hmem, rfl⟩ := List.mem_map.1 hi
    obtain ⟨heq, hn, hv⟩ := queryItems_free _ hmem
    refine ⟨fun hill => ?_, fun hill => ?_⟩
    · obtain ⟨bs, htext, hbytes⟩ := Text.Percent.exists_companion hill
      refine not_tellsItems_of_companion (j := (encode bs, v)) hmem
        ⟨equals_not_mem_encode bs, ampersand_not_mem_encode bs, hv⟩ (Prod.ext htext rfl) ?_ h
      intro hsame
      exact hbytes ((Text.Percent.decode_encode bs).symm.trans (Prod.mk.inj hsame).1)
    · obtain ⟨bs, htext, hbytes⟩ := Text.Percent.exists_companion hill
      refine not_tellsItems_of_companion (j := (n, encode bs)) hmem
        ⟨heq, hn, ampersand_not_mem_encode bs⟩ (Prod.ext rfl htext) ?_ h
      intro hsame
      exact hbytes ((Text.Percent.decode_encode bs).symm.trans (Prod.mk.inj hsame).2)
  · intro h q hform
    rw [query_eq_iff] at hform
    rw [itemBytes_of_legible h, itemBytes_of_legible fun i hi => h i (hform.mem_iff.1 hi)]
    exact hform.map _

/-- Paths and queries of one canonical form spell the same texts; and the form tells the
bytes exactly when no text of the resource holds the replacement character. -/
theorem form_tells_resource_iff (path query : Text) (hpath : path ≠ []) :
    (∀ other, other ≠ [] → (uri other = uri path ↔ segmentTexts other = segmentTexts path)) ∧
    (∀ other, Canonical.query other = Canonical.query query ↔
      (itemTexts other).Perm (itemTexts query)) ∧
    (TellsSegments path ↔ ∀ t ∈ segmentTexts path, '\uFFFD' ∉ t) ∧
    (TellsItems query ↔ ∀ i ∈ itemTexts query, '\uFFFD' ∉ i.1 ∧ '\uFFFD' ∉ i.2) :=
  ⟨fun _ hother => uri_eq_iff hpath hother, fun _ => query_eq_iff, tellsSegments_iff hpath,
    tellsItems_iff⟩

/-- A path with a written slash and a stray percent sign, and a query out of order. -/
theorem form_tells_resource_of_sample :
    ("/a%2Fb/c%zé" : Text) ≠ [] ∧ TellsSegments "/a%2Fb/c%zé" ∧
      TellsItems "b=1=2&&a" ∧ query "a=&b=1%3D2" = query "b=1=2&&a" := by
  have hne : ("/a%2Fb/c%zé" : Text) ≠ [] := by decide
  obtain ⟨-, hitems, hpath, hquery⟩ := form_tells_resource_iff "/a%2Fb/c%zé" "b=1=2&&a" hne
  exact ⟨hne, hpath.2 (by decide +kernel), hquery.2 (by decide +kernel),
    (hitems "a=&b=1%3D2").2 (by decide +kernel)⟩

/-- Two resources that differ in one byte have one form: neither byte begins a character. -/
theorem form_same_of_stray_bytes :
    uri "/key%FF" = uri "/key%FE" ∧ segmentBytes "/key%FF" ≠ segmentBytes "/key%FE" ∧
      query "part=%FF" = query "part=%FE" ∧
      ¬ (itemBytes "part=%FF").Perm (itemBytes "part=%FE") := by
  decide +kernel

end Countersign.Signature.Canonical
