import Mathlib.Logic.Relation
import Countersign.Proofs.Http.HopByHop
import Countersign.Proofs.Text.Cutting
import Countersign.Proofs.Text.Trimming
/-! Which headers stay with a connection. They go by name, all values of a name or none, and
of the `Connection` values only the set of names counts that stand between their commas: not
the order, nor what is named twice, names nothing or would be gone without being named. -/

namespace Countersign.Http

namespace Header

variable {t name : Text}

theorem isBlank_of_isNameChar {c : Char} (h : isNameChar c = true) : Text.isBlank c = false := by
  have hmarks : "!#$%&'*+-.^_`|~".toList.all (fun c => 32 < c.toNat ∧ c.toNat < 127) = true := by
    decide
  have hrange : 32 < c.toNat ∧ c.toNat < 127 := by
    rcases Bool.or_eq_true_iff.1 h with h | h
    · have := Text.toNat_of_isAlphanum h
      omega
    · exact of_decide_eq_true (List.all_eq_true.1 hmarks c (List.contains_iff_mem.1 h))
  exact Text.isBlank_of_visible hrange.1 hrange.2

theorem trimmed_of_name? (h : name? t = some name) : Text.Trimmed t := by
  obtain ⟨⟨-, hall⟩, -⟩ := Option.ite_none_right_eq_some.1 h
  exact Text.trimmed_of_free fun c hc => isBlank_of_isNameChar (List.all_eq_true.1 hall c hc)

end Header

namespace HopByHop

open Relation (EqvGen)
open Text (Between isBlank pieces trim)

variable {hs hs' a b d : Headers} {q name t t' : Text} {v v' : Bytes}

/-- A header name in whatever letters, and only blanks around it. -/
def Spells (q name : Text) : Prop :=
  ∃ w written w', q = w ++ written ++ w' ∧ (∀ c ∈ w, isBlank c = true) ∧
    (∀ c ∈ w', isBlank c = true) ∧ Header.name? written = some name

/-- The name stands between commas in a `Connection` value that is text. -/
def Nominates (hs : Headers) (name : Text) : Prop :=
  ∃ t ∈ hs.texts "connection", ∃ q, Between ',' t q ∧ Spells q name

/-- One change of the `Connection` values that should not matter. -/
inductive Rearranged : Headers → Headers → Prop
  /-- Two values change places. -/
  | swapped (a b d : Headers) (v v' : Bytes) :
      Rearranged (a ++ ⟨"connection", v⟩ :: b ++ ⟨"connection", v'⟩ :: d)
        (a ++ ⟨"connection", v'⟩ :: b ++ ⟨"connection", v⟩ :: d)
  /-- What stands between the commas of a value changes places. -/
  | permuted (a d : Headers) {v v' : Bytes} {t t' : Text} (hv : Header.text? v = some t)
      (hv' : Header.text? v' = some t') (hperm : (pieces ',' t).Perm (pieces ',' t')) :
      Rearranged (a ++ ⟨"connection", v⟩ :: d) (a ++ ⟨"connection", v'⟩ :: d)
  /-- One more piece, which names nothing, or what would be gone without it. -/
  | inserted (a d : Headers) {v v' : Bytes} {t t' : Text} (hv : Header.text? v = some t)
      (hv' : Header.text? v' = some t') (q : Text) (before after : List Text)
      (ht : pieces ',' t = before ++ after) (ht' : pieces ',' t' = before ++ q :: after)
      (hq : ∀ name, Spells q name →
        name ∈ fixedNames ∨ Nominates (a ++ ⟨"connection", v⟩ :: d) name) :
      Rearranged (a ++ ⟨"connection", v⟩ :: d) (a ++ ⟨"connection", v'⟩ :: d)

/-- What holds of the headers that leave a connection. -/
structure LeavesRest (hs : Headers) : Prop where
  exact : ∀ h, h ∈ strip hs ↔ h ∈ hs ∧ h.name ∉ fixedNames ∧ ¬ Nominates hs h.name
  /-- A name that is kept keeps all its values in their order. -/
  whole : ∀ name, name ∉ fixedNames → ¬ Nominates hs name →
    (strip hs).values name = hs.values name
  order : (strip hs).Sublist hs
  /-- One name after another may be erased instead, the nominated ones first. -/
  passes : strip hs = fixedNames.foldl Headers.erase ((nominated hs).foldl Headers.erase hs)
  rearranged : ∀ other, EqvGen Rearranged other hs → strip other = strip hs
  again : strip (strip hs) = strip hs

/-! ## What is nominated -/

theorem spells_iff : Spells q name ↔ Header.name? (trim q) = some name := by
  constructor
  · rintro ⟨w, written, w', rfl, hw, hw', hname⟩
    rwa [Text.trim_between hw hw' (Header.trimmed_of_name? hname)]
  · intro h
    obtain ⟨w, w', hw, hw', hq⟩ := Text.exists_trim q
    exact ⟨w, trim q, w', hq, hw, hw', h⟩

/-- All that stands between commas in `Connection` values that are text. -/
def entries (hs : Headers) : List Text := (hs.texts "connection").flatMap (pieces ',')

theorem mem_nominated : name ∈ nominated hs ↔ ∃ q ∈ entries hs, Spells q name := by
  have hentries : nominated hs = (entries hs).filterMap fun q => Header.name? (trim q) := by
    rw [entries, List.filterMap_flatMap, nominated]
  simp only [hentries, List.mem_filterMap, spells_iff]

theorem nominates_iff : Nominates hs name ↔ name ∈ nominated hs := by
  rw [mem_nominated]
  constructor
  · rintro ⟨t, ht, q, hq, hname⟩
    exact ⟨q, List.mem_flatMap.2 ⟨t, ht, Text.mem_pieces_iff.2 hq⟩, hname⟩
  · rintro ⟨q, hq, hname⟩
    obtain ⟨t, ht, hq⟩ := List.mem_flatMap.1 hq
    exact ⟨t, ht, q, Text.mem_pieces_iff.1 hq, hname⟩

theorem stripped_iff : Stripped hs name ↔ name ∈ fixedNames ∨ Nominates hs name := by
  rw [Stripped, nominates_iff]

theorem stripped_connection (hs : Headers) : Stripped hs "connection" := .inl (by decide)

/-! ## What leaves no trace -/

/-- Apart from the `Connection` values, only the set of names counts. -/
theorem strip_congr (h : hs.erase "connection" = hs'.erase "connection")
    (hnames : ∀ name, Stripped hs name ↔ Stripped hs' name) : strip hs = strip hs' := by
  have hrest : ∀ hs : Headers, strip hs = (hs.erase "connection").filter fun h =>
      ¬ Stripped hs h.name := by
    intro hs
    rw [strip_eq, Headers.erase, List.filter_filter]
    refine List.filter_congr fun h _ => ?_
    by_cases hname : h.name = "connection".toList
    · have hstripped : Stripped hs h.name := hname ▸ stripped_connection hs
      simp only [hstripped, not_true, decide_false, Bool.false_and]
    · simp only [ne_eq, hname, not_false_eq_true, decide_true, Bool.and_true]
  rw [hrest hs, hrest hs', h]
  exact List.filter_congr fun h _ => by rw [decide_eq_decide, hnames]

theorem entries_perm (h : hs.Perm hs') : (entries hs).Perm (entries hs') :=
  (((h.filter _).map _).filterMap _).flatMap_right _

theorem entries_append : entries (a ++ b) = entries a ++ entries b := by
  rw [entries, Headers.texts, Headers.values, List.filter_append, List.map_append,
    List.filterMap_append, List.flatMap_append]
  rfl

theorem entries_connection (h : Header.text? v = some t) :
    entries (⟨"connection", v⟩ :: d) = pieces ',' t ++ entries d := by
  rw [entries, Headers.texts, Headers.values, List.filter_cons_of_pos (by simp), List.map_cons,
    List.filterMap_cons_some h, List.flatMap_cons]
  rfl

theorem stripped_iff_entries :
    Stripped hs name ↔ name ∈ fixedNames ∨ ∃ q ∈ entries hs, Spells q name := by
  rw [Stripped, mem_nominated]

theorem stripped_congr (h : ∀ q, q ∈ entries hs ↔ q ∈ entries hs') (name : Text) :
    Stripped hs name ↔ Stripped hs' name := by
  simp only [stripped_iff_entries, h]

theorem erase_connection (a d : Headers) (v : Bytes) :
    Headers.erase (a ++ ⟨"connection", v⟩ :: d) "connection" =
      a.erase "connection" ++ d.erase "connection" := by
  rw [Headers.erase, List.filter_append, List.filter_cons_of_neg (by simp)]
  rfl

theorem Rearranged.strip_eq (h : Rearranged hs hs') : strip hs = strip hs' := by
  cases h with
  | swapped a b d v v' =>
    have hfront : ∀ x y : Header, (a ++ x :: b ++ y :: d).Perm (y :: x :: (a ++ b ++ d)) := by
      intro x y
      refine List.perm_middle.trans (.cons y ?_)
      rw [List.append_assoc, List.append_assoc, List.cons_append]
      exact List.perm_middle
    refine strip_congr ?_ (stripped_congr fun q => (entries_perm ?_).mem_iff)
    · rw [erase_connection, erase_connection, erase_connection, erase_connection]
    · exact (hfront _ _).trans ((List.Perm.swap _ _ _).trans (hfront _ _).symm)
  | permuted a d hv hv' hperm =>
    refine strip_congr (by rw [erase_connection, erase_connection]) (stripped_congr fun q => ?_)
    rw [entries_append, entries_append, entries_connection hv, entries_connection hv']
    simp only [List.mem_append, hperm.mem_iff]
  | @inserted a d v v' t t' hv hv' q before after ht ht' hq =>
    refine strip_congr (by rw [erase_connection, erase_connection]) fun name => ?_
    have hentries : ∀ r, r ∈ entries (a ++ ⟨"connection", v'⟩ :: d) ↔
        r = q ∨ r ∈ entries (a ++ ⟨"connection", v⟩ :: d) := by
      intro r
      rw [entries_append, entries_append, entries_connection hv, entries_connection hv', ht, ht']
      simp only [List.mem_append, List.mem_cons]
      tauto
    rw [stripped_iff_entries, stripped_iff_entries]
    constructor
    · exact Or.imp_right fun ⟨r, hr, hname⟩ => ⟨r, (hentries r).2 (.inr hr), hname⟩
    · rintro (hfixed | ⟨r, hr, hname⟩)
      · exact .inl hfixed
      · rcases (hentries r).1 hr with rfl | hr
        · exact stripped_iff_entries.1 (stripped_iff.2 (hq name hname))
        · exact .inr ⟨r, hr, hname⟩

theorem strip_of_rearranged (h : EqvGen Rearranged hs hs') : strip hs = strip hs' := by
  induction h with
  | rel _ _ h => exact h.strip_eq
  | refl => rfl
  | symm _ _ _ ih => exact ih.symm
  | trans _ _ _ _ _ ih ih' => exact ih.trans ih'

theorem strip_strip (hs : Headers) : strip (strip hs) = strip hs := by
  -- no `Connection` value is left that could nominate anything
  have hnone : nominated (strip hs) = [] := by
    rw [nominated, texts_strip, if_pos (stripped_connection hs)]
    rfl
  rw [HopByHop.strip_eq (strip hs), List.filter_eq_self]
  intro h hmem
  rw [HopByHop.strip_eq, List.mem_filter, decide_eq_true_eq] at hmem
  rw [decide_eq_true_eq, Stripped, hnone]
  exact fun hfixed => hmem.2 (.inl (hfixed.resolve_right List.not_mem_nil))

theorem foldl_erase (names : List Text) (hs : Headers) :
    names.foldl Headers.erase hs = hs.filter fun h => h.name ∉ names := by
  induction names generalizing hs with
  | nil => simp
  | cons name names ih =>
    rw [List.foldl_cons, ih, Headers.erase, List.filter_filter]
    refine List.filter_congr fun h _ => ?_
    simp [Bool.and_comm]

/-! ## The rest -/

/-- What is left of headers are those that neither have one of the nine fixed names nor are
nominated, as they stood there; nothing of what the `Connection` values say counts but which
names they nominate; and what is left has nothing more to lose. -/
theorem strip_leaves_rest (hs : Headers) : LeavesRest hs := by
  have hmem : ∀ h, h ∈ strip hs ↔ h ∈ hs ∧ ¬ Stripped hs h.name := by
    intro h
    rw [HopByHop.strip_eq, List.mem_filter, decide_eq_true_eq]
  exact {
    exact := fun h => by rw [hmem, stripped_iff, not_or]
    whole := by
      intro name hfixed hnominated
      rw [values_strip, if_neg]
      exact fun hstripped => (stripped_iff.1 hstripped).elim hfixed hnominated
    order := List.filter_sublist
    passes := by
      rw [foldl_erase, foldl_erase, List.filter_filter, HopByHop.strip_eq]
      refine List.filter_congr fun h _ => ?_
      simp [Stripped]
    rearranged := fun _ => strip_of_rearranged
    again := strip_strip hs }

/-- A header that is nominated, perhaps, and one that is not, between two that nominate. -/
def mixed (first last : Text) : Headers :=
  [⟨"connection", Text.Utf8.encode first⟩, ⟨"x-a", Text.Utf8.encode "1"⟩,
   ⟨"b", Text.Utf8.encode "2"⟩, ⟨"connection", Text.Utf8.encode last⟩]

/-- The two values change places, and one of them nominates `Connection` as well. -/
theorem strip_leaves_rest_of_mixed :
    strip (mixed "close" " X-A") = [⟨"b", Text.Utf8.encode "2"⟩] ∧
      strip (mixed " X-A" "close,Connection") = strip (mixed "close" " X-A") := by
  have hswapped : Rearranged (mixed "close" " X-A") (mixed " X-A" "close") :=
    .swapped [] [⟨"x-a", _⟩, ⟨"b", _⟩] [] _ _
  have hinserted : Rearranged (mixed " X-A" "close") (mixed " X-A" "close,Connection") := by
    have hread : Header.text? (Text.Utf8.encode "close") = some "close".toList := by decide
    have hread' : Header.text? (Text.Utf8.encode "close,Connection") =
        some "close,Connection".toList := by decide
    refine .inserted [⟨"connection", _⟩, ⟨"x-a", _⟩, ⟨"b", _⟩] [] hread hread' "Connection"
      ["close"] [] (by decide) (by decide) fun name hname => .inl ?_
    obtain rfl : "connection".toList = name := Option.some.inj (spells_iff.1 hname)
    decide
  refine ⟨by decide +kernel, (strip_leaves_rest _).rearranged _ ?_⟩
  exact (EqvGen.rel _ _ hinserted).symm.trans _ _ _ (EqvGen.rel _ _ hswapped).symm

end HopByHop

end Countersign.Http
