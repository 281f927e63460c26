import Mathlib.Data.List.Basic
import Mathlib.Data.List.Nodup
import Mathlib.Logic.Relation
import Countersign.Proofs.Signature.Reading
/-! The layout of an `Authorization` value: how its tokens are separated, how fields of
different names follow each other, and what else stands between them. None of it is read.
All that counts is the first token and, for three names, the last field of each; so the
same value comes out, or the same fault, even where several fields are wrong at once. -/

namespace Countersign.Signature.Authorization

open Relation (EqvGen)
open Text (tokensBy)

/-- The name of a token `name=value`; other tokens have none. -/
def name? (token : Text) : Option Text := (Text.cut? '=' token).map (·.1)

/-- The names of the fields that are read. -/
def readNames : List Text := ["Credential", "SignedHeaders", "Signature"]

/-- One change of a value that concerns its layout. Behind the first token, which is the
algorithm, stand the fields. -/
inductive Relaid : Text → Text → Prop
  /-- One run of separators for another, neither of them empty. -/
  | run (before w w' after : Text) (hw : w ≠ [] ∧ ∀ c ∈ w, isSeparator c = true)
      (hw' : w' ≠ [] ∧ ∀ c ∈ w', isSeparator c = true) :
      Relaid (before ++ w ++ after) (before ++ w' ++ after)
  | leading (w t : Text) (hw : ∀ c ∈ w, isSeparator c = true) : Relaid t (w ++ t)
  | trailing (w t : Text) (hw : ∀ c ∈ w, isSeparator c = true) : Relaid t (t ++ w)
  /-- Fields in another order, in which those of each name keep theirs. -/
  | reordered {t t' : Text} (first : Text) {fields fields' : List Text}
      (ht : tokensBy isSeparator t = first :: fields)
      (ht' : tokensBy isSeparator t' = first :: fields') (hperm : fields.Perm fields')
      (hstable : ∀ name : Text, fields.filter (name? · = some name) =
        fields'.filter (name? · = some name)) : Relaid t t'
  /-- One more token that has no name, or a name that is not read. -/
  | inserted {t t' : Text} (first token : Text) (before after : List Text)
      (ht : tokensBy isSeparator t = first :: (before ++ after))
      (ht' : tokensBy isSeparator t' = first :: (before ++ token :: after))
      (hname : ∀ name ∈ readNames, name? token ≠ some name) : Relaid t t'
  /-- One more field in front of the last one of its name. -/
  | repeated {t t' : Text} (first token last : Text) (before after : List Text)
      (ht : tokensBy isSeparator t = first :: (before ++ after))
      (ht' : tokensBy isSeparator t' = first :: (before ++ token :: after))
      (hlast : last ∈ after) (hname : name? last = name? token) : Relaid t t'

variable {t t' first token name : Text} {fields fields' before after : List Text}

/-! ## What is read of a token -/

theorem isSome_under : (under name token).isSome = decide (name? token = some name) := by
  unfold under name?
  cases Text.cut? '=' token with
  | none => rfl
  | some kv => by_cases h : kv.1 = name <;> simp [h]

theorem under_eq_none : under name token = none ↔ name? token ≠ some name := by
  rw [← Option.not_isSome_iff_eq_none, isSome_under, decide_eq_true_eq]

/-- Only the fields of its own name count for a name. -/
theorem field?_filter (name : Text) (fields : List Text) :
    field? name (fields.filter (name? · = some name)) = field? name fields := by
  rw [field?_eq, field?_eq, List.filterMap_filter]
  refine congrArg List.getLast? (List.filterMap_congr fun token _ => ?_)
  by_cases h : name? token = some name
  · simp [h]
  · rw [if_neg (by simpa using h), under_eq_none.2 h]

/-- A token counts for no name that it does not have. -/
theorem field?_insert_of_name (h : name? token ≠ some name) (before after : List Text) :
    field? name (before ++ token :: after) = field? name (before ++ after) := by
  rw [field?_append, field?_append, field?_cons, under_eq_none.2 h, Option.or_none]

/-- A field does not count before another one of its name. -/
theorem field?_insert_of_later {last : Text} (hlast : last ∈ after)
    (hname : name? last = name? token) (name : Text) (before : List Text) :
    field? name (before ++ token :: after) = field? name (before ++ after) := by
  by_cases h : name? token = some name
  · have hsome : (field? name after).isSome = true := by
      rw [Option.isSome_iff_ne_none, ne_eq, field?_eq_none]
      exact fun hnone => under_eq_none.1 (hnone last hlast) (hname.trans h)
    obtain ⟨value, hvalue⟩ := Option.isSome_iff_exists.1 hsome
    simp only [field?_append, field?_cons, hvalue, Option.some_or]
  · exact field?_insert_of_name h before after

/-- Where every name stands once, any order will do. -/
theorem stable_of_nodup (hperm : fields.Perm fields') (hnodup : (fields.map name?).Nodup)
    (name : Text) :
    fields.filter (name? · = some name) = fields'.filter (name? · = some name) := by
  have hone : (fields.filter (name? · = some name)).length ≤ 1 := by
    have hcount := List.nodup_iff_count_le_one.1 hnodup (some name)
    rw [List.count_eq_countP, List.countP_map, List.countP_eq_length_filter] at hcount
    simpa only [Function.comp_def, beq_eq_decide] using hcount
  have hfilter := hperm.filter (name? · = some name)
  generalize fields.filter (name? · = some name) = own at hone hfilter ⊢
  match own with
  | [] => exact hfilter.nil_eq
  | [_] => exact List.singleton_perm.1 hfilter
  | _ :: _ :: _ => exact absurd hone (by simp)

/-! ## What is read of a text -/

/-- The tokens decide. -/
theorem ofText_of_tokens (h : tokensBy isSeparator t = tokensBy isSeparator t') :
    ofText t = ofText t' := by
  rw [ofText, ofText, h]

/-- And of these, the first one and the last fields of three names. -/
theorem ofText_of_fields (ht : tokensBy isSeparator t = first :: fields)
    (ht' : tokensBy isSeparator t' = first :: fields')
    (h : ∀ name ∈ readNames, field? name fields = field? name fields') :
    ofText t = ofText t' := by
  have hcredential : field? "Credential" fields = field? "Credential" fields' :=
    h _ (by decide)
  have hnames : field? "SignedHeaders" fields = field? "SignedHeaders" fields' :=
    h _ (by decide)
  have hsignature : field? "Signature" fields = field? "Signature" fields' :=
    h _ (by decide)
  unfold ofText
  simp only [ht, ht', hcredential, hnames, hsignature]

theorem Relaid.ofText_eq (h : Relaid t t') : ofText t = ofText t' := by
  cases h with
  | run before w w' after hw hw' =>
    refine ofText_of_tokens ?_
    rw [Text.tokensBy_between hw.2 (.inl hw.1), Text.tokensBy_between hw'.2 (.inl hw'.1)]
  | leading w t hw => exact ofText_of_tokens (Text.tokensBy_seps hw t).symm
  | trailing w t hw =>
    refine ofText_of_tokens ?_
    have hend := Text.tokensBy_between (u := t) (t := []) hw (.inr (.inr rfl))
    rw [List.append_nil] at hend
    exact (hend.trans (List.append_nil _)).symm
  | reordered _ ht ht' hperm hstable =>
    refine ofText_of_fields ht ht' fun name _ => ?_
    rw [← field?_filter name, hstable name, field?_filter]
  | inserted _ _ _ _ ht ht' hname =>
    refine ofText_of_fields ht ht' fun name hread => ?_
    exact (field?_insert_of_name (hname name hread) _ _).symm
  | repeated _ _ _ _ _ ht ht' hlast hname =>
    refine ofText_of_fields ht ht' fun name _ => ?_
    exact (field?_insert_of_later hlast hname name _).symm

/-- However often a value is laid out anew, the same is read, or it is turned down for the
same fault. -/
theorem layout_is_not_read (t t' : Text) (h : EqvGen Relaid t t') : ofText t = ofText t' := by
  induction h with
  | rel t t' h => exact h.ofText_eq
  | refl t => rfl
  | symm t t' _ ih => exact ih.symm
  | trans t u t' _ _ ih ih' => exact ih.trans ih'

/-- Three fields that are all wrong, and the same with all else changed: the fault is that of
the credential. -/
theorem layout_is_not_read_of_faulty_fields :
    let t : Text := "AWS4-HMAC-SHA256 Credential=a, Signature=, SignedHeaders=;"
    let t' : Text := ",\nAWS4-HMAC-SHA256 Credential=b/c SignedHeaders=; x\tSignature=,Credential=a"
    EqvGen Relaid t t' ∧ ofText t' = .error (.invalidCredential "expected 5 segments, got 1") := by
  intro t t'
  let moved : Text := "AWS4-HMAC-SHA256,SignedHeaders=; Signature=,Credential=a"
  let noisy : Text := "AWS4-HMAC-SHA256 SignedHeaders=; x\tSignature=,Credential=a"
  let twice : Text := "AWS4-HMAC-SHA256 Credential=b/c SignedHeaders=; x\tSignature=,Credential=a"
  have hperm : ["Credential=a".toList, "Signature=".toList, "SignedHeaders=;".toList].Perm
      ["SignedHeaders=;".toList, "Signature=".toList, "Credential=a".toList] := by decide
  have hmoved : Relaid t moved :=
    .reordered algorithm (by decide +kernel) (by decide +kernel) hperm
      (stable_of_nodup hperm (by decide))
  have hnoisy : Relaid moved noisy :=
    .inserted algorithm "x" ["SignedHeaders=;".toList]
      ["Signature=".toList, "Credential=a".toList] (by decide +kernel) (by decide +kernel)
      (by decide)
  have htwice : Relaid noisy twice :=
    .repeated algorithm "Credential=b/c" "Credential=a" []
      ["SignedHeaders=;".toList, "x".toList, "Signature=".toList, "Credential=a".toList]
      (by decide +kernel) (by decide +kernel) (by decide +kernel) rfl
  have hsplit : ",\n" ++ twice = t' := by decide +kernel
  have hleading : Relaid twice t' :=
    hsplit ▸ .leading ",\n" twice (List.all_eq_true.1 (by decide +kernel))
  have h : EqvGen Relaid t t' :=
    .trans _ _ _ (.rel _ _ hmoved) <| .trans _ _ _ (.rel _ _ hnoisy) <|
      .trans _ _ _ (.rel _ _ htwice) (.rel _ _ hleading)
  have ht : ofText t = .error (.invalidCredential "expected 5 segments, got 1") := by decide +kernel
  exact ⟨h, (layout_is_not_read t t' h).symm.trans ht⟩

end Countersign.Signature.Authorization
