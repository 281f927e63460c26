import Countersign.Proofs.Text.Characters
import Countersign.Proofs.Text.Cutting
import Countersign.Signature.Authorization
/-! What reading an `Authorization` value comes down to: which tokens it has, and for
three names the last token of each. -/

namespace Countersign.Signature.Authorization

open Text (cut?_eq_some tokensBy)

/-- The value of a token, if the token has the name. -/
def under (name token : Text) : Option Text :=
  match Text.cut? '=' token with
  | some (key, value) => if key = name then some value else none
  | none => none

theorem under_eq_some {name token value : Text} (hn : '=' ∉ name) :
    under name token = some value ↔ token = name ++ '=' :: value := by
  unfold under
  constructor
  · intro h
    split at h
    · next key v hcut =>
      obtain ⟨rfl, -⟩ := cut?_eq_some.1 hcut
      split at h
      · next hk => rw [hk, Option.some.inj h]
      · cases h
    · cases h
  · rintro rfl
    rw [cut?_eq_some.2 ⟨rfl, hn⟩]
    simp

theorem field?_eq (name : Text) (ks : List Text) :
    field? name ks = (ks.filterMap (under name)).getLast? := rfl

/-- The later of two lists of tokens counts. -/
theorem field?_append (name : Text) (ks ls : List Text) :
    field? name (ks ++ ls) = (field? name ls).or (field? name ks) := by
  simp only [field?_eq, List.filterMap_append, List.getLast?_append]

theorem field?_cons (name k : Text) (ks : List Text) :
    field? name (k :: ks) = (field? name ks).or (under name k) := by
  rw [← List.singleton_append, field?_append, field?_eq name [k]]
  cases h : under name k <;> simp [h]

theorem field?_eq_none {name : Text} {ks : List Text} :
    field? name ks = none ↔ ∀ k ∈ ks, under name k = none := by
  rw [field?_eq, List.getLast?_eq_none_iff, List.filterMap_eq_nil_iff]

theorem field?_eq_some {name value : Text} {ks : List Text} (h : field? name ks = some value) :
    ∃ k ∈ ks, under name k = some value :=
  List.mem_filterMap.1 (List.mem_of_getLast? h)

/-- The tokens after the first give `a`. -/
structure Gives (tokens : List Text) (a : Authorization) : Prop where
  credential : ∃ t, field? "Credential" tokens = some t ∧ Credential.ofText t = .ok a.credential
  names : ∃ t, field? "SignedHeaders" tokens = some t ∧ signedNames t = a.signedHeaders
  signed : a.signedHeaders ≠ []
  signature : field? "Signature" tokens = some a.signature
  nonempty : a.signature ≠ []

theorem ofText_eq_ok {t : Text} {a : Authorization} :
    ofText t = .ok a ↔ ∃ tokens, tokensBy isSeparator t = algorithm :: tokens ∧ Gives tokens a := by
  unfold ofText
  constructor
  · intro h
    split at h
    · cases h
    next first tokens htok =>
    split at h
    · cases h
    next hfirst =>
    split at h
    · cases h
    next credential hcred =>
    cases hc : Credential.ofText credential with
    | error e => simp [hc, bind, Except.bind] at h
    | ok c =>
      simp only [hc, bind, Except.bind] at h
      split at h
      · cases h
      next names hnames =>
      split at h
      · cases h
      next n ns hsigned =>
      split at h
      · next d s hsig =>
        obtain rfl := Except.ok.inj h
        refine ⟨tokens, by rw [htok, Decidable.not_not.1 hfirst], ⟨_, hcred, hc⟩,
          ⟨_, hnames, hsigned⟩, by simp, hsig, by simp⟩
      · cases h
  · rintro ⟨tokens, htok, ⟨credential, hcred, hc⟩, ⟨names, hnames, hsigned⟩, hne, hsig, hs⟩
    obtain ⟨credential', names', signature'⟩ := a
    obtain ⟨n, ns, rfl⟩ := List.exists_cons_of_ne_nil hne
    obtain ⟨d, s, rfl⟩ := List.exists_cons_of_ne_nil hs
    simp only [htok, ne_eq, not_true_eq_false, if_false, hcred, hc, hnames, hsigned, hsig, bind,
      Except.bind]

/-- The names are in small letters and hold neither a line break nor the character
between names. -/
def Listed (a : Authorization) : Prop :=
  ∀ n ∈ a.signedHeaders, Text.lower n = n ∧ '\n' ∉ n ∧ ';' ∉ n

theorem listed_of_ofText {t : Text} {a : Authorization} (h : ofText t = .ok a) : a.Listed := by
  intro n hn
  obtain ⟨tokens, htok, hg⟩ := ofText_eq_ok.1 h
  obtain ⟨names, hfield, hnames⟩ := hg.names
  obtain ⟨token, htoken, hunder⟩ := field?_eq_some hfield
  have hmem : token ∈ tokensBy isSeparator t := htok ▸ List.mem_cons_of_mem _ htoken
  have hline : '\n' ∉ names := by
    intro hc
    have hsep := (Text.mem_tokensBy hmem).2 '\n' <| by
      rw [(under_eq_some (by decide)).1 hunder]
      exact List.mem_append_right _ (List.mem_cons_of_mem _ hc)
    exact absurd hsep (by decide)
  rw [← hnames] at hn
  obtain ⟨q, hq, rfl⟩ := List.mem_map.1 hn
  refine ⟨Text.lower_lower q, Text.not_mem_lower (by decide) ?_, Text.not_mem_lower (by decide) ?_⟩
  · exact fun hc => hline (Text.mem_of_mem_tokensBy hq hc)
  · exact Text.freeOf_beq.1 (Text.mem_tokensBy hq).2

end Countersign.Signature.Authorization
