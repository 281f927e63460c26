import Countersign.Proofs.Signature.Swap
/-! `Authorization` values written out and read again. Four separators are nested in one
text: blanks and commas between tokens, the first `=` of a token, `/` in a credential and
`;` between names. No piece that can be read holds a separator that would cut it again, so
every value that was read is written in a text that reads as it. -/

namespace Countersign.Signature

open Text (FreeOf freeOf_beq join lower pieces tokensBy)

/-! ## Credentials -/

namespace Credential

variable {c : Credential} {t : Text}

/-- What a credential keeps to that can be read: there is a key, the date is one, and no
part holds the character between parts. -/
structure Whole (c : Credential) : Prop where
  keyId : c.keyId ≠ [] ∧ '/' ∉ c.keyId
  date : isDate c.date = true
  region : '/' ∉ c.region
  service : '/' ∉ c.service

theorem render_eq (c : Credential) :
    c.render = join "/" [c.keyId, c.date, c.region, c.service, scopeEnd] := rfl

theorem slash_not_mem_date (h : isDate t = true) : '/' ∉ t := by
  intro hc
  have hdigits : t.all Text.Decimal.isDigit = true := (Bool.and_eq_true_iff.1 h).2
  exact absurd (List.all_eq_true.1 hdigits _ hc) (by decide)

theorem Whole.pieces_render (h : c.Whole) :
    pieces '/' c.render = [c.keyId, c.date, c.region, c.service, scopeEnd] := by
  rw [render_eq]
  refine Text.pieces_join (by simp) ?_
  simp only [List.forall_mem_cons]
  exact ⟨h.keyId.2, slash_not_mem_date h.date, h.region, h.service, by decide, nofun⟩

/-- A credential is read from its own text only. -/
theorem ofText_eq_ok : ofText t = .ok c ↔ c.Whole ∧ t = c.render := by
  unfold ofText
  constructor
  · intro h
    split at h
    · next keyId date region service last hpieces =>
      split at h
      · cases h
      next hlast =>
      split at h
      · cases h
      next hparts =>
      obtain rfl := Except.ok.inj h
      rw [not_or, Bool.not_eq_false] at hparts
      have hfree : ∀ q ∈ pieces '/' t, '/' ∉ q := fun q hq =>
        freeOf_beq.1 (Text.freeOf_of_mem_piecesBy hq)
      simp only [hpieces, List.forall_mem_cons] at hfree
      obtain ⟨hkeyId, -, hregion, hservice, -⟩ := hfree
      refine ⟨⟨⟨hparts.1, hkeyId⟩, hparts.2, hregion, hservice⟩, ?_⟩
      rw [render_eq, ← Decidable.not_not.1 hlast, ← hpieces]
      exact (Text.join_pieces '/' t).symm
    · cases h
  · rintro ⟨h, rfl⟩
    rw [h.pieces_render]
    simp [h.keyId.1, h.date]

end Credential

/-! ## Values -/

namespace Authorization

variable {a : Authorization} {t : Text}

/-- What a value keeps to whose text reads as it, letter case of the names aside: its
parts are tokens, and no name holds the character between names. -/
structure Presentable (a : Authorization) : Prop where
  credential : a.credential.Whole ∧ FreeOf isSeparator a.credential.render
  signed : a.signedHeaders ≠ []
  names : ∀ n ∈ a.signedHeaders, IsToken n ∧ ';' ∉ n
  signature : IsToken a.signature

/-- The three fields of a value. -/
def fields (a : Authorization) : List Text :=
  ["Credential" ++ '=' :: a.credential.render, "SignedHeaders" ++ '=' :: join ";" a.signedHeaders,
    "Signature" ++ '=' :: a.signature]

theorem freeOf_names (h : ∀ n ∈ a.signedHeaders, IsToken n ∧ ';' ∉ n) :
    FreeOf isSeparator (join ";" a.signedHeaders) := by
  intro c hc
  rcases Text.mem_join hc with hsep | ⟨n, hn, hcn⟩
  · rw [List.mem_singleton.1 hsep]
    rfl
  · exact (h n hn).1.2 c hcn

/-- No field is cut, and none is lost. -/
theorem tokensBy_render (h : a.Presentable) :
    tokensBy isSeparator a.render = algorithm :: a.fields := by
  have hrender : a.render = algorithm ++ ' ' ::
      ("Credential" ++ '=' :: a.credential.render ++ ',' :: ([] ++ ' ' ::
        ("SignedHeaders" ++ '=' :: join ";" a.signedHeaders ++ ',' :: ([] ++ ' ' ::
          ("Signature" ++ '=' :: a.signature))))) := by
    simp [render]
  have hfree : ∀ {key v : Text}, FreeOf isSeparator key → FreeOf isSeparator v →
      tokensBy isSeparator (key ++ '=' :: v) = [key ++ '=' :: v] := by
    intro key v hkey hv
    refine Text.tokensBy_of_free ?_ (by simp)
    rw [Text.freeOf_append, Text.freeOf_cons]
    exact ⟨hkey, rfl, hv⟩
  have halgorithm : tokensBy isSeparator algorithm = [algorithm] :=
    Text.tokensBy_of_free (by decide) (by decide)
  rw [hrender, Text.tokensBy_append_sep (by decide), halgorithm,
    Text.tokensBy_append_sep (by decide), hfree (by decide) h.credential.2,
    Text.tokensBy_append_sep (by decide), Text.tokensBy_append_sep (by decide),
    hfree (by decide) (freeOf_names h.names), Text.tokensBy_append_sep (by decide),
    hfree (by decide) h.signature.2]
  rfl

theorem under_field {key name : Text} (hkey : '=' ∉ key) (v : Text) :
    under name (key ++ '=' :: v) = if key = name then some v else none := by
  rw [under, Text.cut?_eq_some.2 ⟨rfl, hkey⟩]

/-- Each field is found under its name. -/
theorem field?_fields (a : Authorization) :
    field? "Credential" a.fields = some a.credential.render ∧
      field? "SignedHeaders" a.fields = some (join ";" a.signedHeaders) ∧
      field? "Signature" a.fields = some a.signature := by
  have hcredential : ('=' : Char) ∉ ("Credential" : Text) := by decide
  have hnames : ('=' : Char) ∉ ("SignedHeaders" : Text) := by decide
  have hsignature : ('=' : Char) ∉ ("Signature" : Text) := by decide
  simp only [fields, field?_eq, List.filterMap_cons, under_field hcredential, under_field hnames,
    under_field hsignature, List.filterMap_nil]
  exact ⟨rfl, rfl, rfl⟩

theorem signedNames_join (h : ∀ n ∈ a.signedHeaders, IsToken n ∧ ';' ∉ n) :
    signedNames (join ";" a.signedHeaders) = a.signedHeaders.map lower :=
  congrArg _ (Text.tokensBy_join fun n hn => ⟨(h n hn).1.1, (h n hn).2⟩)

/-- A value is read from its text, its names in small letters. -/
theorem ofText_render (h : a.Presentable) :
    ofText a.render = .ok { a with signedHeaders := a.signedHeaders.map lower } := by
  obtain ⟨hcredential, hnames, hsignature⟩ := field?_fields a
  refine ofText_eq_ok.2 ⟨_, tokensBy_render h, ?_⟩
  exact {
    credential := ⟨_, hcredential, Credential.ofText_eq_ok.2 ⟨h.credential.1, rfl⟩⟩
    names := ⟨_, hnames, signedNames_join h.names⟩
    signed := fun hnil => h.signed (List.map_eq_nil_iff.1 hnil)
    signature := hsignature
    nonempty := h.signature.1 }

/-- The value of a field holds no separator between tokens. -/
theorem freeOf_field {tokens : List Text} {name v : Text} (hname : '=' ∉ name)
    (htokens : ∀ k ∈ tokens, FreeOf isSeparator k) (h : field? name tokens = some v) :
    FreeOf isSeparator v := by
  obtain ⟨k, hk, hunder⟩ := field?_eq_some h
  have hfree := htokens k hk
  rw [(under_eq_some hname).1 hunder, Text.freeOf_append, Text.freeOf_cons] at hfree
  exact hfree.2.2

/-- Letter case makes no separator. -/
theorem isToken_lower {n : Text} : IsToken (lower n) ↔ IsToken n := by
  have hchar : ∀ c : Char, isSeparator c.toLower = isSeparator c :=
    Text.apply_toLower (by decide)
  unfold IsToken FreeOf lower
  rw [List.forall_mem_map]
  simp only [hchar, ne_eq, List.map_eq_nil_iff]

theorem presentable_of_ofText (h : ofText t = .ok a) : a.Presentable := by
  obtain ⟨tokens, htok, hg⟩ := ofText_eq_ok.1 h
  have htokens : ∀ k ∈ tokens, FreeOf isSeparator k := fun k hk =>
    (Text.mem_tokensBy (htok ▸ List.mem_cons_of_mem _ hk)).2
  obtain ⟨c, hc, hcredential⟩ := hg.credential
  obtain ⟨whole, rfl⟩ := Credential.ofText_eq_ok.1 hcredential
  obtain ⟨names, hfield, hnames⟩ := hg.names
  have hfree := freeOf_field (by decide) htokens hfield
  refine {
    credential := ⟨whole, freeOf_field (by decide) htokens hc⟩
    signed := hg.signed
    names := ?_
    signature := ⟨hg.nonempty, freeOf_field (by decide) htokens hg.signature⟩ }
  intro n hn
  rw [← hnames] at hn
  obtain ⟨q, hq, rfl⟩ := List.mem_map.1 hn
  obtain ⟨hne, hsemicolon⟩ := Text.mem_tokensBy hq
  refine ⟨isToken_lower.2 ⟨hne, ?_⟩, Text.not_mem_lower (by decide) (freeOf_beq.1 hsemicolon)⟩
  exact fun d hd => hfree d (Text.mem_of_mem_tokensBy hq hd)

/-- Other letter case, another order, repeated names and another token as the signature
make no difference to that. -/
theorem Presentable.respelled {names : List Text} {s : Text} (h : a.Presentable)
    (hnames : ∀ n, n ∈ names.map lower ↔ n ∈ a.signedHeaders.map lower) (hs : IsToken s) :
    { a with signedHeaders := names, signature := s }.Presentable := by
  refine { credential := h.credential, signed := ?_, names := fun n hn => ?_, signature := hs }
  · rintro rfl
    obtain ⟨m, hm⟩ := List.exists_mem_of_ne_nil _ h.signed
    exact nomatch (hnames _).2 (List.mem_map_of_mem hm)
  · obtain ⟨m, hm, hlower⟩ := List.mem_map.1 ((hnames _).1 (List.mem_map_of_mem hn))
    obtain ⟨htoken, hsemicolon⟩ := h.names m hm
    refine ⟨isToken_lower.1 (hlower ▸ isToken_lower.2 htoken), fun hc => ?_⟩
    have hmem : ';' ∈ lower n := List.mem_map_of_mem (f := Char.toLower) hc
    exact Text.not_mem_lower (by decide) hsemicolon (hlower ▸ hmem)

/-- Small letters stay as they are. -/
theorem map_lower (h : ∀ n ∈ a.signedHeaders, lower n = n) :
    { a with signedHeaders := a.signedHeaders.map lower } = a := by
  have hsame : a.signedHeaders.map lower = a.signedHeaders :=
    (List.map_congr_left h).trans (List.map_id _)
  rw [hsame]

/-- A value that was read is read from its own text too. -/
theorem ofText_render_of_ofText (h : ofText t = .ok a) : ofText a.render = .ok a := by
  have hlower : ∀ n ∈ a.signedHeaders, lower n = n := fun n hn => (listed_of_ofText h n hn).1
  rw [ofText_render (presentable_of_ofText h), map_lower hlower]

/-- Whatever was read is written in a text that reads as it and is then kept; a credential
is written as it was read. What can be read is told by the separators alone: any other
character may stand in every part, and region and service may be empty. -/
theorem render_round_trips :
    (∀ t a, ofText t = .ok a →
      ofText a.render = .ok a ∧ ∀ b, ofText a.render = .ok b → b.render = a.render) ∧
    (∀ t c, Credential.ofText t = .ok c → c.render = t) ∧
    (∀ a, (∃ t, ofText t = .ok a) ↔ a.Presentable ∧ ∀ n ∈ a.signedHeaders, lower n = n) ∧
    ∀ c, (∃ t, Credential.ofText t = .ok c) ↔ c.Whole := by
  refine ⟨fun t a h => ?_, fun t c h => (Credential.ofText_eq_ok.1 h).2.symm, fun a => ?_,
    fun c => ?_⟩
  · have hread := ofText_render_of_ofText h
    refine ⟨hread, fun b hb => ?_⟩
    rw [hread] at hb
    rw [Except.ok.inj hb]
  · constructor
    · rintro ⟨t, h⟩
      exact ⟨presentable_of_ofText h, fun n hn => (listed_of_ofText h n hn).1⟩
    · rintro ⟨h, hlower⟩
      refine ⟨a.render, ?_⟩
      rw [ofText_render h, map_lower hlower]
  · constructor
    · rintro ⟨t, h⟩
      exact (Credential.ofText_eq_ok.1 h).1
    · exact fun h => ⟨c.render, Credential.ofText_eq_ok.2 ⟨h, rfl⟩⟩

/-- A text with fields written twice, empty names and `=` in every part. -/
theorem render_round_trips_of_untidy :
    let a : Authorization := ⟨⟨"a=b", "20240101", [], []⟩, ["host", "=x"], "=s"⟩
    let t : Text := "AWS4-HMAC-SHA256  Credential=c,,Credential=a=b/20240101///aws4_request"
      ++ "\tx SignedHeaders=;HOST;;=X; Signature=1 Signature==s"
    ofText t = .ok a ∧ a.render ≠ t ∧ ofText a.render = .ok a ∧
      Credential.ofText "a=b/20240101///aws4_request" = .ok a.credential ∧
      a.credential.render = "a=b/20240101///aws4_request" := by
  intro a t
  have h : ofText t = .ok a := rfl
  have hcredential : Credential.ofText "a=b/20240101///aws4_request" = .ok a.credential := rfl
  obtain ⟨hvalues, hcredentials, -⟩ := render_round_trips
  exact ⟨h, by decide +kernel, (hvalues t a h).1, hcredential, hcredentials _ _ hcredential⟩

end Authorization

end Countersign.Signature
