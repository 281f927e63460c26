import Mathlib.Logic.Relation
import Countersign.Proofs.Signature.Coverage
import Countersign.Proofs.Signature.Rendering
import Countersign.Proofs.Signature.Resource
/-! Signing and verifying undo each other, up to spelling. A harmless change touches the
headers that no signature covers, the blanks of a value, the list of the signed names, or
how a path and a query are escaped. Each of them keeps the canonical form, so any number
of them does, and the signature that was made is still accepted. -/

namespace Countersign.Signature

open Countersign.Http
open Canonical (itemBytes segmentBytes)
open Relation (ReflTransGen)
open Text (join lower tokensBy)

/-! ## Blanks in a value -/

def Spaces (w : Bytes) : Prop := ∀ b ∈ w, b = 0x20 ∨ b = 0x9

instance (w : Bytes) : Decidable (Spaces w) := inferInstanceAs (Decidable (∀ b ∈ w, _))

/-- One run of spaces and tabs is another one. Inside a value neither is empty; at an end
of it there may be none. -/
def Respaced (v v' : Bytes) : Prop :=
  ∃ x w w' y, v = x ++ w ++ y ∧ v' = x ++ w' ++ y ∧ Spaces w ∧ Spaces w' ∧
    (w ≠ [] ∧ w' ≠ [] ∨ x = [] ∨ y = [])

variable {v v' w x y : Bytes} {hs hs' : Headers} {n m : Text}

theorem Spaces.isText (h : Spaces w) : w.all Header.isTextByte = true := by
  rw [List.all_eq_true]
  intro b hb
  rcases h b hb with rfl | rfl <;> rfl

theorem squeezed_between (hw : Spaces w) (h : w ≠ [] ∨ x = [] ∨ y = []) :
    squeezed (x ++ w ++ y) =
      join " " (tokensBy isSpace (characters x) ++ tokensBy isSpace (characters y)) := by
  have hchars : ∀ c ∈ characters w, isSpace c = true := by
    intro c hc
    obtain ⟨b, hb, rfl⟩ := List.mem_map.1 hc
    rcases hw b hb with rfl | rfl <;> rfl
  have hends : characters w ≠ [] ∨ characters x = [] ∨ characters y = [] := by
    simpa only [characters, ne_eq, List.map_eq_nil_iff] using h
  have happend : characters (x ++ w ++ y) = characters x ++ characters w ++ characters y := by
    rw [characters, List.map_append, List.map_append]
    rfl
  rw [squeezed, happend, Text.tokensBy_between hchars hends]

/-- Both are text or neither is, and they count the same. -/
theorem value_of_respaced (h : Respaced v v') :
    (Header.text? v).map Canonical.value = (Header.text? v').map Canonical.value := by
  obtain ⟨x, w, w', y, rfl, rfl, hw, hw', hends⟩ := h
  have hsame : squeezed (x ++ w ++ y) = squeezed (x ++ w' ++ y) := by
    rw [squeezed_between hw (hends.imp_left And.left),
      squeezed_between hw' (hends.imp_left And.right)]
  have htext : (x ++ w ++ y).all Header.isTextByte = (x ++ w' ++ y).all Header.isTextByte := by
    simp only [List.all_append, hw.isText, hw'.isText]
  unfold Header.text?
  by_cases h : (x ++ w ++ y).all Header.isTextByte = true
  · have h' := htext ▸ h
    rw [if_pos h, if_pos h', Option.map_some, Option.map_some]
    exact congrArg some (((value_characters h).trans hsame).trans (value_characters h').symm)
  · rw [if_neg h, if_neg (htext ▸ h)]

theorem values_between (before after : Headers) (m n : Text) (v : Bytes) :
    Headers.values (before ++ ⟨m, v⟩ :: after) n =
      before.values n ++ ((if m = n then [v] else []) ++ after.values n) := by
  rw [Headers.values, List.filter_append, List.map_append, List.filter_cons]
  by_cases h : m = n <;> simp [h, Headers.values]

theorem counted_of_respaced (h : Respaced v v') (before after : Headers) (m n : Text) :
    counted (before ++ ⟨m, v⟩ :: after) n = counted (before ++ ⟨m, v'⟩ :: after) n := by
  have hcounted : ∀ hs : Headers, counted hs n = join ","
      ((hs.values n).filterMap fun v => (Header.text? v).map Canonical.value) := fun hs =>
    congrArg (join ",") List.map_filterMap
  rw [hcounted, hcounted, values_between, values_between]
  by_cases hm : m = n
  · simp only [if_pos hm, List.filterMap_append, List.filterMap_cons, value_of_respaced h]
  · simp only [if_neg hm]

/-! ## Harmless changes -/

/-- A request, and the names that are listed as signed beside it. -/
structure Spelling where
  head : RequestHead
  names : List Text

/-- The two names that a signature looks at whether they are signed or not. -/
def isFixed (n : Text) : Prop := n = "x-amz-date" ∨ n = "x-amz-content-sha256"

instance (n : Text) : Decidable (isFixed n) := inferInstanceAs (Decidable (_ ∨ _))

/-- One change that no signature over the given names should notice. -/
inductive Harmless (signed : List Text) : Spelling → Spelling → Prop
  /-- What stands under other names, and the order of different names. -/
  | headers (c : Spelling) (hs : Headers)
      (h : ∀ n, n ∈ signed ∨ isFixed n → hs.values n = c.head.headers.values n) :
      Harmless signed c { c with head := { c.head with headers := hs } }
  /-- The blanks in one value. -/
  | blanks (c : Spelling) (before after : Headers) (n : Text) (v v' : Bytes) (hn : ¬ isFixed n)
      (h : c.head.headers = before ++ ⟨n, v⟩ :: after) (hv : Respaced v v') :
      Harmless signed c
        { c with head := { c.head with headers := before ++ ⟨n, v'⟩ :: after } }
  /-- The order of the names, their letter case, and how often each one is listed. -/
  | names (c : Spelling) (ns : List Text)
      (h : ∀ n, n ∈ ns.map lower ↔ n ∈ c.names.map lower) :
      Harmless signed c { c with names := ns }
  /-- The escapes in a path. -/
  | path (c : Spelling) (u : Uri) (h : segmentBytes u.path = segmentBytes c.head.uri.path)
      (hquery : u.query = c.head.uri.query) :
      Harmless signed c { c with head := { c.head with uri := u } }
  /-- The escapes in a query, and the order of its items. -/
  | query (c : Spelling) (u : Uri) (hpath : u.path = c.head.uri.path)
      (h : (itemBytes (u.query.getD [])).Perm (itemBytes (c.head.uri.query.getD []))) :
      Harmless signed c { c with head := { c.head with uri := u } }

/-- What of a spelling a signature is made from. -/
structure Kept (a : Authorization) (host : Text) (c c' : Spelling) : Prop where
  time : timestamp c'.head.headers = timestamp c.head.headers
  canonical : canonicalOf c'.head a host = canonicalOf c.head a host
  names : ∀ n, n ∈ c'.names.map lower ↔ n ∈ c.names.map lower

variable {a b : Authorization} {r : RequestHead} {c c' : Spelling} {host secret s s' t : Text}

theorem kept_of_headers (ha : a.Listed)
    (hfixed : ∀ n, isFixed n → hs.values n = c.head.headers.values n)
    (hcounted : ∀ n ∈ a.signedHeaders, counted hs n = counted c.head.headers n) :
    Kept a host c { c with head := { c.head with headers := hs } } := by
  have halike : Alike a { c.head with headers := hs } c.head :=
    ⟨rfl, rfl, fun n hn _ => hcounted n hn, payloadToken_congr (hfixed _ (.inr rfl))⟩
  refine ⟨timestamp_congr (hfixed _ (.inl rfl)), ?_, fun _ => .rfl⟩
  exact (canonicalOf_eq_iff ha (by rfl)).2 halike

theorem kept_of_uri (ha : a.Listed) {u : Uri}
    (hpath : Canonical.uri u.path = Canonical.uri c.head.uri.path)
    (hquery : Canonical.query (u.query.getD []) = Canonical.query (c.head.uri.query.getD [])) :
    Kept a host c { c with head := { c.head with uri := u } } := by
  have halike : Alike a { c.head with uri := u } c.head := ⟨hpath, hquery, fun _ _ _ => rfl, rfl⟩
  exact ⟨rfl, (canonicalOf_eq_iff ha (by rfl)).2 halike, fun _ => .rfl⟩

theorem Harmless.kept (ha : a.Listed) (h : Harmless a.signedHeaders c c') :
    Kept a host c c' := by
  cases h with
  | headers hs h =>
    refine kept_of_headers ha (fun n hn => h n (.inr hn)) fun n hn => ?_
    rw [counted, counted, Headers.texts, Headers.texts, h n (.inl hn)]
  | blanks before after n v v' hn h hv =>
    refine kept_of_headers ha (fun m hm => ?_) fun m hm => ?_
    · have hne : n ≠ m := fun heq => hn (heq ▸ hm)
      rw [h, values_between, values_between, if_neg hne, if_neg hne]
    · rw [h]
      exact (counted_of_respaced hv before after n m).symm
  | names ns h => exact ⟨rfl, rfl, h⟩
  | path u h hquery =>
    exact kept_of_uri ha (Canonical.uri_of_segmentBytes h) (by rw [hquery])
  | query u hpath h =>
    exact kept_of_uri ha (by rw [hpath]) (Canonical.query_of_itemBytes h)

/-- What one harmless change keeps, any number of them keep. -/
theorem kept_of_harmless (ha : a.Listed) (h : ReflTransGen (Harmless a.signedHeaders) c c') :
    Kept a host c c' := by
  induction h with
  | refl => exact ⟨rfl, rfl, fun _ => .rfl⟩
  | tail _ hstep ih =>
    have hkept : Kept a host _ _ := hstep.kept ha
    exact ⟨hkept.time.trans ih.time, hkept.canonical.trans ih.canonical,
      fun n => (hkept.names n).trans (ih.names n)⟩

/-! ## Acceptance -/

/-- Order and repetition of the signed names are lost in a canonical form. -/
theorem canonicalOf_of_names (h : ∀ n, n ∈ a.signedHeaders ↔ n ∈ b.signedHeaders)
    (r : RequestHead) (host : Text) : canonicalOf r a host = canonicalOf r b host := by
  have hmem : ∀ n, n ∈ a.sortedHeaders ↔ n ∈ b.sortedHeaders := fun n =>
    (List.mem_mergeSort.trans (h n)).trans List.mem_mergeSort.symm
  have hsqueeze : Text.squeeze a.sortedHeaders = Text.squeeze b.sortedHeaders :=
    Text.squeeze_sort_inj.2 h
  have hnames : Canonical.names a.sortedHeaders = Canonical.names b.sortedHeaders := by
    refine Text.squeeze_sort_inj.2 fun n => ?_
    simp only [List.mem_map, hmem]
  rw [canonicalOf, canonicalOf, Canonical.request, Canonical.request, signedPairs, signedPairs,
    hsqueeze, hnames]

theorem verifyRequest_of_kept (ha : a.Listed) (hs : signRequest r a secret host = .ok s)
    (h : Kept a host ⟨r, a.signedHeaders⟩ c) (hs' : lower s' = s) :
    verifyRequest c.head { a with signedHeaders := c.names.map lower, signature := s' }
      secret host = .ok () := by
  have hlower : a.signedHeaders.map lower = a.signedHeaders :=
    (List.map_congr_left fun n hn => (ha n hn).1).trans (List.map_id _)
  have hnames : ∀ n, n ∈ c.names.map lower ↔ n ∈ a.signedHeaders := by
    intro n
    rw [h.names, hlower]
  rw [verifyRequest_eq_ok, signRequest, canonicalOf_of_names (b := a) hnames, h.time, h.canonical]
  rw [signRequest] at hs
  exact hs.trans (congrArg _ hs'.symm)

/-- A text that may stand as a value gives parts that may. -/
theorem isText_parts (h : Authorization.ofText t = .ok a) (ht : Header.IsText t) :
    Header.IsText a.credential.render ∧ ∀ n ∈ a.signedHeaders, Header.IsText n := by
  obtain ⟨tokens, htok, hg⟩ := Authorization.ofText_eq_ok.1 h
  have hfield : ∀ {name v : Text}, '=' ∉ name → Authorization.field? name tokens = some v →
      Header.IsText v := by
    intro name v hname hv
    obtain ⟨k, hk, hunder⟩ := Authorization.field?_eq_some hv
    have hmem : k ∈ tokensBy Authorization.isSeparator t := htok ▸ List.mem_cons_of_mem _ hk
    have htoken : Header.IsText k := fun c hc => ht c (Text.mem_of_mem_tokensBy hmem hc)
    rw [(Authorization.under_eq_some hname).1 hunder, Header.isText_append] at htoken
    exact fun c hc => htoken.2 c (List.mem_cons_of_mem _ hc)
  obtain ⟨credential, hc, hcredential⟩ := hg.credential
  obtain ⟨names, hn, hnames⟩ := hg.names
  refine ⟨?_, fun n hmem => ?_⟩
  · rw [← (Credential.ofText_eq_ok.1 hcredential).2]
    exact hfield (by decide) hc
  · rw [← hnames] at hmem
    obtain ⟨q, hq, rfl⟩ := List.mem_map.1 hmem
    exact Header.isText_lower.2 fun c hc =>
      hfield (by decide) hn c (Text.mem_of_mem_tokensBy hq hc)

theorem isText_render {names : List Text} (h : Authorization.ofText t = .ok a)
    (ht : Header.IsText t) (hnames : ∀ n, n ∈ names.map lower ↔ n ∈ a.signedHeaders.map lower)
    (hs : Header.IsText s) :
    Header.IsText { a with signedHeaders := names, signature := s }.render := by
  obtain ⟨hcredential, hsigned⟩ := isText_parts h ht
  have hjoin : Header.IsText (join ";" names) := by
    refine (Header.isText_join (by decide)).2 fun n hn => ?_
    obtain ⟨m, hm, hlower⟩ := List.mem_map.1 ((hnames _).1 (List.mem_map_of_mem hn))
    exact Header.isText_lower.1 (hlower ▸ Header.isText_lower.2 (hsigned m hm))
  have hfixed : Header.IsText (algorithm ++ " Credential=") ∧ Header.IsText ", SignedHeaders=" ∧
      Header.IsText ", Signature=" := by decide
  simp only [Authorization.render, Header.isText_append] at hfixed ⊢
  exact ⟨⟨⟨⟨⟨hfixed.1, hcredential⟩, hfixed.2.1⟩, hjoin⟩, hfixed.2.2⟩, hs⟩

/-- A request with the given `Authorization` value. -/
def Spelling.carrying (c : Spelling) (v : Bytes) : Spelling :=
  { c with head := { c.head with headers := c.head.headers.set "authorization" v } }

/-- To carry another `Authorization` value is harmless, unless that name is signed. -/
theorem harmless_carrying {signed : List Text} (h : ("authorization" : Text) ∉ signed)
    (c : Spelling) (v : Bytes) : Harmless signed c (c.carrying v) := by
  refine .headers c _ fun n hn => ?_
  have hne : ("authorization" : Text) ≠ n := by
    rintro rfl
    exact hn.elim h (by decide)
  rw [Headers.values_set, if_neg hne]

/-- The signature that is made for a request is accepted in any letter case and from any
harmless spelling of the request, once it is written beside the names and read back. -/
theorem accepted_in_every_spelling (t : Text) (a : Authorization) (r : RequestHead)
    (secret host s : Text) (ha : Authorization.ofText t = .ok a)
    (hown : ("authorization" : Text) ∉ a.signedHeaders)
    (hs : signRequest r a secret host = .ok s) (c : Spelling)
    (hc : ReflTransGen (Harmless a.signedHeaders) ⟨r, a.signedHeaders⟩ c) (s' : Text)
    (hs' : lower s' = s) :
    let u := { a with signedHeaders := c.names, signature := s' }.render
    ∃ b, Authorization.ofText u = .ok b ∧ verifyRequest c.head b secret host = .ok () ∧
      (∀ v, verifyRequest (c.carrying v).head b secret host = .ok ()) ∧
      (Header.IsText t → ∃ v, Header.value? u = some v ∧
        (c.carrying v).head.headers.text? "authorization" = some u) := by
  intro u
  have hlisted := Authorization.listed_of_ofText ha
  have hkept : Kept a host ⟨r, a.signedHeaders⟩ c := kept_of_harmless hlisted hc
  obtain ⟨key, text, hsign⟩ := signRequest_eq_ok hs
  have htoken : IsToken s' := by
    rw [← Authorization.isToken_lower, hs', hsign]
    exact isToken_sign key text
  have hpresentable : { a with signedHeaders := c.names, signature := s' }.Presentable :=
    (Authorization.presentable_of_ofText ha).respelled hkept.names htoken
  have haccepted : ∀ d : Spelling, Kept a host ⟨r, a.signedHeaders⟩ d →
      verifyRequest d.head { a with signedHeaders := d.names.map lower, signature := s' }
        secret host = .ok () := fun d hd => verifyRequest_of_kept hlisted hs hd hs'
  refine ⟨_, Authorization.ofText_render hpresentable, haccepted c hkept, fun v => ?_,
    fun ht => ?_⟩
  · exact haccepted _ (kept_of_harmless hlisted (hc.tail (harmless_carrying hown c v)))
  · have hsignature : Header.IsText s' := by
      rw [← Header.isText_lower, hs', hsign]
      exact isText_hex _
    obtain ⟨v, hv, htext⟩ := Header.value?_of_isText (isText_render ha ht hkept.names hsignature)
    exact ⟨v, hv, Headers.text?_set_self.trans htext⟩

/-- A request of which everything was respelled, and the signature in capitals. -/
theorem accepted_in_every_spelling_of_untidy :
    let tag (v : String) : Header := ⟨"x-amz-meta-tag", Text.Utf8.encode v⟩
    let date : Header := ⟨"x-amz-date", Text.Utf8.encode "20240101T120000Z"⟩
    let r : RequestHead := ⟨"GET", .relative ⟨"/key", some "b=2&a"⟩, [date, tag "1  2", tag "3"]⟩
    let c : Spelling :=
      ⟨⟨"GET", .relative ⟨"/k%65y", some "a=&%62=2"⟩,
          [⟨"via", [0xff]⟩] ++ tag "1 \t2" :: [tag "3", date]⟩,
        ["X-Amz-Meta-Tag", "HOST", "x-amz-date", "host"]⟩
    Authorization.ofText tagged.render = .ok tagged ∧
      ("authorization" : Text) ∉ tagged.signedHeaders ∧
      ReflTransGen (Harmless tagged.signedHeaders) ⟨r, tagged.signedHeaders⟩ c ∧
      ∃ s b, signRequest r tagged "secret" "one.test" = .ok s ∧
        lower (s.map Char.toUpper) = s ∧
        Authorization.ofText { tagged with
          signedHeaders := c.names, signature := s.map Char.toUpper }.render = .ok b ∧
        verifyRequest c.head b "secret" "one.test" = .ok () := by
  intro tag date r c
  have ha : Authorization.ofText tagged.render = .ok tagged := rfl
  have hown : ("authorization" : Text) ∉ tagged.signedHeaders := by decide
  let moved : Headers := [⟨"via", [0xff]⟩] ++ tag "1  2" :: [tag "3", date]
  have hsame : ∀ n ∈ tagged.signedHeaders, moved.values n = r.headers.values n := by
    decide +kernel
  have hnames : (∀ n ∈ c.names.map lower, n ∈ tagged.signedHeaders.map lower) ∧
      ∀ n ∈ tagged.signedHeaders.map lower, n ∈ c.names.map lower := by decide +kernel
  have hspaces : Respaced (Text.Utf8.encode "1  2") (Text.Utf8.encode "1 \t2") :=
    ⟨Text.Utf8.encode "1", [0x20, 0x20], [0x20, 0x9], Text.Utf8.encode "2", by decide +kernel⟩
  have hc : ReflTransGen (Harmless tagged.signedHeaders) ⟨r, tagged.signedHeaders⟩ c := by
    refine .head (.headers _ moved ?_) <|
      .head (.blanks _ _ _ _ _ _ (by decide) rfl hspaces) <|
      .head (.names _ c.names fun n => ⟨hnames.1 n, hnames.2 n⟩) <|
      .head (.path _ (.relative ⟨"/k%65y", some "b=2&a"⟩) (by decide +kernel) rfl) <|
      .single (.query _ c.head.uri rfl (by decide +kernel))
    rintro n (hn | rfl | rfl)
    · exact hsame n hn
    · exact hsame _ (by decide)
    · rfl
  obtain ⟨s, hs⟩ : ∃ s, signRequest r tagged "secret" "one.test" = .ok s :=
    ⟨_, bind_eq_ok.2 ⟨"20240101T120000Z", rfl, rfl⟩⟩
  have hcapitals : lower (s.map Char.toUpper) = s := by
    obtain ⟨key, text, rfl⟩ := signRequest_eq_ok hs
    have hdigits : (hexDigits.all fun d => d.toUpper.toLower = d) = true := by decide
    have hdigit : ∀ d ∈ hexDigits, d.toUpper.toLower = d := by simpa using hdigits
    rw [lower, List.map_map]
    exact (List.map_congr_left fun d hd => hdigit d (mem_hex hd)).trans (List.map_id _)
  obtain ⟨b, hb, hverify, -⟩ := accepted_in_every_spelling tagged.render tagged r "secret"
    "one.test" s ha hown hs c hc _ hcapitals
  exact ⟨ha, hown, hc, s, b, hs, hcapitals, hb, hverify⟩

end Countersign.Signature
