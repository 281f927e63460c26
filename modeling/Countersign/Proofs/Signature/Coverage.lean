import Mathlib.Data.List.Basic
import Countersign.Proofs.Signature.CanonicalForm
import Countersign.Proofs.Signature.Signing
/-! What of a signed header a signature covers: its text values, blanks squeezed. A value
that is not text is passed over, so it may come and go unnoticed. -/

namespace Countersign.Signature

open Countersign.Http
open Canonical (Parts valueOf)
open Text (join tokensBy)

/-! ## What is carried and what is counted -/

def isSpace (c : Char) : Bool := c == ' ' || c == '\t'

/-- The bytes of a value, each as the character of its number. -/
def characters (v : Bytes) : Text := v.map fun b => Char.ofNat b.toNat

/-- A value without outer spaces and tabs, every inner run of them one space. -/
def squeezed (v : Bytes) : Text := join " " (tokensBy isSpace (characters v))

/-- All that stands under a name; a missing header counts as an empty one. -/
def carried (hs : Headers) (n : Text) : Text := join "," ((hs.values n).map squeezed)

/-- What of it goes into a canonical request. -/
def counted (hs : Headers) (n : Text) : Text := join "," ((hs.texts n).map Canonical.value)

/-- Every value under the name is text. -/
def Readable (hs : Headers) (n : Text) : Prop := ∀ v ∈ hs.values n, v.all Header.isTextByte = true

instance (hs : Headers) (n : Text) : Decidable (Readable hs n) :=
  inferInstanceAs (Decidable (∀ v ∈ hs.values n, _))

variable {hs hs' : Headers} {n m : Text} {v : Bytes}

/-- Of the blanks only spaces and tabs are text. -/
theorem value_characters (h : v.all Header.isTextByte = true) :
    Canonical.value (characters v) = squeezed v := by
  have hblank : ∀ b, Header.isTextByte b = true →
      Text.isBlank (Char.ofNat b.toNat) = isSpace (Char.ofNat b.toNat) :=
    Text.of_every_byte (by decide +kernel)
  refine congrArg (join " ") (Text.tokensBy_congr fun c hc => ?_)
  obtain ⟨b, hb, rfl⟩ := List.mem_map.1 hc
  exact hblank b (List.all_eq_true.1 h b hb)

theorem carried_of_readable (h : Readable hs n) : carried hs n = counted hs n := by
  have htexts : hs.texts n = (hs.values n).map characters :=
    List.filterMap_eq_map_iff_forall_eq_some.2 fun v hv => if_pos (h v hv)
  rw [counted, htexts, List.map_map, carried]
  exact congrArg (join ",") (List.map_congr_left fun v hv => (value_characters (h v hv)).symm)

theorem isText_characters : Header.IsText (characters v) ↔ v.all Header.isTextByte = true := by
  rw [Header.IsText, characters, List.forall_mem_map, List.all_eq_true]
  exact forall₂_congr fun b _ => Header.isTextChar_of_byte b

/-- No byte but spaces and tabs is lost, and these are text. -/
theorem isText_squeezed : Header.IsText (squeezed v) ↔ v.all Header.isTextByte = true := by
  rw [← isText_characters, squeezed, Header.isText_join (by decide)]
  constructor
  · intro h c hc
    cases hspace : isSpace c with
    | true =>
      have hc : c = ' ' ∨ c = '\t' := by simpa [isSpace] using hspace
      rcases hc with rfl | rfl <;> rfl
    | false =>
      obtain ⟨q, hq, hcq⟩ := Text.exists_token_of_mem hc hspace
      exact h q hq c hcq
  · exact fun h q hq c hc => h c (Text.mem_of_mem_tokensBy hq hc)

/-- What is carried shows whether it is text. -/
theorem isText_carried : Header.IsText (carried hs n) ↔ Readable hs n := by
  rw [carried, Header.isText_join (by decide), List.forall_mem_map]
  exact forall₂_congr fun v _ => isText_squeezed

theorem not_isText (h : Header.text? v = none) : ¬ v.all Header.isTextByte = true := by
  intro hv
  rw [Header.text?, if_pos hv] at h
  cases h

theorem texts_add (h : Header.text? v = none) : (hs.add n v).texts m = hs.texts m := by
  rw [Headers.texts, Headers.values_add, List.filterMap_append, ← Headers.texts]
  split <;> simp [h]

/-- A value that is not text adds to what is carried. -/
theorem carried_add (h : Header.text? v = none) : carried (hs.add n v) n ≠ carried hs n := by
  have hne : squeezed v ≠ [] := by
    intro hnil
    exact not_isText h (isText_squeezed.1 (hnil ▸ nofun))
  rw [carried, Headers.values_add, if_pos rfl, List.map_append, List.map_singleton, carried]
  by_cases hnil : (hs.values n).map squeezed = []
  · rw [hnil]
    exact hne
  · rw [Text.join_concat _ _ hnil]
    simp

/-! ## What a canonical request is made of -/

/-- A list that was made key by key holds under one key what was made for it. -/
theorem filter_flatMap {α β : Type} [DecidableEq α] {k : β → α} {f : α → List β} {xs : List α}
    {x : α} (hk : ∀ y ∈ xs, ∀ b ∈ f y, k b = y) (hone : xs.Nodup) (hx : x ∈ xs) :
    (xs.flatMap f).filter (k · = x) = f x := by
  induction xs with
  | nil => cases hx
  | cons y ys ih =>
    obtain ⟨hy, hys⟩ := List.forall_mem_cons.1 hk
    obtain ⟨hnot, hone⟩ := List.nodup_cons.1 hone
    rw [List.flatMap_cons, List.filter_append]
    rcases List.mem_cons.1 hx with rfl | hx
    · have hrest : (ys.flatMap f).filter (k · = x) = [] := by
        refine List.filter_eq_nil_iff.2 fun b hb => ?_
        obtain ⟨z, hz, hb⟩ := List.mem_flatMap.1 hb
        simpa [hys z hz b hb] using ne_of_mem_of_not_mem hz hnot
      rw [hrest, List.append_nil, List.filter_eq_self]
      exact fun b hb => decide_eq_true (hy b hb)
    · have hfirst : (f y).filter (k · = x) = [] := by
        refine List.filter_eq_nil_iff.2 fun b hb => ?_
        simpa [hy b hb] using (ne_of_mem_of_not_mem hx hnot).symm
      rw [hfirst, List.nil_append, ih hys hone hx]

variable {a : Authorization} {r r' : RequestHead} {host : Text}

theorem valueOf_signedPairs (ha : a.Listed) (hn : n ∈ a.signedHeaders) :
    valueOf (signedPairs hs host a.sortedHeaders) n =
      if n = "host" then Canonical.value host else counted hs n := by
  have hlower : ∀ m ∈ Text.squeeze a.sortedHeaders, Text.lower m = m := fun m hm =>
    (ha m (Text.mem_squeeze_sort.1 hm)).1
  have hmem : n ∈ Text.squeeze a.sortedHeaders := Text.mem_squeeze_sort.2 hn
  have hfilter : (signedPairs hs host a.sortedHeaders).filter (fun p => Text.lower p.1 = n) =
      if n = "host" then [(n, host)] else (hs.texts (Text.lower n)).map fun v => (n, v) := by
    refine filter_flatMap (k := fun p : Text × Text => Text.lower p.1) (fun m hm p hp => ?_)
      (Text.nodup_squeeze (Text.sorted_sort _)) hmem
    split at hp
    · rw [List.mem_singleton.1 hp]
      exact hlower m hm
    · obtain ⟨w, -, rfl⟩ := List.mem_map.1 hp
      exact hlower m hm
  rw [valueOf, hfilter]
  split
  · rfl
  · rw [List.map_map, hlower n hmem]
    rfl

/-- What a request puts into its canonical form. -/
def partsOf (r : RequestHead) (a : Authorization) (host : Text) : Parts :=
  ⟨r.method, r.uri.path, r.uri.query.getD [], signedPairs r.headers host a.sortedHeaders,
    a.sortedHeaders, payloadToken r.headers⟩

theorem newline_not_mem_text {t : Text} (h : Header.IsText t) : '\n' ∉ t := fun hc =>
  absurd (h _ hc) (by decide)

theorem newline_not_mem_payloadToken (hs : Headers) : '\n' ∉ payloadToken hs := by
  unfold payloadToken
  split
  · next t ht =>
    obtain ⟨v, -, hv⟩ := Option.bind_eq_some_iff.1 ht
    exact fun hc => newline_not_mem_text (Header.isText_of_text? hv) (Text.mem_of_mem_trim hc)
  · decide

theorem newline_not_mem_method {m : Text} (h : method? m = some m) : '\n' ∉ m := by
  intro hc
  unfold method? at h
  split at h
  · next hm => exact absurd (List.all_eq_true.1 hm.2 _ hc) (by decide)
  · cases h

theorem clean_partsOf (ha : a.Listed) (hm : '\n' ∉ r.method) : (partsOf r a host).Clean :=
  ⟨hm, newline_not_mem_payloadToken _, fun n hn => (ha n (List.mem_mergeSort.1 hn)).2.1,
    fun n hn => (ha n (List.mem_mergeSort.1 hn)).2.2⟩

/-- Two requests of which a signature sees the same, their methods apart. -/
structure Alike (a : Authorization) (r r' : RequestHead) : Prop where
  uri : Canonical.uri r.uri.path = Canonical.uri r'.uri.path
  query : Canonical.query (r.uri.query.getD []) = Canonical.query (r'.uri.query.getD [])
  values : ∀ n ∈ a.signedHeaders, n ≠ "host" → counted r.headers n = counted r'.headers n
  payload : payloadToken r.headers = payloadToken r'.headers

theorem same_partsOf_iff (ha : a.Listed) :
    (partsOf r a host).Same (partsOf r' a host) ↔ r.method = r'.method ∧ Alike a r r' := by
  have hmem : ∀ n, n ∈ a.sortedHeaders.map Text.lower ↔ n ∈ a.signedHeaders := by
    intro n
    have hlower : a.sortedHeaders.map Text.lower = a.sortedHeaders :=
      (List.map_congr_left fun m hm => (ha m (List.mem_mergeSort.1 hm)).1).trans (List.map_id _)
    rw [hlower, Authorization.sortedHeaders, Text.sort, List.mem_mergeSort]
  constructor
  · intro h
    refine ⟨h.method, h.uri, h.query, fun n hn hhost => ?_, h.payload⟩
    have hvalue := h.values n ((hmem n).2 hn)
    rwa [partsOf, partsOf, valueOf_signedPairs ha hn, valueOf_signedPairs ha hn, if_neg hhost,
      if_neg hhost] at hvalue
  · rintro ⟨hmethod, h⟩
    refine ⟨hmethod, h.uri, h.query, fun _ => .rfl, fun n hn => ?_, h.payload⟩
    have hn := (hmem n).1 hn
    rw [partsOf, partsOf, valueOf_signedPairs ha hn, valueOf_signedPairs ha hn]
    split
    · rfl
    · next hhost => exact h.values n hn hhost

theorem canonicalOf_method (r : RequestHead) (a : Authorization) (host : Text) :
    canonicalOf r a host = r.method ++ canonicalOf { r with method := [] } a host := by
  simp [canonicalOf, Canonical.request, join]

theorem canonicalOf_eq_iff (ha : a.Listed) (hm : r.method = r'.method) :
    canonicalOf r a host = canonicalOf r' a host ↔ Alike a r r' := by
  constructor
  · intro h
    have hclean : ∀ r : RequestHead, (partsOf { r with method := [] } a host).Clean := fun r =>
      clean_partsOf ha List.not_mem_nil
    -- Equal methods cancel, and the parts that are left are clean.
    rw [canonicalOf_method r, canonicalOf_method r', hm] at h
    have hsame := Parts.same_of_text (hclean r) (hclean r') (List.append_cancel_left h)
    obtain ⟨-, hvalues⟩ := (same_partsOf_iff ha).1 hsame
    exact ⟨hvalues.uri, hvalues.query, hvalues.values, hvalues.payload⟩
  · exact fun h => Parts.text_of_same ((same_partsOf_iff ha).2 ⟨hm, h⟩)

/-- A method is a line of its own, so the canonical form tells it. -/
theorem method_eq_of_canonicalOf (ha : a.Listed) (hm : method? r.method = some r.method)
    (hm' : method? r'.method = some r'.method)
    (h : canonicalOf r a host = canonicalOf r' a host) : r.method = r'.method :=
  (Parts.same_of_text (clean_partsOf ha (newline_not_mem_method hm))
    (clean_partsOf ha (newline_not_mem_method hm')) h).method

/-! ## A value that is not text -/

theorem first?_add {w : Bytes} (h : hs.first? m = some w) : (hs.add n v).first? m = some w := by
  rw [Headers.first?, Headers.values_add, List.head?_append, ← Headers.first?, h, Option.some_or]

theorem text?_add (h : Header.text? v = none) : (hs.add n v).text? m = hs.text? m := by
  cases hfirst : hs.first? m with
  | some w => rw [Headers.text?, first?_add hfirst, Headers.text?, hfirst]
  | none =>
    have hnil : hs.values m = [] := List.head?_eq_none_iff.1 hfirst
    rw [Headers.text?, Headers.text?, hfirst, Headers.first?, Headers.values_add, hnil]
    split
    · exact h
    · rfl

theorem timestamp_add {time : Text} (h : timestamp hs = .ok time) :
    timestamp (hs.add n v) = .ok time := by
  cases hfirst : hs.first? "x-amz-date" with
  | none =>
    rw [timestamp, hfirst] at h
    cases h
  | some w => rwa [timestamp, first?_add hfirst, ← hfirst, ← timestamp]

theorem canonicalOf_add (h : Header.text? v = none) :
    canonicalOf { r with headers := r.headers.add n v } a host = canonicalOf r a host := by
  simp only [canonicalOf, signedPairs, payloadToken, texts_add h, text?_add h]

theorem verifyRequest_add {secret : Text} (h : Header.text? v = none)
    (hr : verifyRequest r a secret host = .ok ()) :
    verifyRequest { r with headers := r.headers.add n v } a secret host = .ok () := by
  rw [verifyRequest_eq_ok] at hr ⊢
  obtain ⟨time, htime, hsign⟩ := bind_eq_ok.1 hr
  refine bind_eq_ok.2 ⟨time, timestamp_add htime, ?_⟩
  rw [canonicalOf_add h]
  exact hsign

/-- Requests of one canonical form agree in the text values under every signed name. So a
change between readable headers is noticed, and a value that is not text never is. -/
theorem signed_values_noticed_iff (t : Text) (a : Authorization) (r r' : RequestHead)
    (host secret n : Text) (ha : Authorization.ofText t = .ok a)
    (hm : method? r.method = some r.method) (hm' : method? r'.method = some r'.method)
    (h : canonicalOf r a host = canonicalOf r' a host) (hn : n ∈ a.signedHeaders)
    (hhost : n ≠ "host") :
    counted r.headers n = counted r'.headers n ∧
    (Readable r.headers n →
      (carried r.headers n = carried r'.headers n ↔ Readable r'.headers n)) ∧
    ∀ v, Header.text? v = none →
      let s : RequestHead := { r with headers := r.headers.add n v }
      canonicalOf s a host = canonicalOf r a host ∧
        carried s.headers n ≠ carried r.headers n ∧
        (verifyRequest r a secret host = .ok () → verifyRequest s a secret host = .ok ()) := by
  have hlisted := Authorization.listed_of_ofText ha
  have halike := (canonicalOf_eq_iff hlisted (method_eq_of_canonicalOf hlisted hm hm' h)).1 h
  have hcounted := halike.values n hn hhost
  refine ⟨hcounted, fun hread => ⟨fun hcarried => ?_, fun hread' => ?_⟩, fun v hv => ?_⟩
  · rw [← isText_carried, ← hcarried, isText_carried]
    exact hread
  · rw [carried_of_readable hread, carried_of_readable hread', hcounted]
  · exact ⟨canonicalOf_add hv, carried_add hv, verifyRequest_add hv⟩

/-- An `Authorization` value under which a tag is signed. -/
def tagged : Authorization :=
  ⟨⟨"AKID", "20240101", "us-east-1", "s3"⟩, ["host", "x-amz-date", "x-amz-meta-tag"], "0a"⟩

def taggedWith (tags : List Bytes) : RequestHead :=
  ⟨"GET", .relative ⟨"/key", none⟩,
    ⟨"host", Text.Utf8.encode "one.test"⟩ ::
      ⟨"x-amz-date", Text.Utf8.encode "20240101T120000Z"⟩ ::
        tags.map fun tag => ⟨"x-amz-meta-tag", tag⟩⟩

theorem signed_values_noticed_between_spellings :
    let r := taggedWith [Text.Utf8.encode "a  b", Text.Utf8.encode "c"]
    let r' := taggedWith [Text.Utf8.encode " a b", Text.Utf8.encode "c "]
    Authorization.ofText tagged.render = .ok tagged ∧
      canonicalOf r tagged "two.test" = canonicalOf r' tagged "two.test" ∧
      Readable r.headers "x-amz-meta-tag" ∧ Readable r'.headers "x-amz-meta-tag" ∧
      carried r.headers "x-amz-meta-tag" = carried r'.headers "x-amz-meta-tag" := by
  intro r r'
  have ha : Authorization.ofText tagged.render = .ok tagged := by decide +kernel
  have hmethod : r.method = r'.method := rfl
  have halike : Alike tagged r r' := ⟨rfl, rfl, by decide +kernel, by decide +kernel⟩
  have h : canonicalOf r tagged "two.test" = canonicalOf r' tagged "two.test" :=
    (canonicalOf_eq_iff (Authorization.listed_of_ofText ha) hmethod).2 halike
  have hread : Readable r.headers "x-amz-meta-tag" := by decide +kernel
  have hread' : Readable r'.headers "x-amz-meta-tag" := by decide +kernel
  obtain ⟨-, hiff, -⟩ := signed_values_noticed_iff tagged.render tagged r r' "two.test" "secret"
    "x-amz-meta-tag" ha rfl rfl h (by decide) (by decide)
  exact ⟨ha, h, hread, hread', (hiff hread).2 hread'⟩

/-- A tag of one letter beyond ASCII may be added to a request that was signed without it. -/
theorem signed_value_unnoticed_beyond_text :
    Authorization.ofText tagged.render = .ok tagged ∧
      ("x-amz-meta-tag" : Text) ∈ tagged.signedHeaders ∧
      (Text.Utf8.encode "é").all Header.isValueByte = true ∧
      canonicalOf (taggedWith [Text.Utf8.encode "é"]) tagged "two.test" =
        canonicalOf (taggedWith []) tagged "two.test" ∧
      carried (taggedWith [Text.Utf8.encode "é"]).headers "x-amz-meta-tag" ≠
        carried (taggedWith []).headers "x-amz-meta-tag" := by
  have hnone : Header.text? (Text.Utf8.encode "é") = none := by decide +kernel
  have hsame : canonicalOf (taggedWith [Text.Utf8.encode "é"]) tagged "two.test" =
      canonicalOf (taggedWith []) tagged "two.test" :=
    canonicalOf_add (r := taggedWith []) (n := "x-amz-meta-tag") hnone
  exact ⟨by decide +kernel, by decide, by decide +kernel, hsame, by decide +kernel⟩

end Countersign.Signature
