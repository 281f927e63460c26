import Countersign.Proofs.Signature.Resource
/-! Every part of a canonical request can be read back from its text: three lines from
the front, the payload and the names from the back, and what is left is one line for
each name. No part can bring in a line break of its own. -/

namespace Countersign.Signature.Canonical

open Text (join lower)

/-! ## No part holds a line break -/

theorem newline_not_mem_encode (bs : Bytes) : '\n' ∉ Text.Percent.encode bs :=
  Text.Percent.not_mem_encode (Text.of_every_byte (by decide +kernel)) bs

theorem newline_not_mem_join {sep : Text} {qs : List Text} (hsep : '\n' ∉ sep)
    (h : ∀ q ∈ qs, '\n' ∉ q) : '\n' ∉ join sep qs := by
  intro hmem
  rcases Text.mem_join hmem with hs | ⟨q, hq, hc⟩
  · exact hsep hs
  · exact h q hq hc

theorem newline_not_mem_uri (path : Text) : '\n' ∉ uri path := by
  unfold uri
  split
  · decide
  · refine newline_not_mem_join (by decide) ?_
    intro q hq
    obtain ⟨s, -, rfl⟩ := List.mem_map.1 hq
    exact newline_not_mem_encode _

theorem newline_not_mem_query (q : Text) : '\n' ∉ query q := by
  refine newline_not_mem_join (by decide) ?_
  intro item hitem
  obtain ⟨⟨n, v⟩, hpair, rfl⟩ := List.mem_map.1 hitem
  obtain ⟨⟨n', v'⟩, -, heq⟩ := List.mem_map.1 (List.mem_mergeSort.1 hpair)
  obtain ⟨rfl, rfl⟩ := Prod.mk.inj heq
  intro h
  rcases List.mem_append.1 h with h | h
  · exact newline_not_mem_encode _ h
  · rcases List.mem_cons.1 h with h | h
    · exact absurd h (by decide)
    · exact newline_not_mem_encode _ h

/-- A line break is a blank, so no value keeps one. -/
theorem newline_not_mem_value (v : Text) : '\n' ∉ value v := by
  refine newline_not_mem_join (by decide) ?_
  intro w hw h
  have hblank := (Text.mem_tokensBy hw).2 _ h
  exact absurd hblank (by decide)

theorem newline_not_mem_valueOf (hs : List (Text × Text)) (n : Text) : '\n' ∉ valueOf hs n := by
  refine newline_not_mem_join (by decide) ?_
  intro q hq
  obtain ⟨h, -, rfl⟩ := List.mem_map.1 hq
  exact newline_not_mem_value _

/-! ## What a text is made of -/

/-- All that goes into a canonical request. -/
structure Parts where
  method : Text
  path : Text
  query : Text
  headers : List (Text × Text)
  signed : List Text
  payload : Text

namespace Parts

def text (r : Parts) : Text :=
  request r.method r.path r.query r.headers r.signed r.payload

/-- What whoever makes a canonical request keeps to. -/
structure Clean (r : Parts) : Prop where
  method : '\n' ∉ r.method
  payload : '\n' ∉ r.payload
  newline : ∀ n ∈ r.signed, '\n' ∉ n
  semicolon : ∀ n ∈ r.signed, ';' ∉ n

/-- Two lists of parts that a signature may not tell apart: the same method, target,
names, values under these names, and payload. -/
structure Same (r s : Parts) : Prop where
  method : r.method = s.method
  uri : uri r.path = uri s.path
  query : Canonical.query r.query = Canonical.query s.query
  names : ∀ n, n ∈ r.signed.map lower ↔ n ∈ s.signed.map lower
  values : ∀ n ∈ r.signed.map lower, valueOf r.headers n = valueOf s.headers n
  payload : r.payload = s.payload

variable {r s : Parts}

theorem Clean.names (h : r.Clean) {n : Text} (hn : n ∈ names r.signed) : '\n' ∉ n ∧ ';' ∉ n := by
  obtain ⟨m, hm, rfl⟩ := List.mem_map.1 (Text.mem_squeeze_sort.1 hn)
  exact ⟨Text.not_mem_lower (by decide) (h.newline m hm),
    Text.not_mem_lower (by decide) (h.semicolon m hm)⟩

theorem text_eq (r : Parts) :
    r.text = r.method ++ '\n' :: (uri r.path ++ '\n' :: (Canonical.query r.query ++ '\n' ::
      (((headerBlock r.headers (names r.signed) ++ ['\n']) ++
        '\n' :: join ";" (names r.signed)) ++ '\n' :: r.payload))) := by
  simp [text, request, join]

theorem headerBlock_eq_nil {hs : List (Text × Text)} {ns : List Text} :
    headerBlock hs ns = [] ↔ ns = [] := by
  match ns with
  | [] => simp [headerBlock, join]
  | [n] => simp [headerBlock, join]
  | n :: m :: ns => simp [headerBlock, join]

/-- The block tells no names from one empty name, which their list cannot. -/
theorem names_of_text (hr : r.Clean) (hs : s.Clean)
    (hblock : headerBlock r.headers (names r.signed) = headerBlock s.headers (names s.signed))
    (hnames : join ";" (names r.signed) = join ";" (names s.signed)) :
    names r.signed = names s.signed := by
  have hnil : names r.signed = [] ↔ names s.signed = [] := by
    rw [← headerBlock_eq_nil, hblock, headerBlock_eq_nil]
  by_cases h : names r.signed = []
  · rw [h, hnil.1 h]
  · exact Text.join_inj h (fun h' => h (hnil.2 h')) (fun n hn => (hr.names hn).2)
      (fun n hn => (hs.names hn).2) hnames

theorem newline_not_mem_line (hr : r.Clean) (hs : List (Text × Text)) {q : Text}
    (hq : q ∈ (names r.signed).map fun n => n ++ ':' :: valueOf hs n) : '\n' ∉ q := by
  obtain ⟨n, hn, rfl⟩ := List.mem_map.1 hq
  intro h
  rcases List.mem_append.1 h with h | h
  · exact (hr.names hn).1 h
  · rcases List.mem_cons.1 h with h | h
    · exact absurd h (by decide)
    · exact newline_not_mem_valueOf hs n h

/-- Each name has one line in the block, so the block tells its value. -/
theorem values_of_block (hr : r.Clean)
    (hblock : headerBlock r.headers (names r.signed) = headerBlock s.headers (names r.signed)) :
    ∀ n ∈ names r.signed, valueOf r.headers n = valueOf s.headers n := by
  intro n hn
  have hne : ∀ f : Text → Text, (names r.signed).map f ≠ [] := fun f h =>
    List.ne_nil_of_mem hn (List.map_eq_nil_iff.1 h)
  have hlines := Text.join_inj (hne _) (hne _) (fun q => newline_not_mem_line hr r.headers)
    (fun q => newline_not_mem_line hr s.headers) hblock
  have hline := List.map_inj_left.1 hlines n hn
  exact (List.cons.inj (List.append_cancel_left hline)).2

theorem newline_not_mem_names (hr : r.Clean) : '\n' ∉ join ";" (names r.signed) :=
  newline_not_mem_join (by decide) fun _ hn => (hr.names hn).1

theorem same_of_text (hr : r.Clean) (hs : s.Clean) (h : r.text = s.text) : Same r s := by
  rw [text_eq, text_eq, Text.append_sep_inj hr.method hs.method,
    Text.append_sep_inj (newline_not_mem_uri _) (newline_not_mem_uri _),
    Text.append_sep_inj (newline_not_mem_query _) (newline_not_mem_query _),
    Text.sep_append_inj hr.payload hs.payload,
    Text.sep_append_inj (newline_not_mem_names hr) (newline_not_mem_names hs)] at h
  obtain ⟨hmethod, huri, hquery, ⟨hblock, hnames⟩, hpayload⟩ := h
  have hblock' := List.append_cancel_right hblock
  have hsame := names_of_text hr hs hblock' hnames
  have hmem : ∀ n, n ∈ r.signed.map lower ↔ n ∈ s.signed.map lower :=
    Text.squeeze_sort_inj.1 hsame
  refine ⟨hmethod, huri, hquery, hmem, fun n hn => ?_, hpayload⟩
  rw [← hsame] at hblock'
  exact values_of_block hr hblock' n (Text.mem_squeeze_sort.2 hn)

theorem text_of_same (h : Same r s) : r.text = s.text := by
  have hnames : names r.signed = names s.signed := Text.squeeze_sort_inj.2 h.names
  have hblock : headerBlock r.headers (names s.signed) = headerBlock s.headers (names s.signed) := by
    refine congrArg (join "\n") (List.map_congr_left ?_)
    intro n hn
    rw [← hnames] at hn
    rw [h.values n (Text.mem_squeeze_sort.1 hn)]
  rw [text_eq, text_eq, h.method, h.uri, h.query, h.payload, hnames, hblock]

/-- The canonical text of a request is unambiguous. -/
theorem text_eq_iff_same (r s : Parts) (hr : r.Clean) (hs : s.Clean) : r.text = s.text ↔ Same r s :=
  ⟨same_of_text hr hs, text_of_same⟩

/-- Two spellings of one request: the path, the order of the query and of the names,
letter case and blanks differ. -/
theorem text_eq_iff_same_of_spellings :
    let r : Parts := ⟨"GET", "/a b", "b=2&a", [("Host", "one.test"), ("x:y", " 1  2 ")],
      ["x:y", "HOST"], "-"⟩
    let s : Parts := ⟨"GET", "/a%20b", "a=&b=2", [("X:Y", "1 2"), ("host", "one.test")],
      ["host", "X:y", "host"], "-"⟩
    r.Clean ∧ s.Clean ∧ r.text = s.text ∧ Same r s := by
  intro r s
  have hr : r.Clean := ⟨by decide, by decide, by decide, by decide⟩
  have hs : s.Clean := ⟨by decide, by decide, by decide, by decide⟩
  have hlisted : ∀ n ∈ r.signed.map lower, n ∈ s.signed.map lower := by decide
  have hlisted' : ∀ n ∈ s.signed.map lower, n ∈ r.signed.map lower := by decide
  have h : Same r s := {
    method := rfl
    uri := by decide +kernel
    query := query_eq_iff.2 (by decide +kernel)
    names := fun n => ⟨hlisted n, hlisted' n⟩
    values := by decide +kernel
    payload := rfl }
  exact ⟨hr, hs, (text_eq_iff_same r s hr hs).2 h, h⟩

end Parts

end Countersign.Signature.Canonical
