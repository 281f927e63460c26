import Countersign.Proofs.Signature.Signing
import Countersign.Proofs.Signature.Resource
import Countersign.Provider.Basic
/-! The operation of a request is read off its canonical form: the names of the query
items, and which segments of the path are empty. -/

namespace Countersign.ObjectOperation

open Countersign.Http
open Countersign.Signature
open Canonical (itemTexts segmentTexts)
open Text (join pieces)

variable {path path' : Text} {q : Text} {qs : List Text}

/-! ## Paths -/

/-- What a path names. -/
inductive Place
  | object
  | bucket
  | neither
deriving DecidableEq

def place (path : Text) : Place :=
  if (bucketAndKey path).1 ≠ [] ∧ (bucketAndKey path).2 ≠ [] ∧ path.getLast? ≠ some '/' then
    .object
  else if (bucketAndKey path).1 ≠ [] ∧ (bucketAndKey path).2 = [] then .bucket
  else .neither

/-- A path without one slash in front. -/
def relative : Text → Text
  | '/' :: r => r
  | path => path

theorem bucketAndKey_eq (path : Text) :
    bucketAndKey path = (Text.cut? '/' (relative path)).getD (relative path, []) := by
  unfold bucketAndKey relative
  split
  · rfl
  · simp only

theorem bucketAndKey_of_pieces (h : pieces '/' (relative path) = q :: qs) :
    bucketAndKey path = (q, join "/" qs) := by
  have hp : relative path = join "/" (q :: qs) := by
    rw [← h]
    exact (Text.join_pieces '/' _).symm
  have hq : '/' ∉ q := by
    have hmem : q ∈ pieces '/' (relative path) := by simp [h]
    exact Canonical.slash_not_mem_segment hmem
  rw [bucketAndKey_eq, hp]
  cases qs with
  | nil =>
    have hcut : Text.cut? '/' q = none := Text.cut?_eq_none.2 hq
    simp [join, hcut]
  | cons r rs =>
    have hcut : Text.cut? '/' (join "/" (q :: r :: rs)) = some (q, join "/" (r :: rs)) :=
      Text.cut?_eq_some.2 ⟨by simp [join], hq⟩
    rw [hcut]
    rfl

theorem join_eq_nil : join "/" qs = [] ↔ qs = [] ∨ qs = [[]] := by
  match qs with
  | [] => simp [join]
  | [q] => simp [join]
  | q :: r :: rs => simp [join]

/-- A text ends in a separator when its last piece is empty. -/
theorem getLast?_join (hne : qs ≠ []) (h : ∀ q ∈ qs, '/' ∉ q) :
    ('/' :: join "/" qs).getLast? = some '/' ↔ qs.getLast? = some [] := by
  induction qs with
  | nil => exact absurd rfl hne
  | cons q qs ih =>
    obtain ⟨hq, hqs⟩ := List.forall_mem_cons.1 h
    cases qs with
    | nil =>
      rcases List.eq_nil_or_concat q with rfl | ⟨q', c, rfl⟩
      · simp [join]
      · have hc : c ≠ '/' := by
          rintro rfl
          exact hq (by simp)
        have hlast : ('/' :: (q' ++ [c])).getLast? = some c := by
          rw [← List.cons_append, List.getLast?_concat]
        simp [join, hlast, hc]
    | cons r rs =>
      have hstep : ('/' :: join "/" (q :: r :: rs)).getLast? =
          ('/' :: join "/" (r :: rs)).getLast? := by
        rw [Text.join_cons _ _ (by simp), List.append_assoc, ← List.cons_append,
          List.getLast?_append_of_ne_nil _ (by simp)]
        rfl
      rw [hstep, ih (by simp) hqs, List.getLast?_cons_cons]

/-- Where there is a key, a path ends as its key does. -/
theorem getLast?_of_pieces (h : pieces '/' (relative path) = q :: qs) (hqs : qs ≠ []) :
    path.getLast? = some '/' ↔ qs.getLast? = some [] := by
  have hp : relative path = q ++ '/' :: join "/" qs := by
    have hjoin : relative path = join "/" (q :: qs) := by
      rw [← h]
      exact (Text.join_pieces '/' _).symm
    rw [hjoin, Text.join_cons _ _ hqs]
    simp
  have hfree : ∀ r ∈ qs, '/' ∉ r := by
    intro r hr
    have hmem : r ∈ pieces '/' (relative path) := by simp [h, hr]
    exact Canonical.slash_not_mem_segment hmem
  have hlast : path.getLast? = ('/' :: join "/" qs).getLast? := by
    have hrelative : path = relative path ∨ path = '/' :: relative path := by
      unfold relative
      split
      · exact .inr rfl
      · exact .inl rfl
    rcases hrelative with hr | hr
    · rw [hr, hp, List.getLast?_append_of_ne_nil _ (by simp)]
    · rw [hr, hp, ← List.cons_append, List.getLast?_append_of_ne_nil _ (by simp)]
  rw [hlast, getLast?_join hqs hfree]

/-- Which segments are empty, the slash in front aside. -/
def marks (path : Text) : List Bool := (pieces '/' (relative path)).map List.isEmpty

def placeOf : List Bool → Place
  | false :: ms =>
    if ms = [] ∨ ms = [true] then .bucket
    else if ms.getLast? = some true then .neither
    else .object
  | _ => .neither

theorem place_eq (path : Text) : place path = placeOf (marks path) := by
  obtain ⟨q, qs, h⟩ : ∃ q qs, pieces '/' (relative path) = q :: qs :=
    List.exists_cons_of_ne_nil (Text.piecesBy_ne_nil (· == '/') (relative path))
  have hmarks : marks path = q.isEmpty :: qs.map List.isEmpty := by
    rw [marks, h, List.map_cons]
  have hkey : qs.map List.isEmpty = [] ∨ qs.map List.isEmpty = [true] ↔ join "/" qs = [] := by
    rw [join_eq_nil]
    simp [List.map_eq_singleton_iff]
  have hlast : join "/" qs ≠ [] →
      ((qs.map List.isEmpty).getLast? = some true ↔ path.getLast? = some '/') := by
    intro hne
    have hqs : qs ≠ [] := by
      rintro rfl
      exact hne rfl
    rw [getLast?_of_pieces h hqs, List.getLast?_map]
    simp
  rw [place, bucketAndKey_of_pieces h, hmarks]
  generalize join "/" qs = key at hkey hlast
  generalize qs.map List.isEmpty = ms at hkey hlast
  cases q with
  | nil => simp [placeOf]
  | cons c q =>
    by_cases hnil : key = []
    · simp [placeOf, hkey, hnil]
    · by_cases hl : path.getLast? = some '/'
      · simp [placeOf, hkey, hlast hnil, hnil, hl]
      · simp [placeOf, hkey, hlast hnil, hnil, hl]

/-- The marks of a path are those of its segments, a first empty one aside. -/
def behindFirst : List Bool → List Bool
  | true :: m :: ms => m :: ms
  | ms => ms

theorem marks_eq (path : Text) :
    marks path = behindFirst ((segmentTexts path).map List.isEmpty) := by
  have hspelled : (segmentTexts path).map List.isEmpty = (pieces '/' path).map List.isEmpty := by
    rw [segmentTexts, List.map_map]
    refine List.map_congr_left fun s _ => ?_
    rw [Function.comp_apply, Bool.eq_iff_iff, List.isEmpty_iff, List.isEmpty_iff,
      Text.Percent.spelled_eq_nil]
  rw [hspelled, marks]
  unfold relative
  split
  · next r =>
    have hcut : pieces '/' ('/' :: r) = [] :: pieces '/' r := Text.piecesBy_sep (by simp) r
    obtain ⟨q, qs, h⟩ : ∃ q qs, pieces '/' r = q :: qs :=
      List.exists_cons_of_ne_nil (Text.piecesBy_ne_nil (· == '/') r)
    rw [hcut, h]
    rfl
  · next hne =>
    cases path with
    | nil => rfl
    | cons c t =>
      have hc : (c == '/') = false := by
        rw [beq_eq_false_iff_ne]
        rintro rfl
        exact hne t rfl
      obtain ⟨q, qs, h⟩ := List.exists_cons_of_ne_nil (Text.piecesBy_ne_nil (· == '/') t)
      have hcut : pieces '/' (c :: t) = (c :: q) :: qs := Text.piecesBy_cons hc h
      rw [hcut]
      rfl

theorem place_of_uri (h : Canonical.uri path = Canonical.uri path') : place path = place path' := by
  have hsegments : ∀ p p' : Text, p ≠ [] → p' ≠ [] → Canonical.uri p = Canonical.uri p' →
      place p = place p' := by
    intro p p' hp hp' heq
    have hsame := (Canonical.uri_eq_iff hp' hp).1 heq
    rw [place_eq, place_eq, marks_eq, marks_eq, hsame]
  -- The empty path has the form of the root, and like the root it names nothing.
  have hroot : ∀ p : Text, ∃ r : Text, r ≠ [] ∧ Canonical.uri r = Canonical.uri p ∧
      place r = place p := by
    intro p
    cases p with
    | nil => exact ⟨"/", by decide, by decide, by decide +kernel⟩
    | cons c t => exact ⟨c :: t, by simp, rfl, rfl⟩
  obtain ⟨r, hr, huri, hplace⟩ := hroot path
  obtain ⟨r', hr', huri', hplace'⟩ := hroot path'
  rw [← hplace, ← hplace']
  apply hsegments r r' hr hr'
  rw [huri, huri', h]

/-! ## Queries -/

theorem queryHasKey_eq (query key : Text) :
    queryHasKey query key = (itemTexts query).any fun i => i.1 == key := by
  simp only [queryHasKey, itemTexts, Canonical.queryItems, List.any_map]
  rfl

theorem queryHasKey_of_query {query query' : Text}
    (h : Canonical.query query = Canonical.query query') (key : Text) :
    queryHasKey query key = queryHasKey query' key := by
  have hperm := Canonical.query_eq_iff.1 h
  rw [queryHasKey_eq, queryHasKey_eq, Bool.eq_iff_iff, List.any_eq_true, List.any_eq_true]
  constructor
  · rintro ⟨i, hi, hkey⟩
    exact ⟨i, hperm.mem_iff.1 hi, hkey⟩
  · rintro ⟨i, hi, hkey⟩
    exact ⟨i, hperm.mem_iff.2 hi, hkey⟩

/-! ## Operations -/

/-- The operations on what a path names. -/
def operationAt (method : Text) : Place → ObjectOperation
  | .object =>
    if method = "GET" then getObject
    else if method = "PUT" then putObject
    else if method = "DELETE" then deleteObject
    else unknown
  | .bucket =>
    if method = "PUT" then createBucket
    else if method = "DELETE" then deleteBucket
    else if method = "GET" then listObjects
    else unknown
  | .neither => unknown

theorem classify_eq (method path : Text) (query : Option Text) : classify method path query =
    if queryHasKey (query.getD []) "list-type" then listObjectsV2
    else if queryHasKey (query.getD []) "uploads" then
      if method = "POST" then createMultipartUpload else listMultipartUploads
    else operationAt method (place path) := by
  have hplace : operationAt method (place path) =
      if (bucketAndKey path).1 ≠ [] ∧ (bucketAndKey path).2 ≠ [] ∧ path.getLast? ≠ some '/' then
        operationAt method .object
      else if (bucketAndKey path).1 ≠ [] ∧ (bucketAndKey path).2 = [] then
        operationAt method .bucket
      else operationAt method .neither := by
    unfold place
    split
    · rfl
    · split <;> rfl
  rw [hplace]
  rfl

theorem classify_of_form {query query' : Option Text} (method : Text)
    (hpath : Canonical.uri path = Canonical.uri path')
    (hquery : Canonical.query (query.getD []) = Canonical.query (query'.getD [])) :
    classify method path query = classify method path' query' := by
  rw [classify_eq, classify_eq, place_of_uri hpath, queryHasKey_of_query hquery,
    queryHasKey_of_query hquery]

/-- A request whose path and query are written in another way. -/
structure Respelled (r r' : RequestHead) : Prop where
  method : r.method = r'.method
  headers : r.headers = r'.headers
  uri : Canonical.uri r.uri.path = Canonical.uri r'.uri.path
  query : Canonical.query (r.uri.query.getD []) = Canonical.query (r'.uri.query.getD [])

/-- Escapes may be written in other ways, items in another order, and empty items added. -/
theorem respelled_of_texts {r r' : RequestHead} (hmethod : r.method = r'.method)
    (hheaders : r.headers = r'.headers) (hr : r.uri.path ≠ []) (hr' : r'.uri.path ≠ [])
    (hpath : segmentTexts r.uri.path = segmentTexts r'.uri.path)
    (hquery : (itemTexts (r.uri.query.getD [])).Perm (itemTexts (r'.uri.query.getD []))) :
    Respelled r r' :=
  ⟨hmethod, hheaders, (Canonical.uri_eq_iff hr' hr).2 hpath, Canonical.query_eq_iff.2 hquery⟩

theorem verifyRequest_of_respelled {r r' : RequestHead} (h : Respelled r r') (a : Authorization)
    (secret host : Text) : verifyRequest r a secret host = verifyRequest r' a secret host := by
  have hcanonical : canonicalOf r a host = canonicalOf r' a host := by
    simp only [canonicalOf, Canonical.request, h.method, h.headers, h.uri, h.query]
  rw [verifyRequest, verifyRequest, signRequest_of_canonicalOf (by rw [h.headers]) hcanonical]

/-- What the provider of object storage does for an operation. -/
def served (origin : Option Text) (handlers : OperationTable Handler) (o : ObjectOperation) :
    Handler :=
  (handlers.get? o.name).getD
    (Provider.forwardTo (origin.getD (Provider.usualOrigin Provider.storageName)))

theorem run_usual (p : Provider) (x : Exchange) : p.usual.run x =
    ((p.override? (p.classify x.call)).getD (Provider.forwardTo p.defaultOrigin)).run x := by
  have hlook : p.usual.run x = _ := Program.run_bind (Program.perform .look) _ x
  have hcall : ((Program.perform .look).run x : Call × Exchange) = (x.call, x) := rfl
  rw [hlook, hcall]
  cases p.override? (p.classify x.call) <;> rfl

theorem run_objectStorage (origin : Option Text) (handlers : OperationTable Handler)
    (x : Exchange) : (Provider.objectStorage origin handlers).handler.run x =
      (served origin handlers (classify x.call.head.method x.call.head.uri.path
        x.call.head.uri.query)).run x :=
  run_usual (Provider.objectStorage origin handlers) x

/-- Paths and queries of one form make one operation, however they are written; the
signature of a request holds for every other spelling of it, and the handler that runs is
the same. -/
theorem respelled_request_runs_same_operation :
    (∀ (method path path' : Text) (query query' : Option Text),
      Canonical.uri path = Canonical.uri path' →
      Canonical.query (query.getD []) = Canonical.query (query'.getD []) →
      classify method path query = classify method path' query') ∧
    (∀ r r' : RequestHead, r.method = r'.method → r.headers = r'.headers →
      r.uri.path ≠ [] → r'.uri.path ≠ [] →
      segmentTexts r.uri.path = segmentTexts r'.uri.path →
      (itemTexts (r.uri.query.getD [])).Perm (itemTexts (r'.uri.query.getD [])) →
      Respelled r r') ∧
    ∀ r r' : RequestHead, Respelled r r' →
      (∀ a secret host, verifyRequest r a secret host = verifyRequest r' a secret host) ∧
      ∀ origin handlers (x : Exchange), x.call.head = r ∨ x.call.head = r' →
        (Provider.objectStorage origin handlers).handler.run x =
          (served origin handlers (classify r.method r.uri.path r.uri.query)).run x := by
  refine ⟨fun method _ _ _ _ hpath hquery => classify_of_form method hpath hquery,
    fun _ _ => respelled_of_texts, ?_⟩
  intro r r' h
  refine ⟨verifyRequest_of_respelled h, ?_⟩
  rintro origin handlers x (rfl | rfl)
  · exact run_objectStorage origin handlers x
  · rw [run_objectStorage, h.method, classify_of_form _ h.uri h.query]

/-- An object whose key has an empty segment, in a bucket with a written slash. The query
is turned round, with an empty item in it. -/
theorem respelled_request_runs_same_operation_of_object :
    let r : RequestHead := ⟨"GET", .relative ⟨"/a%2Fb//c%zé", some "x=%41&y"⟩, []⟩
    let r' : RequestHead := ⟨"GET", .relative ⟨"/a%2fb//%63%25z%C3%A9", some "y=&&x=A"⟩, []⟩
    Respelled r r' ∧
      classify r.method r.uri.path r.uri.query = .getObject ∧
      classify r.method r.uri.path r.uri.query = classify r'.method r'.uri.path r'.uri.query ∧
      ∀ a secret host, verifyRequest r a secret host = verifyRequest r' a secret host := by
  intro r r'
  obtain ⟨hclassify, htexts, hrun⟩ := respelled_request_runs_same_operation
  have h : Respelled r r' := by
    apply htexts r r' rfl rfl
    · decide
    · decide
    · decide +kernel
    · decide +kernel
  refine ⟨h, by decide +kernel, ?_, (hrun r r' h).1⟩
  exact hclassify _ _ _ _ _ h.uri h.query

end Countersign.ObjectOperation
