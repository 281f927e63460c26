import Countersign.Text.Utf8
/-! Request targets in their three forms: a path, a bare authority, and the
absolute form that names a scheme as well. -/

namespace Countersign.Http

inductive UriFault
  | empty
  | character
  | authority
  | shape
  | tooLong
deriving DecidableEq, Repr

/-- A path and what follows its `?`. A path is never the empty text. -/
structure PathQuery where
  path : Text
  query : Option Text
deriving DecidableEq, Repr

inductive Uri
  | relative (pq : PathQuery)
  | bare (authority : Text)
  | absolute (scheme authority : Text) (pq : PathQuery)
deriving DecidableEq, Repr

namespace PathQuery

def root : PathQuery := ⟨"/", none⟩

/-- Characters that stand in a path as they are; beyond ASCII anything does. -/
def isPathChar (c : Char) : Bool :=
  decide (0x80 ≤ c.toNat) || c.isAlphanum || "!\"$%&'()*+,-./:;=@[\\]^_|~".toList.contains c
    || c.toNat == 0x7b || c.toNat == 0x7d

def isQueryChar (c : Char) : Bool :=
  (decide (0x3f ≤ c.toNat) && c.toNat != 0x7f) || c == '!' || c == '='
    || decide (0x24 ≤ c.toNat ∧ c.toNat ≤ 0x3b)

/-- The query up to a fragment, which is dropped unread. -/
def readQuery : Text → Option Text
  | [] => some []
  | c :: t =>
    if c = '#' then some []
    else if isQueryChar c then (readQuery t).map (c :: ·)
    else none

/-- The path up to a `?` or a fragment, and the query. -/
def readPath : Text → Option (Text × Option Text)
  | [] => some ([], none)
  | c :: t =>
    if c = '#' then some ([], none)
    else if c = '?' then (readQuery t).map fun q => ([], some q)
    else if isPathChar c then (readPath t).map fun (p, q) => (c :: p, q)
    else none

def ofParts (p : Text) (q : Option Text) : PathQuery := ⟨if p = [] then "/" else p, q⟩

/-- What may follow an authority: nothing, or a text that opens with one of
`/`, `?` and `#`. -/
def ofTail? (t : Text) : Option PathQuery := (readPath t).map fun (p, q) => ofParts p q

/-- A path with its query, as it stands on its own. -/
def ofText? (t : Text) : Option PathQuery :=
  match t with
  | [] => none
  | c :: r =>
    if c = '/' ∨ c = '?' ∨ c = '#' ∨ (c = '*' ∧ r = []) then ofTail? t else none

def render (pq : PathQuery) : Text :=
  pq.path ++ match pq.query with
    | none => []
    | some q => '?' :: q

end PathQuery

namespace Authority

def isAuthorityChar (c : Char) : Bool :=
  c.isAlphanum || "!$&'()*+,-.;=_~".toList.contains c

/-- What has been seen of an authority so far. -/
structure Scan where
  colons : Nat := 0
  opened : Bool := false
  closed : Bool := false
  escape : Bool := false
  atEnd : Bool := false

/-- One more character of an authority. Colons and escapes seen before an `@`
or inside brackets belong to a part that is not the host. -/
def Scan.step (s : Scan) (c : Char) : Except UriFault Scan :=
  let s := { s with atEnd := false }
  if c = ':' then
    if 8 ≤ s.colons then .error .authority else .ok { s with colons := s.colons + 1 }
  else if c = '[' then
    if s.escape || s.opened then .error .authority else .ok { s with opened := true }
  else if c = ']' then
    if !s.opened || s.closed then .error .authority
    else .ok { s with closed := true, colons := 0, escape := false }
  else if c = '@' then .ok { s with colons := 0, escape := false, atEnd := true }
  else if c = '%' then .ok { s with escape := true }
  else if isAuthorityChar c then .ok s
  else .error .character

def Scan.finish (s : Scan) : Except UriFault Unit :=
  if s.opened != s.closed || decide (1 < s.colons) || s.atEnd || s.escape then .error .authority
  else .ok ()

def isEnd (c : Char) : Bool := c == '/' || c == '?' || c == '#'

/-- The authority at the head of a text and the text from the first of `/`,
`?` and `#` on. -/
def split (s : Scan) : Text → Except UriFault (Text × Text)
  | [] => do s.finish; .ok ([], [])
  | c :: t =>
    if isEnd c then do s.finish; .ok ([], c :: t)
    else do
      let (a, rest) ← split (← s.step c) t
      .ok (c :: a, rest)

/-- A text that is an authority and nothing else. -/
def check (t : Text) : Except UriFault Unit :=
  if t = [] then .error .empty
  else do
    let (_, rest) ← split {} t
    if rest = [] then .ok () else .error .character

end Authority

namespace Uri

/-- No target is longer than this many bytes. -/
def maxBytes : Nat := 65534

def isSchemeChar (c : Char) : Bool := c.isAlphanum || "+-.~".toList.contains c

/-- A scheme in front of `://`, and what comes after. The two schemes of the
web are held in small letters, any other as it was written. -/
def scheme? (t : Text) : Option (Text × Text) :=
  let name := t.takeWhile isSchemeChar
  match Text.after? "://" (t.dropWhile isSchemeChar) with
  | none => none
  | some rest =>
    let known := Text.lower name = "http" ∨ Text.lower name = "https"
    some (if known then Text.lower name else name, rest)

def ofText (t : Text) : Except UriFault Uri :=
  if maxBytes < (Text.Utf8.encode t).length then .error .tooLong
  else match t with
  | [] => .error .empty
  | ['*'] => .ok (.relative ⟨"*", none⟩)
  | '/' :: _ =>
    match PathQuery.ofTail? t with
    | some pq => .ok (.relative pq)
    | none => .error .character
  | _ =>
    match scheme? t with
    | none => do
      let (_, rest) ← Authority.split {} t
      if rest = [] then .ok (.bare t) else .error .shape
    | some (scheme, tail) => do
      if 64 < scheme.length then .error .tooLong
      let (authority, rest) ← Authority.split {} tail
      if authority = [] then .error .shape
      match PathQuery.ofTail? rest with
      | some pq => .ok (.absolute scheme authority pq)
      | none => .error .character

def ofText? (t : Text) : Option Uri := (ofText t).toOption

def pathQuery? : Uri → Option PathQuery
  | relative pq => some pq
  | bare _ => none
  | absolute _ _ pq => some pq

/-- The path; a bare authority has the empty one. -/
def path (u : Uri) : Text := (u.pathQuery?.map (·.path)).getD []

def query (u : Uri) : Option Text := u.pathQuery?.bind (·.query)

def authority? : Uri → Option Text
  | relative _ => none
  | bare a => some a
  | absolute _ a _ => some a

def render : Uri → Text
  | relative pq => pq.render
  | bare a => a
  | absolute s a pq => s ++ "://" ++ a ++ pq.render

end Uri

end Countersign.Http
