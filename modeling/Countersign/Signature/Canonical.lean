import Countersign.Text.Blank
import Countersign.Text.Percent
/-! The canonical request: the text that both sides hash. It is built from the
method, the path, the query, the signed headers and a token for the payload. -/

namespace Countersign.Signature.Canonical

def unsignedPayload : Text := "UNSIGNED-PAYLOAD"

/-- Every segment in its one spelling, the slashes kept; the empty path is `/`. -/
def uri (path : Text) : Text :=
  if path = [] then "/"
  else Text.join "/" ((Text.pieces '/' path).map Text.Percent.respell)

/-- A query item as name and value; without `=` the value is empty. -/
def queryItem (item : Text) : Text × Text := (Text.cut? '=' item).getD (item, [])

def queryItems (query : Text) : List (Text × Text) :=
  (Text.tokensBy (· == '&') query).map queryItem

/-- Pairs compare by name and then by value. -/
def pairLe (p q : Text × Text) : Bool :=
  if p.1 = q.1 then Text.le p.2 q.2 else Text.le p.1 q.1

def query (query : Text) : Text :=
  let pairs := (queryItems query).map fun (n, v) => (Text.Percent.respell n, Text.Percent.respell v)
  Text.join "&" ((pairs.mergeSort pairLe).map fun (n, v) => n ++ '=' :: v)

/-- A value without outer blanks, every inner run of them one space. -/
def value (v : Text) : Text := Text.join " " (Text.words v)

/-- The values under a name, letter case aside, joined with commas. -/
def valueOf (headers : List (Text × Text)) (name : Text) : Text :=
  Text.join "," ((headers.filter fun h => Text.lower h.1 = name).map fun h => value h.2)

/-- The signed names, each once and in order. -/
def names (signed : List Text) : List Text := Text.squeeze (Text.sort (signed.map Text.lower))

/-- One line per signed name; a header that is missing counts as empty. -/
def headerBlock (headers : List (Text × Text)) (names : List Text) : Text :=
  Text.join "\n" (names.map fun n => n ++ ':' :: valueOf headers n)

def request (method path query : Text) (headers : List (Text × Text)) (signed : List Text)
    (payload : Text) : Text :=
  Text.join "\n"
    [method, uri path, Canonical.query query, headerBlock headers (names signed), [],
     Text.join ";" (names signed), payload]

end Countersign.Signature.Canonical
