import Countersign.Body.Frame
import Countersign.Http.Framing
/-! Requests on a connection. The near end decides from the headers and the body
how far the body goes, sends it, and the far end decides again from what it reads. -/

namespace Countersign.Http.Framing

/-- Methods whose requests carry no body that is not announced. -/
def isBodiless (method : Text) : Bool :=
  (["GET", "HEAD", "CONNECT"].map String.toList).contains method

/-- Add chunks to the last of the codings, if they are not there. -/
def addChunks : Headers → Headers
  | [] => []
  | h :: hs =>
    if h.name = "transfer-encoding".toList ∧ !isPresent hs "transfer-encoding" then
      if endsInChunks h.value then h :: hs
      else { h with value := h.value ++ Text.Utf8.encode ", chunked" } :: hs
    else h :: addChunks hs

/-- The headers with which a request is sent, and how much of a body of the given
length, if that is known, goes with them. A coding comes before a length. -/
def announced (method : Text) (hs : Headers) (length : Option Nat) : Headers × Extent :=
  if length = some 0 then (hs.erase "transfer-encoding", .absent)
  else if isPresent hs "transfer-encoding" then
    (addChunks (if (length? hs).isSome then hs.erase "content-length" else hs), .chunks)
  else match length? hs, length with
    | some n, _ => (hs, .length n)
    | none, some n => (hs.set "content-length" (rendered n), .length n)
    | none, none =>
      if isBodiless method then (hs, .absent)
      else (hs.add "transfer-encoding" (Text.Utf8.encode "chunked"), .chunks)

/-- Names that may not stand in trailers. -/
def headOnlyNames : List Text :=
  ["authorization", "cache-control", "content-encoding", "content-length", "content-range",
   "content-type", "host", "max-forwards", "set-cookie", "trailer", "transfer-encoding",
   "te"].map String.toList

/-- The trailers that the headers promise; of one name the last value counts. -/
def promised (hs trailers : Headers) : Headers :=
  let names := (hs.texts "trailer").flatMap fun t => (Text.pieces ',' t).map Text.trim
  trailers.foldl (fun kept t =>
    if !names.contains t.name || headOnlyNames.contains t.name then kept
    else if isPresent kept t.name then kept.map fun k => if k.name = t.name then t else k
    else kept ++ [t]) []

/-- The items that are sent in chunks: data up to the trailers, which end them. A
fault breaks the message off. -/
def inChunks (hs : Headers) : List Item → Option (List Item × Bool)
  | [] => some ([], false)
  | .ok (.data []) :: xs => inChunks hs xs
  | .ok (.data b) :: xs => (inChunks hs xs).map fun (ys, ended) => (.ok (.data b) :: ys, ended)
  | .ok (.trailers ts) :: _ =>
    match promised hs ts with
    | [] => some ([], true)
    | kept => some ([.ok (.trailers (trimmed kept))], true)
  | .error _ :: _ => none

/-- The data of at most `n` bytes, and how many are missing at an end without fault. -/
def upTo : Nat → List Item → Option (Bytes × Nat)
  | 0, _ => some ([], 0)
  | n, [] => some ([], n)
  | n, .ok (.data b) :: xs =>
    if n ≤ b.length then some (b.take n, 0)
    else (upTo (n - b.length) xs).map fun (bytes, missing) => (b ++ bytes, missing)
  | _, .ok (.trailers _) :: _ | _, .error _ :: _ => none

/-- What is sent of a body; nothing at all of a message that is broken off. A body
held in memory may be too short, and then the rest is waited for. -/
def sent (hs : Headers) (length : Option Nat) (body : Source) : Extent → Option Source
  | .absent => some .empty
  | .chunks => (inChunks hs body.items).map fun (items, ended) => ⟨items, body.endless && !ended⟩
  | .length n =>
    match upTo n body.items with
    | none => none
    | some (bytes, 0) => some (.full bytes)
    | some (bytes, _ + 1) =>
      if length.isSome || body.endless then some { Source.full bytes with endless := true }
      else none

/-- Whether a head is small enough to be read. -/
def isReadable (r : RequestHead) : Bool :=
  let startLine := r.method.length + (Text.Utf8.encode r.uri.render).length + 10
  decide (r.headers.length ≤ maxLines) && decide (headBytes startLine r.headers ≤ maxHeadBytes)

/-- How far a body goes after all: chunks must come last in a coding, and they
replace a length. -/
def settled (hs : Headers) (extent : Extent) : Except Nat (Headers × Extent) :=
  match (hs.values "transfer-encoding").getLast? with
  | none => .ok (hs, extent)
  | some coding => if endsInChunks coding then .ok (hs, .chunks) else .error 400

/-- The headers under which a request is received and how far they say that its
body goes, or the status with which it is refused. Lengths that come after a coding
do not count. -/
def received (r : RequestHead) : Except Nat (Headers × Extent) :=
  let hs := trimmed r.headers
  let coded := isPresent hs "transfer-encoding"
  let early := hs.takeWhile (·.name ≠ "transfer-encoding".toList)
  let counts := !coded || isPresent early "content-length"
  let lengths := if counts then (hs.values "content-length").map strictLength? else []
  let bare := hs.erase "content-length"
  if !isReadable r then .error 431
  else match lengths with
    | [] => settled bare .absent
    | none :: _ => .error 400
    | some n :: rest =>
      if lengthBound ≤ n then .error 431
      else if rest.any (· != some n) then .error 400
      else settled (bare.add "content-length" ((hs.first? "content-length").getD [])) (.length n)

/-- What becomes of a request. -/
inductive Arrival
  | request (head : RequestHead) (body : Source)
  | refused (status : Nat)
  | lost

/-- A request with a body of the given length, if that is known, at the far end. -/
def arrival (r : RequestHead) (length : Option Nat) (body : Source) : Arrival :=
  let (hs, extent) := announced r.method r.headers length
  match sent hs length body extent with
  | none => .lost
  | some source =>
    match received { r with headers := hs } with
    | .error status => .refused status
    | .ok (hs, .length (_ + 1)) =>
      .request { r with headers := hs }
        (if extent = .absent then { source with endless := true } else source)
    | .ok (hs, _) => .request { r with headers := hs } source

end Countersign.Http.Framing
