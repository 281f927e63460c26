import Countersign.Body.Reading
import Countersign.Http.Framing
/-! Responses on a connection. The near end completes the headers and sends as much
of the body as they allow; the far end reads what it was told to expect. -/

namespace Countersign.Http.Framing

def asksToClose (hs : Headers) : Bool :=
  (hs.texts "connection").any fun t =>
    (Text.pieces ',' t).any fun p => Text.lower (Text.trim p) == "close".toList

/-- All values of a name on one line. -/
def onOneLine (hs : Headers) (name : Text) : Headers :=
  match hs.values name with
  | [] => hs
  | v :: vs => hs.set name (v ++ vs.flatMap fun w => Text.Utf8.encode ", " ++ w)

/-- The first value of a name alone. -/
def withFirst (hs : Headers) (name : Text) : Headers :=
  match hs.first? name with
  | none => hs
  | some v => hs.set name v

/-- A response that is about to be sent. -/
structure Outgoing where
  asked : RequestHead
  status : Nat
  headers : Headers
  /-- The length of the body, if it is known beforehand. -/
  length : Option Nat

namespace Outgoing

def isBare (o : Outgoing) : Bool := hasNoBody o.asked.method o.status

def answersHead (o : Outgoing) : Bool := o.asked.method == "HEAD".toList

def opensTunnel (o : Outgoing) : Bool :=
  o.asked.method == "CONNECT".toList && o.status / 100 == 2

def isMeasured (o : Outgoing) : Bool := isPresent o.headers "content-length"

def isCoded (o : Outgoing) : Bool := isPresent o.headers "transfer-encoding"

/-- A given length is passed over for a body that is known to be empty. -/
def skipsLength (o : Outgoing) : Bool := o.length == some 0 && !o.answersHead

/-- A length and a coding clash, unless the first of them is passed over. -/
def clashes (o : Outgoing) : Bool :=
  let early := o.headers.takeWhile (·.name ≠ "transfer-encoding".toList)
  o.isMeasured && o.isCoded
    && !(if isPresent early "content-length" then o.skipsLength else o.isBare)

/-- Whether the headers can be sent. A tunnel has no body to speak of, and a length
that nothing else tells must be one number. -/
def isSound (o : Outgoing) : Bool :=
  let lengths := (o.headers.values "content-length").map strictLength?
  !(o.opensTunnel && (o.isMeasured || o.isCoded)) && !o.clashes
    && (o.length.isSome || !o.isMeasured || (agreed? lengths).isSome)

/-- What is said about the body where the headers do not say it. -/
def ownWord (o : Outgoing) : Headers :=
  match o.length with
  | none => if o.isBare then [] else [⟨"transfer-encoding", Text.Utf8.encode "chunked"⟩]
  | some n =>
    let silent := hasNoBody (if o.answersHead then [] else o.asked.method) o.status
    if silent ∨ (o.answersHead ∧ n = 0) then [] else [⟨"content-length", rendered n⟩]

/-- The headers as they are sent. -/
def completed (o : Outgoing) : Headers :=
  let hs := if asksToClose o.asked.headers then
    o.headers.set "connection" (Text.Utf8.encode "close") else o.headers
  let hs := if o.isBare then (hs.erase "transfer-encoding").erase "trailer" else hs
  let hs := if o.skipsLength then hs.erase "content-length" else withFirst hs "content-length"
  let hs := onOneLine (onOneLine (onOneLine hs "connection") "transfer-encoding") "trailer"
  if isPresent hs "content-length" ∨ isPresent hs "transfer-encoding" then hs
  else hs ++ o.ownWord

/-- The number of lines, with one for the date. -/
def lineCount (hs : Headers) : Nat := hs.length + if isPresent hs "date" then 0 else 1

/-- Whether a head is small enough to be read. -/
def isReadable (hs : Headers) : Bool :=
  decide (lineCount hs ≤ maxLines) && decide (headBytes 0 hs ≤ maxHeadBytes)

end Outgoing

/-- The data of a body. Trailers are its end. -/
def dataOf : List Poll → Bytes × Reading.Ending
  | .item (.ok (.data b)) :: ps =>
    let (bytes, ending) := dataOf ps
    (b ++ bytes, ending)
  | .item (.ok (.trailers _)) :: _ | .done :: _ => ([], .done)
  | .item (.error e) :: _ => ([], .fault e)
  | .pending :: _ | [] => ([], .pending)

/-- What comes over of a body. A stated length may cut it short; if there is less
than that, or a fault before the end, nothing comes over. -/
def carried (hs : Headers) (body : Bytes × Reading.Ending) : Option (Bytes × Reading.Ending) :=
  if isPresent hs "transfer-encoding" then
    match body.2 with
    | .fault _ => none
    | _ => some body
  else match length? hs with
    | none => none
    | some n =>
      if n ≤ body.1.length then some (body.1.take n, .done)
      else match body.2 with
        | .pending => some body
        | _ => none

/-- A response as the far end has it. -/
structure Delivery where
  status : Nat
  headers : Headers
  body : Bytes × Reading.Ending := ([], .done)

/-- A response at the far end, if it gets there. A status that only announces
another one cannot be the last word. -/
def delivery? (o : Outgoing) (frames : List Poll) : Option Delivery :=
  let hs := o.completed
  if o.status / 100 = 1 ∧ o.status ≠ 101 then some { status := 500, headers := [] }
  else if !o.isSound ∨ !Outgoing.isReadable hs then none
  else if o.isBare then some { status := o.status, headers := trimmed hs }
  else (carried hs (dataOf frames)).map fun body =>
    { status := o.status, headers := trimmed hs, body }

end Countersign.Http.Framing
