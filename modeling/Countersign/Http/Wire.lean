import Countersign.Http.Framing
import Countersign.Text.Hex
/-! Messages as bytes on a connection. A message is read whole: its start line,
its headers, and a body that has a length, goes in chunks, or ends with the
connection. -/

namespace Countersign.Http.Wire

structure Message where
  start : Text
  headers : Headers
  body : Bytes

/-- What the bytes so far amount to. -/
inductive Progress
  | more
  | damaged
  | whole (m : Message)

def lineEnd : Bytes := [0xd, 0xa]

/-- The bytes before and after the first `mark`. -/
def cut? (mark : Bytes) : Bytes → Option (Bytes × Bytes)
  | [] => none
  | b :: bs =>
    if mark.isPrefixOf (b :: bs) then some ([], (b :: bs).drop mark.length)
    else (cut? mark bs).map fun (x, y) => (b :: x, y)

/-- The lines of a head; `n` bounds their number. -/
def lines : Nat → Bytes → List Bytes
  | 0, bs => [bs]
  | n + 1, bs =>
    match cut? lineEnd bs with
    | some (line, rest) => line :: lines n rest
    | none => [bs]

def header? (line : Bytes) : Option Header := do
  let (name, value) ← cut? [0x3a] line
  let name ← Header.name? (← Text.Utf8.decode? name)
  let value := Framing.trimValue value
  if value.all Header.isValueByte then some ⟨name, value⟩ else none

/-- The value of hexadecimal digits. -/
def chunkSize? (line : Bytes) : Option Nat := do
  let digits := (← Text.Utf8.decode? line).takeWhile (· != ';')
  if digits.isEmpty then none
  else digits.foldlM (fun n c => (Text.Hex.value? c).map (n * 16 + ·)) 0

/-- The data of the chunks up to the last, empty one, if all have arrived; `n`
bounds their number. -/
def joinChunks? : Nat → Bytes → Option Bytes
  | 0, _ => none
  | n + 1, bs => do
    let (line, rest) ← cut? lineEnd bs
    let size ← chunkSize? line
    if size = 0 then some []
    else if rest.length < size + 2 then none
    else (joinChunks? n (rest.drop (size + 2))).map (rest.take size ++ ·)

def length? (hs : Headers) : Option Nat :=
  (hs.text? "content-length").bind (Text.Decimal.read? Text.Decimal.wordBound)

/-- The body that the headers announce. A request without announcement has none
and a reply goes on until the connection ends. -/
def body (ended isReply : Bool) (hs : Headers) (bs : Bytes) : Option Bytes :=
  if (hs.first? "transfer-encoding").isSome then joinChunks? (bs.length + 1) bs
  else match length? hs with
    | some n => if bs.length < n then none else some (bs.take n)
    | none => if !isReply then some [] else if ended then some bs else none

def read (ended isReply : Bool) (bs : Bytes) : Progress :=
  let unfinished := if ended then Progress.damaged else .more
  match cut? (lineEnd ++ lineEnd) bs with
  | none => unfinished
  | some (head, rest) =>
    match lines head.length head with
    | [] => .damaged
    | start :: fields =>
      match Text.Utf8.decode? start, fields.mapM header? with
      | some start, some headers =>
        match body ended isReply headers rest with
        | some body => .whole ⟨start, headers, body⟩
        | none => unfinished
      | _, _ => .damaged

def render (m : Message) : Bytes :=
  Text.Utf8.encode m.start ++ lineEnd
    ++ m.headers.flatMap (fun h => Text.Utf8.encode (h.name ++ ": ") ++ h.value ++ lineEnd)
    ++ lineEnd ++ m.body

/-- The head of a request whose start line has a method, a target and a version. -/
def requestHead? (m : Message) : Option RequestHead :=
  match Text.pieces ' ' m.start with
  | [method, target, _] => do
    some ⟨← method? method, ← Uri.ofText? target, m.headers⟩
  | _ => none

/-- The status of a reply. -/
def status? (m : Message) : Option Nat :=
  match Text.pieces ' ' m.start with
  | _ :: status :: _ => Text.Decimal.read? 1000 status
  | _ => none

/-- The headers of a message whose body is sent as one piece. -/
def measured (hs : Headers) (bytes : Bytes) : Headers :=
  (hs.erase "transfer-encoding").set "content-length"
    (Text.Utf8.encode (Text.Decimal.render bytes.length))

end Countersign.Http.Wire
