import Countersign.Digest.Hmac
import Countersign.Http.Message
import Countersign.Signature.Authorization
import Countersign.Signature.Canonical
import Countersign.Text.Hex
import Countersign.Timestamp
/-! Signatures over requests: the string to sign, the key derived for a day and
a scope, and the check of a declared signature. -/

namespace Countersign.Signature

open Countersign.Http

def hexDigest (m : Bytes) : Text := Text.Hex.encode (Digest.Sha256.digest m)

/-- The first eight bytes of a timestamp, or all of it where they end inside a
character. -/
def dateOf (timestamp : Text) : Text :=
  let bytes := (Text.Utf8.encode timestamp).take 8
  match Text.Utf8.decode? bytes with
  | some d => if bytes.length = 8 then d else timestamp
  | none => timestamp

def scopeLine (timestamp region service : Text) : Text :=
  Text.join "/" [dateOf timestamp, region, service, scopeEnd]

def stringToSign (timestamp region service canonical : Text) : Text :=
  Text.join "\n"
    [algorithm, timestamp, scopeLine timestamp region service,
     hexDigest (Text.Utf8.encode canonical)]

/-- The key of a secret for one date, region and service. -/
def signingKey (secret date region service : Text) : Bytes :=
  [region, service, scopeEnd].foldl (fun key part => Digest.hmac key (Text.Utf8.encode part))
    (Digest.hmac (Text.Utf8.encode ("AWS4" ++ secret)) (Text.Utf8.encode date))

def sign (key : Bytes) (text : Text) : Text :=
  Text.Hex.encode (Digest.hmac key (Text.Utf8.encode text))

/-- What stands for the payload: the declared hash, if there is one in text. -/
def payloadToken (headers : Headers) : Text :=
  match headers.text? "x-amz-content-sha256" with
  | some t => Text.trim t
  | none => Canonical.unsignedPayload

/-- The trimmed `x-amz-date` value, if it is a time. -/
def timestamp (headers : Headers) : Except Fault Text :=
  match headers.first? "x-amz-date" with
  | none => .error (.invalidTimestamp "missing x-amz-date header")
  | some v =>
    match Header.text? v with
    | none => .error (.invalidTimestamp "x-amz-date is not ASCII")
    | some t =>
      match Timestamp.check (Text.trim t) with
      | .ok () => .ok (Text.trim t)
      | .error e => .error (.invalidTimestamp (Text.trim t ++ ": " ++ e.message))

/-- The values that a signature covers under each name: the effective host, and
the text values of every other name, letter case aside. -/
def signedPairs (headers : Headers) (host : Text) (names : List Text) : List (Text × Text) :=
  (Text.squeeze names).flatMap fun (n : Text) =>
    if n = "host" then [(n, host)] else (headers.texts (Text.lower n)).map fun v => (n, v)

def canonicalOf (r : RequestHead) (a : Authorization) (host : Text) : Text :=
  Canonical.request r.method r.uri.path (r.uri.query.getD [])
    (signedPairs r.headers host a.sortedHeaders) a.sortedHeaders (payloadToken r.headers)

/-- The signature that a request carries when it is sent to `host` in the scope
that `a` declares. -/
def signRequest (r : RequestHead) (a : Authorization) (secret host : Text) : Except Fault Text := do
  let time ← timestamp r.headers
  let c := a.credential
  .ok (sign (signingKey secret (dateOf time) c.region c.service)
    (stringToSign time c.region c.service (canonicalOf r a host)))

/-- The declared signature, letter case aside, is the one that `host` requires. -/
def verifyRequest (r : RequestHead) (a : Authorization) (secret host : Text) :
    Except Fault Unit := do
  let expected ← signRequest r a secret host
  if expected = Text.lower a.signature then .ok () else .error .mismatch

end Countersign.Signature
