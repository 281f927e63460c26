import Countersign.Failure
import Countersign.Http.Uri
/-! Where a request goes: the schemes spoken to origins, the address of a path on
a host, and the keys under which a host is looked up. -/

namespace Countersign

open Countersign.Http

inductive Scheme
  | http
  | https
deriving DecidableEq, Repr

namespace Scheme

def name : Scheme → Text
  | http => "http"
  | https => "https"

def ofText (t : Text) : Except Failure Scheme :=
  if t = "https" then .ok https
  else if t = "http" then .ok http
  else .error (.invalidTarget ("unsupported upstream scheme " ++ Text.Quoted.render t))

end Scheme

namespace Http.UriFault

def message : UriFault → Text
  | empty => "empty string"
  | character => "invalid uri character"
  | authority => "invalid authority"
  | shape => "invalid format"
  | tooLong => "uri too long"

end Http.UriFault

namespace Target

/-- The absolute address of a path on a host; without a path it is `/`. -/
def uri (scheme : Scheme) (host : Text) (pq : Option PathQuery) : Except Failure Uri :=
  match Authority.check host with
  | .ok () => .ok (.absolute scheme.name host (pq.getD .root))
  | .error e => .error (.invalidTarget (host ++ ": " ++ e.message))

/-- The keys for a host: the host in small letters, and then what stands before
its last colon if only digits follow. -/
def candidates (host : Text) : List Text :=
  let h := Text.lower host
  match Text.cutLast? ':' h with
  | some (c :: name, digits) =>
    if digits.all Text.Decimal.isDigit then [h, c :: name] else [h]
  | _ => [h]

end Target

end Countersign
