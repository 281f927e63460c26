import Countersign.Http.Headers
import Countersign.Http.Uri
/-! The head of a request: everything but its body. -/

namespace Countersign.Http

/-- A method is one or more token characters; capitals matter. -/
def method? (t : Text) : Option Text :=
  if t ≠ [] ∧ t.all Header.isNameChar then some t else none

structure RequestHead where
  method : Text
  uri : Uri
  headers : Headers
deriving DecidableEq, Repr

/-- The host that a request is addressed to: a text `Host` value that is not
empty, else the authority of the target. -/
def RequestHead.host? (r : RequestHead) : Option Text :=
  match r.headers.text? "host" with
  | some (c :: h) => some (c :: h)
  | _ => r.uri.authority?

end Countersign.Http
