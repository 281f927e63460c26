import Countersign.Body.Plumbing
import Countersign.Http.Uri
/-! The way out: what is handed to it and what may come back. -/

namespace Countersign

open Countersign.Http

/-- A request on its way to an origin. -/
structure Outbound where
  method : Text
  uri : Uri
  headers : Headers
  body : Body

inductive Reply
  /-- There is no connection, or it breaks before an answer. -/
  | unreachable
  /-- No answer comes in time. -/
  | silent
  | answered (status : Nat) (headers : Headers) (body : Source)
deriving Inhabited

/-- The reply to a request, given how many were sent before it. -/
abbrev Transport := Nat → Outbound → Reply

def Transport.none : Transport := fun _ _ => .unreachable

end Countersign
