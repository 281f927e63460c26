import Countersign.Forward.Target
import Countersign.Lookup
/-! What a handler is told beside the call: the id of the request and the table
that says where hosts are served. -/

namespace Countersign

structure Context where
  requestId : Text
  hosts : Option Lookup := none

namespace Context

/-- The origin for a host, or `fallback`; and the keys that were asked. -/
def resolve (c : Context) (host fallback : Text) : Except Failure Text × List Text :=
  match c.hosts with
  | none => (.ok fallback, [])
  | some lookup =>
    match lookup.search some (Target.candidates host) with
    | (.error e, asked) => (.error (.lookup e), asked)
    | (.ok found, asked) => (.ok (found.getD fallback), asked)

end Context

end Countersign
