import Countersign.Call.Basic
/-! Notes that a handler takes while it works. -/

namespace Countersign

open Countersign.Http
open Countersign.Signature (Authorization)

/-- What can be seen of a call. -/
structure Snapshot where
  method : Text
  uri : Text
  inboundHost : Text
  host : Text
  authorization : Authorization
  timestamp : Text
  hijacked : Bool
  headers : Headers

def Call.snapshot (c : Call) : Snapshot :=
  { method := c.head.method
    uri := c.head.uri.render
    inboundHost := c.inboundHost
    host := c.host
    authorization := c.credentials.authorization
    timestamp := c.credentials.timestamp
    hijacked := c.hijacked
    headers := c.head.headers }

/-- All of a body, and how it ended. -/
abbrev Whole := Bytes × Reading.Ending

inductive Note
  | word (t : Text)
  | flag (b : Bool)
  | provider (name : Text)
  | sameId (b : Bool)
  | snapshot (s : Snapshot)
  | failed (f : Failure)
  | frames (ps : List Poll)
  | whole (w : Whole)
  | wholes (ws : List Whole)
  | drained (ws : List Whole)
  /-- The answer of an origin, and what was read of other bodies meanwhile. -/
  | answered (status : Nat) (headers : Headers) (body : Whole) (drained : List Whole)

end Countersign
