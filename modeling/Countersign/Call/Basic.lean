import Countersign.Body.Plumbing
import Countersign.Forward.Target
import Countersign.Signature.Signing
/-! A call: one verified request, from dispatch until its response. -/

namespace Countersign

open Countersign.Http
open Countersign.Signature (Authorization)

/-- What verification learned about a request. -/
structure Credentials where
  authorization : Authorization
  timestamp : Text
  secret : Text
deriving DecidableEq, Repr

/-- How origins are spoken to. -/
structure Route where
  scheme : Scheme := .https
  timeoutMillis : Nat := 60000

structure Call where
  id : Text
  head : RequestHead
  body : Option Body
  /-- The host that the client addressed; nothing ever changes it. -/
  inboundHost : Text
  credentials : Credentials
  route : Route
  /-- The sink for the response is here until the engine or a handler takes it. -/
  hasSink : Bool := true
  hijacked : Bool := false
  /-- How many chunks a duplicated body holds for each reader. -/
  capacity : Nat := 16
  /-- The duplications that end with the call. -/
  fanOut : List Nat := []

namespace Call

def start (id : Text) (head : RequestHead) (body : Body) (credentials : Credentials)
    (route : Route) : Call :=
  { id, head, body := some body, inboundHost := head.host?.getD [], credentials, route }

def withCapacity (c : Call) (chunks : Nat) : Call := { c with capacity := max chunks 1 }

/-- The host that the request is addressed to now. -/
def host (c : Call) : Text := c.head.host?.getD c.inboundHost

def takeBody (c : Call) : Except Failure Body × Call :=
  match c.body with
  | some b => (.ok b, { c with body := none })
  | none => (.error .bodyConsumed, c)

/-- Take the sink away from the engine, once. -/
def hijack (c : Call) : Except Failure Unit × Call :=
  if c.hijacked then (.error .alreadyHijacked, c)
  else if c.hasSink then (.ok (), { c with hasSink := false, hijacked := true })
  else (.error .alreadyHijacked, c)

/-- The engine takes the sink; there is none after a hijack. -/
def takeSink (c : Call) : Bool × Call :=
  if c.hijacked then (false, c) else (c.hasSink, { c with hasSink := false })

/-- The duplications outlive the call from here on. -/
def detach (c : Call) : Call := { c with fanOut := [] }

end Call

end Countersign
