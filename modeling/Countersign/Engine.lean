import Countersign.Provider.Registry
/-! The engine: verify a request, find its provider, run it and hand its
response, or the report of a failure, to the client. -/

namespace Countersign

open Countersign.Http
open Countersign.Signature (Authorization)

structure Engine where
  registry : Registry
  keys : Lookup
  hosts : Option Lookup := none
  services : Option Lookup := none
  route : Route := {}
  capacity : Nat := 16

/-- What a request claims about itself. -/
structure Claim where
  authorization : Authorization
  timestamp : Text
  host : Text

/-- How an exchange ended for the engine. -/
inductive Outcome
  | streamed (status : Nat)
  | hijacked
  | failed (status : Nat)
deriving DecidableEq, Repr

namespace Outcome

def status? : Outcome → Option Nat
  | streamed s | failed s => some s
  | hijacked => none

end Outcome

/-- An outcome with all that happened on the way. -/
structure Account where
  outcome : Outcome
  events : List Event
  plumbing : Plumbing

namespace Engine

/-- Read the claim, its parts in this order. -/
def claimOf (head : RequestHead) : Except Failure Claim :=
  match head.headers.first? "authorization" with
  | none => .error .missingAuthorization
  | some value =>
    let read : Except Signature.Fault Claim := do
      let text ← match Header.text? value with
        | some t => .ok t
        | none => .error (.malformedHeader "Authorization is not visible ASCII")
      let authorization ← Authorization.ofText text
      let timestamp ← Signature.timestamp head.headers
      match head.host? with
      | some host => .ok ⟨authorization, timestamp, host⟩
      | none => .error (.malformedHeader "missing Host")
    read.mapError Failure.ofFault

/-- Hold a claim against the secret of its key. -/
def verify (head : RequestHead) (claim : Claim) (secret : Text) : Except Failure Credentials :=
  match Signature.verifyRequest head claim.authorization secret claim.host with
  | .ok () => .ok ⟨claim.authorization, claim.timestamp, secret⟩
  | .error f => .error (.ofFault f)

/-- The credentials of a request, and the keys that were asked for. -/
def authenticate (e : Engine) (head : RequestHead) : Except Failure Credentials × List Event :=
  match claimOf head with
  | .error f => (.error f, [])
  | .ok claim =>
    let keyId := claim.authorization.credential.keyId
    let result := match e.keys keyId with
      | .error detail => .error (.lookup detail)
      | .ok none => .error (.keyNotFound keyId)
      | .ok (some secret) => verify head claim secret
    (result, [.keyAsked keyId])

/-- The registered provider that the service table names for a host. -/
def hint (e : Engine) (host : Text) : Except Failure (Option Provider) × List Event :=
  match e.services with
  | none => (.ok none, [])
  | some lookup =>
    let (found, asked) := lookup.search e.registry.get? (Target.candidates host)
    (found.mapError .lookup, asked.map .serviceAsked)

/-- The provider for a call: the named one, else the first that accepts it. -/
def provider (e : Engine) (c : Call) : Except Failure Provider × List Event :=
  let (hinted, events) := e.hint c.inboundHost
  let result := match hinted with
    | .error f => .error f
    | .ok (some p) => .ok p
    | .ok none =>
      match e.registry.resolve c with
      | some p => .ok p
      | none => .error (.providerNotFound c.inboundHost)
  (result, events)

/-- The engine hands over a response of its own, if it still has the sink. -/
def conclude (x : Exchange) (ifGone : Outcome) (ifHanded : Outcome) (r : Response) :
    Outcome × Exchange :=
  let (held, call) := x.call.takeSink
  let x := { x with call }
  if held then (ifHanded, (x.hand .engine r).2) else (ifGone, x)

def stream (x : Exchange) (r : Response) : Outcome × Exchange :=
  conclude x (.failed 500) (.streamed r.status) r

def report (x : Exchange) (f : Failure) : Outcome × Exchange :=
  conclude x (.failed f.status) (.failed f.status) (.ofFailure x.call.id f)

/-- Run a provider. Its duplications are kept alive once it has returned, and a
handler that took the sink answers for itself. -/
def runProvider (p : Provider) (x : Exchange) : Outcome × Exchange :=
  let (result, x) := p.handler.run (x.record (.ran p.name))
  let x := { x with call := x.call.detach }
  if x.call.hijacked then (.hijacked, x)
  else match result with
    | .ok r => stream x r
    | .error f => report x f

/-- The exchange in which a verified request is served. -/
def openExchange (e : Engine) (transport : Transport) (clientGone : Bool) (id : Text)
    (head : RequestHead) (body : Body) (credentials : Credentials) : Exchange :=
  { call := (Call.start id head body credentials e.route).withCapacity e.capacity
    context := { requestId := id, hosts := e.hosts }
    transport
    clientGone }

def serve (e : Engine) (x : Exchange) : Outcome × Exchange :=
  let (found, events) := e.provider x.call
  let x := x.recordAll events
  match found with
  | .error f => report x f
  | .ok p => runProvider p x

/-- Everything that one request brings about. A request that is turned down
never becomes a call. -/
def handle (e : Engine) (transport : Transport) (clientGone : Bool) (id : Text)
    (head : RequestHead) (body : Source) : Account :=
  let (credentials, events) := e.authenticate head
  match credentials with
  | .error f =>
    ⟨.failed f.status, events ++ [.handed .engine (.ofFailure id f)], []⟩
  | .ok credentials =>
    let x := e.openExchange transport clientGone id head (.stream body) credentials
    let (outcome, x) := e.serve (x.recordAll events)
    let x := x.abandon
    ⟨outcome, x.events, x.plumbing⟩

end Engine

namespace Account

def handedOf : Event → Option Response
  | .handed _ r => some r
  | _ => none

/-- The responses that were put into the sink, in order. -/
def responses (a : Account) : List Response := a.events.filterMap handedOf

end Account

end Countersign
