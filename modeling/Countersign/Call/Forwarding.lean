import Countersign.Call.Basic
import Countersign.Forward.Transport
import Countersign.Http.HopByHop
import Countersign.Signature.Resigning
/-! Addressing a call to an origin: the host and the target change, and the
signature with them. The scope stays as it is. -/

namespace Countersign.Call

open Countersign.Http

/-- The call with another target and host. -/
def addressed (c : Call) (uri : Uri) (host : Bytes) : Call :=
  { c with head := { c.head with uri, headers := c.head.headers.set "host" host } }

/-- The `Authorization` value with a new signature; one that cannot be read or
declares no signature is written afresh. -/
def resignedValue (c : Call) (signature : Text) : Except Failure Bytes :=
  let swapped := (c.head.headers.text? "authorization").bind
    (Signature.swapSignature? signature)
  let value := swapped.getD { c.credentials.authorization with signature }.render
  match Header.value? value with
  | some v => .ok v
  | none => .error (.handler "re-signed Authorization header: failed to parse header value")

def resigned (c : Call) (signature : Text) (value : Bytes) : Call :=
  { c with
    head := { c.head with headers := c.head.headers.set "authorization" value }
    credentials := { c.credentials with
      authorization := { c.credentials.authorization with signature } } }

/-- Sign the call for `target` and write the signature into it. -/
def resign (c : Call) (target : Text) : Except Failure Call := do
  let signature ← (Signature.signRequest c.head c.credentials.authorization c.credentials.secret
    target).mapError Failure.ofFault
  let value ← c.resignedValue signature
  .ok (c.resigned signature value)

/-- The body leaves the call together with its head, which loses the headers
that concern the inbound connection only. -/
def depart (c : Call) (body : Body) : Outbound × Call :=
  (⟨c.head.method, c.head.uri, HopByHop.strip c.head.headers, body⟩, { c with body := none })

/-- Address the call to `target`: what is sent, or why nothing is. -/
def prepare (c : Call) (target : Text) : Except Failure Outbound × Call :=
  match c.body with
  | none => (.error .bodyConsumed, c)
  | some body =>
    match Target.uri c.route.scheme target c.head.uri.pathQuery?, Header.value? target with
    | .error e, _ => (.error e, c)
    | .ok _, none => (.error (.invalidTarget target), c)
    | .ok uri, some host =>
      let c := c.addressed uri host
      match c.resign target with
      | .error e => (.error e, c)
      | .ok c =>
        let (outbound, c) := c.depart body
        (.ok outbound, c)

end Countersign.Call
