import Countersign.Signature.Fault
import Countersign.Text.Elapsed
import Countersign.Text.Quoted
/-! What can go wrong with one request, and what the client is told about it. -/

namespace Countersign

/-- How the way to an origin fails. -/
inductive OriginFault
  /-- The target is no address that can be dialled. -/
  | address
  /-- Written out, the address is too long to be asked for. -/
  | oversized (url : Text)
  /-- The connection or the exchange over it broke. -/
  | exchange (url : Text)
deriving DecidableEq, Repr

def OriginFault.message : OriginFault → Text
  | address => "builder error"
  | oversized url => "builder error for url (" ++ url ++ ")"
  | exchange url => "error sending request for url (" ++ url ++ ")"

inductive Failure
  | missingAuthorization
  | malformedHeader (fault : Signature.Fault)
  | keyNotFound (keyId : Text)
  | lookup (detail : Text)
  | invalidSignature
  | providerNotFound (host : Text)
  | handler (detail : Text)
  | origin (fault : OriginFault)
  | originTimeout (millis : Nat)
  | invalidTarget (detail : Text)
  | bodyConsumed
  | alreadyHijacked
  | sinkClosed
deriving DecidableEq, Repr

namespace Failure

/-- A request that cannot be read is malformed; one that is read and found
wrong has an invalid signature. -/
def ofFault (f : Signature.Fault) : Failure :=
  if f.isMalformed then malformedHeader f else invalidSignature

def message : Failure → Text
  | missingAuthorization => "missing Authorization header"
  | malformedHeader f => f.message
  | keyNotFound k => "unknown access key id: " ++ k
  | lookup d => "lookup failed: lookup backend unavailable: " ++ d
  | invalidSignature => "the request signature does not match the signature computed for it"
  | providerNotFound h => "no service provider handles host " ++ Text.Quoted.render h
  | handler d => "handler failed: " ++ d
  | origin f => "upstream request failed: " ++ f.message
  | originTimeout ms => "upstream did not respond within " ++ Text.Elapsed.render ms
  | invalidTarget d => "invalid forward target: " ++ d
  | bodyConsumed => "request body already consumed"
  | alreadyHijacked => "response sink already hijacked"
  | sinkClosed => "response sink closed"

/-- The status of the response that reports the failure. -/
def status : Failure → Nat
  | missingAuthorization | malformedHeader _ => 400
  | keyNotFound _ | invalidSignature => 403
  | providerNotFound _ | origin _ => 502
  | originTimeout _ => 504
  | lookup _ | handler _ | invalidTarget _ | bodyConsumed | alreadyHijacked | sinkClosed => 500

/-- The code in the body of that response. -/
def code : Failure → Text
  | missingAuthorization => "MissingSecurityHeader"
  | malformedHeader _ => "AuthorizationHeaderMalformed"
  | keyNotFound _ => "InvalidAccessKeyId"
  | invalidSignature => "SignatureDoesNotMatch"
  | providerNotFound _ => "ServiceNotFound"
  | origin _ => "BadGateway"
  | originTimeout _ => "GatewayTimeout"
  | lookup _ | handler _ | invalidTarget _ | bodyConsumed | alreadyHijacked | sinkClosed =>
    "InternalError"

end Failure

end Countersign
