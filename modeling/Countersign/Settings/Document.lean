import Countersign.Settings
/-! Settings as a structured document, such as a JSON value. -/

namespace Countersign

inductive Document
  | nothing
  | flag (b : Bool)
  | natural (n : Nat)
  /-- A number that is negative or has a fraction or an exponent. -/
  | otherNumber
  | text (t : Text)
  | list (ds : List Document)
  | record (fields : List (Text × Document))
deriving Inhabited

namespace Document

def field? (name : Text) : Document → Option Document
  | record fields => fields.lookup name
  | _ => none

def asText? : Document → Option Text
  | text t => some t
  | _ => none

def asNatural? : Document → Option Nat
  | natural n => if n < Text.Decimal.wordBound then some n else none
  | _ => none

def asTexts? : Document → Option (List Text)
  | list ds => ds.mapM asText?
  | _ => none

end Document

namespace Settings

/-- The names of the fields, in order. -/
def fieldNames : List Text :=
  ["listen", "logLevel", "services", "keysEnv", "hostsEnv", "serviceHostsEnv",
   "upstreamScheme", "upstreamTimeoutSecs", "bodyBufferChunks"].map String.toList

/-- A record with all nine fields, others ignored, or a list of the nine values. -/
def ofDocument? (d : Document) : Option Settings := do
  let values ← match d with
    | .list ds => some ds
    | d => fieldNames.mapM fun n => d.field? n
  match values with
  | [listen, level, services, keys, hosts, serviceHosts, scheme, timeout, chunks] =>
    some
      { listen := ← listen.asText?
        logLevel := ← level.asText?
        services := ← services.asTexts?
        keysVariable := ← keys.asText?
        hostsVariable := ← hosts.asText?
        serviceHostsVariable := ← serviceHosts.asText?
        originScheme := ← scheme.asText?
        originTimeoutSeconds := ← timeout.asNatural?
        bufferChunks := ← chunks.asNatural? }
  | _ => none

def document (s : Settings) : Document :=
  .record (fieldNames.zip
    [.text s.listen, .text s.logLevel, .list (s.services.map .text), .text s.keysVariable,
     .text s.hostsVariable, .text s.serviceHostsVariable, .text s.originScheme,
     .natural s.originTimeoutSeconds, .natural s.bufferChunks])

end Settings

end Countersign
