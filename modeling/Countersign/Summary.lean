import Countersign.Engine
/-! One-line summaries of the parts of a gateway. No summary shows a secret. -/

namespace Countersign.Summary

/-- A name and fields in braces; `more` says that there are others. -/
def record (name : Text) (fields : List (Text × Text)) (more : Bool) : Text :=
  let shown := fields.map fun (k, v) => k ++ ": " ++ v
  let shown := if more then shown ++ ["..".toList] else shown
  name ++ " \x7b " ++ Text.join ", " shown ++ " \x7d"

def flag (b : Bool) : Text := if b then "true" else "false"

def registry (r : Registry) : Text :=
  record "ServiceRegistry" [("services", Text.Quoted.renderList r.names)] false

def operations {α : Type} (t : OperationTable α) : Text :=
  record "OperationHandlers" [("operations", Text.Quoted.renderList t.names)] false

def context (c : Context) : Text :=
  record "ProviderContext"
    [("request_id", Text.Quoted.render c.requestId),
     ("host_lookup", if c.hosts.isSome then "Some(\"...\")" else "None")] false

def sink (closed : Bool) : Text := record "ChannelSink" [("closed", flag closed)] false

def credentials (c : Credentials) : Text :=
  record "RequestCredentials"
    [("key_id", Text.Quoted.render c.authorization.credential.keyId),
     ("scope", Text.Quoted.render c.authorization.credential.scope),
     ("timestamp", Text.Quoted.render c.timestamp),
     ("key_secret", Text.Quoted.render "<redacted>")] true

def call (c : Call) : Text :=
  record "ProxiedRequest"
    [("request_id", Text.Quoted.render c.id),
     ("method", c.head.method),
     ("uri", c.head.uri.render),
     ("original_host", Text.Quoted.render c.inboundHost),
     ("credentials", credentials c.credentials),
     ("hijacked", flag c.hijacked),
     ("body_available", flag c.body.isSome)] true

def engine (e : Engine) : Text :=
  record "AwsProxyBuilder"
    [("registry", registry e.registry),
     ("duplicate_capacity", Text.Decimal.render e.capacity)] true

end Countersign.Summary
