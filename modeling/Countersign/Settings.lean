import Countersign.Text.Blank
import Countersign.Text.Decimal
/-! The settings of a gateway: nine variables, each with a default. -/

namespace Countersign

structure Settings where
  listen : Text := "0.0.0.0:8080"
  logLevel : Text := "info"
  services : List Text := ["s3".toList]
  keysVariable : Text := "GATEWAY_KEYS"
  hostsVariable : Text := "GATEWAY_HOSTS"
  serviceHostsVariable : Text := "GATEWAY_SERVICE_HOSTS"
  originScheme : Text := "https"
  originTimeoutSeconds : Nat := 60
  bufferChunks : Nat := 16
deriving DecidableEq, Repr

namespace Settings

inductive Fault
  | notANumber (name raw : Text)
  | scheme (raw : Text)
  | noChunks
  | noServices
  | notAnObject (source : Text)
deriving DecidableEq, Repr

def Fault.message : Fault → Text
  | notANumber v raw =>
    "configuration error: " ++ v ++ " must be a non-negative integer, got " ++ raw
  | scheme raw => "configuration error: UPSTREAM_SCHEME must be http or https, got " ++ raw
  | noChunks => "configuration error: BODY_BUFFER_CHUNKS must be at least 1"
  | noServices => "configuration error: SERVICES lists no services"
  | notAnObject source =>
    "configuration error: " ++ source ++ " must be a JSON object of strings"

/-- Where variables come from. -/
abbrev Source := Text → Option Text

/-- The trimmed names between commas in small letters, each once; `s3` if there
is none. -/
def readServices (raw : Text) : List Text :=
  let names := (Text.pieces ',' raw).map fun n => Text.lower (Text.trim n)
  match Text.distinct (names.filter (· ≠ [])) with
  | [] => ["s3".toList]
  | n :: ns => n :: ns

/-- Numbers fit into sixty-four bits. -/
def readNumber (name raw : Text) : Except Fault Nat :=
  match Text.Decimal.read? Text.Decimal.wordBound (Text.trim raw) with
  | some n => .ok n
  | none => .error (.notANumber name raw)

def numberOr (source : Source) (name : Text) (default : Nat) : Except Fault Nat :=
  match source name with
  | some raw => readNumber name raw
  | none => .ok default

def validate (s : Settings) : Except Fault Unit :=
  if s.originScheme ≠ "http" ∧ s.originScheme ≠ "https" then .error (.scheme s.originScheme)
  else if s.bufferChunks = 0 then .error .noChunks
  else if s.services = [] then .error .noServices
  else .ok ()

/-- Defaults first, then every variable that is set. -/
def load (source : Source) : Except Fault Settings := do
  let base : Settings := {}
  let timeout ← numberOr source "UPSTREAM_TIMEOUT_SECS" base.originTimeoutSeconds
  let chunks ← numberOr source "BODY_BUFFER_CHUNKS" base.bufferChunks
  let s : Settings :=
    { listen := (source "GATEWAY_LISTEN").getD base.listen
      logLevel := (source "LOG_LEVEL").getD base.logLevel
      services := ((source "SERVICES").map readServices).getD base.services
      keysVariable := (source "KEYS_ENV").getD base.keysVariable
      hostsVariable := (source "HOSTS_ENV").getD base.hostsVariable
      serviceHostsVariable := (source "SERVICE_HOSTS_ENV").getD base.serviceHostsVariable
      originScheme :=
        ((source "UPSTREAM_SCHEME").map fun v => Text.lower (Text.trim v)).getD base.originScheme
      originTimeoutSeconds := timeout
      bufferChunks := chunks }
  s.validate
  .ok s

/-- Every field written back to its variable. -/
def toVariables (s : Settings) : List (Text × Text) :=
  [("GATEWAY_LISTEN", s.listen), ("LOG_LEVEL", s.logLevel),
   ("SERVICES", Text.join "," s.services), ("KEYS_ENV", s.keysVariable),
   ("HOSTS_ENV", s.hostsVariable), ("SERVICE_HOSTS_ENV", s.serviceHostsVariable),
   ("UPSTREAM_SCHEME", s.originScheme),
   ("UPSTREAM_TIMEOUT_SECS", Text.Decimal.render s.originTimeoutSeconds),
   ("BODY_BUFFER_CHUNKS", Text.Decimal.render s.bufferChunks)]

def sourceOf (vs : List (Text × Text)) : Source := fun name => vs.lookup name

end Settings

end Countersign
