import Countersign.Address.Socket
import Countersign.Front
import Countersign.Server.LogFilter
import Countersign.Settings
/-! Starting a gateway from its variables: what is read, in which order, and what
is said about the first thing that is wrong. -/

namespace Countersign.Startup

inductive Fault
  | settings (f : Settings.Fault)
  | logFilter (filter : Text)
  /-- A filter that cannot even be cut into its parts. It is not reported. -/
  | dividedFilter
  | table (content variable_ : Text)
  | address (t : Text)
deriving DecidableEq, Repr

/-- The lines that report a fault, its cause last. -/
def Fault.messages : Fault → List Text
  | settings f => ["invalid configuration", f.message]
  | logFilter t => ["invalid log level filter: " ++ t]
  | dividedFilter => []
  | table content variable_ =>
    ["failed to load " ++ content ++ " from " ++ variable_,
     (Settings.Fault.notAnObject variable_).message]
  | address t => ["invalid bind address: " ++ t, "invalid socket address syntax"]

def Fault.exitCode : Fault → Nat
  | dividedFilter => 101
  | _ => 1

/-- The variables that are always read. -/
def variableNames : List Text :=
  ((Settings.toVariables {}).map fun v => v.1) ++ ["RUST_LOG".toList]

/-- The variables that hold tables. -/
def tableNames (s : Settings) : List Text :=
  [s.keysVariable, s.hostsVariable, s.serviceHostsVariable]

/-- A gateway that is ready to listen. -/
structure Plan where
  settings : Settings
  engine : Engine
  address : Address.Socket

def table (source : Settings.Source) (content variable_ : Text) : Except Fault Table :=
  match Table.ofVariable? (source variable_) with
  | some t => .ok t
  | none => .error (.table content variable_)

/-- The level filter counts only where no finer one is given, of which the valid
directives are taken. -/
def checkLog (source : Settings.Source) (s : Settings) : Except Fault Unit :=
  let filter := match source "RUST_LOG" with
    | some finer => LogFilter.checkLeniently finer
    | none => LogFilter.check s.logLevel
  filter.mapError fun
    | .invalid => .logFilter s.logLevel
    | .divided => .dividedFilter

def route (s : Settings) : Route :=
  { scheme := if s.originScheme = "http" then .http else .https
    timeoutMillis := s.originTimeoutSeconds * 1000 }

def engine (source : Settings.Source) (s : Settings) : Except Fault Engine := do
  let keys ← table source "access keys" s.keysVariable
  let hosts ← table source "origin hosts" s.hostsVariable
  let services ← table source "service hosts" s.serviceHostsVariable
  .ok
    { registry := Registry.ofServices s.services
      keys := keys.lookup
      hosts := some hosts.lookup
      services := if services.size = 0 then none else some services.lookup
      route := route s
      capacity := s.bufferChunks }

def plan (source : Settings.Source) : Except Fault Plan := do
  let settings ← (Settings.load source).mapError .settings
  checkLog source settings
  let engine ← engine source settings
  match Address.Socket.ofText? settings.listen with
  | some address => .ok ⟨settings, engine, address⟩
  | none => .error (.address settings.listen)

end Countersign.Startup
