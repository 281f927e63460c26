import Countersign.Http.Wire
import Countersign.Server.HealthCheck
import Countersign.Server.RequestId
import Countersign.Server.Startup
import Std.Async.DNS
import Std.Async.TCP
import Std.Async.Timer
/-! The gateway as a program. It reads its variables, listens, and serves one
request on every connection. Origins are reached without encryption only. -/

namespace Countersign.CommandLine

open Countersign.Http
open Std.Async
open Std.Net

def environment (names : List Text) : IO (List (Text × Text)) := do
  let found ← names.mapM fun n => do
    match ← IO.getEnv (String.ofList n) with
    | some v => return [(n, v.toList)]
    | none => return []
  return found.flatten

/-- Everything that the settings can depend on. -/
def source : IO Settings.Source := do
  let fixed ← environment Startup.variableNames
  match Settings.load (Settings.sourceOf fixed) with
  | .ok s => return Settings.sourceOf (fixed ++ (← environment (Startup.tableNames s)))
  | .error _ => return Settings.sourceOf fixed

def socketAddress (a : IPAddr) (port : Nat) : SocketAddress :=
  match a with
  | .v4 addr => .v4 ⟨addr, .ofNat port⟩
  | .v6 addr => .v6 ⟨addr, .ofNat port⟩

def listenAddress : Address.Socket → SocketAddress
  | .v4 os port =>
    let o (i : Nat) : UInt8 := .ofNat (os.getD i 0)
    socketAddress (.v4 (.ofParts (o 0) (o 1) (o 2) (o 3))) port
  | .v6 gs port =>
    let g (i : Nat) : UInt16 := .ofNat (gs.getD i 0)
    socketAddress (.v6 (.ofParts (g 0) (g 1) (g 2) (g 3) (g 4) (g 5) (g 6) (g 7))) port

/-- A connection to the first address of a host. -/
def dial (host : Text) (port : Nat) : Async TCP.Socket.Client := do
  let bare := host.filter fun c => c ≠ '[' ∧ c ≠ ']'
  let addresses ← DNS.getAddrInfo (String.ofList bare) (toString port)
  match addresses[0]? with
  | none => throw (IO.userError "no address")
  | some a =>
    let client ← TCP.Socket.Client.mk
    client.connect (socketAddress a port)
    return client

def sendAll (client : TCP.Socket.Client) (bytes : Bytes) : Async Unit :=
  client.send (ByteArray.mk bytes.toArray)

/-- Receive until a message is whole. -/
partial def receive (client : TCP.Socket.Client) (isReply : Bool) (got : Bytes) :
    Async (Option Wire.Message) := do
  let arrived ← client.recv? 65536
  let got := got ++ ((arrived.map ByteArray.toList).getD [])
  match Wire.read arrived.isNone isReply got with
  | .whole m => return some m
  | .damaged => return none
  | .more => receive client isReply got

/-- Receive until the connection ends. -/
partial def receiveAll (client : TCP.Socket.Client) (got : Bytes) : Async Bytes := do
  match ← client.recv? 65536 with
  | some chunk => receiveAll client (got ++ chunk.toList)
  | none => return got

/-- Send a request to its origin and wait for the reply. -/
def exchange (url : Url) (o : Outbound) (plumbing : Plumbing) : Async Reply := do
  let (body, _) := (plumbing.readAll o.body).1
  let client ← dial url.host (url.port.getD (Url.defaultPort url.scheme))
  let headers := if body.isEmpty then o.headers else Wire.measured o.headers body
  let start := o.method ++ [' '] ++ url.target ++ " HTTP/1.1".toList
  sendAll client (Wire.render ⟨start, headers, body⟩)
  let reply ← receive client true []
  return match reply with
    | none => .unreachable
    | some m =>
      match Wire.status? m with
      | none => .unreachable
      | some status => .answered status m.headers (.full m.body)

def call (millis : Nat) (o : Outbound) (plumbing : Plumbing) : Async Reply := do
  match Url.ofUri? o.uri with
  | none => return .unreachable
  | some url =>
    if url.scheme ≠ Scheme.http.name then return .unreachable
    try
      Async.race (exchange url o plumbing) do
        sleep (.ofNat millis)
        return .silent
    catch _ => return .unreachable

/-- Answer a request. The engine runs again with every reply that it waited for,
and comes to the same point each time. -/
partial def answer (engine : Engine) (id : Text) (head : RequestHead) (body : Source)
    (replies : List Reply) : Async (Response × Plumbing) := do
  let transport : Transport := fun n _ => replies[n]?.getD .unreachable
  let (response, account) := Front.respond ⟨engine, transport⟩ id head body
  let sent := ((account.map (·.events)).getD []).filterMap fun
    | .forwarded o => some o
    | _ => none
  let plumbing := (account.map (·.plumbing)).getD []
  match sent[replies.length]? with
  | none => return (response, plumbing)
  | some o =>
    let reply ← call engine.route.timeoutMillis o plumbing
    answer engine id head body (replies ++ [reply])

def serve (engine : Engine) (client : TCP.Socket.Client) : Async Unit := do
  let request ← receive client false []
  let random ← IO.getRandomBytes 16
  match request.bind fun m => (Wire.requestHead? m).map fun h => (h, m.body) with
  | none => sendAll client (Wire.render ⟨"HTTP/1.1 400 Bad Request", [], []⟩)
  | some (head, body) =>
    let (r, plumbing) ← answer engine (RequestId.ofBytes random.toList) head (.full body) []
    let (bytes, _) := (plumbing.readAll r.body).1
    let start := "HTTP/1.1 ".toList ++ Text.Decimal.render r.status ++ [' ']
    let close : Header := ⟨"connection", Text.Utf8.encode "close"⟩
    sendAll client (Wire.render
      (if Framing.hasNoBody head.method r.status then ⟨start, r.headers ++ [close], []⟩
       else ⟨start, Wire.measured r.headers bytes ++ [close], bytes⟩))
  client.shutdown

partial def acceptAll (engine : Engine) (server : TCP.Socket.Server) : Async Unit := do
  let client ← server.accept
  background (do
    try serve engine client catch _ => pure ())
  acceptAll engine server

def probe (s : Settings) : IO Nat := do
  let address := HealthCheck.address s
  let reply ← try
      Async.block do
        match Text.cutLast? ':' address with
        | none => return none
        | some (host, port) =>
          let client ← dial host (Text.Decimal.value port)
          sendAll client (Text.Utf8.encode (HealthCheck.request address))
          client.shutdown
          return some (← receiveAll client [])
    catch _ => pure none
  return HealthCheck.exitCode reply

/-- The first line of a report, and its cause. -/
def complain (code : Nat) (messages : List Text) : IO UInt32 := do
  match messages with
  | [] => return .ofNat code
  | m :: causes =>
    IO.eprintln ("Error: " ++ String.ofList m)
    if causes ≠ [] then IO.eprintln "\nCaused by:"
    for c in causes do
      IO.eprintln ("    " ++ String.ofList c)
    return .ofNat code

def start (plan : Startup.Plan) : IO UInt32 := do
  try
    let server ← TCP.Socket.Server.mk
    server.bind (listenAddress plan.address)
    server.listen 128
    Async.block (acceptAll plan.engine server)
    return 0
  catch e => complain 1 ["failed to bind to ".toList ++ plan.settings.listen, e.toString.toList]

def run (args : List String) : IO UInt32 := do
  let source ← source
  match Settings.load source with
  | .error f => complain 1 (Startup.Fault.settings f).messages
  | .ok settings =>
    if args.contains "--health-check" then return .ofNat (← probe settings)
    else match Startup.plan source with
      | .error f => complain f.exitCode f.messages
      | .ok plan => start plan

end Countersign.CommandLine

def main (args : List String) : IO UInt32 := Countersign.CommandLine.run args
