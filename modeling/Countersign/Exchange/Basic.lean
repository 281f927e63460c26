import Countersign.Call.Forwarding
import Countersign.Context
import Countersign.Exchange.Note
import Countersign.Forward.Url
import Countersign.Response
/-! An exchange: a call, what surrounds it, and everything that has happened to
the outside so far. -/

namespace Countersign

inductive Party
  | engine
  | handler
deriving DecidableEq, Repr

inductive Event
  | keyAsked (keyId : Text)
  | serviceAsked (host : Text)
  | hostAsked (host : Text)
  /-- A provider starts to work. -/
  | ran (provider : Text)
  | forwarded (request : Outbound)
  /-- A response is put into the sink. -/
  | handed (party : Party) (response : Response)
  /-- The sink is given up without a response. -/
  | sinkDropped
  | noted (n : Note)

structure Exchange where
  call : Call
  context : Context
  transport : Transport
  /-- Nobody waits for the response any more. -/
  clientGone : Bool := false
  /-- A handler holds the sink. -/
  sinkHeld : Bool := false
  plumbing : Plumbing := []
  /-- How many requests were sent to origins. -/
  sent : Nat := 0
  events : List Event := []

namespace Exchange

def record (x : Exchange) (e : Event) : Exchange := { x with events := x.events ++ [e] }

def recordAll (x : Exchange) (es : List Event) : Exchange := { x with events := x.events ++ es }

def release (x : Exchange) (b : Body) : Exchange := { x with plumbing := x.plumbing.discard b }

/-- Put a body in the place of any that the call still has. -/
def putBody (x : Exchange) (b : Body) : Exchange :=
  let x := match x.call.body with
    | some old => x.release old
    | none => x
  { x with call := { x.call with body := some b } }

def takeBody (x : Exchange) : Except Failure Body × Exchange :=
  let (taken, call) := x.call.takeBody
  (taken, { x with call })

/-- Two readers for the body: one goes on as the body, the other is handed out. -/
def splitBody (x : Exchange) : Except Failure Body × Exchange :=
  match x.call.takeBody with
  | (.error e, call) => (.error e, { x with call })
  | (.ok source, call) =>
    let stage := x.plumbing.length
    let ((onward, inspection), plumbing) := x.plumbing.duplicate source call.capacity
    (.ok inspection,
     { x with plumbing, call := { call with body := some onward, fanOut := call.fanOut ++ [stage] } })

def resolveTarget (x : Exchange) (host fallback : Text) : Except Failure Text × Exchange :=
  let (target, asked) := x.context.resolve host fallback
  (target, x.recordAll (asked.map .hostAsked))

/-- Read several bodies at once and let them go. -/
def readTogether (x : Exchange) (bs : List Body) : List Whole × Exchange :=
  let (wholes, plumbing) := x.plumbing.readTogether bs
  (wholes, { x with plumbing })

/-- A request that never gets through: its body is let go unread. -/
def undelivered (x : Exchange) (o : Outbound) (f : Failure) (meanwhile : List Body) :
    (Except Failure Response × List Whole) × Exchange :=
  let (drained, x) := (x.release o.body).readTogether meanwhile
  ((.error f, drained), x)

/-- A request that gets through as far as its body does. -/
def delivered (x : Exchange) (o : Outbound) (broken : Failure) (response : Response)
    (meanwhile : List Body) : (Except Failure Response × List Whole) × Exchange :=
  match x.readTogether (o.body :: meanwhile) with
  | ((_, .fault _) :: drained, x) => ((.error broken, drained), x)
  | (_ :: drained, x) => ((.ok response, drained), x)
  | ([], x) => ((.ok response, []), x)

/-- Hand a request to the way out. -/
def dispatch (x : Exchange) (o : Outbound) (meanwhile : List Body) :
    (Except Failure Response × List Whole) × Exchange :=
  match Url.ofUri? o.uri with
  | none => x.undelivered o (.origin .address) meanwhile
  | some url =>
    if Http.Uri.maxBytes < url.render.length then
      x.undelivered o (.origin (.oversized url.render)) meanwhile
    else match x.transport x.sent o with
    | .unreachable => x.undelivered o (.origin (.exchange url.render)) meanwhile
    | .silent => x.undelivered o (.originTimeout x.call.route.timeoutMillis) meanwhile
    | .answered status headers body =>
      x.delivered o (.origin (.exchange url.render))
        ⟨status, Http.HopByHop.strip headers, .stream body.relayed⟩ meanwhile

/-- Forward the call to `target` and read other bodies meanwhile. -/
def forward (x : Exchange) (target : Text) (meanwhile : List Body) :
    (Except Failure Response × List Whole) × Exchange :=
  match x.call.prepare target with
  | (.error f, call) =>
    let (drained, x) := { x with call }.readTogether meanwhile
    ((.error f, drained), x)
  | (.ok o, call) =>
    let (result, x) := { x with call }.record (.forwarded o) |>.dispatch o meanwhile
    (result, { x with sent := x.sent + 1 })

def hijack (x : Exchange) : Except Failure Unit × Exchange :=
  match x.call.hijack with
  | (.ok (), call) => (.ok (), { x with call, sinkHeld := true })
  | (.error e, call) => (.error e, { x with call })

/-- Put a response into the sink; nobody may be there to receive it. -/
def hand (x : Exchange) (party : Party) (r : Response) : Except Failure Unit × Exchange :=
  (if x.clientGone then .error .sinkClosed else .ok (), x.record (.handed party r))

/-- A handler sends a response through the sink that it holds, if it does. -/
def send (x : Exchange) (r : Response) : Option (Except Failure Unit) × Exchange :=
  if x.sinkHeld then
    let (sent, x) := { x with sinkHeld := false }.hand .handler r
    (some sent, x)
  else (none, x)

def dropSink (x : Exchange) : Bool × Exchange :=
  if x.sinkHeld then (true, { x with sinkHeld := false }.record .sinkDropped) else (false, x)

/-- The call is given up: every duplication that still belongs to it is aborted,
and its body is let go. -/
def abandon (x : Exchange) : Exchange :=
  let plumbing := (x.call.fanOut.foldl (fun p i => p.abort i) x.plumbing).settle
  let x : Exchange := { x with plumbing, call := x.call.detach }
  match x.call.body with
  | some b => { x.release b with call := { x.call with body := none } }
  | none => x

end Exchange

end Countersign
