import Countersign.Engine
/-! The front: it answers health checks itself and gives every other request to
the engine. It watches both the engine and the sink, and the first of the two
that is ready decides the answer. -/

namespace Countersign

open Countersign.Http

namespace Front

/-- The path of health checks. -/
def healthPath : Text := "/.internal/hc"

def isHealthCheck (head : RequestHead) : Bool :=
  head.method == "GET".toList && head.uri.path == healthPath

theorem isHealthCheck_eq_false {head : RequestHead} :
    isHealthCheck head = false ↔ ¬ (head.method = "GET" ∧ head.uri.path = healthPath) := by
  simp [isHealthCheck]

/-- The far end of a sink. -/
inductive Channel
  | waiting
  | holding (r : Response)
  | closed

/-- What the front can see. -/
structure Watch where
  engineDone : Bool := false
  channel : Channel := .waiting

/-- What can happen while the front waits. -/
inductive Happening
  | engineEnds
  | sent (r : Response)
  | sinkDropped

namespace Watch

def step (w : Watch) : Happening → Watch
  | .engineEnds => { w with engineDone := true }
  | .sent r =>
    match w.channel with
    | .waiting => { w with channel := .holding r }
    | _ => w
  | .sinkDropped =>
    match w.channel with
    | .waiting => { w with channel := .closed }
    | _ => w

/-- A sink answers with what it holds, and a closed one with an internal error. -/
def fromSink (w : Watch) : Option Response :=
  match w.channel with
  | .waiting => none
  | .holding r => some r
  | .closed => some .internalError

/-- An engine that is done leaves it to what the sink holds by then. -/
def fromEngine (w : Watch) : Option Response :=
  if w.engineDone then
    match w.channel with
    | .holding r => some r
    | _ => some .internalError
  else none

/-- The answers between which the front may choose when it looks. -/
def answers (w : Watch) : List Response := w.fromEngine.toList ++ w.fromSink.toList

/-- The answer of a front that looks after each happening. -/
def answer (w : Watch) : List Happening → Option Response
  | [] => w.answers.head?
  | h :: hs =>
    match w.answers.head? with
    | some r => some r
    | none => (w.step h).answer hs

end Watch

/-- What an event means to the front. -/
def happening : Event → Option Happening
  | .handed _ r => some (.sent r)
  | .sinkDropped => some .sinkDropped
  | _ => none

/-- What the front sees of an account. -/
def happenings (a : Account) : List Happening := a.events.filterMap happening ++ [.engineEnds]

structure Service where
  engine : Engine
  transport : Transport

/-- The response to a request, and the engine's account if it had one. -/
def respond (s : Service) (id : Text) (head : RequestHead) (body : Source) :
    Response × Option Account :=
  if isHealthCheck head then (.healthy, none)
  else
    let account := s.engine.handle s.transport false id head body
    ((Watch.answer {} (happenings account)).getD .internalError, some account)

end Front

end Countersign
