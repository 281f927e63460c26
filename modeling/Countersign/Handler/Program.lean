import Countersign.Exchange.Basic
/-! Handlers as programs. A program is over, or it does one thing to the
exchange and goes on as the result tells it; so it does finitely many things on
every path, and nothing else can happen to an exchange while it runs. -/

namespace Countersign

open Countersign.Http

/-- What a handler may do. -/
inductive Action
  | look
  | context
  | takeBody
  | putBody (b : Body)
  | splitBody
  | release (b : Body)
  | readFrames (b : Body) (n : Nat)
  | readAll (b : Body)
  | readTogether (bs : List Body)
  | setUri (u : Uri)
  | setHeaders (hs : Headers)
  | resolveTarget (host fallback : Text)
  | forward (target : Text) (meanwhile : List Body)
  | hijack
  | send (r : Response)
  | dropSink
  | note (n : Note)

/-- What it learns from it. -/
abbrev Action.Result : Action → Type
  | look => Call
  | context => Context
  | takeBody | splitBody => Except Failure Body
  | putBody _ | release _ | setUri _ | setHeaders _ | note _ => Unit
  | readFrames _ _ => List Poll × Body
  | readAll _ => Whole × Body
  | readTogether _ => List Whole
  | resolveTarget _ _ => Except Failure Text
  | forward _ _ => Except Failure Response × List Whole
  | hijack => Except Failure Unit
  | send _ => Option (Except Failure Unit)
  | dropSink => Bool

namespace Exchange

def perform (x : Exchange) : (a : Action) → a.Result × Exchange
  | .look => (x.call, x)
  | .context => (x.context, x)
  | .takeBody => x.takeBody
  | .putBody b => ((), x.putBody b)
  | .splitBody => x.splitBody
  | .release b => ((), x.release b)
  | .readFrames b n =>
    let (ps, b, plumbing) := x.plumbing.readFrames b n
    ((ps, b), { x with plumbing })
  | .readAll b =>
    let (whole, b, plumbing) := x.plumbing.readAll b
    ((whole, b), { x with plumbing })
  | .readTogether bs => x.readTogether bs
  | .setUri u => ((), { x with call := { x.call with head := { x.call.head with uri := u } } })
  | .setHeaders hs =>
    ((), { x with call := { x.call with head := { x.call.head with headers := hs } } })
  | .resolveTarget host fallback => x.resolveTarget host fallback
  | .forward target meanwhile => x.forward target meanwhile
  | .hijack => x.hijack
  | .send r => x.send r
  | .dropSink => x.dropSink
  | .note n => ((), x.record (.noted n))

end Exchange

inductive Program (α : Type)
  | done (a : α)
  | act (a : Action) (next : a.Result → Program α)

namespace Program

variable {α β : Type}

def bind : Program α → (α → Program β) → Program β
  | done a, f => f a
  | act a next, f => act a fun r => (next r).bind f

instance : Monad Program where
  pure := done
  bind := bind

def perform (a : Action) : Program a.Result := act a done

def run : Program α → Exchange → α × Exchange
  | done a, x => (a, x)
  | act a next, x =>
    let (r, x) := x.perform a
    (next r).run x

end Program

namespace Program

theorem run_bind {α β : Type} (p : Program α) (f : α → Program β) (x : Exchange) :
    (p.bind f).run x = (f (p.run x).1).run (p.run x).2 := by
  induction p generalizing x with
  | done a => rfl
  | act a next ih => exact ih _ _

end Program

/-- A handler ends with a response or a failure. -/
abbrev Handler := Program (Except Failure Response)

end Countersign
