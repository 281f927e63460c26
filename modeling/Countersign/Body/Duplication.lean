import Countersign.Body.Frame
/-! One body for two readers. A task takes an item from the source, puts the
chunk into the queues of both readers, each of bounded length, and only then
takes the next. Trailers are not passed on. A reader that meets the end of a
task that was aborted gets a fault in place of a clean end. -/

namespace Countersign

inductive Side
  | first
  | second
deriving DecidableEq, Repr

abbrev Chunk := Except IoFault Bytes

structure Reader where
  queue : List Chunk := []
  dropped : Bool := false
  /-- The end or a fault has been handed out. -/
  ended : Bool := false

inductive Task
  | pulling
  /-- Holds a chunk that is still due to the sides marked. -/
  | delivering (chunk : Chunk) (toFirst toSecond : Bool)
  | finished
  | aborted

/-- What a task may do: end, take from the source, or pass its chunk to a side. -/
inductive Move
  | quit
  | pull
  | deliver (s : Side)
deriving DecidableEq, Repr

/-- The moves in the order in which they are tried. -/
def Move.all : List Move := [.quit, .pull, .deliver .first, .deliver .second]

structure Duplication where
  capacity : Nat
  task : Task := .pulling
  first : Reader := {}
  second : Reader := {}
  /-- Whether the task still serves a side; it learns of a drop when it delivers. -/
  firstServed : Bool := true
  secondServed : Bool := true

namespace Duplication

/-- Every queue has room for one chunk at least. -/
def start (capacity : Nat) : Duplication := { capacity := max capacity 1 }

def cancelled : IoFault :=
  ⟨.interrupted, "body duplication cancelled before the source ended"⟩

def isOver (d : Duplication) : Bool :=
  match d.task with
  | .finished | .aborted => true
  | _ => false

def reader (d : Duplication) : Side → Reader
  | .first => d.first
  | .second => d.second

def setReader (d : Duplication) (s : Side) (r : Reader) : Duplication :=
  match s with
  | .first => { d with first := r }
  | .second => { d with second := r }

def stopServing (d : Duplication) : Side → Duplication
  | .first => { d with firstServed := false }
  | .second => { d with secondServed := false }

/-- Once nobody is served the task ends. -/
def quit (d : Duplication) : Option Duplication :=
  match d.task with
  | .pulling => if d.firstServed || d.secondServed then none else some { d with task := .finished }
  | _ => none

/-- Whether the task would take an item. -/
def wantsItem (d : Duplication) : Bool :=
  match d.task with
  | .pulling => d.firstServed || d.secondServed
  | _ => false

/-- The task takes what the source answers. -/
def pull (d : Duplication) (p : Poll) : Option Duplication :=
  if !d.wantsItem then none
  else match p with
    | .pending => none
    | .done => some { d with task := .finished }
    | .item (.ok (.trailers _)) => some d
    | .item (.ok (.data b)) =>
      some { d with task := .delivering (.ok b) d.firstServed d.secondServed }
    | .item (.error e) =>
      some { d with task := .delivering (.error e) d.firstServed d.secondServed }

/-- What the task does while a chunk is due to the sides marked: with none left
it goes on after data and ends after a fault. -/
def due (chunk : Chunk) (toFirst toSecond : Bool) : Task :=
  if toFirst || toSecond then .delivering chunk toFirst toSecond
  else match chunk with
    | .ok _ => .pulling
    | .error _ => .finished

/-- The task passes its chunk to one side, if that side has room or is gone. -/
def deliver (d : Duplication) (s : Side) : Option Duplication :=
  match d.task with
  | .delivering chunk toFirst toSecond =>
    let isDue := match s with
      | .first => toFirst
      | .second => toSecond
    let next := match s with
      | .first => due chunk false toSecond
      | .second => due chunk toFirst false
    let r := d.reader s
    if !isDue then none
    else if r.dropped then some { d.stopServing s with task := next }
    else if r.queue.length < d.capacity then
      some { d.setReader s { r with queue := r.queue ++ [chunk] } with task := next }
    else none
  | _ => none

def frameOf : Chunk → Item
  | .ok b => .ok (.data b)
  | .error e => .error e

/-- A reader asks for its next item. -/
def poll (d : Duplication) (s : Side) : Poll × Duplication :=
  let r := d.reader s
  if r.ended then (.done, d)
  else match r.queue with
    | .ok b :: q => (.item (.ok (.data b)), d.setReader s { r with queue := q })
    | .error e :: q => (.item (.error e), d.setReader s { r with queue := q, ended := true })
    | [] =>
      match d.task with
      | .finished => (.done, d.setReader s { r with ended := true })
      | .aborted => (.item (.error cancelled), d.setReader s { r with ended := true })
      | _ => (.pending, d)

/-- A reader goes away, and its queue with it. -/
def drop (d : Duplication) (s : Side) : Duplication :=
  d.setReader s { d.reader s with queue := [], dropped := true }

def abort (d : Duplication) : Duplication :=
  if d.isOver then d else { d with task := .aborted }

end Duplication

/-- A duplication together with the body that it takes from. -/
structure Replay where
  source : Source
  state : Duplication

namespace Replay

/-- What may happen next: the task moves, a reader asks or goes away, or the
task is aborted. -/
inductive Event
  | task (m : Move)
  | poll (s : Side)
  | drop (s : Side)
  | abort
deriving DecidableEq, Repr

def start (source : Source) (capacity : Nat) : Replay := ⟨source, .start capacity⟩

/-- The state after a move of the task, if the task can make it. -/
def move (r : Replay) : Move → Option Replay
  | .quit => r.state.quit.map fun d => { r with state := d }
  | .pull =>
    let (answer, source) := r.source.poll
    (r.state.pull answer).map fun d => ⟨source, d⟩
  | .deliver s => (r.state.deliver s).map fun d => { r with state := d }

/-- The state after an event and what a reader was answered, if the event can happen. -/
def step (r : Replay) : Event → Option (Replay × Option Poll)
  | .task m => (r.move m).map fun r => (r, none)
  | .poll s =>
    if (r.state.reader s).dropped then none
    else
      let (answer, d) := r.state.poll s
      some ({ r with state := d }, some answer)
  | .drop s => some ({ r with state := r.state.drop s }, none)
  | .abort => some ({ r with state := r.state.abort }, none)

def taskStep (r : Replay) : Option Replay := Move.all.findSome? r.move

def settleFor : Nat → Replay → Replay
  | 0, r => r
  | n + 1, r =>
    match r.taskStep with
    | some r => settleFor n r
    | none => r

/-- Let the task act until it can do no more: at most three steps an item, the
end, and one item in its hands. -/
def settle (r : Replay) : Replay := settleFor (3 * r.source.items.length + 4) r

/-- A reader asks, and the task catches up. -/
def ask (s : Side) (r : Replay) : Poll × Replay :=
  let (answer, d) := r.state.poll s
  (answer, ({ r with state := d } : Replay).settle)

/-- How many items are left for any reader, with room to spare for the end. -/
def volume (r : Replay) : Nat :=
  r.source.items.length + r.state.first.queue.length + r.state.second.queue.length + 3

end Replay

end Countersign
