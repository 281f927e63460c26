import Countersign.Body.Duplication
import Countersign.Body.Reading
/-! Bodies that are duplicated again and again: every duplication is a stage, and
a stage may take from a reader of an earlier one. -/

namespace Countersign

/-- A body in somebody's hands. -/
inductive Body
  | stream (source : Source)
  | reader (stage : Nat) (side : Side)

/-- The length of a body that is held in one piece. -/
def Body.length? : Body → Option Nat
  | .stream ⟨[], false⟩ => some 0
  | .stream ⟨[.ok (.data b)], false⟩ => some b.length
  | _ => none

structure Stage where
  source : Body
  state : Duplication

abbrev Plumbing := List Stage

namespace Plumbing

def update (p : Plumbing) (i : Nat) (f : Duplication → Duplication) : Plumbing :=
  p.modify i fun g => { g with state := f g.state }

/-- Whoever holds a body asks for its next item. -/
def poll (p : Plumbing) : Body → Poll × Body × Plumbing
  | .stream s =>
    let (answer, s) := s.poll
    (answer, .stream s, p)
  | .reader i side =>
    match p[i]? with
    | none => (.done, .reader i side, p)
    | some g =>
      let (answer, d) := g.state.poll side
      (answer, .reader i side, p.update i fun _ => d)

/-- Whoever holds a body lets it go. -/
def release (p : Plumbing) : Body → Plumbing
  | .stream _ => p
  | .reader i side => p.update i (·.drop side)

/-- Write a stage back; once its task is over, what it took from is let go. -/
def put (p : Plumbing) (i : Nat) (g : Stage) : Plumbing :=
  let p : Plumbing := p.set i g
  if g.state.isOver then p.release g.source else p

def abort (p : Plumbing) (i : Nat) : Plumbing :=
  match p[i]? with
  | none => p
  | some g => if g.state.isOver then p else p.put i { g with state := g.state.abort }

/-- The task of stage `i` takes an item from the stage's source. -/
def pull (p : Plumbing) (i : Nat) (g : Stage) : Option Plumbing :=
  if !g.state.wantsItem then none
  else
    let (answer, source, p) := p.poll g.source
    (g.state.pull answer).map fun d => p.put i ⟨source, d⟩

/-- The task of stage `i` makes a move, if it can. -/
def move (p : Plumbing) (i : Nat) (m : Move) : Option Plumbing := do
  let g ← p[i]?
  match m with
  | .quit => g.state.quit.map fun d => p.put i { g with state := d }
  | .pull => p.pull i g
  | .deliver s => (g.state.deliver s).map fun d => p.put i { g with state := d }

def taskStep (p : Plumbing) (i : Nat) : Option Plumbing := Move.all.findSome? (p.move i)

def stepAny (p : Plumbing) : Option Plumbing :=
  (List.range p.length).findSome? p.taskStep

def settleFor : Nat → Plumbing → Plumbing
  | 0, p => p
  | n + 1, p =>
    match p.stepAny with
    | some p => settleFor n p
    | none => p

def sizeOfBody : Body → Nat
  | .stream s => s.items.length
  | .reader _ _ => 0

def stageVolume (g : Stage) : Nat :=
  sizeOfBody g.source + g.state.first.queue.length + g.state.second.queue.length + 1

/-- How many items are on their way. -/
def volume (p : Plumbing) : Nat := p.foldr (fun g n => stageVolume g + n) 0

/-- Let every task act until none can: no stage handles an item more than three times. -/
def settle (p : Plumbing) : Plumbing := settleFor ((p.length + 1) * (4 * p.volume + 4)) p

/-- A new stage for a body, before its task has done anything. -/
def addStage (p : Plumbing) (source : Body) (capacity : Nat) : Plumbing :=
  p ++ [⟨source, .start capacity⟩]

/-- Start a duplication; the first reader goes on as the body, the second inspects. -/
def duplicate (p : Plumbing) (source : Body) (capacity : Nat) : (Body × Body) × Plumbing :=
  ((.reader p.length .first, .reader p.length .second), (p.addStage source capacity).settle)

/-- Ask for an item and let the tasks catch up. -/
def ask (w : Body × Plumbing) : Poll × Body × Plumbing :=
  let (answer, b, p) := w.2.poll w.1
  (answer, b, p.settle)

def readFrames (p : Plumbing) (b : Body) (n : Nat) : List Poll × Body × Plumbing :=
  Reading.frames ask n (b, p.settle)

def bound (p : Plumbing) (b : Body) : Nat := p.volume + sizeOfBody b + 3

def readAll (p : Plumbing) (b : Body) : (Bytes × Reading.Ending) × Body × Plumbing :=
  Reading.everything ask (p.bound b) (b, p.settle)

/-- Ask the `i`-th of several bodies. -/
def askNth (i : Nat) (w : List Body × Plumbing) : Poll × List Body × Plumbing :=
  match w.1[i]? with
  | none => (.done, w)
  | some b =>
    let (answer, b, p) := ask (b, w.2)
    (answer, w.1.set i b, p)

/-- Read several bodies at once, each to its end, and let them go. -/
def readTogether (p : Plumbing) (bs : List Body) : List (Bytes × Reading.Ending) × Plumbing :=
  let rounds := bs.foldr (fun b n => p.bound b + n) 1
  let (results, bs, p) := Reading.together askNth rounds (List.range bs.length) (bs, p.settle)
  (results, (bs.foldl release p).settle)

/-- Let a body go and let the tasks notice. -/
def discard (p : Plumbing) (b : Body) : Plumbing := (p.release b).settle

end Plumbing

end Countersign
