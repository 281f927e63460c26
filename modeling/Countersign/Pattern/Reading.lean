import Countersign.Pattern.Bracket
import Countersign.Text.Letter
/-! Patterns: alternatives of sequences of parts, which may be repeated and put in
groups. Nothing but the question whether a text is a pattern is answered here.
Braces do not occur: a count and a long name need the closing one, and where
patterns stand in this project it ends them. -/

namespace Countersign.Pattern

/-- A group that is open around another. -/
structure Group where
  mode : Mode
  parts : List Nat
  branches : List Nat

structure State where
  mode : Mode := {}
  /-- The heights of the parts since the last bar. -/
  parts : List Nat := []
  /-- The heights of the alternatives before that. -/
  branches : List Nat := []
  outer : List Group := []
  /-- There is something in front that can be repeated. -/
  repeatable : Bool := false
  names : List Text := []

/-- Patterns may not be taller than this. -/
def maxHeight : Nat := 250

def Mode.withFlag (m : Mode) (c : Char) (on : Bool) : Mode :=
  if c = 'x' then { m with spaced := on }
  else if c = 'u' then { m with bytewise := !on }
  else m

/-- Flags up to the colon or the parenthesis that ends them. -/
def readFlags (seen : Text) (off dangling : Bool) (m : Mode) :
    Text → Option (Mode × Bool × Char × Text)
  | [] => none
  | c :: t =>
    if c = ':' ∨ c = ')' then
      if dangling then none else some (m, seen.isEmpty && !off, c, t)
    else if c = '-' then
      if off then none else readFlags seen true true m t
    else if "imsURux".toList.contains c && !seen.contains c then
      readFlags (c :: seen) off false (m.withFlag c (!off)) t
    else none

def isGroupName : Text → Bool
  | [] => false
  | c :: t =>
    (c == '_' || Text.isAlphabetic c)
      && t.all fun d => "_.[]".toList.contains d || Text.isAlphanumeric d

namespace State

/-- The height of the innermost open group. -/
def height (s : State) : Nat := heightOfRow (heightOfRow s.parts :: s.branches)

/-- One more part, which may be repeated. -/
def add (s : State) (height : Nat) : State :=
  { s with parts := height :: s.parts, repeatable := true }

def openGroup (s : State) (mode : Mode) : State :=
  { s with
    mode, parts := [], branches := [], repeatable := false
    outer := ⟨s.mode, s.parts, s.branches⟩ :: s.outer }

def closeGroup? (s : State) : Option State :=
  match s.outer with
  | [] => none
  | g :: gs =>
    some (add { s with mode := g.mode, parts := g.parts, branches := g.branches, outer := gs }
      (s.height + 1))

/-- The part in front is repeated. -/
def repeat? (s : State) : Option State :=
  match s.parts with
  | h :: hs => if s.repeatable then some { s with parts := (h + 1) :: hs } else none
  | [] => none

/-- What came before is one alternative. -/
def branch (s : State) : State :=
  { s with parts := [], branches := heightOfRow s.parts :: s.branches, repeatable := false }

/-- A group under a name that no other group has. -/
def openNamed? (s : State) (t : Text) : Option (State × Text) := do
  let (name, r) ← Text.cut? '>' t
  if isGroupName name ∧ name ∉ s.names then
    some ({ s.openGroup s.mode with names := name :: s.names }, r)
  else none

/-- Flags for a group, or for the rest of the one that is open. -/
def readFlagged (s : State) (t : Text) : Option (State × Text) := do
  let (mode, none_, stop, r) ← readFlags [] false false s.mode t
  if stop = ':' then some (s.openGroup mode, r)
  else if none_ then none
  else some ({ s with mode, parts := 0 :: s.parts, repeatable := false }, r)

/-- What follows an opening parenthesis. -/
def readGroup (s : State) (t : Text) : Option (State × Text) :=
  match s.mode.skip t with
  | '?' :: '=' :: _ | '?' :: '!' :: _ | '?' :: '<' :: '=' :: _ | '?' :: '<' :: '!' :: _ => none
  | '?' :: 'P' :: '<' :: r | '?' :: '<' :: r => s.openNamed? r
  | '?' :: r => s.readFlagged r
  | r => some (s.openGroup s.mode, r)

def put (s : State) (p : Primitive) (r : Text) : Option (State × Text) :=
  if p.fits s.mode then some (s.add 0, r) else none

/-- One part of a pattern, from its first character on. -/
def read (s : State) (c : Char) (t : Text) : Option (State × Text) :=
  match c with
  | '(' => s.readGroup t
  | ')' => s.closeGroup?.map (·, t)
  | '|' => some (s.branch, t)
  | '[' =>
    (Bracket.open? s.mode t).bind fun r =>
      (readSet s.mode (2 * r.length + 1) {} [] r).map fun (h, r) => (s.add h, r)
  | '?' | '*' | '+' => s.repeat?.map (·, (Text.after? "?" t).getD t)
  | '\x7b' => none
  | '\\' => (readEscape s.mode t).bind fun (p, r) => s.put p r
  | '.' => s.put .anything t
  | '^' | '$' => s.put .edge t
  | _ => s.put (.char c) t

/-- Read to the end; `n` bounds the number of parts. -/
def readAll : Nat → State → Text → Bool
  | 0, _, _ => false
  | n + 1, s, t =>
    match s.mode.skip t with
    | [] => s.outer.isEmpty && decide (s.height ≤ maxHeight)
    | c :: r =>
      match s.read c r with
      | some (s, r) => readAll n s r
      | none => false

end State

def isPattern (t : Text) : Bool := State.readAll (t.length + 1) {} t

end Countersign.Pattern
