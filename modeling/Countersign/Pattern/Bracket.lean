import Countersign.Pattern.Primitive
/-! Sets of characters in brackets, with ranges, named sets, sets within sets
and operations between them. Of each it is only told how tall it is: how deep
its parts are nested. -/

namespace Countersign.Pattern

/-- A row of parts is as tall as the tallest of them, and one more if there are several. -/
def heightOfRow : List Nat → Nat
  | [] => 0
  | [h] => h
  | hs => hs.foldr max 0 + 1

/-- An open bracket. -/
structure Bracket where
  /-- Hyphens stand for themselves here. -/
  opening : Bool := true
  /-- The heights of the members so far. -/
  members : List Nat := []
  /-- The height of what stands before the last operation. -/
  done : Option Nat := none

namespace Bracket

/-- The height of all that a bracket holds so far. -/
def height (b : Bracket) : Nat :=
  match b.done with
  | none => heightOfRow b.members
  | some left => max left (heightOfRow b.members) + 1

/-- The side of an operation is over. -/
def operate (b : Bracket) : Bracket := { opening := false, members := [], done := some b.height }

def add (b : Bracket) (height : Nat) : Bracket :=
  { b with opening := false, members := height :: b.members }

/-- A hyphen at the start. -/
def addHyphen (b : Bracket) : Bracket := { b with members := 0 :: b.members }

/-- What follows an opening bracket and the sign of a complement. A set of bytes
has no complement, for that goes beyond ASCII. -/
def open? (m : Mode) (t : Text) : Option Text :=
  match m.skip t with
  | '^' :: r => if m.bytewise then none else some r
  | r => some r

end Bracket

def setNames : List Text :=
  ["alnum", "alpha", "ascii", "blank", "cntrl", "digit", "graph", "lower", "print", "punct",
   "space", "upper", "word", "xdigit"].map String.toList

/-- A named set after its bracket, and whether it is the complement. -/
def namedSet? (t : Text) : Option (Bool × Text) := do
  let r ← Text.after? ":" t
  let (others, r) := match r with
    | '^' :: r => (true, r)
    | _ => (false, r)
  let rest ← Text.after? ":]" (r.dropWhile (· != ':'))
  if setNames.contains (r.takeWhile (· != ':')) then some (others, rest) else none

def readMember (m : Mode) : Text → Option (Primitive × Text)
  | [] => none
  | '\\' :: t => readEscape m t
  | c :: t => some (.char c, t)

/-- The code point of a single character. -/
def Primitive.code? : Primitive → Option Nat
  | .char c => some c.toNat
  | .byte n => some n
  | _ => none

/-- Whether a part may stand in a set. -/
def Primitive.isMember (m : Mode) : Primitive → Bool
  | .char c => !m.bytewise || decide (c.toNat < 0x80)
  | .byte n => !m.bytewise || decide (n < 0x80)
  | .kind others => !(m.bytewise && others)
  | .category => !m.bytewise
  | .anything | .edge | .wordEdge => false

/-- The next character that is no blank, the sign of a comment passed over once. -/
def Mode.peek? (m : Mode) (t : Text) : Option Char :=
  if !m.spaced then t.head?
  else match t.dropWhile Text.isBlank with
    | '#' :: r => (r.dropWhile Text.isBlank).head?
    | r => r.head?

/-- The end of a range, if a hyphen is there and stands for one. -/
def rangeEnd? (m : Mode) (t : Text) : Option Text :=
  match t with
  | '-' :: r => if m.peek? r = some ']' ∨ m.peek? r = some '-' then none else some (m.skip r)
  | _ => none

/-- One member of a set, or a range from one character to another. -/
def readRange (m : Mode) (t : Text) : Option Text := do
  let (p, r) ← readMember m t
  if !p.isMember m then none
  else
    let r := m.skip r
    match rangeEnd? m r with
    | none => some r
    | some r => do
      let (q, r) ← readMember m r
      let low ← p.code?
      let high ← q.code?
      if q.isMember m ∧ low ≤ high then some r else none

/-- Read up to the bracket that closes the outermost one; the height of the set and
what follows it. `n` bounds the number of steps. -/
def readSet (m : Mode) : Nat → Bracket → List Bracket → Text → Option (Nat × Text)
  | 0, _, _, _ => none
  | n + 1, b, outer, t =>
    match m.skip t with
    | [] => none
    | '-' :: '-' :: r =>
      if b.opening then readSet m n b.addHyphen outer ('-' :: r)
      else readSet m n b.operate outer r
    | '&' :: '&' :: r | '~' :: '~' :: r => readSet m n b.operate outer r
    | '[' :: r =>
      match namedSet? r with
      | some (others, r) => if m.bytewise && others then none else readSet m n (b.add 0) outer r
      | none => (Bracket.open? m r).bind fun r => readSet m n {} (b :: outer) r
    | c :: r =>
      if c = '-' ∧ b.opening then readSet m n b.addHyphen outer r
      else if c = ']' ∧ b.opening ∧ b.members = [] then readSet m n (b.add 0) outer r
      else if c = ']' then
        match outer with
        | [] => some (b.height + 1, r)
        | o :: os => readSet m n (o.add (b.height + 1)) os r
      else (readRange m (c :: r)).bind fun r => readSet m n (b.add 0) outer r

end Countersign.Pattern
