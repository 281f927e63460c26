import Countersign.Domain.Direction
import Countersign.Domain.Joining
import Countersign.Domain.NormalForm
import Countersign.Domain.Permitted
import Countersign.Domain.Punycode
/-! Names of hosts. A label that is written in ASCII for another script must
stand for a text that could not be written otherwise, and a name with a label
that runs to the left must run consistently. -/

namespace Countersign.Domain

/-! ## Labels -/

/-- Whether the next character over which none joins satisfies `p`. -/
def meets (p : Char → Bool) : Text → Bool
  | [] => false
  | c :: t => p c || (isTransparent c && meets p t)

def joiner : Char := '\u200d'
def nonJoiner : Char := '\u200c'

/-- Joiners stand after a mark that asks for them; a non-joiner also between
letters that would join. `before` runs from the joiner to the left. -/
def joinersFit (before : Text) : Text → Bool
  | [] => true
  | c :: t =>
    let afterMark := (before.head?.map isJoinerMark).getD false
    let fits :=
      if c = joiner then afterMark
      else if c = nonJoiner then
        afterMark || (meets joinsNext before && meets joinsPrevious t)
      else true
    fits && joinersFit (c :: before) t

/-- Whether an encoded label may stand for a text. -/
def isLabel (t : Text) : Bool :=
  t.any (fun c => decide (0x80 ≤ c.toNat)) && t.all isPermitted && isNormal t
    && !(t.head?.map isMark).getD false && joinersFit [] t

def encodedMark : Text := "xn--"

/-- The text that a label stands for. -/
def read? (label : Text) : Option Text :=
  match Text.after? encodedMark label with
  | none => some label
  | some code => do
    let t ← Punycode.decode? code
    if isLabel t then some t else none

/-! ## Directions -/

/-- Whether a character makes its name one that runs to the left. -/
def turns (c : Char) : Bool :=
  match Direction.of c with
  | .right | .arabicNumber => true
  | _ => false

/-- What the body of a label that runs to the right is made of, and where it ends. -/
def runsRight (ds : List Direction) : Bool :=
  ds.all (fun d => d != .right && d != .arabicNumber)
    && match (ds.reverse.dropWhile (· == .mark)).head? with
      | some .left | some .number => true
      | _ => false

def runsLeft (ds : List Direction) : Bool :=
  ds.all (· != .left) && !(ds.contains .number && ds.contains .arabicNumber)
    && (ds.reverse.dropWhile (· == .mark)).head? != some .neutral

/-- Labels begin with a letter, and that letter decides. -/
def runsWell (t : Text) : Bool :=
  match t.map Direction.of with
  | [] => true
  | .left :: ds => runsRight (.left :: ds)
  | .right :: ds => runsLeft (.right :: ds)
  | _ => false

/-- Whether a name in small letters can be looked up. -/
def isName (t : Text) : Bool :=
  match (Text.pieces '.' t).mapM read? with
  | none => false
  | some labels => !labels.any (·.any turns) || labels.all runsWell

end Countersign.Domain
