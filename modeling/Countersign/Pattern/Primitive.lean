import Countersign.Text.Blank
import Countersign.Text.Hex
/-! The smallest parts of a pattern: single characters, kinds of characters and
places between them. -/

namespace Countersign.Pattern

/-- How a stretch of a pattern is read. -/
structure Mode where
  /-- Blanks and comments between the parts do not count. -/
  spaced : Bool := false
  /-- A pattern speaks of bytes, and those beyond ASCII are out of its reach. -/
  bytewise : Bool := false

/-- What is left of a text after blanks and comments. -/
def skipFrom (inComment : Bool) : Text → Text
  | [] => []
  | c :: t =>
    if inComment then skipFrom (c != '\n') t
    else if Text.isBlank c then skipFrom false t
    else if c = '#' then skipFrom true t
    else c :: t

def Mode.skip (m : Mode) (t : Text) : Text := if m.spaced then skipFrom false t else t

inductive Primitive
  | char (c : Char)
  /-- A byte, written with two digits. -/
  | byte (n : Nat)
  | anything
  | edge
  | wordEdge
  /-- Digits, blanks or word characters, or all others. -/
  | kind (others : Bool)
  | category
deriving DecidableEq, Repr

/-- Whether a part can be matched. Edges of words are seen in ASCII only. -/
def Primitive.fits (m : Mode) : Primitive → Bool
  | char _ | edge => true
  | byte n => !m.bytewise || decide (n < 0x80)
  | anything | category => !m.bytewise
  | wordEdge => m.bytewise
  | kind others => !(m.bytewise && others)

/-- A number of hexadecimal digits. -/
def readHex (m : Mode) : Nat → Nat → Text → Option (Nat × Text)
  | 0, v, t => some (v, t)
  | n + 1, v, t =>
    match m.skip t with
    | [] => none
    | c :: r =>
      match Text.Hex.value? c with
      | some d => readHex m n (v * 16 + d) r
      | none => none

def readCode (m : Mode) (digits : Nat) (t : Text) : Option (Primitive × Text) := do
  let (v, r) ← readHex m digits 0 t
  if v < 0xd800 ∨ (0xdfff < v ∧ v < 0x110000) then some (.char (Char.ofNat v), r) else none

/-- A category named by one letter. -/
def readCategory (m : Mode) (t : Text) : Option (Primitive × Text) :=
  match m.skip t with
  | [] => none
  | c :: r => if "CLMNPSZclmnpsz".toList.contains c then some (.category, r) else none

def isPlainEscape (c : Char) : Bool :=
  decide (c.toNat < 0x80) && !c.isAlphanum && c != '<' && c != '>'

/-- What follows a backslash. -/
def readEscape (m : Mode) : Text → Option (Primitive × Text)
  | [] => none
  | c :: t =>
    match c with
    | 'x' => (readHex m 2 0 t).map fun (v, r) => (.byte v, r)
    | 'u' => readCode m 4 t
    | 'U' => readCode m 8 t
    | 'p' | 'P' => readCategory m t
    | 'd' | 's' | 'w' => some (.kind false, t)
    | 'D' | 'S' | 'W' => some (.kind true, t)
    | 'a' => some (.char '\x07', t)
    | 'f' => some (.char '\x0c', t)
    | 't' => some (.char '\t', t)
    | 'n' => some (.char '\n', t)
    | 'r' => some (.char '\r', t)
    | 'v' => some (.char '\x0b', t)
    | 'A' | 'z' => some (.edge, t)
    | 'b' | 'B' | '<' | '>' => some (.wordEdge, t)
    | _ => if isPlainEscape c then some (.char c, t) else none

end Countersign.Pattern
