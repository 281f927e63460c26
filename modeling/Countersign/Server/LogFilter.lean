import Countersign.Pattern.Reading
import Countersign.Text.Decimal
import Countersign.Text.Utf8
/-! Filters for a log: directives between commas. A directive is a level, or a
target, a span in brackets or both, with a level after `=` or none. -/

namespace Countersign.LogFilter

open Text.Decimal (isDigit)

def levelNames : List Text :=
  ["error", "warn", "info", "debug", "trace", "off"].map String.toList

/-- A level is a name in any case or a number up to five; none is a level too. -/
def isLevel (t : Text) : Bool :=
  t.isEmpty || (Text.Decimal.read? 6 t).isSome || levelNames.contains (Text.lower t)

def isExponent : Text → Bool
  | [] => true
  | e :: t =>
    let digits := match t with
      | '+' :: r | '-' :: r => r
      | r => r
    (e == 'e' || e == 'E') && !digits.isEmpty && digits.all isDigit

/-- Digits with a point among them or none, then an exponent or none. -/
def isDecimal (t : Text) : Bool :=
  let whole := t.takeWhile isDigit
  match t.dropWhile isDigit with
  | '.' :: r => (!whole.isEmpty || r.head?.any isDigit) && isExponent (r.dropWhile isDigit)
  | r => !whole.isEmpty && isExponent r

/-- A number after a plus sign, which no pattern begins with. -/
def isSigned : Text → Bool
  | '+' :: t =>
    isDecimal t || (["inf", "infinity", "nan"].map String.toList).contains (Text.lower t)
  | _ => false

/-- A field is a name, with the number or the pattern of its values or without. -/
def isField (t : Text) : Bool :=
  match Text.pieces '=' t with
  | _ :: v :: _ => isSigned v || Pattern.isPattern v
  | _ => !t.isEmpty

/-- Characters with which a target may begin. -/
def opensTarget (c : Char) : Bool := c == '-' || c == ':' || c == '_' || Text.isAlphanumeric c

inductive Fault
  | invalid
  /-- A part would begin or end within a character. -/
  | divided
deriving DecidableEq, Repr

def require (b : Bool) : Except Fault Unit := if b then .ok () else .error .invalid

/-- A directive as it was given, and without its outer blanks. Its parts are found
in the bare text and read in the given one, as many bytes from the start. -/
structure Directive where
  given : Text
  bare : Text

namespace Directive

def ofText (t : Text) : Directive := ⟨t, Text.trim t⟩

/-- How many bytes stand before `rest` in the bare text. -/
def offset (d : Directive) (rest : Text) : Nat :=
  (Text.Utf8.encode d.bare).length - (Text.Utf8.encode rest).length

/-- The given text from the place of one rest to that of another, or to the end. -/
def cut (d : Directive) (start : Text) (stop : Option Text) : Except Fault Text :=
  let bytes := Text.Utf8.encode d.given
  let last := (stop.map d.offset).getD bytes.length
  match Text.Utf8.decode? (bytes.take (d.offset start)),
      Text.Utf8.decode? ((bytes.take last).drop (d.offset start)) with
  | some _, some part => .ok part
  | _, _ => .error .divided

/-- What may follow a span: nothing, or `=` and a level. -/
def checkEnd (d : Directive) : Text → Except Fault Unit
  | [] => .ok ()
  | '=' :: t => do require (isLevel (← d.cut t none))
  | _ => .error .invalid

/-- The rest of a span from a field on, and what follows it. -/
def checkFields (d : Directive) (field : Text) : Except Fault Unit :=
  match Text.cut? '\x7d' field with
  | none => .error .invalid
  | some (_, r) => do
    require (isField (← d.cut field (some ('\x7d' :: r))))
    match r with
    | ']' :: r => d.checkEnd r
    | _ => .error .invalid

/-- The rest of a span that begins with `span`, and what follows it. -/
def checkSpan (d : Directive) (span : Text) : Text → Except Fault Unit
  | [] => .error .invalid
  | c :: t =>
    if c = ']' ∨ c = '\x7b' then do
      let _ ← d.cut span (some (c :: t))
      if c = ']' then d.checkEnd t else d.checkFields t
    else d.checkSpan span t

/-- The rest of a level or a target and what follows it. -/
def checkTarget (d : Directive) : Text → Except Fault Unit
  | [] => .ok ()
  | c :: t =>
    if c = '=' ∨ c = '[' then do
      let _ ← d.cut d.bare (some (c :: t))
      if c = '=' then require (isLevel (← d.cut t none)) else d.checkSpan t t
    else d.checkTarget t

def check (d : Directive) : Except Fault Unit :=
  match d.bare with
  | [] => .error .invalid
  | c :: r =>
    if c = '[' then d.checkSpan r r
    else do
      require (opensTarget c)
      d.checkTarget r

end Directive

/-- The directives of a filter. Empty stretches between commas count for nothing. -/
def directives (t : Text) : List Directive :=
  (Text.tokensBy (· == ',') t).map Directive.ofText

/-- The first fault of a filter. -/
def check (t : Text) : Except Fault Unit := (directives t).forM Directive.check

def Fault.isDivided : Fault → Bool
  | divided => true
  | invalid => false

/-- Where directives that are not valid are passed over, others may still be divided. -/
def checkLeniently (t : Text) : Except Fault Unit :=
  match (directives t).findSome? fun d =>
    match d.check with
    | .error f => if f.isDivided then some f else none
    | .ok () => none
  with
  | some f => .error f
  | none => .ok ()

end Countersign.LogFilter
