import Countersign.Text.Blank
import Countersign.Text.Decimal
/-! Request times such as `20240101T120000Z`. The reader walks the layout from
left to right and reports the first part that does not fit. -/

namespace Countersign.Timestamp

inductive Fault
  | tooShort
  | invalid
  | outOfRange
  | tooLong
deriving DecidableEq, Repr

def Fault.message : Fault → Text
  | tooShort => "premature end of input"
  | invalid => "input contains invalid characters"
  | outOfRange => "input is out of range"
  | tooLong => "trailing input"

/-- The first number that takes more than sixty-three bits. -/
def bound : Nat := 9223372036854775808

/-- A number of one digit up to `most`, below `bound`, and the rest of the text. -/
def number (most : Nat) (t : Text) : Except Fault (Nat × Text) :=
  match t with
  | [] => .error .tooShort
  | c :: _ =>
    if !Text.Decimal.isDigit c then .error .invalid
    else
      let digits := (t.take most).takeWhile Text.Decimal.isDigit
      let n := Text.Decimal.value digits
      if n < bound then .ok (n, t.drop digits.length) else .error .outOfRange

/-- A field of one or two digits, blanks before it allowed. -/
def field (lo hi : Nat) (t : Text) : Except Fault (Nat × Text) := do
  let (n, t) ← number 2 (Text.trimLeft t)
  if lo ≤ n ∧ n ≤ hi then .ok (n, t) else .error .outOfRange

def inWord (n : Int) : Bool := decide (-2147483648 ≤ n ∧ n ≤ 2147483647)

/-- A year of up to four digits, or of any length after a sign. -/
def year (t : Text) : Except Fault (Int × Text) := do
  let (n, t) ← match Text.trimLeft t with
    | '-' :: r => do let (n, r) ← number r.length r; .ok (-(n : Int), r)
    | '+' :: r => do let (n, r) ← number r.length r; .ok ((n : Int), r)
    | t => do let (n, r) ← number 4 t; .ok ((n : Int), r)
  if inWord n then .ok (n, t) else .error .outOfRange

def literal (x : Char) : Text → Except Fault Text
  | [] => .error .tooShort
  | c :: t => if c = x then .ok t else .error .invalid

def isLeap (y : Int) : Bool := y % 4 == 0 && (y % 100 != 0 || y % 400 == 0)

def daysIn (y : Int) (month : Nat) : Nat :=
  if month = 2 then if isLeap y then 29 else 28
  else if month = 4 ∨ month = 6 ∨ month = 9 ∨ month = 11 then 30
  else 31

/-- The years that a calendar date may have. -/
def inCalendar (y : Int) : Bool := decide (-262143 ≤ y ∧ y ≤ 262142)

/-- Whether a text is a time: year, month, day, `T`, hour, minute, second, `Z`. -/
def check (t : Text) : Except Fault Unit := do
  let (y, t) ← year t
  let (month, t) ← field 1 12 t
  let (day, t) ← field 1 31 t
  let t ← literal 'T' t
  let (_, t) ← field 0 23 t
  let (_, t) ← field 0 59 t
  let (_, t) ← field 0 60 t
  let t ← literal 'Z' t
  if t ≠ [] then .error .tooLong
  else if inCalendar y ∧ day ≤ daysIn y month then .ok ()
  else .error .outOfRange

end Countersign.Timestamp
