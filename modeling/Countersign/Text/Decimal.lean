import Countersign.Text.Basic
/-! Natural numbers in base ten. -/

namespace Countersign.Text.Decimal

def isDigit (c : Char) : Bool := decide ('0' ≤ c ∧ c ≤ '9')

def render (n : Nat) : Text := Nat.toDigits 10 n

/-- The value of a row of digits. -/
def value (t : Text) : Nat := t.foldl (fun n c => n * 10 + (c.toNat - 0x30)) 0

/-- The first number that takes more than sixty-four bits. -/
def wordBound : Nat := 18446744073709551616

/-- A row of digits, an explicit `+` allowed in front, below `bound`. -/
def read? (bound : Nat) (t : Text) : Option Nat :=
  let digits := match t with
    | '+' :: r => r
    | _ => t
  if digits ≠ [] ∧ digits.all isDigit ∧ value digits < bound then some (value digits) else none

end Countersign.Text.Decimal
