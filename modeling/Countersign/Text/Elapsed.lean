import Countersign.Text.Decimal
/-! Spans of time given in milliseconds, written in the unit that suits them. -/

namespace Countersign.Text.Elapsed

/-- The digits behind the point of `ms` thousandths, without zeros at the end. -/
def decimals (ms : Nat) : Text :=
  ((((Decimal.render (1000 + ms)).drop 1).reverse).dropWhile (· == '0')).reverse

/-- Whole and decimal seconds from one second on, milliseconds below it. -/
def render (ms : Nat) : Text :=
  if ms = 0 then "0ns"
  else if ms < 1000 then Decimal.render ms ++ "ms"
  else
    let tail := decimals (ms % 1000)
    Decimal.render (ms / 1000) ++ (if tail = [] then [] else '.' :: tail) ++ "s"

end Countersign.Text.Elapsed
