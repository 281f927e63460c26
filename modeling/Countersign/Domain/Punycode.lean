import Countersign.Text.Decimal
/-! Labels of all scripts in ASCII letters. What comes before the last hyphen
stands for itself, and the digits after it tell step by step where which
character goes in. -/

namespace Countersign.Domain.Punycode

def digit? (c : Char) : Option Nat :=
  if 'a' ≤ c ∧ c ≤ 'z' then some (c.toNat - 0x61)
  else if '0' ≤ c ∧ c ≤ '9' then some (c.toNat - 0x30 + 26)
  else none

/-- The digit below which a number ends. -/
def threshold (step bias : Nat) : Nat :=
  if step ≤ bias then 1 else if bias + 26 ≤ step then 26 else step - bias

/-- Divide until at most 455 is left; the steps count thirty-six each. -/
def shrink (steps n : Nat) : Nat × Nat :=
  if 455 < n then shrink (steps + 36) (n / 35) else (steps, n)
termination_by n
decreasing_by exact Nat.div_lt_self (by omega) (by omega)

/-- The bias for the next number after `delta`, with `size` characters so far. -/
def adapt (delta size : Nat) (first : Bool) : Nat :=
  let delta := if first then delta / 700 else delta / 2
  let (steps, n) := shrink 0 (delta + delta / size)
  steps + 36 * n / (n + 38)

/-- Numbers stay below this bound. -/
def wordBound : Nat := 4294967296

/-- No code is longer than this. -/
def maxLength : Nat := 2000

structure State where
  text : Text
  code : Nat := 0x80
  place : Nat := 0
  bias : Nat := 72
  /-- The number that is being read, and where it stands. -/
  sum : Nat := 0
  weight : Nat := 1
  step : Nat := 36
  fresh : Bool := true

/-- The character that the number read just now puts in. -/
def State.put (s : State) : Option State :=
  let size := s.text.length + 1
  let code := s.code + s.sum / size
  let place := s.sum % size
  if code < 0xd800 ∨ (0xdfff < code ∧ code < 0x110000) then
    some
      { text := s.text.take place ++ Char.ofNat code :: s.text.drop place
        code
        place := place + 1
        sum := place + 1
        bias := adapt (s.sum - s.place) size (s.place == 0) }
  else none

/-- Read one more digit. -/
def State.read (s : State) (c : Char) : Option State := do
  let d ← digit? c
  let sum := s.sum + d * s.weight
  let t := threshold s.step s.bias
  if wordBound ≤ sum then none
  else if d < t then State.put { s with sum }
  else
    let weight := s.weight * (36 - t)
    if wordBound ≤ weight then none
    else some { s with sum, weight, step := s.step + 36, fresh := false }

/-- The text that a label stands for. A label with nothing before its last
hyphen and one that breaks off within a number stand for none. -/
def decode? (t : Text) : Option Text := do
  let (plain, digits) ← match Text.cutLast? '-' t with
    | none => some ([], t)
    | some ([], _) => none
    | some cut => some cut
  let s ← digits.foldlM State.read { text := plain }
  if s.fresh ∧ t.length ≤ maxLength then some s.text else none

end Countersign.Domain.Punycode
