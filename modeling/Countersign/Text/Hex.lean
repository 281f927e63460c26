import Countersign.Text.Basic
/-! Base sixteen: digits of either case are read, small ones are written. -/

namespace Countersign.Text.Hex

def digit (n : Nat) : Char := .ofNat (if n < 10 then 0x30 + n else 0x57 + n)

def digitUpper (n : Nat) : Char := .ofNat (if n < 10 then 0x30 + n else 0x37 + n)

def value? (c : Char) : Option Nat :=
  if '0' ≤ c ∧ c ≤ '9' then some (c.toNat - 0x30)
  else if 'a' ≤ c ∧ c ≤ 'f' then some (c.toNat - 0x57)
  else if 'A' ≤ c ∧ c ≤ 'F' then some (c.toNat - 0x37)
  else none

def encode (bs : Bytes) : Text :=
  bs.flatMap fun b => [digit (b.toNat / 16), digit (b.toNat % 16)]

/-- The shortest numeral of `n`; `k` bounds the number of digits. -/
def numeralUpTo : Nat → Nat → Text
  | 0, _ => []
  | k + 1, n => if n < 16 then [digit n] else numeralUpTo k (n / 16) ++ [digit (n % 16)]

/-- The numeral of a code point. -/
def numeral (c : Char) : Text := numeralUpTo 6 c.toNat

end Countersign.Text.Hex
