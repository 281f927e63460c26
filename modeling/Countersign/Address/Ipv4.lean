import Countersign.Text.Decimal
import Countersign.Text.Hex
/-! Version 4 addresses. The strict form has four decimal octets; the lenient
one, which ends in a number of any base, has one to four numbers of which the
last fills all octets that are left. -/

namespace Countersign.Address.Ipv4

/-- A decimal octet without zeros in front. -/
def octet? (t : Text) : Option Nat :=
  let n := Text.Decimal.value t
  if t ≠ [] ∧ t.all Text.Decimal.isDigit ∧ t.length ≤ 3 ∧ (t.length = 1 ∨ t.head? ≠ some '0')
    ∧ n < 256 then some n
  else none

def octets? (t : Text) : Option (List Nat) :=
  match (Text.pieces '.' t).mapM octet? with
  | some [a, b, c, d] => some [a, b, c, d]
  | _ => none

def render (octets : List Nat) : Text := Text.join "." (octets.map Text.Decimal.render)

/-- The value of digits of a base, if all of them are such. -/
def valueIn (base : Nat) (t : Text) : Option Nat :=
  t.foldlM (fun n c => do
    let d ← Text.Hex.value? c
    if d < base then some (n * base + d) else none) 0

/-- A number: sixteen is the base after `0x`, eight after another `0`. -/
def number? : Text → Option Nat
  | [] => none
  | '0' :: x :: t =>
    if x = 'x' ∨ x = 'X' then valueIn 16 t else valueIn 8 (x :: t)
  | t => valueIn 10 t

/-- The parts between the dots, a dot at the end ignored. -/
def parts (t : Text) : List Text :=
  match (Text.pieces '.' t).reverse with
  | [] :: q :: qs => (q :: qs).reverse
  | _ => Text.pieces '.' t

/-- Whether a host is meant as an address of version 4. -/
def endsInNumber (t : Text) : Bool :=
  match (parts t).getLast? with
  | none => false
  | some q => (q ≠ [] && q.all Text.Decimal.isDigit) || (number? q).isSome

/-- How many numbers `k` octets can hold. -/
def capacity : Nat → Nat
  | 0 => 1
  | k + 1 => 256 * capacity k

/-- The octets of a number that fills `k` of them, highest first. -/
def split : Nat → Nat → List Nat
  | 0, _ => []
  | k + 1, n => split k (n / 256) ++ [n % 256]

def lenient? (t : Text) : Option (List Nat) := do
  let numbers ← (parts t).mapM number?
  let last ← numbers.getLast?
  let front := numbers.dropLast
  let room := 4 - front.length
  if numbers.length ≤ 4 ∧ front.all (· < 256) ∧ last < capacity room then
    some (front ++ split room last)
  else none

end Countersign.Address.Ipv4
