import Countersign.Address.Ipv4
/-! Version 6 addresses: eight groups of up to four hexadecimal digits, of which
`::` may stand for one zero group or more and four octets for the last two. -/

namespace Countersign.Address.Ipv6

def group? (t : Text) : Option Nat :=
  if t.length ≤ 4 ∧ t ≠ [] then Ipv4.valueIn 16 t else none

/-- Groups between colons, none in the empty text. -/
def plainGroups? (t : Text) : Option (List Nat) :=
  if t = [] then some [] else (Text.pieces ':' t).mapM group?

/-- Groups of which the last two may be octets. -/
def groups? (t : Text) : Option (List Nat) :=
  if t.contains '.' then
    let (front, quad) := match Text.cutLast? ':' t with
      | some (front, quad) => (some front, quad)
      | none => (none, t)
    match Ipv4.octets? quad, front with
    | some [a, b, c, d], none => some [a * 256 + b, c * 256 + d]
    | some [a, b, c, d], some f =>
      if f = [] then none
      else (plainGroups? f).map fun gs => gs ++ [a * 256 + b, c * 256 + d]
    | _, _ => none
  else plainGroups? t

/-- The text before and after the first `::`. -/
def gap? : Text → Option (Text × Text)
  | ':' :: ':' :: t => some ([], t)
  | [] => none
  | c :: t => (gap? t).map fun (a, b) => (c :: a, b)

def ofText? (t : Text) : Option (List Nat) :=
  match gap? t with
  | none => do
    let gs ← groups? t
    if gs.length = 8 then some gs else none
  | some (before, after) => do
    let front ← plainGroups? before
    let back ← groups? after
    if front.length + back.length < 8 then
      some (front ++ List.replicate (8 - front.length - back.length) 0 ++ back)
    else none

/-- How many zero groups a list begins with. -/
def zeros (gs : List Nat) : Nat := (gs.takeWhile (· == 0)).length

/-- The length of the longest run of zero groups. -/
def longest : List Nat → Nat
  | [] => 0
  | g :: gs => max (zeros (g :: gs)) (longest gs)

def renderGroup (g : Nat) : Text := Text.Hex.numeralUpTo 4 g

def renderGroups (gs : List Nat) : Text := Text.join ":" (gs.map renderGroup)

/-- Write the first run of `n` zero groups as `::`. -/
def renderGap (n : Nat) (front : List Nat) : List Nat → Text
  | [] => renderGroups front
  | g :: gs =>
    if zeros (g :: gs) = n then
      renderGroups front ++ "::" ++ renderGroups ((g :: gs).drop n)
    else renderGap n (front ++ [g]) gs

/-- The first longest run of zero groups is left out if it has two or more. -/
def render (gs : List Nat) : Text :=
  if longest gs < 2 then renderGroups gs else renderGap (longest gs) [] gs

end Countersign.Address.Ipv6
