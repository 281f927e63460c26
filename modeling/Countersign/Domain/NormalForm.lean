import Countersign.Domain.Composite
import Countersign.Domain.Mark
/-! Composed normal form. A text is taken apart, the marks of each base are put
in order, and what can be composed is composed again; a text that comes back
unchanged is in normal form. Told for the characters that a label may hold. -/

namespace Countersign.Domain

/-! ## Syllables -/

def syllableBase : Nat := 0xac00
def leadBase : Nat := 0x1100
def vowelBase : Nat := 0x1161
def tailBase : Nat := 0x11a7

/-- Whether `n` is one of `count` code points from `base` on. -/
def isFrom (base count n : Nat) : Bool := decide (base ≤ n ∧ n < base + count)

/-- The two or three letters of a syllable block. -/
def letters? (n : Nat) : Option (List Nat) :=
  if isFrom syllableBase 11172 n then
    let i := n - syllableBase
    let start := [leadBase + i / 588, vowelBase + i % 588 / 28]
    some (if i % 28 = 0 then start else start ++ [tailBase + i % 28])
  else none

/-- The block of a lead and a vowel, or of a block without a tail and a tail. -/
def block? (a b : Nat) : Option Nat :=
  if isFrom leadBase 19 a ∧ isFrom vowelBase 21 b then
    some (syllableBase + (a - leadBase) * 588 + (b - vowelBase) * 28)
  else if isFrom syllableBase 11172 a ∧ (a - syllableBase) % 28 = 0
      ∧ isFrom (tailBase + 1) 27 b then
    some (a + (b - tailBase))
  else none

/-! ## Taking apart and composing -/

/-- What two characters compose to. -/
def compose? (a b : Nat) : Option Nat :=
  match block? a b with
  | some n => some n
  | none => (composites.find? fun (_, x, y) => x == a && y == b).map (·.1)

/-- The parts of a character; `n` bounds how often a base is taken apart. -/
def parts : Nat → Nat → List Nat
  | 0, c => [c]
  | n + 1, c =>
    match letters? c with
    | some ls => ls
    | none =>
      match composites.find? fun (k, _) => k == c with
      | some (_, a, b) => parts n a ++ [b]
      | none => [c]

/-- No base is composed more often than this. -/
def depth : Nat := 4

def classOf (n : Nat) : Nat := combiningClass (Char.ofNat n)

/-- Put a character before the first that is a base or has no lower class. -/
def insertMark (c : Nat) : List Nat → List Nat
  | [] => [c]
  | d :: t =>
    if 0 < classOf d ∧ classOf d < classOf c then d :: insertMark c t else c :: d :: t

/-- The marks of each base by their classes, equal ones in their order. -/
def arrange : List Nat → List Nat
  | [] => []
  | c :: t => insertMark c (arrange t)

/-- Whether a character of class `k` can reach the base past the marks held back. -/
def reaches (k : Nat) (held : List Nat) : Bool :=
  match held.getLast? with
  | none => true
  | some h => decide (classOf h < k)

/-- Compose what follows a base, whose marks so far are held back. -/
def combine (base : Nat) (held : List Nat) : List Nat → List Nat
  | [] => base :: held
  | c :: t =>
    match if reaches (classOf c) held then compose? base c else none with
    | some n => combine n held t
    | none =>
      if classOf c = 0 then base :: held ++ combine c [] t else combine base (held ++ [c]) t

def normalForm (cs : List Nat) : List Nat :=
  match arrange (cs.flatMap (parts depth)) with
  | [] => []
  | c :: t => combine c [] t

def isNormal (t : Text) : Bool :=
  let cs := t.map Char.toNat
  normalForm cs == cs

end Countersign.Domain
