import Countersign.Text.Blank
import Countersign.Text.Utf8
/-! Header fields in the order in which they were added. Names are held in small
letters; one name may have several values. -/

namespace Countersign.Http

structure Header where
  name : Text
  value : Bytes
deriving DecidableEq, Repr

abbrev Headers := List Header

namespace Header

def isNameChar (c : Char) : Bool :=
  c.isAlphanum || "!#$%&'*+-.^_`|~".toList.contains c

/-- A field name: one or more token characters, held in small letters. -/
def name? (t : Text) : Option Text :=
  if t ≠ [] ∧ t.all isNameChar then some (Text.lower t) else none

def isValueByte (b : UInt8) : Bool := b == 0x9 || (decide (0x20 ≤ b) && b != 0x7f)

def isTextByte (b : UInt8) : Bool := b == 0x9 || (decide (0x20 ≤ b) && decide (b < 0x7f))

/-- A value as text: tabs and visible ASCII only. -/
def text? (v : Bytes) : Option Text :=
  if v.all isTextByte then some (v.map fun b => Char.ofNat b.toNat) else none

/-- The bytes of a text that may stand as a value. -/
def value? (t : Text) : Option Bytes :=
  let v := Text.Utf8.encode t
  if v.all isValueByte then some v else none

end Header

namespace Headers

/-- The values under a name, in order. -/
def values (hs : Headers) (name : Text) : List Bytes :=
  (hs.filter (·.name = name)).map (·.value)

def first? (hs : Headers) (name : Text) : Option Bytes := (hs.values name).head?

/-- The first value under a name, if it is text. -/
def text? (hs : Headers) (name : Text) : Option Text := (hs.first? name).bind Header.text?

/-- The values under a name that are text. -/
def texts (hs : Headers) (name : Text) : List Text := (hs.values name).filterMap Header.text?

def erase (hs : Headers) (name : Text) : Headers := hs.filter (·.name ≠ name)

def add (hs : Headers) (name : Text) (value : Bytes) : Headers := hs ++ [⟨name, value⟩]

/-- Replace whatever stands under a name by one value. -/
def set (hs : Headers) (name : Text) (value : Bytes) : Headers := (hs.erase name).add name value

theorem values_add (hs : Headers) (name other : Text) (value : Bytes) :
    (hs.add name value).values other =
      hs.values other ++ if name = other then [value] else [] := by
  by_cases h : name = other <;> simp [add, values, h]

theorem values_erase (hs : Headers) (name other : Text) :
    (hs.erase name).values other = if other = name then [] else hs.values other := by
  by_cases h : other = name
  · subst h
    simp [erase, values, List.filter_filter]
  · have same : ∀ x ∈ hs,
        (decide (x.name = other) && decide (x.name ≠ name)) = decide (x.name = other) := by
      intro x _
      by_cases hx : x.name = other <;> simp_all
    simp only [erase, values, List.filter_filter, h, if_false]
    rw [List.filter_congr same]

theorem values_set (hs : Headers) (name other : Text) (value : Bytes) :
    (hs.set name value).values other = if name = other then [value] else hs.values other := by
  rw [set, values_add, values_erase]
  by_cases h : name = other <;> simp [h, eq_comm]

/-- By name, the values of one name in their order. -/
def sorted (hs : Headers) : Headers := hs.mergeSort fun a b => Text.le a.name b.name

end Headers

end Countersign.Http
