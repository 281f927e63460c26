import Countersign.Text.Hex
/-! JSON objects whose values are all strings, read strictly and written without
space. -/

namespace Countersign.Text.StringObject

def isSpace (c : Char) : Bool := c == ' ' || c == '\t' || c == '\n' || c == '\r'

def skip (t : Text) : Text := t.dropWhile isSpace

/-- The number of four hexadecimal digits. -/
def unit? (a b c d : Char) : Option Nat := do
  let w ← Hex.value? a
  let x ← Hex.value? b
  let y ← Hex.value? c
  let z ← Hex.value? d
  some (((w * 16 + x) * 16 + y) * 16 + z)

def plainEscape? (c : Char) : Option Char :=
  if c = '"' ∨ c = '\\' ∨ c = '/' then some c
  else if c = 'b' then some '\x08'
  else if c = 'f' then some '\x0c'
  else if c = 'n' then some '\n'
  else if c = 'r' then some '\r'
  else if c = 't' then some '\t'
  else none

/-- A string up to its closing quote, and the rest. `high` is the first half of
a surrogate pair that waits for its second. -/
def readString (high : Option Nat) : Text → Option (Text × Text)
  | [] => none
  | '\\' :: 'u' :: a :: b :: c :: d :: t =>
    match unit? a b c d, high with
    | none, _ => none
    | some n, some h =>
      if 0xdc00 ≤ n ∧ n < 0xe000 then
        (readString none t).map fun (s, r) =>
          (Char.ofNat (0x10000 + (h - 0xd800) * 0x400 + (n - 0xdc00)) :: s, r)
      else none
    | some n, none =>
      if 0xd800 ≤ n ∧ n < 0xdc00 then readString (some n) t
      else if 0xdc00 ≤ n ∧ n < 0xe000 then none
      else (readString none t).map fun (s, r) => (Char.ofNat n :: s, r)
  | '\\' :: e :: t =>
    match plainEscape? e, high with
    | some c, none => (readString none t).map fun (s, r) => (c :: s, r)
    | _, _ => none
  | c :: t =>
    if high.isSome then none
    else if c = '"' then some ([], t)
    else if c = '\\' ∨ c.toNat < 0x20 then none
    else (readString none t).map fun (s, r) => (c :: s, r)

def readQuoted : Text → Option (Text × Text)
  | '"' :: t => readString none t
  | _ => none

/-- Members up to the closing brace; `n` bounds their number. -/
def readMembers : Nat → Text → Option (List (Text × Text) × Text)
  | 0, _ => none
  | n + 1, t => do
    let (key, t) ← readQuoted (skip t)
    match skip t with
    | ':' :: t =>
      let (value, t) ← readQuoted (skip t)
      match skip t with
      | ',' :: t =>
        let (more, t) ← readMembers n t
        some ((key, value) :: more, t)
      | c :: t => if c.toNat = 0x7d then some ([(key, value)], t) else none
      | [] => none
    | _ => none

/-- The members of an object in their order, with nothing but space around it. -/
def read? (t : Text) : Option (List (Text × Text)) := do
  let (members, t) ← match skip t with
    | c :: t =>
      if c.toNat = 0x7b then
        match skip t with
        | d :: r => if d.toNat = 0x7d then some ([], r) else readMembers t.length t
        | [] => none
      else none
    | [] => none
  if skip t = [] then some members else none

/-- Only quotes, backslashes and control characters are escaped. -/
def escape (c : Char) : Text :=
  if c = '"' then "\\\""
  else if c = '\\' then "\\\\"
  else if c = '\x08' then "\\b"
  else if c = '\x0c' then "\\f"
  else if c = '\n' then "\\n"
  else if c = '\r' then "\\r"
  else if c = '\t' then "\\t"
  else if c.toNat < 0x20 then "\\u00" ++ [Hex.digit (c.toNat / 16), Hex.digit (c.toNat % 16)]
  else [c]

def quote (t : Text) : Text := '"' :: t.flatMap escape ++ ['"']

def render (members : List (Text × Text)) : Text :=
  "\x7b" ++ join "," (members.map fun (k, v) => quote k ++ ':' :: quote v) ++ "\x7d"

end Countersign.Text.StringObject
