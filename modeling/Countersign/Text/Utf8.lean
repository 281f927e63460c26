import Countersign.Text.Basic
/-! UTF-8. Reading takes the bytes one at a time and replaces every maximal
part that begins no character by U+FFFD. -/

namespace Countersign.Text.Utf8

def encodeChar (c : Char) : Bytes :=
  let n := c.toNat
  if n < 0x80 then [.ofNat n]
  else if n < 0x800 then [.ofNat (0xc0 + n / 64), .ofNat (0x80 + n % 64)]
  else if n < 0x10000 then
    [.ofNat (0xe0 + n / 4096), .ofNat (0x80 + n / 64 % 64), .ofNat (0x80 + n % 64)]
  else
    [.ofNat (0xf0 + n / 262144), .ofNat (0x80 + n / 4096 % 64),
     .ofNat (0x80 + n / 64 % 64), .ofNat (0x80 + n % 64)]

def encode (t : Text) : Bytes := t.flatMap encodeChar

/-- An unfinished character: the bits so far, how many bytes are to come, and
the range that the next one must lie in. -/
structure Pending where
  bits : Nat
  more : Nat
  lo : Nat
  hi : Nat

/-- What a byte means where a character may begin. -/
inductive Lead
  | char (c : Char)
  | opens (p : Pending)
  | stray

def lead (b : UInt8) : Lead :=
  let n := b.toNat
  if n < 0x80 then .char (.ofNat n)
  else if n < 0xc2 then .stray
  else if n < 0xe0 then .opens ⟨n - 0xc0, 1, 0x80, 0xbf⟩
  else if n = 0xe0 then .opens ⟨0, 2, 0xa0, 0xbf⟩
  else if n = 0xed then .opens ⟨13, 2, 0x80, 0x9f⟩
  else if n < 0xf0 then .opens ⟨n - 0xe0, 2, 0x80, 0xbf⟩
  else if n = 0xf0 then .opens ⟨0, 3, 0x90, 0xbf⟩
  else if n < 0xf4 then .opens ⟨n - 0xf0, 3, 0x80, 0xbf⟩
  else if n = 0xf4 then .opens ⟨4, 3, 0x80, 0x8f⟩
  else .stray

/-- The characters of a byte string; `none` stands for a part that is none. -/
def scan : Option Pending → Bytes → List (Option Char)
  | none, [] => []
  | some _, [] => [none]
  | none, b :: bs =>
    match lead b with
    | .char c => some c :: scan none bs
    | .opens p => scan (some p) bs
    | .stray => none :: scan none bs
  | some p, b :: bs =>
    if p.lo ≤ b.toNat ∧ b.toNat ≤ p.hi then
      let bits := p.bits * 64 + (b.toNat - 0x80)
      if p.more = 1 then some (Char.ofNat bits) :: scan none bs
      else scan (some ⟨bits, p.more - 1, 0x80, 0xbf⟩) bs
    else
      match lead b with
      | .char c => none :: some c :: scan none bs
      | .opens q => none :: scan (some q) bs
      | .stray => none :: none :: scan none bs

/-- Reads any bytes, with U+FFFD for each part that is no character. -/
def decodeLossy (bs : Bytes) : Text := (scan none bs).map (·.getD '\uFFFD')

/-- Reads well-formed bytes only. -/
def decode? (bs : Bytes) : Option Text := (scan none bs).mapM id

end Countersign.Text.Utf8
