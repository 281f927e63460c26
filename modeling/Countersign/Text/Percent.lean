import Countersign.Text.Hex
import Countersign.Text.Utf8
/-! Percent-escapes. A component is decoded leniently and encoded in one way
only: unreserved characters stand for themselves and every other byte is
written with capital digits. -/

namespace Countersign.Text.Percent

/-- The bytes that a component stands for. A `%` without two digits behind it
stands for itself. -/
def decode : Text → Bytes
  | [] => []
  | [c] => Utf8.encodeChar c
  | [c, d] => Utf8.encodeChar c ++ Utf8.encodeChar d
  | c :: d :: e :: t =>
    if c = '%' then
      match Hex.value? d, Hex.value? e with
      | some h, some l => .ofNat (h * 16 + l) :: decode t
      | _, _ => Utf8.encodeChar c ++ decode (d :: e :: t)
    else Utf8.encodeChar c ++ decode (d :: e :: t)

def isUnreserved (b : UInt8) : Bool :=
  let c := Char.ofNat b.toNat
  decide (b.toNat < 0x80) && (c.isAlphanum || c == '-' || c == '_' || c == '.' || c == '~')

def escape (b : UInt8) : Text :=
  ['%', Hex.digitUpper (b.toNat / 16), Hex.digitUpper (b.toNat % 16)]

def encodeByte (b : UInt8) : Text :=
  if isUnreserved b then [Char.ofNat b.toNat] else escape b

def encode (bs : Bytes) : Text := bs.flatMap encodeByte

/-- What a component spells: its bytes read as UTF-8, damaged parts replaced. -/
def spelled (t : Text) : Text := Utf8.decodeLossy (decode t)

/-- The one spelling of a component. -/
def respell (t : Text) : Text := encode (Utf8.encode (spelled t))

end Countersign.Text.Percent
