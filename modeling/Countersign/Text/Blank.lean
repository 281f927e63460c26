import Countersign.Text.Ranges
/-! White space in the sense of Unicode's White_Space property. -/

namespace Countersign.Text

/-- The White_Space property: ten ranges, fixed by the standard. -/
def blankRanges : Ranges :=
  [(0x9, 0xd), (0x20, 0x20), (0x85, 0x85), (0xa0, 0xa0), (0x1680, 0x1680),
   (0x2000, 0x200a), (0x2028, 0x2029), (0x202f, 0x202f), (0x205f, 0x205f),
   (0x3000, 0x3000)]

def isBlank (c : Char) : Bool := blankRanges.has c

def trimLeft (t : Text) : Text := t.dropWhile isBlank

def trim (t : Text) : Text := (trimLeft (trimLeft t).reverse).reverse

/-- The words of a text: its stretches free of blanks. -/
def words (t : Text) : List Text := tokensBy isBlank t

end Countersign.Text
