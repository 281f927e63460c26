import Countersign.Text.Hex
import Countersign.Text.Hidden
/-! Text between double quotes, with everything that does not show escaped. -/

namespace Countersign.Text.Quoted

def escape (c : Char) : Text :=
  if c = '"' then "\\\""
  else if c = '\\' then "\\\\"
  else if c.toNat = 0 then "\\0"
  else if c = '\t' then "\\t"
  else if c = '\n' then "\\n"
  else if c = '\r' then "\\r"
  else if isHidden c then "\\u\x7b" ++ Hex.numeral c ++ "\x7d"
  else [c]

def render (t : Text) : Text := '"' :: t.flatMap escape ++ ['"']

/-- Texts in brackets, each quoted. -/
def renderList (ts : List Text) : Text := '[' :: join ", " (ts.map render) ++ [']']

end Countersign.Text.Quoted
