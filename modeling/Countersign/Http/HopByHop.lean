import Countersign.Http.Headers
/-! Headers that concern one connection only: nine fixed names and whatever the
`Connection` values nominate. -/

namespace Countersign.Http.HopByHop

def fixedNames : List Text :=
  ["connection", "keep-alive", "proxy-authenticate", "proxy-authorization",
   "proxy-connection", "te", "trailer", "transfer-encoding", "upgrade"].map String.toList

/-- The header names between the commas of the text `Connection` values. -/
def nominated (hs : Headers) : List Text :=
  (hs.texts "connection").flatMap fun v =>
    (Text.pieces ',' v).filterMap fun n => Header.name? (Text.trim n)

def strip (hs : Headers) : Headers :=
  let names := nominated hs
  hs.filter fun h => !(fixedNames.contains h.name || names.contains h.name)

end Countersign.Http.HopByHop
