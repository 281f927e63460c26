import Countersign.Text.Basic
/-! Why a signed request is turned down. -/

namespace Countersign.Signature

inductive Fault
  | malformedHeader (detail : Text)
  | unsupportedAlgorithm (detail : Text)
  | invalidCredential (detail : Text)
  | invalidTimestamp (detail : Text)
  | mismatch
deriving DecidableEq, Repr

namespace Fault

def message : Fault → Text
  | malformedHeader d => "malformed Authorization header: " ++ d
  | unsupportedAlgorithm d => "unsupported signing algorithm: " ++ d
  | invalidCredential d => "invalid credential scope: " ++ d
  | invalidTimestamp d => "invalid request timestamp: " ++ d
  | mismatch => "signature does not match"

/-- Whether the request could not be read at all, as opposed to being read and
found wrong. -/
def isMalformed : Fault → Bool
  | mismatch => false
  | _ => true

end Fault

end Countersign.Signature
