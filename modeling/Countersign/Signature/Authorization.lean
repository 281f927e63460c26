import Countersign.Signature.Fault
import Countersign.Text.Blank
import Countersign.Text.Decimal
/-! The `Authorization` value: an algorithm, then fields between blanks and
commas, of which the last one of a name counts. -/

namespace Countersign.Signature

def algorithm : Text := "AWS4-HMAC-SHA256"

/-- The literal that ends every credential scope. -/
def scopeEnd : Text := "aws4_request"

/-- A key id and the scope that its signatures are made for. -/
structure Credential where
  keyId : Text
  date : Text
  region : Text
  service : Text
deriving DecidableEq, Repr

namespace Credential

def scope (c : Credential) : Text := Text.join "/" [c.date, c.region, c.service, scopeEnd]

def render (c : Credential) : Text := Text.join "/" [c.keyId, c.scope]

def isDate (t : Text) : Bool := t.length == 8 && t.all Text.Decimal.isDigit

def ofText (t : Text) : Except Fault Credential :=
  match Text.pieces '/' t with
  | [keyId, date, region, service, last] =>
    if last ≠ scopeEnd then
      .error (.invalidCredential ("scope must end with " ++ scopeEnd ++ ", got " ++ last))
    else if keyId = [] ∨ isDate date = false then
      .error (.invalidCredential "key id must be non-empty and date must be YYYYMMDD")
    else .ok ⟨keyId, date, region, service⟩
  | parts =>
    .error (.invalidCredential ("expected 5 segments, got " ++ Text.Decimal.render parts.length))

end Credential

structure Authorization where
  credential : Credential
  /-- Names in small letters, in the order in which the client lists them. -/
  signedHeaders : List Text
  signature : Text
deriving DecidableEq, Repr

namespace Authorization

def sortedHeaders (a : Authorization) : List Text := Text.sort a.signedHeaders

def render (a : Authorization) : Text :=
  algorithm ++ " Credential=" ++ a.credential.render
    ++ ", SignedHeaders=" ++ Text.join ";" a.signedHeaders
    ++ ", Signature=" ++ a.signature

def isSeparator (c : Char) : Bool := Text.isBlank c || c == ','

/-- The value of the last token `name=value`. -/
def field? (name : Text) (tokens : List Text) : Option Text :=
  (tokens.filterMap fun token =>
    match Text.cut? '=' token with
    | some (key, value) => if key = name then some value else none
    | none => none).getLast?

def signedNames (t : Text) : List Text :=
  (Text.tokensBy (· == ';') t).map Text.lower

def ofText (t : Text) : Except Fault Authorization :=
  match Text.tokensBy isSeparator t with
  | [] => .error (.malformedHeader "empty header")
  | first :: tokens =>
    if first ≠ algorithm then .error (.unsupportedAlgorithm first)
    else match field? "Credential" tokens with
    | none => .error (.malformedHeader "missing Credential")
    | some credential => do
      let credential ← Credential.ofText credential
      match field? "SignedHeaders" tokens with
      | none => .error (.malformedHeader "missing SignedHeaders")
      | some names =>
        match signedNames names with
        | [] => .error (.malformedHeader "empty SignedHeaders")
        | n :: ns =>
          match field? "Signature" tokens with
          | some (c :: s) => .ok ⟨credential, n :: ns, c :: s⟩
          | _ => .error (.malformedHeader "missing Signature")

end Authorization

end Countersign.Signature
