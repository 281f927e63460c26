import Countersign.Body.Plumbing
import Countersign.Failure
import Countersign.Text.StringObject
/-! Responses to the client, and the ones that the gateway writes itself. -/

namespace Countersign

open Countersign.Http

structure Response where
  status : Nat
  headers : Headers
  body : Body

namespace Response

def ofText (status : Nat) (headers : Headers) (t : Text) : Response :=
  ⟨status, headers, .stream (.full (Text.Utf8.encode t))⟩

/-- The report of a failure. -/
def ofFailure (id : Text) (f : Failure) : Response :=
  let type : Headers := [⟨"content-type", Text.Utf8.encode "application/json"⟩]
  let idHeader : Headers := match Header.value? id with
    | some v => [⟨"x-amz-request-id", v⟩]
    | none => []
  let members : List (Text × Text) := [("Code", f.code), ("Message", f.message), ("RequestId", id)]
  ofText f.status (type ++ idHeader) (Text.StringObject.render members)

@[simp]
theorem ofFailure_status (id : Text) (f : Failure) : (ofFailure id f).status = f.status := rfl

theorem ofFailure_body (id : Text) (f : Failure) : (ofFailure id f).body =
    .stream (.full (Text.Utf8.encode (Text.StringObject.render
      [("Code", f.code), ("Message", f.message), ("RequestId", id)]))) := rfl

def internalError : Response := ofText 500 [] "internal error"

def healthy : Response :=
  ofText 200 [⟨"content-type", Text.Utf8.encode "text/plain"⟩] "ok"

end Response

end Countersign
