import Countersign.Proofs.Text.StringObject
import Countersign.Proofs.Text.Utf8
import Countersign.Response
/-! The report of a failure, as the client reads it. -/

namespace Countersign.Response

open Countersign.Http

/-- What the client is told of a failure. -/
def told (id code message : Text) : List (Text × Text) :=
  [("Code", code), ("Message", message), ("RequestId", id)]

/-- A response that tells a client what failed: with a status, and in an object of strings that
is there as a whole and says the code, the message and the request. -/
structure Reports (r : Response) (id : Text) (status : Nat) (code message : Text) : Prop where
  status : r.status = status
  type : r.headers.values "content-type" = [Text.Utf8.encode "application/json"]
  /-- The name of the request stands in a header too, if it may. -/
  request : r.headers.values "x-amz-request-id" = (Header.value? id).toList
  document : ∃ bytes t, r.body = .stream (.full bytes) ∧ Text.Utf8.decode? bytes = some t ∧
    Text.StringObject.read? t = some (told id code message)

/-- Every failure is reported with its own status, code and message, whatever these and the
name of the request are. -/
theorem reports_ofFailure (id : Text) (f : Failure) :
    (ofFailure id f).Reports id f.status f.code f.message where
  status := ofFailure_status id f
  type := by
    unfold ofFailure
    cases Header.value? id <;> rfl
  request := by
    unfold ofFailure
    cases Header.value? id <;> rfl
  document := ⟨_, _, ofFailure_body id f, Text.Utf8.decode?_encode _,
    Text.StringObject.read?_render _⟩

end Countersign.Response
