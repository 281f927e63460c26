import Countersign.Operation
import Countersign.Text.Percent
/-! Operations of the object-storage service, told apart by the method, the
shape of the path and two query keys. -/

namespace Countersign

inductive ObjectOperation
  | listObjectsV2
  | createMultipartUpload
  | listMultipartUploads
  | getObject
  | putObject
  | deleteObject
  | createBucket
  | deleteBucket
  | listObjects
  | unknown
deriving DecidableEq, Repr

namespace ObjectOperation

def name : ObjectOperation → Operation
  | listObjectsV2 => "ListObjectsV2"
  | createMultipartUpload => "CreateMultipartUpload"
  | listMultipartUploads => "ListMultipartUploads"
  | getObject => "GetObject"
  | putObject => "PutObject"
  | deleteObject => "DeleteObject"
  | createBucket => "CreateBucket"
  | deleteBucket => "DeleteBucket"
  | listObjects => "ListObjects"
  | unknown => Operation.unknown

def all : List ObjectOperation :=
  [listObjectsV2, createMultipartUpload, listMultipartUploads, getObject, putObject,
   deleteObject, createBucket, deleteBucket, listObjects, unknown]

/-- The operation of a name, if the service has it. -/
def ofName? (t : Operation) : Option ObjectOperation := all.find? fun o => o.name = t

/-- The first segment of a path and the rest of it, one slash in front ignored. -/
def bucketAndKey (path : Text) : Text × Text :=
  let p := match path with
    | '/' :: r => r
    | _ => path
  (Text.cut? '/' p).getD (p, [])

def queryHasKey (query key : Text) : Bool :=
  (Text.tokensBy (· == '&') query).any fun item =>
    let name := ((Text.cut? '=' item).getD (item, [])).1
    Text.Percent.spelled name == key

/-- Query keys come first, then objects, then buckets. -/
def classify (method path : Text) (query : Option Text) : ObjectOperation :=
  let query := query.getD []
  if queryHasKey query "list-type" then listObjectsV2
  else if queryHasKey query "uploads" then
    if method = "POST" then createMultipartUpload else listMultipartUploads
  else
    let (bucket, key) := bucketAndKey path
    if bucket ≠ [] ∧ key ≠ [] ∧ path.getLast? ≠ some '/' then
      if method = "GET" then getObject
      else if method = "PUT" then putObject
      else if method = "DELETE" then deleteObject
      else unknown
    else if bucket ≠ [] ∧ key = [] then
      if method = "PUT" then createBucket
      else if method = "DELETE" then deleteBucket
      else if method = "GET" then listObjects
      else unknown
    else unknown

end ObjectOperation

end Countersign
