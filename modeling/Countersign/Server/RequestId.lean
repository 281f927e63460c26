import Countersign.Text.Hex
/-! Ids for requests: thirty-two hexadecimal digits in five groups, of which one
gives the version of the id and one its variant. -/

namespace Countersign.RequestId

/-- The bytes of an id, with the version and the variant of a random one. -/
def marked (bytes : Bytes) : Bytes :=
  bytes.zipIdx.map fun (b, i) =>
    if i = 6 then .ofNat (0x40 + b.toNat % 16)
    else if i = 8 then .ofNat (0x80 + b.toNat % 64)
    else b

/-- An id of sixteen random bytes. -/
def ofBytes (bytes : Bytes) : Text :=
  let digits := Text.Hex.encode (marked bytes)
  Text.join "-"
    [digits.take 8, (digits.drop 8).take 4, (digits.drop 12).take 4, (digits.drop 16).take 4,
     digits.drop 20]

end Countersign.RequestId
