import Countersign.Signature.Authorization
/-! An `Authorization` value with another signature in it. -/

namespace Countersign.Signature

/-- Put `signature` in the place of the first signature that a text declares;
the rest of the text stays as it is. -/
def swapSignature? (signature : Text) : Text → Option Text
  | [] => none
  | c :: t =>
    let later := (swapSignature? signature t).map (c :: ·)
    match Text.after? "Signature=" (c :: t) with
    | none => later
    | some rest =>
      if (rest.takeWhile (!Authorization.isSeparator ·)).isEmpty then later
      else some ("Signature=" ++ signature ++ rest.dropWhile (!Authorization.isSeparator ·))

end Countersign.Signature
