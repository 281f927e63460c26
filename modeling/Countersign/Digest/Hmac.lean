import Countersign.Digest.Sha256
/-! Keyed hashing with SHA-256: the key is brought to one block and enters twice. -/

namespace Countersign.Digest

/-- The key as one block: a longer one is hashed first, a shorter one is filled with zeros. -/
def blockKey (key : Bytes) : Bytes :=
  let k := if key.length ≤ 64 then key else Sha256.digest key
  k ++ List.replicate (64 - k.length) 0

def hmac (key message : Bytes) : Bytes :=
  let k := blockKey key
  Sha256.digest (k.map (· ^^^ 0x5c) ++ Sha256.digest (k.map (· ^^^ 0x36) ++ message))

end Countersign.Digest
