import ClassAtlas.Digest.Sha256
import ClassAtlas.Name.Basic

/-!
Keys under which scan results are stored: one for each content, target and set of usage types.
-/

namespace ClassAtlas.CacheKey

/-- What all keys start with. -/
def lead : String := "class_usages_vendor_"

/-- The labels of usage types in order, with commas in between. -/
def typesText (types : List String) : String :=
  Text.join "," (types.mergeSort fun a b => decide (a ≤ b))

/-- What is hashed for a key: the digest of the content, the normalised target, and the labels of the
usage types in order, with bars in between. -/
def material (content : Bytes) (target : String) (types : List String) : String :=
  Sha256.hexDigest content ++ "|" ++ Name.normalized target ++ "|" ++ typesText types

/-- The key of the question which of the given types of usages of a target a content holds. -/
def make (content : Bytes) (target : String) (types : List String) : String :=
  lead ++ Sha256.hexDigest (Utf8.encode (material content target types))

end ClassAtlas.CacheKey
