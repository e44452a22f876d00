import ClassAtlas.Exchange.Tree
import ClassAtlas.Failure
import ClassAtlas.Text.Utf8

/-!
The exchange form of source files: the content as text, as hexadecimal digits or as code points, and
its syntax tree.
-/

namespace ClassAtlas.Exchange

/-- The value of a hexadecimal digit. -/
def nibble? (char : Char) : Option Nat :=
  if '0' ≤ char ∧ char ≤ '9' then some (char.toNat - 48)
  else if 'a' ≤ char ∧ char ≤ 'f' then some (char.toNat - 87)
  else if 'A' ≤ char ∧ char ≤ 'F' then some (char.toNat - 55)
  else none

/-- The bytes written as pairs of hexadecimal digits. -/
def bytesOfHex : List Char → Bytes
  | high :: low :: rest =>
    UInt8.ofNat ((nibble? high).getD 0 * 16 + (nibble? low).getD 0) :: bytesOfHex rest
  | _ => []

/-- Whether a code point is half of a pair and no character. -/
def isSurrogate (code : Nat) : Bool := 0xd800 ≤ code && code ≤ 0xdfff

/-- Encodes code points. Surrogates have no encoding: the first run of them is the failure. -/
def encodePoints (codes : List Nat) : Except Failure Bytes :=
  match codes.dropWhile (!isSurrogate ·) with
  | [] => .ok (Utf8.encode (String.ofList (codes.map Char.ofNat)))
  | run =>
    .error (.notEncodable (codes.takeWhile (!isSurrogate ·)).length (run.takeWhile isSurrogate))

/-- Reads the content of a file. -/
def bytesOf (value : Json) : Except Failure Bytes :=
  match value with
  | .str text => .ok (Utf8.encode text)
  | _ =>
    match (value.field? "hex").bind Json.text?, (value.field? "codepoints").bind Json.items? with
    | some digits, _ => .ok (bytesOfHex digits.toList)
    | none, some codes => encodePoints ((codes.filterMap Json.int?).map Int.toNat)
    | none, none => .ok []

/-- Reads a source file: the members `source` and `tree` of an object. -/
def sourceOf (value : Json) : Except Failure Source := do
  let bytes ← bytesOf ((value.field? "source").getD .null)
  return ⟨bytes, ((value.field? "tree").bind treeOf?).getD .empty⟩

end ClassAtlas.Exchange
