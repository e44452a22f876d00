import ClassAtlas.Text.Utf8

/-!
The other encodings a text file may have: UTF-16 with or without a byte order mark, and Latin-1, in
which every byte is a character.
-/

namespace ClassAtlas

namespace Utf16

/-- The 16-bit units of a byte sequence of even length, in the given byte order. -/
def units? (bigEndian : Bool) : Bytes → Option (List Nat)
  | [] => some []
  | [_] => none
  | first :: second :: rest => do
    let unit :=
      if bigEndian then first.toNat * 256 + second.toNat else second.toNat * 256 + first.toNat
    let more ← units? bigEndian rest
    some (unit :: more)

/-- The text of a sequence of units, in which surrogates stand only in pairs. -/
def chars? : List Nat → Option (List Char)
  | [] => some []
  | unit :: rest =>
    if 0xd800 ≤ unit ∧ unit ≤ 0xdbff then
      match rest with
      | [] => none
      | low :: rest =>
        if 0xdc00 ≤ low ∧ low ≤ 0xdfff then
          (chars? rest).map (Char.ofNat (0x10000 + (unit - 0xd800) * 1024 + (low - 0xdc00)) :: ·)
        else none
    else if 0xdc00 ≤ unit ∧ unit ≤ 0xdfff then none
    else (chars? rest).map (Char.ofNat unit :: ·)

/-- Decodes UTF-16. A byte order mark chooses the byte order and is dropped; without one the low
byte comes first. -/
def decode? (bytes : Bytes) : Option String :=
  let (bigEndian, content) :=
    match bytes with
    | 0xff :: 0xfe :: rest => (false, rest)
    | 0xfe :: 0xff :: rest => (true, rest)
    | _ => (false, bytes)
  ((units? bigEndian content).bind chars?).map String.ofList

end Utf16

namespace Latin1

/-- Decodes Latin-1. -/
def decode (bytes : Bytes) : String := String.ofList (bytes.map fun byte => Char.ofNat byte.toNat)

end Latin1

end ClassAtlas
