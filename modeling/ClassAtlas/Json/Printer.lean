import ClassAtlas.Json.Basic
import ClassAtlas.Text.Numeral
import ClassAtlas.Text.Quoted
import ClassAtlas.Text.Search

/-!
The written form of JSON values.

Items are separated by a comma and a space, keys from values by a colon and a space. In a string the
quote, the backslash and the control characters below the space are escaped, and all characters
outside of ASCII too where only ASCII may be written.
-/

namespace ClassAtlas.Json

/-- The escape of a 16-bit unit. -/
def escapedUnit (unit : Nat) : List Char := ['\\', 'u'] ++ Text.hex 4 unit

/-- The form of one character inside a JSON string. -/
def escapedChar (char : Char) : List Char :=
  if char == '"' then ['\\', '"']
  else if char == '\\' then ['\\', '\\']
  else if char == '\n' then ['\\', 'n']
  else if char == '\r' then ['\\', 'r']
  else if char == '\t' then ['\\', 't']
  else if char.toNat == 8 then ['\\', 'b']
  else if char.toNat == 12 then ['\\', 'f']
  else if char.toNat < 32 then escapedUnit char.toNat
  else [char]

/-- The form of one character inside a JSON string of printable ASCII characters. A character beyond
16 bits is written as two surrogates. -/
def asciiChar (char : Char) : List Char :=
  if char.toNat < 127 then escapedChar char
  else if char.toNat < 0x10000 then escapedUnit char.toNat
  else
    let offset := char.toNat - 0x10000
    escapedUnit (0xd800 + offset / 1024) ++ escapedUnit (0xdc00 + offset % 1024)

/-- A JSON string, given the form of its characters. -/
def renderText (escape : Char → List Char) (text : String) : String :=
  String.ofList ('"' :: text.toList.flatMap escape ++ ['"'])

mutual

/-- The written form of a value, given the form of characters in strings. -/
def renderWith (escape : Char → List Char) : Json → String
  | .null => "null"
  | .bool true => "true"
  | .bool false => "false"
  | .int value => Text.decimalInt value
  | .real numeral => numeral
  | .str text => renderText escape text
  | .list items => "[" ++ Text.join ", " (renderItems escape items) ++ "]"
  | .object members => "\x7b" ++ Text.join ", " (renderMembers escape members) ++ "\x7d"

/-- The written forms of the items of a list. -/
def renderItems (escape : Char → List Char) : List Json → List String
  | [] => []
  | item :: rest => renderWith escape item :: renderItems escape rest

/-- The written forms of the members of an object. -/
def renderMembers (escape : Char → List Char) : List (String × Json) → List String
  | [] => []
  | (key, value) :: rest =>
    (renderText escape key ++ ": " ++ renderWith escape value) :: renderMembers escape rest

end

/-- The written form of a value. -/
def render (value : Json) : String := renderWith escapedChar value

/-- The written form of a value in ASCII. -/
def renderAscii (value : Json) : String := renderWith asciiChar value

mutual

/-- Whether a value holds an integer with too many digits to be written. -/
def hasLongInteger : Json → Bool
  | .int value => (Nat.toDigits 10 value.natAbs).length > Text.maxNumeralDigits
  | .list items => anyLongInteger items
  | .object members => anyLongMember members
  | _ => false

/-- Whether one of the items of a list holds such an integer. -/
def anyLongInteger : List Json → Bool
  | [] => false
  | item :: rest => hasLongInteger item || anyLongInteger rest

/-- Whether one of the members of an object holds such an integer. -/
def anyLongMember : List (String × Json) → Bool
  | [] => false
  | (_, value) :: rest => hasLongInteger value || anyLongMember rest

end

mutual

/-- How deep lists and objects are nested in a value. -/
def nesting : Json → Nat
  | .list items => itemNesting items + 1
  | .object members => memberNesting members + 1
  | _ => 0

/-- How deep lists and objects are nested in the items of a list. -/
def itemNesting : List Json → Nat
  | [] => 0
  | item :: rest => max (nesting item) (itemNesting rest)

/-- How deep lists and objects are nested in the members of an object. -/
def memberNesting : List (String × Json) → Nat
  | [] => 0
  | (_, value) :: rest => max (nesting value) (memberNesting rest)

end

end ClassAtlas.Json
