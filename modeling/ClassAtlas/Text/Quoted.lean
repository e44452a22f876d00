import ClassAtlas.Text.CharClass

/-!
Quoted text in error messages: a text between quotes, with backslash escapes for what could not be
read otherwise.
-/

namespace ClassAtlas.Text

/-- A lowercase hexadecimal numeral with at least the given number of digits. -/
def hex (digits : Nat) (value : Nat) : List Char :=
  let numeral := Nat.toDigits 16 value
  List.replicate (digits - numeral.length) '0' ++ numeral

/-- The form of one character between the given quotes. -/
def quotedChar (quote char : Char) : List Char :=
  if char == quote || char == '\\' then ['\\', char]
  else if char == '\t' then ['\\', 't']
  else if char == '\n' then ['\\', 'n']
  else if char == '\r' then ['\\', 'r']
  else if isPrintable char then [char]
  else if char.toNat < 0x100 then ['\\', 'x'] ++ hex 2 char.toNat
  else if char.toNat < 0x10000 then ['\\', 'u'] ++ hex 4 char.toNat
  else ['\\', 'U'] ++ hex 8 char.toNat

/-- Text between quotes: double quotes when it holds single quotes and no double ones, single quotes
otherwise. -/
def quoted (text : String) : String :=
  let single := Char.ofNat 39
  let quote := if text.toList.contains single && !text.toList.contains '"' then '"' else single
  String.ofList (quote :: text.toList.flatMap (quotedChar quote) ++ [quote])

end ClassAtlas.Text
