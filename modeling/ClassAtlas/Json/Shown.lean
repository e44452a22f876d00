import ClassAtlas.Json.Basic
import ClassAtlas.Text.Numeral
import ClassAtlas.Text.Quoted
import ClassAtlas.Text.Search

/-!
JSON values as complaints show them: texts in quotes, and a word for each of the values that are not
text, number, list or object.
-/

namespace ClassAtlas.Json

mutual

/-- A value as complaints show it. -/
def shown : Json → String
  | .null => "None"
  | .bool true => "True"
  | .bool false => "False"
  | .int value => Text.decimalInt value
  | .real numeral => numeral
  | .str text => Text.quoted text
  | .list items => "[" ++ Text.join ", " (shownItems items) ++ "]"
  | .object members => "\x7b" ++ Text.join ", " (shownMembers members) ++ "\x7d"

/-- The items of a list as complaints show them. -/
def shownItems : List Json → List String
  | [] => []
  | item :: rest => shown item :: shownItems rest

/-- The members of an object as complaints show them. -/
def shownMembers : List (String × Json) → List String
  | [] => []
  | (key, value) :: rest => (Text.quoted key ++ ": " ++ shown value) :: shownMembers rest

end

/-- A value inside a complaint: a text stands for itself, anything else is shown. -/
def worded : Json → String
  | .str text => text
  | value => value.shown

end ClassAtlas.Json
