import ClassAtlas.Failure
import ClassAtlas.Json.Basic

/-!
Values as they are given in requests.

A request may give any value for any parameter. What it stands for is found out only when the
parameter is looked at, so a value of the wrong type is a fault at that point and not before.
-/

namespace ClassAtlas.Json

/-- The number that a value stands for; a truth value counts as zero or one. -/
def number : Json → Except Fault Int
  | .int value => .ok value
  | .bool value => .ok (if value then 1 else 0)
  | _ => .error .wrongShape

/-- The text that a value stands for; a value that does not count as given stands for no text. -/
def words (value : Json) : Except Fault String :=
  match value with
  | .str text => .ok text
  | value => if value.isGiven then .error .notText else .ok ""

/-- The text of a path. -/
def pathText : Json → Except Fault String
  | .str text => .ok text
  | _ => .error .wrongShape

/-- The values that a value lists: the items of a list, the keys of an object, or the characters of a
text. -/
def listed : Json → Except Fault (List Json)
  | .list items => .ok items
  | .object members => .ok (members.map fun (key, _) => .str key)
  | .str text => .ok (text.toList.map fun char => .str (String.ofList [char]))
  | _ => .error .wrongShape

/-- Whether a value can be looked up in a table: lists and objects cannot. -/
def isKey : Json → Bool
  | .list _ | .object _ => false
  | _ => true

end ClassAtlas.Json
