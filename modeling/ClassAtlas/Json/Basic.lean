/-!
JSON values.

An object keeps its members in the order in which their keys first appeared. Numbers with a fraction
or an exponent, and the three names for non-finite numbers, keep their numeral: nothing here computes
with them.
-/

namespace ClassAtlas

/-- A JSON value. -/
inductive Json where
  | null
  | bool (value : Bool)
  | int (value : Int)
  | real (numeral : String)
  | str (text : String)
  | list (items : List Json)
  | object (members : List (String × Json))
deriving Inhabited

namespace Json

/-- Stores a member: a key already present keeps its place and takes the new value. -/
def insertMember (members : List (String × Json)) (key : String) (value : Json) :
    List (String × Json) :=
  match members with
  | [] => [(key, value)]
  | (known, old) :: rest =>
    if known == key then (known, value) :: rest else (known, old) :: insertMember rest key value

/-- The value of a member of an object. -/
def field? : Json → String → Option Json
  | .object members, key => members.lookup key
  | _, _ => none

/-- The text of a string value. -/
def text? : Json → Option String
  | .str text => some text
  | _ => none

/-- The number of an integer value. -/
def int? : Json → Option Int
  | .int value => some value
  | _ => none

/-- The items of a list value. -/
def items? : Json → Option (List Json)
  | .list items => some items
  | _ => none

/-- The members of an object value. -/
def members? : Json → Option (List (String × Json))
  | .object members => some members
  | _ => none

/-- A natural number as a value. -/
def nat (value : Nat) : Json := .int value

/-- Whether a value counts as given: null, false, zero and empty values do not. -/
def isGiven : Json → Bool
  | .null => false
  | .bool value => value
  | .int value => value != 0
  | .real numeral =>
    ((numeral.toList.takeWhile fun char => char != 'e' && char != 'E').any
      fun char => char != '0' && char != '.' && char != '-')
  | .str text => !text.isEmpty
  | .list items => !items.isEmpty
  | .object members => !members.isEmpty

/-- A text, or null when there is none. -/
def ofText? : Option String → Json
  | none => .null
  | some text => .str text

end Json

end ClassAtlas
