/-!
Searching, splitting and replacing in text.
-/

namespace ClassAtlas.Text

/-- Removes a leading part from a list, if the list starts with it. -/
def afterStart? {α : Type} [BEq α] : List α → List α → Option (List α)
  | [], rest => some rest
  | _ :: _, [] => none
  | expected :: more, item :: rest => if expected == item then afterStart? more rest else none

/-- Whether the first list occurs in the second as consecutive items. -/
def occursIn {α : Type} [BEq α] (needle : List α) : List α → Bool
  | [] => needle.isEmpty
  | item :: rest => needle.isPrefixOf (item :: rest) || occursIn needle rest

/-- Whether one text occurs in another. -/
def contains (text needle : String) : Bool := occursIn needle.toList text.toList

/-- Whether a text starts with another. -/
def startsWith (text start : String) : Bool := start.toList.isPrefixOf text.toList

/-- Whether a text ends with another. -/
def endsWith (text ending : String) : Bool := ending.toList.reverse.isPrefixOf text.toList.reverse

/-- The pieces of a list between the items that satisfy a predicate. -/
def pieces {α : Type} (separates : α → Bool) : List α → List (List α)
  | [] => [[]]
  | item :: rest =>
    if separates item then [] :: pieces separates rest
    else match pieces separates rest with
      | [] => [[item]]
      | piece :: more => (item :: piece) :: more

/-- The pieces of a text between the occurrences of a character. -/
def splitAt (text : String) (separator : Char) : List String :=
  (pieces (· == separator) text.toList).map String.ofList

/-- Cuts a text at the first occurrence of a character, which belongs to neither part. -/
def cutFirst? (text : String) (separator : Char) : Option (String × String) :=
  match text.toList.dropWhile (· != separator) with
  | [] => none
  | _ :: rest => some (String.ofList (text.toList.takeWhile (· != separator)), String.ofList rest)

/-- Cuts a text at the last occurrence of a character, which belongs to neither part. -/
def cutLast? (text : String) (separator : Char) : Option (String × String) :=
  let backwards := text.toList.reverse
  match backwards.dropWhile (· != separator) with
  | [] => none
  | _ :: rest =>
    some (String.ofList rest.reverse, String.ofList (backwards.takeWhile (· != separator)).reverse)

/-- The part of a text after the last occurrence of a character; all of it if there is none. -/
def afterLast (text : String) (separator : Char) : String :=
  match cutLast? text separator with
  | none => text
  | some (_, rest) => rest

/-- Replaces every occurrence of one character by a text. -/
def replaceChar (text : String) (old : Char) (new : String) : String :=
  String.ofList (text.toList.flatMap fun char => if char == old then new.toList else [char])

/-- Joins texts with a separator between them. -/
def join (separator : String) : List String → String
  | [] => ""
  | [only] => only
  | first :: rest => first ++ separator ++ join separator rest

/-- All texts one after the other. -/
def concat (texts : List String) : String := join "" texts

/-- Text repeated a number of times. -/
def repeated (count : Nat) (char : Char) : String := String.ofList (List.replicate count char)

end ClassAtlas.Text
