import ClassAtlas.Text.Blank
import ClassAtlas.Text.LetterCase
import ClassAtlas.Text.Search

/-!
Class names as written in source code and requests: segments joined by backslashes, with an optional
leading separator for the root namespace.
-/

namespace ClassAtlas.Name

/-- Whether a character separates the segments of a name. -/
def isSeparator (char : Char) : Bool := char == '\\'

/-- A name without its leading separators. -/
def unrooted (name : String) : String := Text.dropStart name isSeparator

/-- A name without surrounding blanks and without leading separators. -/
def normalized (name : String) : String := unrooted (Text.trim name)

/-- The last segment of a normalised name. -/
def short (name : String) : String := Text.afterLast (normalized name) '\\'

/-- Names with one key denote one class: case does not count. -/
def key (name : String) : String := Text.lower (normalized name)

/-- The segments before the last one; empty if there is only one. -/
def qualifier (name : String) : String :=
  match Text.cutLast? name '\\' with
  | none => ""
  | some (front, _) => front

/-- A name inside a namespace, which is empty for the root namespace. -/
def inside (space name : String) : String := if space.isEmpty then name else space ++ "\\" ++ name

end ClassAtlas.Name
