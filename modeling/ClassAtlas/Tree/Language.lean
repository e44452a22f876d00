import ClassAtlas.Failure
import ClassAtlas.Json.Shown

/-!
The languages whose syntax trees are understood.
-/

namespace ClassAtlas.Language

/-- The names of the languages. -/
def supported : List String := ["php"]

/-- Checks that a language, as it is given, is understood. -/
def check (language : Json) : Except Fault String :=
  match language.text?.filter supported.contains with
  | some name => .ok name
  | none => .error (.badValue ("Unsupported language: " ++ language.worded))

end ClassAtlas.Language
