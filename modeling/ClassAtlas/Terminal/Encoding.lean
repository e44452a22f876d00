import ClassAtlas.Text.LetterCase
import ClassAtlas.Text.Search

/-!
What a terminal can show. Icons are written in ASCII on terminals that do not take UTF-8.
-/

namespace ClassAtlas.Terminal

/-- The encoding of a terminal, in lowercase. One that reports nothing takes UTF-8. -/
def encodingName (reported : Option String) : String :=
  match reported with
  | none | some "" => "utf-8"
  | some name => Text.lower name

/-- Whether an encoding is UTF-8, by either of its common spellings. -/
def isUtf8 (encoding : String) : Bool :=
  ["utf-8", "utf8"].contains (Text.replaceChar encoding '_' "-")

/-- The icons with their forms in ASCII. -/
def icons : List (Char × String) := [
  ('✓', "[OK]"), ('✗', "[FAIL]"), ('⚠', "[WARN]"), ('→', "->"), ('←', "<-"), ('│', "|"),
  ('─', "-"), ('…', "..."), ('•', "*")]

/-- A text with its icons written in ASCII. -/
def withoutIcons (text : String) : String :=
  String.ofList (text.toList.flatMap fun char =>
    match icons.lookup char with
    | some form => form.toList
    | none => [char])

/-- A text as a terminal with an encoding can show it. -/
def adapted (encoding text : String) : String :=
  if isUtf8 encoding then text else withoutIcons text

end ClassAtlas.Terminal
