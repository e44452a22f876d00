/-!
Replacing the parts of a text that match a pattern.

A pattern is a function from the characters ahead to the length of the match at their start. Matches
are looked for from left to right and do not overlap.
-/

namespace ClassAtlas.Text

/-- The length of the match of a pattern at the start of characters. -/
abbrev Pattern : Type := List Char → Option Nat

/-- Replaces every match of a pattern. `skip` is how many characters belong to a match that has been
replaced. -/
def replaceFrom (pattern : Pattern) (replacement : List Char) : Nat → List Char → List Char
  | _, [] => []
  | skip + 1, _ :: rest => replaceFrom pattern replacement skip rest
  | 0, char :: rest =>
    match pattern (char :: rest) with
    | some (size + 1) => replacement ++ replaceFrom pattern replacement size rest
    | _ => char :: replaceFrom pattern replacement 0 rest

/-- Replaces every match of a pattern. -/
def replaceAll (pattern : Pattern) (replacement text : String) : String :=
  String.ofList (replaceFrom pattern replacement.toList 0 text.toList)

/-- Replaces the first match of a pattern at the start of a line. The flag says whether a line starts
here. -/
def replaceFirstFrom (pattern : Pattern) (replacement : List Char) : Bool → List Char → List Char
  | _, [] => []
  | startsLine, char :: rest =>
    match startsLine, pattern (char :: rest) with
    | true, some (size + 1) => replacement ++ rest.drop size
    | _, _ => char :: replaceFirstFrom pattern replacement (char == '\n') rest

/-- Replaces the first match of a pattern at the start of a line. -/
def replaceFirstLine (pattern : Pattern) (replacement text : String) : String :=
  String.ofList (replaceFirstFrom pattern replacement.toList true text.toList)

end ClassAtlas.Text
