import ClassAtlas.Text.Range
import ClassAtlas.Text.CaseTable

/-!
Lowercase and uppercase forms of text in any script.

Every character is mapped on its own, with two refinements: some characters have a form of several
characters, and a capital sigma at the end of a word becomes a final sigma.
-/

namespace ClassAtlas.Text

/-- The image of a code point under the first run that holds it. -/
def runImage? (runs : List (Nat × Nat × Nat × Nat)) (code : Nat) : Option Nat :=
  (runs.find? fun run =>
    decide (run.1 ≤ code) && decide (code ≤ run.2.1) && (code - run.1) % run.2.2.1 == 0).map
    fun run => run.2.2.2 + (code - run.1)

/-- The lowercase form of one character outside any context. -/
def lowerChar (char : Char) : List Char :=
  if char.toNat < 128 then [char.toLower]
  else if char.toNat == 0x130 then ['i', Char.ofNat 0x307]
  else match runImage? lowerRuns char.toNat with
    | some image => [Char.ofNat image]
    | none => [char]

/-- The uppercase form of one character. -/
def upperChar (char : Char) : List Char :=
  if char.toNat < 128 then [char.toUpper]
  else match upperExpansions.lookup char.toNat with
    | some images => images.map Char.ofNat
    | none =>
      match runImage? upperRuns char.toNat with
      | some image => [Char.ofNat image]
      | none => [char]

/-- Whether the nearest character that is not case-ignorable exists and is cased. -/
def meetsCased (chars : List Char) : Bool :=
  match chars.dropWhile fun char => inRanges caseIgnorableRanges char.toNat with
  | [] => false
  | char :: _ => inRanges casedRanges char.toNat

/-- Lowercases the characters that follow those already passed, which are given in reverse. -/
def lowerFrom : List Char → List Char → List Char
  | _, [] => []
  | passed, char :: rest =>
    let image :=
      if char.toNat == 0x3a3 then
        [Char.ofNat (if meetsCased passed && !meetsCased rest then 0x3c2 else 0x3c3)]
      else lowerChar char
    image ++ lowerFrom (char :: passed) rest

/-- The lowercase form of a text. -/
def lower (text : String) : String := String.ofList (lowerFrom [] text.toList)

/-- The uppercase form of a text. -/
def upper (text : String) : String := String.ofList (text.toList.flatMap upperChar)

end ClassAtlas.Text
