import ClassAtlas.Text.Blank
import ClassAtlas.Text.Search
import ClassAtlas.Text.Width

/-!
Breaking lines of text so that they fit a width.

Lines are filled word by word. A word that would reach beyond the width begins a new line; a word that
fits on no line is folded over several ones or cut, with an ellipsis for what is left out. Blanks
belong to the word before them and may reach beyond the width.
-/

namespace ClassAtlas.Text

/-- What becomes of a word that fits on no line. -/
inductive Overflow where
  | fold
  | ellipsis
deriving DecidableEq, Repr

/-- Words of characters, of which the first ones, in reverse, are given. A new word begins with every
character that follows a blank and is none itself. -/
def wordsFrom : List Char → Bool → List Char → List (List Char)
  | current, _, [] => [current.reverse]
  | current, afterBlank, char :: rest =>
    if afterBlank && !isBlank char then current.reverse :: wordsFrom [char] false rest
    else wordsFrom (char :: current) (isBlank char) rest

/-- The words of a line, each with the blanks after it. The first word also has the blanks in front of
it, and a line of blanks has no words. -/
def words (line : List Char) : List (List Char) :=
  match line.dropWhile isBlank with
  | [] => []
  | rest => wordsFrom (line.takeWhile isBlank).reverse false rest

/-- The cells that characters take. -/
def cells (chars : List Char) : Nat := widthFrom none chars

/-- Characters without the blanks at their end. -/
def withoutEndBlanks (chars : List Char) : List Char := (chars.reverse.dropWhile isBlank).reverse

/-- Pieces of a word that are as long as a width admits, given the first piece so far, in reverse, with
its cells. -/
def chopFrom (width : Nat) : List Char → Nat → List Char → List (List Char)
  | current, _, [] => [current.reverse]
  | current, used, char :: rest =>
    let taken := charWidth char
    if used + taken > width then current.reverse :: chopFrom width [char] taken rest
    else chopFrom width (char :: current) (used + taken) rest

/-- Pieces of a word that are as long as a width admits. -/
def chop (width : Nat) (word : List Char) : List (List Char) := chopFrom width [] 0 word

/-- Lines that are being filled: the finished ones, the latest first, and the one begun, absent before
the first word. -/
structure Filling where
  finished : List (List Char)
  begun : Option (List Char)
  /-- Cells taken on the line begun. -/
  used : Nat

namespace Filling

/-- Begins a new line with characters. -/
def beginLine (filling : Filling) (chars : List Char) : Filling :=
  ⟨filling.begun.toList ++ filling.finished, some chars, cells chars⟩

/-- Goes on with characters on the line begun. -/
def extend (filling : Filling) (chars : List Char) : Filling :=
  { filling with begun := some (filling.begun.getD [] ++ chars), used := filling.used + cells chars }

/-- Takes in the next word. -/
def word (width : Nat) (overflow : Overflow) (filling : Filling) (chars : List Char) : Filling :=
  let needed := cells (withoutEndBlanks chars)
  if filling.used + needed ≤ width then filling.extend chars
  else if needed > width && overflow == .fold then (chop width chars).foldl beginLine filling
  else filling.beginLine chars

/-- All lines in order. -/
def lines (filling : Filling) : List (List Char) := (filling.begun.toList ++ filling.finished).reverse

end Filling

/-- A line without blanks at its end that make it longer than a width, counted in characters. -/
def withoutExcess (width : Nat) (line : List Char) : List Char :=
  let blanks := line.length - (withoutEndBlanks line).length
  line.take (line.length - min blanks (line.length - width))

/-- The longest beginning of characters that fits a width. -/
def fitting : Nat → List Char → List Char
  | _, [] => []
  | width, char :: rest =>
    if charWidth char ≤ width then char :: fitting (width - charWidth char) rest else []

/-- The longest beginning of characters that fits a width, filled up with blanks. -/
def cropped (width : Nat) (chars : List Char) : List Char :=
  let kept := fitting width chars
  kept ++ List.replicate (width - cells kept) ' '

/-- A line cut to a width if it is longer. -/
def truncated (width : Nat) (overflow : Overflow) (line : List Char) : List Char :=
  if cells line ≤ width then line
  else match overflow with
    | .fold => cropped width line
    | .ellipsis => cropped (width - 1) line ++ ['…']

/-- The lines that a line is broken into. Nothing is cut off yet. -/
def broken (width : Nat) (overflow : Overflow) (line : List Char) : List (List Char) :=
  match words line with
  | [] => [withoutExcess width line]
  | words => ((words.foldl (Filling.word width overflow) ⟨[], none, 0⟩).lines).map (withoutExcess width)

/-- The lines of a width that a line is broken into, with long words folded. -/
def folded (width : Nat) (line : String) : List String :=
  (broken width .fold line.toList).map fun part => String.ofList (truncated width .fold part)

end ClassAtlas.Text
