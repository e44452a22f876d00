import ClassAtlas.Text.Range
import ClassAtlas.Text.WordTable
import ClassAtlas.Text.PrintableTable

/-!
Character classes that reach beyond ASCII: words, decimal digits and printable characters.
-/

namespace ClassAtlas.Text

/-- Whether a character can stand in a word: a letter, a number of any kind, or an underscore. -/
def isWordChar (char : Char) : Bool :=
  char == '_' || inRanges alphanumericRanges char.toNat

/-- The value of a decimal digit of any script. -/
def digitValue? (char : Char) : Option Nat :=
  if char.isDigit then some (char.toNat - 48)
  else (offsetInRanges? decimalRanges char.toNat).map (· % 10)

/-- Whether a character is a decimal digit of any script. -/
def isDecimalDigit (char : Char) : Bool := (digitValue? char).isSome

/-- Whether quoted text shows a character as itself. -/
def isPrintable (char : Char) : Bool := inRanges printableRanges char.toNat

end ClassAtlas.Text
