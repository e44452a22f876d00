import ClassAtlas.Text.Blank
import ClassAtlas.Text.CharClass

/-!
Reading and writing integers.

A numeral may be surrounded by blanks other than the four information separators, has an optional
sign, takes decimal digits of any script, and may have single underscores between digits.
-/

namespace ClassAtlas.Text

/-- Reads digits in which single underscores may separate digits. The flag says whether the previous
character was a digit, and the number is the value so far. -/
def digitsValue? : Bool → Nat → List Char → Option Nat
  | afterDigit, value, [] => if afterDigit then some value else none
  | afterDigit, value, char :: rest =>
    if char == '_' then
      if afterDigit then digitsValue? false value rest else none
    else match digitValue? char with
      | some digit => digitsValue? true (value * 10 + digit) rest
      | none => none

/-- Numerals longer than this are refused. -/
def maxNumeralDigits : Nat := 4300

/-- Reads an unsigned numeral. -/
def natOfChars? (chars : List Char) : Option Nat :=
  if (chars.filter isDecimalDigit).length ≤ maxNumeralDigits then digitsValue? false 0 chars
  else none

/-- Whether a character may stand around a numeral. -/
def surroundsNumeral (char : Char) : Bool :=
  isBlank char && !(28 ≤ char.toNat && char.toNat ≤ 31)

/-- Reads an integer numeral. -/
def int? (text : String) : Option Int :=
  match (dropAround text surroundsNumeral).toList with
  | '-' :: digits => (natOfChars? digits).map fun value => -(value : Int)
  | '+' :: digits => (natOfChars? digits).map Int.ofNat
  | digits => (natOfChars? digits).map Int.ofNat

/-- The decimal numeral of a natural number. -/
def decimal (value : Nat) : String := String.ofList (Nat.toDigits 10 value)

/-- The decimal numeral of an integer. -/
def decimalInt : Int → String
  | .ofNat value => decimal value
  | .negSucc value => "-" ++ decimal (value + 1)

end ClassAtlas.Text
