import ClassAtlas.Text.Numeral
import ClassAtlas.Text.Search

/-!
Integers on the command line.

Blanks around a number, a plus sign, zeros in front of it and zeros after a decimal point do not count,
and single underscores may stand between digits. Digits are ASCII only.
-/

namespace ClassAtlas.Command

/-- A number without the zeros in front of it, among which underscores do not count; absent if no
number can start like that. One zero stays in front of a decimal point, and the last character always
stays. -/
def withoutZeros? (chars : List Char) : Option (List Char) :=
  match chars with
  | '0' :: _ =>
    let isFiller (char : Char) : Bool := char == '0' || char == '_'
    let fillers := chars.takeWhile isFiller
    match chars.dropWhile isFiller with
    | [] => some (fillers.drop (fillers.length - 1))
    | '.' :: rest => some (fillers.drop (fillers.length - 1) ++ '.' :: rest)
    | digit :: rest => if digit.isDigit then some (digit :: rest) else none
  | first :: _ => if first.isDigit || first == '-' then some chars else none
  | [] => none

/-- A number without a decimal point and the zeros after it. -/
def withoutFraction (chars : List Char) : List Char :=
  match chars.dropWhile (· != '.') with
  | '.' :: zeros => if zeros.all (· == '0') then chars.takeWhile (· != '.') else chars
  | _ => chars

/-- A number without underscores, if each of them stands alone and none at an end. -/
def withoutUnderscores (chars : List Char) : List Char :=
  let isMisplaced := chars.head? == some '_' || chars.getLast? == some '_' ||
    Text.occursIn ['_', '_'] chars
  if isMisplaced then chars else chars.filter (· != '_')

/-- Reads digits of which the first is zero only if it is the only one. -/
def plainNat? (digits : List Char) : Option Nat :=
  if digits.isEmpty || digits.length > Text.maxNumeralDigits || !digits.all Char.isDigit then none
  else if digits.head? == some '0' && digits.length > 1 then none
  else Text.natOfChars? digits

/-- Reads digits with an optional minus sign. -/
def plainInt? : List Char → Option Int
  | '-' :: digits => (plainNat? digits).map fun value => -(value : Int)
  | digits => (plainNat? digits).map Int.ofNat

/-- Removes one plus sign, which no minus sign may follow. -/
def withoutPlus? : List Char → Option (List Char)
  | '+' :: '-' :: _ => none
  | '+' :: rest => some rest
  | chars => some chars

/-- Reads an integer. -/
def integer? (text : String) : Option Int := do
  let chars ← withoutPlus? (Text.dropAround text Text.surroundsNumeral).toList
  let chars ← withoutZeros? chars
  plainInt? (withoutUnderscores (withoutFraction chars))

end ClassAtlas.Command
