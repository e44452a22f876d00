import ClassAtlas.Json.Basic
import ClassAtlas.Text.Numeral

/-!
Reading JSON text.

The whole text has to be one value, with blanks around it. `NaN`, `Infinity` and `-Infinity` count as
numbers, control characters may not stand in a string, and of two members with one key the later
value wins at the earlier place. Integers are read up to a number of digits, and values up to a depth
of nesting; what lies beyond is told apart from text that is no JSON.
-/

namespace ClassAtlas.Json

/-- Why a text cannot be read. -/
inductive ReadError where
  | malformed
  /-- An integer with too many digits. -/
  | longInteger (digits : Nat)
  | tooNested
deriving DecidableEq, Repr

/-- A part that was read, with the characters after it. -/
abbrev Reading (α : Type) : Type := Except ReadError (α × List Char)

/-- Drops the four characters that may stand between parts of a value. -/
def skipBlanks (chars : List Char) : List Char :=
  chars.dropWhile fun char => char == ' ' || char == '\t' || char == '\n' || char == '\r'

/-- The value of a hexadecimal digit. -/
def hexDigit? (char : Char) : Option Nat :=
  if '0' ≤ char ∧ char ≤ '9' then some (char.toNat - 48)
  else if 'a' ≤ char ∧ char ≤ 'f' then some (char.toNat - 87)
  else if 'A' ≤ char ∧ char ≤ 'F' then some (char.toNat - 55)
  else none

/-- The code unit written as four hexadecimal digits. -/
def hexUnit? (first second third fourth : Char) : Option Nat := do
  let first ← hexDigit? first
  let second ← hexDigit? second
  let third ← hexDigit? third
  let fourth ← hexDigit? fourth
  some (((first * 16 + second) * 16 + third) * 16 + fourth)

/-- The character after a backslash that is not `u`. -/
def escapeCode? (char : Char) : Option Nat :=
  if char == '"' || char == '\\' || char == '/' then some char.toNat
  else if char == 'b' then some 8
  else if char == 'f' then some 12
  else if char == 'n' then some 10
  else if char == 'r' then some 13
  else if char == 't' then some 9
  else none

/-- Reads a string after its opening quote: code units, and what follows the closing quote. The units
already read are given in reverse. -/
def stringUnits? : List Nat → List Char → Option (List Nat × List Char)
  | _, [] => none
  | units, '"' :: rest => some (units.reverse, rest)
  | units, '\\' :: 'u' :: first :: second :: third :: fourth :: rest =>
    match hexUnit? first second third fourth with
    | some unit => stringUnits? (unit :: units) rest
    | none => none
  | units, '\\' :: char :: rest =>
    match escapeCode? char with
    | some unit => stringUnits? (unit :: units) rest
    | none => none
  | units, char :: rest =>
    if char.toNat < 32 then none else stringUnits? (char.toNat :: units) rest

/-- The characters of code units: a high and a low surrogate form one character. A surrogate that stands
alone is no character and cannot be kept in text; the replacement character stands for it. -/
def charsOfUnits : List Nat → List Char
  | [] => []
  | high :: low :: rest =>
    if 0xd800 ≤ high ∧ high ≤ 0xdbff ∧ 0xdc00 ≤ low ∧ low ≤ 0xdfff then
      Char.ofNat (0x10000 + (high - 0xd800) * 1024 + (low - 0xdc00)) :: charsOfUnits rest
    else if 0xd800 ≤ high ∧ high ≤ 0xdfff then Char.ofNat 0xfffd :: charsOfUnits (low :: rest)
    else Char.ofNat high :: charsOfUnits (low :: rest)
  | [unit] => if 0xd800 ≤ unit ∧ unit ≤ 0xdfff then [Char.ofNat 0xfffd] else [Char.ofNat unit]

/-- Reads a string after its opening quote. -/
def readText (chars : List Char) : Reading String :=
  match stringUnits? [] chars with
  | some (units, rest) => .ok (String.ofList (charsOfUnits units), rest)
  | none => .error .malformed

/-- Splits off the leading ASCII digits. -/
def spanDigits (chars : List Char) : List Char × List Char :=
  (chars.takeWhile Char.isDigit, chars.dropWhile Char.isDigit)

/-- Splits off a fraction, if one follows. -/
def spanFraction : List Char → List Char × List Char
  | '.' :: rest =>
    let (digits, after) := spanDigits rest
    if digits.isEmpty then ([], '.' :: rest) else ('.' :: digits, after)
  | chars => ([], chars)

/-- Splits off an exponent, if one follows. -/
def spanExponent (chars : List Char) : List Char × List Char :=
  match chars with
  | mark :: rest =>
    if mark == 'e' || mark == 'E' then
      let (sign, numeral) :=
        match rest with
        | '+' :: numeral => (['+'], numeral)
        | '-' :: numeral => (['-'], numeral)
        | numeral => ([], numeral)
      let (digits, after) := spanDigits numeral
      if digits.isEmpty then ([], chars) else (mark :: sign ++ digits, after)
    else ([], chars)
  | [] => ([], [])

/-- Splits off the digits of an integer. A leading zero stands alone. -/
def spanInteger : List Char → List Char × List Char
  | '0' :: rest => (['0'], rest)
  | chars => spanDigits chars

/-- Reads a number after its sign. -/
def readUnsigned (negative : Bool) (chars : List Char) : Reading Json :=
  let (digits, after) := spanInteger chars
  if digits.isEmpty then .error .malformed
  else
    let (fraction, after) := spanFraction after
    let (exponent, after) := spanExponent after
    if !fraction.isEmpty || !exponent.isEmpty then
      let sign := if negative then ['-'] else []
      .ok (.real (String.ofList (sign ++ digits ++ fraction ++ exponent)), after)
    else if digits.length > Text.maxNumeralDigits then .error (.longInteger digits.length)
    else
      let value : Nat := digits.foldl (fun value digit => value * 10 + (digit.toNat - 48)) 0
      .ok (.int (if negative then -(value : Int) else value), after)

/-- Reads a number. -/
def readNumber : List Char → Reading Json
  | '-' :: rest => readUnsigned true rest
  | chars => readUnsigned false chars

/-- How deep lists and objects may be nested. -/
def maxDepth : Nat := 985

mutual

/-- Reads a value that starts at the first character. The first number bounds the count of values, the
second says how many lists and objects may still be opened. -/
def readValue : Nat → Nat → List Char → Reading Json
  | 0, _, _ => .error .malformed
  | fuel + 1, depth, chars =>
    match chars with
    | '"' :: rest => (readText rest).map fun (text, rest) => (.str text, rest)
    | '\x7b' :: rest =>
      match depth with
      | 0 => .error .tooNested
      | depth + 1 =>
        match skipBlanks rest with
        | '\x7d' :: rest => .ok (.object [], rest)
        | rest => readMembers fuel depth [] rest
    | '[' :: rest =>
      match depth with
      | 0 => .error .tooNested
      | depth + 1 =>
        match skipBlanks rest with
        | ']' :: rest => .ok (.list [], rest)
        | rest => readItems fuel depth [] rest
    | 'n' :: 'u' :: 'l' :: 'l' :: rest => .ok (.null, rest)
    | 't' :: 'r' :: 'u' :: 'e' :: rest => .ok (.bool true, rest)
    | 'f' :: 'a' :: 'l' :: 's' :: 'e' :: rest => .ok (.bool false, rest)
    | 'N' :: 'a' :: 'N' :: rest => .ok (.real "NaN", rest)
    | 'I' :: 'n' :: 'f' :: 'i' :: 'n' :: 'i' :: 't' :: 'y' :: rest => .ok (.real "Infinity", rest)
    | '-' :: 'I' :: 'n' :: 'f' :: 'i' :: 'n' :: 'i' :: 't' :: 'y' :: rest =>
      .ok (.real "-Infinity", rest)
    | _ => readNumber chars

/-- Reads the next item of a list and those after it, up to the closing bracket. The items already read
are given in reverse. -/
def readItems : Nat → Nat → List Json → List Char → Reading Json
  | 0, _, _, _ => .error .malformed
  | fuel + 1, depth, items, chars =>
    match readValue fuel depth chars with
    | .error fault => .error fault
    | .ok (item, rest) =>
      match skipBlanks rest with
      | ']' :: rest => .ok (.list (item :: items).reverse, rest)
      | ',' :: rest => readItems fuel depth (item :: items) (skipBlanks rest)
      | _ => .error .malformed

/-- Reads the next member of an object and those after it, up to the closing brace, after those already
read. -/
def readMembers : Nat → Nat → List (String × Json) → List Char → Reading Json
  | 0, _, _, _ => .error .malformed
  | fuel + 1, depth, members, chars =>
    match chars with
    | '"' :: rest =>
      match readText rest with
      | .error fault => .error fault
      | .ok (key, rest) =>
        match skipBlanks rest with
        | ':' :: rest =>
          match readValue fuel depth (skipBlanks rest) with
          | .error fault => .error fault
          | .ok (value, rest) =>
            let members := insertMember members key value
            match skipBlanks rest with
            | '\x7d' :: rest => .ok (.object members, rest)
            | ',' :: rest => readMembers fuel depth members (skipBlanks rest)
            | _ => .error .malformed
        | _ => .error .malformed
    | _ => .error .malformed

end

/-- Reads a text that is one JSON value. -/
def parse (text : String) : Except ReadError Json :=
  match readValue (text.length + 1) maxDepth (skipBlanks text.toList) with
  | .error fault => .error fault
  | .ok (value, rest) => if (skipBlanks rest).isEmpty then .ok value else .error .malformed

/-- Reads a text that is one JSON value; absent if it cannot be read. -/
def parse? (text : String) : Option Json := (parse text).toOption

end ClassAtlas.Json
