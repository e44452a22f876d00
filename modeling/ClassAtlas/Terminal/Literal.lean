import ClassAtlas.Text.Blank
import ClassAtlas.Text.Search

/-!
Literals in tags: numbers, quoted texts, three words, and literals in parentheses or braces.
-/

namespace ClassAtlas.Literal

/-- Drops blanks. -/
def skipBlanks (chars : List Char) : List Char := chars.dropWhile Text.isBlank

/-- Whether a character is a quote. -/
def isQuote (char : Char) : Bool := char == '"' || char == Char.ofNat 39

/-- What follows a quoted text on one line, given the characters after its opening quote. A backslash
takes the character after it. -/
def afterText? (quote : Char) : List Char → Option (List Char)
  | [] => none
  | '\\' :: _ :: rest => afterText? quote rest
  | char :: rest =>
    if char == quote then some rest
    else if char == '\n' then none
    else afterText? quote rest

/-- Whether characters can belong to a number or a word. -/
def isWordChar (char : Char) : Bool := char.isAlphanum || char == '_' || char == '.'

/-- Whether characters are digits, and a number of several digits does not start with zero. -/
def isWhole (chars : List Char) : Bool :=
  !chars.isEmpty && chars.all Char.isDigit && (chars.head? != some '0' || chars.all (· == '0'))

/-- Whether characters are a number, with or without a fraction. -/
def isNumber (chars : List Char) : Bool :=
  isWhole chars ||
    match Text.pieces (· == '.') chars with
    | [whole, fraction] =>
      !(whole.isEmpty && fraction.isEmpty) && whole.all Char.isDigit && fraction.all Char.isDigit
    | _ => false

/-- The words that are literals. -/
def words : List String := ["None", "True", "False"]

/-- What follows a number or a word that is a literal. -/
def afterWord? (chars : List Char) : Option (List Char) :=
  let word := chars.takeWhile isWordChar
  if isNumber word || words.contains (String.ofList word) then some (chars.drop word.length)
  else none

mutual

/-- What follows the literal at the start of characters. The number bounds how many parts it has. -/
def after? : Nat → List Char → Option (List Char)
  | 0, _ => none
  | fuel + 1, chars =>
    match skipBlanks chars with
    | [] => none
    | '(' :: rest => afterItems? fuel ')' rest
    | '\x7b' :: rest => afterItems? fuel '\x7d' rest
    | '-' :: rest => afterWord? (skipBlanks rest)
    | first :: rest =>
      if isQuote first then
        match afterText? first rest with
        | none => none
        | some rest =>
          match skipBlanks rest with
          | next :: more => if isQuote next then after? fuel (next :: more) else some rest
          | [] => some rest
      else afterWord? (first :: rest)

/-- What follows items with commas or colons in between, up to the closing character. -/
def afterItems? : Nat → Char → List Char → Option (List Char)
  | 0, _, _ => none
  | fuel + 1, close, chars =>
    match skipBlanks chars with
    | [] => none
    | first :: rest =>
      if first == close then some rest
      else match (after? fuel (first :: rest)).map skipBlanks with
        | some (',' :: rest) => afterItems? fuel close rest
        | some (':' :: rest) => if close == '\x7d' then afterItems? fuel close rest else none
        | some (next :: rest) => if next == close then some rest else none
        | _ => none

end

/-- Whether a text is one literal. -/
def isLiteral (chars : List Char) : Bool :=
  match after? (2 * chars.length + 2) chars with
  | some rest => (skipBlanks rest).isEmpty
  | none => false

end ClassAtlas.Literal
