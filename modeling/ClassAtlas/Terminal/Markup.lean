import ClassAtlas.Failure
import ClassAtlas.Terminal.Emoji
import ClassAtlas.Terminal.Encoding
import ClassAtlas.Terminal.Literal
import ClassAtlas.Terminal.Style
import ClassAtlas.Text.Wrap

/-!
Text with style tags in brackets.

A tag starts with a bracket and a lowercase letter, a slash, a number sign or an at sign. Backslashes
in front of a tag escape it: an odd number of them makes it plain text, and each pair stands for one.
A tag that starts with a slash closes an open one. Only the plain text is shown here, since styles have
no effect on it; but a tag that closes nothing is a fault.
-/

namespace ClassAtlas.Markup

/-- Whether a character can follow the opening bracket of a tag. -/
def startsTag (char : Char) : Bool :=
  ('a' ≤ char && char ≤ 'z') || char == '#' || char == '/' || char == '@'

/-- The length of the tag at the start of characters. A tag has no opening bracket inside, and may run
over several lines. -/
def tagLength? : List Char → Option Nat
  | '[' :: first :: rest =>
    let inside := rest.takeWhile fun char => char != ']' && char != '['
    match rest.drop inside.length with
    | ']' :: _ => if startsTag first then some (inside.length + 3) else none
    | _ => none
  | _ => none

/-- Escapes everything that could be read as a tag. `backslashes` counts the backslashes just before,
and `skip` how many characters belong to a part that is copied as it is. -/
def escapeFrom : Nat → Nat → List Char → List Char
  | _, _, [] => []
  | _, skip + 1, char :: rest => char :: escapeFrom 0 skip rest
  | backslashes, 0, char :: rest =>
    if char == '\\' then char :: escapeFrom (backslashes + 1) 0 rest
    else match tagLength? (char :: rest) with
      | some (size + 1) =>
        List.replicate (backslashes + 1) '\\' ++ char :: escapeFrom 0 size rest
      | _ => char :: escapeFrom 0 0 rest

/-- Text as markup that shows it. A single backslash at the end is doubled, so that it does not escape
what follows. -/
def escape (text : String) : String :=
  let escaped := escapeFrom 0 0 text.toList
  match escaped.reverse with
  | '\\' :: before =>
    if before.head? == some '\\' then String.ofList escaped else String.ofList (escaped ++ ['\\'])
  | _ => String.ofList escaped

/-- A run of plain text in which a backslash before an opening bracket is dropped. -/
def unescapeBrackets : List Char → List Char
  | [] => []
  | [only] => [only]
  | '\\' :: '[' :: rest => '[' :: unescapeBrackets rest
  | char :: next :: rest => char :: unescapeBrackets (next :: rest)

/-- A part of markup: plain text, or what stands between the brackets of a tag. -/
inductive Piece where
  | text (chars : List Char)
  | tag (content : List Char)

/-- A piece of plain text, left out when it is empty. -/
def Piece.ofText (chars : List Char) : List Piece := if chars.isEmpty then [] else [.text chars]

/-- The pieces of markup. `run` holds the plain characters since the last tag, the latest first, and
`backslashes` counts the backslashes just before, which are not part of it; `skip` is how many
characters belong to a tag that has been read. -/
def piecesFrom : List Char → Nat → Nat → List Char → List Piece
  | run, backslashes, _, [] => Piece.ofText (run.reverse ++ List.replicate backslashes '\\')
  | run, _, skip + 1, _ :: rest => piecesFrom run 0 skip rest
  | run, backslashes, 0, char :: rest =>
    if char == '\\' then piecesFrom run (backslashes + 1) 0 rest
    else match tagLength? (char :: rest) with
      | some (size + 1) =>
        let escaped := List.replicate (backslashes / 2) '\\'
        let before := Piece.ofText run.reverse ++ Piece.ofText escaped
        let piece : Piece :=
          if backslashes % 2 == 1 then .text ((char :: rest).take (size + 1))
          else .tag (rest.take (size - 1))
        before ++ piece :: piecesFrom [] 0 size rest
      | _ => piecesFrom (char :: (List.replicate backslashes '\\' ++ run)) 0 0 rest

/-- A tag: its name, and what follows an equals sign. -/
structure Tag where
  name : String
  parameters : Option String
deriving DecidableEq, Repr

/-- Reads a tag from what stands between its brackets. -/
def Tag.ofContent (content : List Char) : Tag :=
  match Text.cutFirst? (String.ofList content) '=' with
  | some (name, parameters) => ⟨name, some parameters⟩
  | none => ⟨String.ofList content, none⟩

/-- The part of the parameters of an action that has to be a literal: what stands in parentheses after
a name, all of it if it has another form, and nothing if it is only a name. -/
def literalPart (parameters : List Char) : List Char :=
  let isNameChar (char : Char) : Bool := Text.isWordChar char || char == '.'
  let rest := parameters.dropWhile isNameChar
  if rest.isEmpty then []
  else if rest.head? == some '(' && rest.getLast? == some ')' && rest.length > 1 &&
      !rest.contains '\n' then rest
  else parameters

/-- Whether a tag can be closed: the parameters of an action have to be literals. -/
def Tag.isClosable (tag : Tag) : Bool :=
  if !Text.startsWith tag.name "@" then true
  else match tag.parameters with
    | none | some "" => true
    | some parameters =>
      let part := literalPart (Text.trim parameters).toList
      part.isEmpty || Literal.isLiteral part

/-- Closes an open tag: the latest one with a name, or the latest one if the name is empty. The tags
still open are the result, the latest first. -/
def close (name : String) : List Tag → Except Fault (List Tag)
  | [] => .error .badMarkup
  | tag :: others =>
    if name.isEmpty || tag.name == name then
      if tag.isClosable then .ok others else .error .badMarkup
    else (close name others).map (tag :: ·)

/-- The tags that are open after a tag. -/
def step (opened : List Tag) (tag : Tag) : Except Fault (List Tag) :=
  if Text.startsWith tag.name "/" then
    let name := Text.trim (String.ofList (tag.name.toList.drop 1))
    close (if name.isEmpty then "" else Style.normalForm name) opened
  else .ok ({ tag with name := Style.normalForm tag.name } :: opened)

/-- The plain text of pieces. `opened` holds the tags that are open, the latest first. -/
def plainOf (opened : List Tag) : List Piece → Except Fault (List Char)
  | [] => .ok []
  | .text chars :: rest => do
    return Emoji.replaced (unescapeBrackets chars) ++ (← plainOf opened rest)
  | .tag content :: rest => do
    plainOf (← step opened (.ofContent content)) rest

/-- Whether a character only controls a terminal and is left out. -/
def isControl (char : Char) : Bool := [7, 8, 11, 12, 13].contains char.toNat

/-- The plain text of markup, without control characters. -/
def plain (markup : String) : Except Fault String := do
  let chars := markup.toList
  let text ←
    if chars.contains '[' then plainOf [] (piecesFrom [] 0 0 chars) else pure (Emoji.replaced chars)
  return String.ofList (text.filter (!isControl ·))

/-- Distance between tab stops. -/
def tabWidth : Nat := 8

/-- A text of several pieces with tabs in between, given the column reached. A tab reaches to the next
tab stop and takes at least one cell. -/
def expandTabs : Nat → List String → String
  | _, [] => ""
  | _, [last] => last
  | column, piece :: rest =>
    let reached := column + Text.width (piece ++ " ")
    let size := (tabWidth - reached % tabWidth) % tabWidth
    piece ++ Text.repeated (size + 1) ' ' ++ expandTabs (reached + size) rest

/-- The lines of plain text with tabs replaced. -/
def linesOf (text : String) : List String :=
  (Text.splitAt text '\n').map fun line => expandTabs 0 (Text.splitAt line '\t')

/-- The lines of markup as they are shown on a terminal with a width. -/
def shownLines (width : Nat) (markup : String) : Except Fault (List String) := do
  return (linesOf (← plain markup)).flatMap (Text.folded width)

/-- What a terminal with an encoding shows for several pieces of markup printed together, with blanks
in between. -/
def printed (encoding : String) (pieces : List String) : Except Fault String := do
  let shown ← pieces.mapM fun piece => plain (Terminal.adapted encoding piece)
  return Text.join "\n" (linesOf (Text.join " " shown)) ++ "\n"

end ClassAtlas.Markup
