/-!
Line structure of text: the characters that end a line, the lines of a text, and the replacement of
every carriage return form by a line feed.
-/

namespace ClassAtlas.Text

/-- Whether a character ends a line on its own. -/
def isLineBreak (char : Char) : Bool :=
  let code := char.toNat
  (10 ≤ code && code ≤ 13) || (28 ≤ code && code ≤ 30) || code == 0x85 || code == 0x2028 ||
    code == 0x2029

/-- The lines of a text whose current line, read so far in reverse, is given. A carriage return and
the line feed after it end one line together; a final line without an end counts when it is not
empty. -/
def linesFrom : List Char → List Char → List (List Char)
  | current, [] => if current.isEmpty then [] else [current.reverse]
  | current, '\r' :: '\n' :: rest => current.reverse :: linesFrom [] rest
  | current, char :: rest =>
    if isLineBreak char then current.reverse :: linesFrom [] rest
    else linesFrom (char :: current) rest

/-- The lines of a text, without their ends. -/
def lines (text : String) : List String := (linesFrom [] text.toList).map String.ofList

/-- Replaces each carriage return, with the line feed after it if there is one, by a line feed. -/
def unifyLineEnds : List Char → List Char
  | [] => []
  | '\r' :: '\n' :: rest => '\n' :: unifyLineEnds rest
  | '\r' :: rest => '\n' :: unifyLineEnds rest
  | char :: rest => char :: unifyLineEnds rest

/-- Text with line feeds as its only line ends. -/
def withLineFeeds (text : String) : String := String.ofList (unifyLineEnds text.toList)

end ClassAtlas.Text
