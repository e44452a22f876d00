import ClassAtlas.Token.Basic
import ClassAtlas.Text.Blank
import ClassAtlas.Text.Search

/-!
Walking over tokens: skipping what only separates, reading names, and giving back the source text of
a span. The first functions work on the tokens that lie ahead; the later ones address a whole list by
position.
-/

namespace ClassAtlas.Token

/-- The tokens from the first significant one on. -/
def skipTrivia (tokens : List Token) : List Token := tokens.dropWhile isTrivia

/-- The texts of tokens one after the other. -/
def joinedText (tokens : List Token) : String := Text.concat (tokens.map (·.text))

/-- The source text of a span, without the blanks around it. -/
def code (tokens : List Token) : String := Text.trim (joinedText tokens)

/-- The name at the front of the tokens, empty if they do not start with one. -/
def nameAhead (tokens : List Token) : String := joinedText (tokens.takeWhile isNamePart)

/-- The tokens after the name at their front. -/
def afterName (tokens : List Token) : List Token := tokens.dropWhile isNamePart

theorem length_dropWhile_le {α : Type} (drops : α → Bool) (items : List α) :
    (items.dropWhile drops).length ≤ items.length := by
  induction items with
  | nil => exact Nat.le_refl _
  | cons item rest inductionHypothesis =>
    simp only [List.dropWhile_cons]
    split
    · exact Nat.le_succ_of_le inductionHypothesis
    · exact Nat.le_refl _

theorem length_skipTrivia_le (tokens : List Token) : (skipTrivia tokens).length ≤ tokens.length :=
  length_dropWhile_le _ tokens

theorem length_afterName_le (tokens : List Token) : (afterName tokens).length ≤ tokens.length :=
  length_dropWhile_le _ tokens

/-- The last position up to `index` that holds a significant token, if there is one. -/
def lastSignificant? (tokens : List Token) (index : Nat) : Option Nat :=
  let back := (tokens.take (index + 1)).reverse
  let trivia := (back.takeWhile isTrivia).length
  if trivia < back.length then some (index - trivia) else none

/-- The name at a position, with the position after it. -/
def nameFrom (tokens : List Token) (index : Nat) : String × Nat :=
  let ahead := tokens.drop index
  (nameAhead ahead, index + (ahead.takeWhile isNamePart).length)

/-- The source text of the tokens from one position up to another. -/
def codeBetween (tokens : List Token) (start stop : Nat) : String :=
  code ((tokens.drop start).take (stop - start))

end ClassAtlas.Token
