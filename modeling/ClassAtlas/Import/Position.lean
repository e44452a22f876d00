import ClassAtlas.Import.Statement
import ClassAtlas.Token.Position

/-!
Import statements at positions that may count from the end of a token list.
-/

namespace ClassAtlas.Import

/-- An import statement: the position of its keyword, the position of the token that ends it, and its
clauses. -/
structure Span where
  start : Int
  last : Int
  clauses : List ImportClause
deriving DecidableEq, Repr

/-- The import statement whose keyword stands at a position. -/
def spanAt (tokens : List Token) (start : Int) : Except Fault Span := do
  let ahead ← Token.aheadAt tokens (start + 1)
  let (clauses, after) := read ahead
  let reached := start + 1 + (ahead.length - after.length : Nat)
  return ⟨start, min reached (tokens.length - 1), clauses⟩

end ClassAtlas.Import
