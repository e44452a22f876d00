import ClassAtlas.Failure
import ClassAtlas.Page
import ClassAtlas.Token.Walk

/-!
Walking over tokens from a position that may count from the end of the list.

A position below zero counts from the end, and a walk forward from it goes on at the front of the list
when it reaches the end. A position further below leads nowhere.
-/

namespace ClassAtlas.Token

/-- The tokens from a position on. -/
def aheadAt (tokens : List Token) (position : Int) : Except Fault (List Token) :=
  if position < -(tokens.length : Int) then .error .outOfRange
  else if position < 0 then .ok (tokens.drop (placeIn tokens.length position) ++ tokens)
  else .ok (tokens.drop position.toNat)

/-- The first position from a given one on that holds a significant token, or the first one past the
list. -/
def significantFrom (tokens : List Token) (position : Int) : Except Fault Int := do
  return position + ((← aheadAt tokens position).takeWhile isTrivia).length

/-- The last position up to a given one that holds a significant token, or the one before the list. A
position below zero stays as it is. -/
def significantUpTo (tokens : List Token) (position : Int) : Except Fault Int :=
  if position < 0 then .ok position
  else if tokens.length ≤ position.toNat then .error .outOfRange
  else match lastSignificant? tokens position.toNat with
    | some found => .ok found
    | none => .ok (-1)

/-- The name at a position, with the position after it. -/
def nameAt (tokens : List Token) (position : Int) : Except Fault (String × Int) := do
  let ahead ← aheadAt tokens position
  return (nameAhead ahead, position + (ahead.takeWhile isNamePart).length)

/-- The source text of the tokens from one position up to another. -/
def codeFrom (tokens : List Token) (start stop : Int) : String := code (slice tokens start stop)

/-- From a position inside the list the tokens ahead are those that are left. -/
theorem aheadAt_ofNat (tokens : List Token) (position : Nat) :
    aheadAt tokens position = .ok (tokens.drop position) := by
  have notBefore : ¬ (position : Int) < -(tokens.length : Int) := by omega
  have notNegative : ¬ (position : Int) < 0 := by omega
  simp only [aheadAt, notBefore, notNegative, if_false, Int.toNat_natCast]

end ClassAtlas.Token
