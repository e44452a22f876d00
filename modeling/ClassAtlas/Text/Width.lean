import ClassAtlas.Text.Range
import ClassAtlas.Text.WidthTable

/-!
How many terminal cells text takes.

Most characters take cells of their own. The joiner hides the character after it, and the selector of
emoji form widens the character before it.
-/

namespace ClassAtlas.Text

/-- Cells taken by one character: none, one or two. -/
def charWidth (char : Char) : Nat :=
  let code := char.toNat
  if 32 ≤ code && code < 127 then 1
  else if inRanges zeroWidthRanges code then 0
  else if inRanges doubleWidthRanges code then 2
  else 1

/-- The character that joins the next one to the one before. -/
def joiner : Char := Char.ofNat 0x200d

/-- The character that asks for the emoji form of the one before. -/
def emojiSelector : Char := Char.ofNat 0xfe0f

/-- Cells taken by characters, given the latest character with cells of its own that no selector has
followed. -/
def widthFrom : Option Char → List Char → Nat
  | _, [] => 0
  | latest, char :: rest =>
    if char == joiner then
      match rest with
      | [] => 0
      | _ :: rest => widthFrom latest rest
    else if char == emojiSelector then
      match latest with
      | some shown => (inRanges widenedRanges shown.toNat).toNat + widthFrom none rest
      | none => widthFrom none rest
    else
      let cells := charWidth char
      cells + widthFrom (if cells == 0 then latest else some char) rest

/-- Cells taken by a text on one line. -/
def width (text : String) : Nat := widthFrom none text.toList

end ClassAtlas.Text
