/-!
Blank characters and the trimming of text.

A blank is any character that separates words in running text, line breaks and the four information
separators included. The zero-width space and the byte order mark are not blanks.
-/

namespace ClassAtlas.Text

/-- Whether a character is a blank. -/
def isBlank (char : Char) : Bool :=
  let code := char.toNat
  (9 ≤ code && code ≤ 13) || (28 ≤ code && code ≤ 32) || code == 0x85 || code == 0xa0 ||
    code == 0x1680 || (0x2000 ≤ code && code ≤ 0x200a) || code == 0x2028 || code == 0x2029 ||
    code == 0x202f || code == 0x205f || code == 0x3000

/-- Drops the leading characters that satisfy a predicate. -/
def dropStart (text : String) (drops : Char → Bool) : String :=
  String.ofList (text.toList.dropWhile drops)

/-- Drops the trailing characters that satisfy a predicate. -/
def dropEnd (text : String) (drops : Char → Bool) : String :=
  String.ofList (text.toList.reverse.dropWhile drops).reverse

/-- Drops the leading and the trailing characters that satisfy a predicate. -/
def dropAround (text : String) (drops : Char → Bool) : String :=
  dropEnd (dropStart text drops) drops

/-- Text without its leading and trailing blanks. -/
def trim (text : String) : String := dropAround text isBlank

/-- Text without its trailing blanks. -/
def trimEnd (text : String) : String := dropEnd text isBlank

/-- Whether text has at least one character and all of them are blanks. -/
def isBlankText (text : String) : Bool :=
  !text.isEmpty && text.toList.all isBlank

@[simp] theorem toList_dropStart (text : String) (drops : Char → Bool) :
    (dropStart text drops).toList = text.toList.dropWhile drops := by
  simp [dropStart]

@[simp] theorem toList_dropEnd (text : String) (drops : Char → Bool) :
    (dropEnd text drops).toList = (text.toList.reverse.dropWhile drops).reverse := by
  simp [dropEnd]

end ClassAtlas.Text
