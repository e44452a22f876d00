import ClassAtlas.Terminal.EmojiTable.EToL
import ClassAtlas.Terminal.EmojiTable.FromS
import ClassAtlas.Terminal.EmojiTable.MToR
import ClassAtlas.Terminal.EmojiTable.UpToD
import ClassAtlas.Text.Blank
import ClassAtlas.Text.LetterCase
import ClassAtlas.Text.Search

/-!
Emoji codes in text.

A code is a name between colons, without blanks, and case does not count in it. After the name a code
may ask for the text form or the emoji form, which is a selector after the emoji. A code with an
unknown name stays as it is.
-/

namespace ClassAtlas.Emoji

/-- The emoji by their names. -/
def entries : List (String × String) :=
  (EmojiTable.upToD ++ EmojiTable.eToL ++ EmojiTable.mToR ++ EmojiTable.fromS).flatMap fun line =>
    (Text.splitAt line ' ').filterMap (Text.cutFirst? · '=')

/-- The emoji with a name in lowercase. -/
def ofName? (name : String) : Option String := entries.lookup name

/-- The endings of codes that ask for a form, with the selectors of the forms. -/
def forms : List (String × Char) := [
  ("-text", Char.ofNat 0xfe0e),
  ("-emoji", Char.ofNat 0xfe0f)]

/-- What a code stands for, given the characters between its colons. -/
def ofCode? (code : List Char) : Option (List Char) :=
  let form := forms.find? fun (ending, _) => ending.toList.isSuffixOf code
  let (name, selector) :=
    match form with
    | some (ending, selector) => (code.take (code.length - ending.length), [selector])
    | none => (code, [])
  (ofName? (Text.lower (String.ofList name))).map fun emoji => emoji.toList ++ selector

/-- The characters of the code after an opening colon, if a closing colon follows them. -/
def codeAhead? (chars : List Char) : Option (List Char) :=
  let code := chars.takeWhile fun char => char != ':' && !Text.isBlank char
  if (chars.drop code.length).head? == some ':' then some code else none

/-- Replaces codes. `skip` is how many characters belong to a code that has been replaced. -/
def replacedFrom : Nat → List Char → List Char
  | _, [] => []
  | skip + 1, _ :: rest => replacedFrom skip rest
  | 0, char :: rest =>
    if char == ':' then
      match codeAhead? rest with
      | some code =>
        (ofCode? code).getD (':' :: code ++ [':']) ++ replacedFrom (code.length + 1) rest
      | none => char :: replacedFrom 0 rest
    else char :: replacedFrom 0 rest

/-- Text in which known codes are replaced by their emoji. -/
def replaced (chars : List Char) : List Char := replacedFrom 0 chars

end ClassAtlas.Emoji
