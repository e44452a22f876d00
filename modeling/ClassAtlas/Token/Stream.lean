import ClassAtlas.Token.Basic
import ClassAtlas.Tree.Node
import ClassAtlas.Text.Blank
import ClassAtlas.Text.Search

/-!
The token stream of a source file.

The leaves of the syntax tree become tokens in source order, and whatever bytes lie between them
become tokens of their own, so the stream covers the whole source. Neighbouring leaves that spell one
name are merged: `App\Models\User` is one name and `$user` one variable.
-/

namespace ClassAtlas

/-- The kind of the token that a leaf becomes. -/
def Node.Leaf.tokenKind (leaf : Node.Leaf) : TokenKind :=
  let kind := leaf.label.kind
  if kind == "comment" then .comment
  else if kind == "name" || kind == "primitive_type" then .name
  else if leaf.parentKind == some "primitive_type" then .name
  else if kind == "\\" then .separator
  else (TokenKind.ofSpelling? kind).getD .other

namespace Token

/-- Whether a character can start an identifier. -/
def isIdentifierStart (char : Char) : Bool := char.isAlpha || char == '_' || 128 ≤ char.toNat

/-- Whether a character can continue an identifier. -/
def isIdentifierPart (char : Char) : Bool := isIdentifierStart char || char.isDigit

/-- Whether characters spell an identifier. -/
def isIdentifier : List Char → Bool
  | [] => false
  | first :: rest => isIdentifierStart first && rest.all isIdentifierPart

/-- Whether a text is an identifier, possibly with one line feed at its end. -/
def spellsSegment (text : String) : Bool :=
  let chars := text.toList
  isIdentifier chars || (chars.getLast? == some '\n' && isIdentifier chars.dropLast)

/-- Joins a token to the one directly before it, where both spell one name or one variable. A word
of any kind continues a name that ends in a separator. -/
def merge? (previous token : Token) : Option Token :=
  let joined := previous.text ++ token.text
  if previous.isNamePart && token.isNamePart then some ⟨.name, joined, previous.line⟩
  else if previous.isNamePart && Text.endsWith previous.text "\\" && spellsSegment token.text then
    some ⟨.name, joined, previous.line⟩
  else if previous.kind == .other && previous.text == "$" && token.kind == .name then
    some ⟨.variableName, joined, previous.line⟩
  else none

/-- Adds a token to a stream kept with its latest token first. Only a token that directly follows
the latest one can be merged with it. -/
def push (stream : List Token) (token : Token) (adjacent : Bool) : List Token :=
  match stream with
  | [] => [token]
  | previous :: earlier =>
    if adjacent then
      match merge? previous token with
      | some merged => merged :: earlier
      | none => token :: previous :: earlier
    else token :: previous :: earlier

/-- The token for bytes that no leaf covers. -/
def ofGap (text : String) (line : Nat) : Token :=
  ⟨if Text.isBlankText text then .whitespace else .other, text, line⟩

/-- How far a source has been turned into tokens. -/
structure Progress where
  /-- Offset of the first byte not yet covered. -/
  cursor : Nat
  /-- Line of that byte. -/
  line : Nat
  /-- Tokens so far, the latest first. -/
  stream : List Token

/-- Nothing covered yet. -/
def Progress.start : Progress := ⟨0, 1, []⟩

/-- Covers one more leaf, and the gap before it. A leaf that starts before the cursor is skipped. -/
def Progress.advance (source : Source) (progress : Progress) (leaf : Node.Leaf) : Progress :=
  let label := leaf.label
  if label.start < progress.cursor then progress
  else
    let adjacent := label.start == progress.cursor
    let stream :=
      if adjacent then progress.stream
      else ofGap (source.text progress.cursor label.start) progress.line :: progress.stream
    let token : Token :=
      ⟨leaf.tokenKind, source.text label.start label.stop, source.lineAt label.start⟩
    ⟨label.stop, source.lineAt label.stop, push stream token adjacent⟩

/-- Covers the bytes after the last leaf. -/
def Progress.finish (source : Source) (progress : Progress) : List Token :=
  if progress.cursor < source.bytes.length then
    ofGap (source.text progress.cursor source.bytes.length) progress.line :: progress.stream
  else progress.stream

end Token

/-- The tokens of a source in order. -/
def Source.tokens (source : Source) : List Token :=
  ((source.root.leaves.foldl (Token.Progress.advance source) .start).finish source).reverse

end ClassAtlas
