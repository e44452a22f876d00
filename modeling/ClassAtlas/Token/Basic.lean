/-!
Lexical tokens of a source file.
-/

namespace ClassAtlas

/-- Keywords that matter for finding declarations and usages. -/
inductive Keyword where
  | namespaceWord
  | useWord
  | asWord
  | newWord
  | extendsWord
  | implementsWord
  | classWord
  | traitWord
  | interfaceWord
  | enumWord
  | functionWord
  | fnWord
  | constWord
  | publicWord
  | protectedWord
  | privateWord
  | staticWord
  | readonlyWord
deriving DecidableEq, Repr

/-- Punctuation that matters for finding declarations and usages. -/
inductive Mark where
  | doubleColon
  | openParen
  | closeParen
  | openBrace
  | closeBrace
  | semicolon
  | comma
  | colon
deriving DecidableEq, Repr

/-- The kind of a token. -/
inductive TokenKind where
  /-- A plain or qualified name. -/
  | name
  /-- A namespace separator that stands alone. -/
  | separator
  /-- A variable with its dollar sign. -/
  | variableName
  | whitespace
  | comment
  | keyword (word : Keyword)
  | mark (sign : Mark)
  | other
deriving DecidableEq, Repr

namespace Keyword

/-- All keywords. -/
def all : List Keyword := [
  .namespaceWord, .useWord, .asWord, .newWord, .extendsWord, .implementsWord, .classWord, .traitWord,
  .interfaceWord, .enumWord, .functionWord, .fnWord, .constWord, .publicWord, .protectedWord,
  .privateWord, .staticWord, .readonlyWord]

/-- The lowercase spelling of a keyword. -/
def spelling : Keyword → String
  | .namespaceWord => "namespace"
  | .useWord => "use"
  | .asWord => "as"
  | .newWord => "new"
  | .extendsWord => "extends"
  | .implementsWord => "implements"
  | .classWord => "class"
  | .traitWord => "trait"
  | .interfaceWord => "interface"
  | .enumWord => "enum"
  | .functionWord => "function"
  | .fnWord => "fn"
  | .constWord => "const"
  | .publicWord => "public"
  | .protectedWord => "protected"
  | .privateWord => "private"
  | .staticWord => "static"
  | .readonlyWord => "readonly"

end Keyword

namespace Mark

/-- All punctuation marks. -/
def all : List Mark := [
  .doubleColon, .openParen, .closeParen, .openBrace, .closeBrace, .semicolon, .comma, .colon]

/-- The spelling of a punctuation mark. -/
def spelling : Mark → String
  | .doubleColon => "::"
  | .openParen => "("
  | .closeParen => ")"
  | .openBrace => "\x7b"
  | .closeBrace => "\x7d"
  | .semicolon => ";"
  | .comma => ","
  | .colon => ":"

end Mark

namespace TokenKind

/-- The keyword or punctuation mark with a spelling. -/
def ofSpelling? (spelling : String) : Option TokenKind :=
  match Keyword.all.find? (·.spelling == spelling) with
  | some word => some (.keyword word)
  | none => (Mark.all.find? (·.spelling == spelling)).map .mark

/-- The word that names a kind in reports. -/
def label : TokenKind → String
  | .name => "name"
  | .separator => "ns_separator"
  | .variableName => "variable"
  | .whitespace => "whitespace"
  | .comment => "comment"
  | .keyword word => word.spelling
  | .mark sign => sign.spelling
  | .other => "other"

/-- The kind with a label. -/
def ofLabel? (label : String) : Option TokenKind :=
  match ofSpelling? label with
  | some kind => some kind
  | none =>
    [.name, .separator, .variableName, .whitespace, .comment, .other].find? (·.label == label)

/-- Whether a kind only separates other tokens. -/
def isTrivia (kind : TokenKind) : Bool := kind == .whitespace || kind == .comment

/-- Whether a kind is part of a name. -/
def isNamePart (kind : TokenKind) : Bool := kind == .name || kind == .separator

end TokenKind

/-- One token: its kind, its exact text and the one-based line on which it starts. -/
structure Token where
  kind : TokenKind
  text : String
  line : Int
deriving DecidableEq, Repr

namespace Token

/-- Whether a token only separates other tokens. -/
def isTrivia (token : Token) : Bool := token.kind.isTrivia

/-- Whether a token is part of a name. -/
def isNamePart (token : Token) : Bool := token.kind.isNamePart

/-- Whether a token is a keyword. -/
def isKeyword (token : Token) (word : Keyword) : Bool := token.kind == .keyword word

/-- Whether a token is a punctuation mark. -/
def isMark (token : Token) (mark : Mark) : Bool := token.kind == .mark mark

end Token

end ClassAtlas
