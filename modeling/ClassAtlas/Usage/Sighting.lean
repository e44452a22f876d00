import ClassAtlas.Name.Context
import ClassAtlas.Usage.Record

/-!
Sightings: the spans of tokens that use a class.

A sighting names positions in the token list of a file. Its record, the form that reports show, takes
the line of the anchor token and the source text of the span.
-/

namespace ClassAtlas

/-- One file as the detectors see it: its tokens, what names mean in it, and the class looked for. -/
structure View where
  tokens : List Token
  context : Context
  /-- The full name of the class looked for, normalised. -/
  target : String

namespace View

/-- The view of a token list for a target as given in a request. -/
def ofTokens (tokens : List Token) (target : String) : View :=
  ⟨tokens, .ofTokens tokens, Name.normalized target⟩

/-- Whether a full name is the target. -/
def isTarget (view : View) (fullName : String) : Bool := Name.unrooted fullName == view.target

/-- Whether a written name stands for the target. -/
def resolvesToTarget (view : View) (name : String) : Bool :=
  view.isTarget (view.context.resolve name)

/-- Whether a token is part of a name and, taken alone, stands for the target. -/
def namesTarget (view : View) (token : Token) : Bool :=
  token.isNamePart && view.resolvesToTarget token.text

end View

/-- A span of tokens that uses the target. -/
structure Sighting where
  usageType : UsageType
  /-- Position of the first token of the span. -/
  start : Nat
  /-- Position past the last token of the span. -/
  stop : Nat
  /-- Position of the token whose line is reported. -/
  anchor : Nat
  method : Option String
deriving DecidableEq, Repr

/-- The record of a sighting in a token list. -/
def Sighting.record (tokens : List Token) (sighting : Sighting) : UsageRecord :=
  .found (((tokens[sighting.anchor]?).map (·.line)).getD 0) sighting.usageType
    (Token.codeBetween tokens sighting.start sighting.stop) sighting.method

/-- A place in a token list: the tokens before it, nearest first, the token at it, and the tokens
after it. -/
structure Place where
  before : List Token
  token : Token
  after : List Token

namespace Place

/-- The position of a place. -/
def index (place : Place) : Nat := place.before.length

/-- The position at which a tail of the tokens after the place begins. -/
def indexOf (place : Place) (rest : List Token) : Nat :=
  place.before.length + 1 + (place.after.length - rest.length)

/-- The places of the tokens ahead, given the tokens before them, nearest first. -/
def listFrom (before : List Token) : List Token → List Place
  | [] => []
  | token :: after => ⟨before, token, after⟩ :: listFrom (token :: before) after

/-- The places of a token list in order. -/
def list (tokens : List Token) : List Place := listFrom [] tokens

end Place

end ClassAtlas
