import ClassAtlas.Token.Walk

/-!
The three meanings of the keyword `use`: an import at file scope, the inclusion of traits in a class
body, and the binding of variables by a closure.

A `use` before an opening parenthesis binds variables. Any other `use` includes traits when a
class-opening keyword stands shortly before it, with no statement end in between, or when the
innermost open block is a class body; otherwise it is an import.
-/

namespace ClassAtlas

/-- The meaning of a `use` keyword. -/
inductive UseKind where
  | fileImport
  | mixin
  | closure
deriving DecidableEq, Repr

/-- The word for a meaning in reports. -/
def UseKind.label : UseKind → String
  | .fileImport => "import"
  | .mixin => "mixin"
  | .closure => "closure"

namespace UseKind

/-- How many tokens before a `use` are searched for a class-opening keyword. -/
def lookback : Nat := 20

/-- Whether a token is a keyword that can open a class, trait or enum. -/
def isOpenerWord (token : Token) : Bool :=
  token.isKeyword .classWord || token.isKeyword .traitWord || token.isKeyword .enumWord

/-- Whether a token opens a class, trait or enum, given the tokens before it, nearest first. After a
double colon the keyword is a constant and opens nothing. -/
def opensClass (token : Token) (before : List Token) : Bool :=
  isOpenerWord token &&
    match Token.skipTrivia before with
    | [] => true
    | previous :: _ => !previous.isMark .doubleColon

/-- Whether a class-opening keyword stands among the given number of tokens before a place, nearest
first, with no semicolon and no `namespace` in between. -/
def openerNear : Nat → List Token → Bool
  | 0, _ => false
  | _ + 1, [] => false
  | count + 1, token :: before =>
    if opensClass token before then true
    else if token.isMark .semicolon || token.isKeyword .namespaceWord then false
    else openerNear count before

/-- The blocks open at a place. -/
structure Scopes where
  /-- One flag for each open brace, innermost first: whether the block is a class body. -/
  blocks : List Bool
  /-- Whether a class header has begun and its body has not. -/
  pending : Bool
deriving DecidableEq, Repr

/-- No open block. -/
def Scopes.none : Scopes := ⟨[], false⟩

/-- The blocks open after a token, given the tokens before it, nearest first. -/
def Scopes.after (scopes : Scopes) (token : Token) (before : List Token) : Scopes :=
  if token.isKeyword .interfaceWord || opensClass token before then { scopes with pending := true }
  else if token.isMark .openBrace then ⟨scopes.pending :: scopes.blocks, false⟩
  else if token.isMark .closeBrace then { scopes with blocks := scopes.blocks.tail }
  else if token.isMark .semicolon then { scopes with pending := false }
  else scopes

/-- Whether the innermost open block is a class body. -/
def Scopes.inClassBody (scopes : Scopes) : Bool := scopes.blocks.head? == some true

/-- The meaning of a `use`, given the open blocks, the tokens before it, nearest first, and the
tokens after it. -/
def classify (scopes : Scopes) (before after : List Token) : UseKind :=
  if ((Token.skipTrivia after).head?.map (·.isMark .openParen)).getD false then .closure
  else if openerNear lookback before || scopes.inClassBody then .mixin
  else .fileImport

/-- The meanings of the `use` keywords among the tokens ahead, each with its position. -/
def listFrom (index : Nat) (scopes : Scopes) (before : List Token) :
    List Token → List (Nat × UseKind)
  | [] => []
  | token :: after =>
    let rest := listFrom (index + 1) (scopes.after token before) (token :: before) after
    if token.isKeyword .useWord then (index, classify scopes before after) :: rest else rest

/-- The meanings of the `use` keywords of a file, each with its position, in order. -/
def list (tokens : List Token) : List (Nat × UseKind) := listFrom 0 .none [] tokens

end UseKind

end ClassAtlas
