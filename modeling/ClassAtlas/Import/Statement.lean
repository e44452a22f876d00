import ClassAtlas.Name.Basic
import ClassAtlas.Token.Walk

/-!
Import statements.

`use A\B;`, `use A\B as C;`, `use A\B, C\D;` and the group form `use A\{B, C as D};` each bind local
names to full ones. `use function` and `use const`, on the statement or on one item of a group, bind
names of functions and constants instead of classes.
-/

namespace ClassAtlas

/-- What an import clause binds. -/
inductive ImportKind where
  | classLike
  | function
  | constant
deriving DecidableEq, Repr

/-- The word for a kind of import in reports. -/
def ImportKind.label : ImportKind → String
  | .classLike => "class"
  | .function => "function"
  | .constant => "const"

/-- The kind that a keyword selects. -/
def ImportKind.ofToken? (token : Token) : Option ImportKind :=
  if token.isKeyword .functionWord then some .function
  else if token.isKeyword .constWord then some .constant
  else none

/-- One imported name. -/
structure ImportClause where
  /-- The full name, without leading separators. -/
  name : String
  /-- The name given after `as`; empty for none. -/
  localName : String
  kind : ImportKind
deriving DecidableEq, Repr

/-- The local name that a clause binds: the one given, or the last segment of the full name. -/
def ImportClause.key (clause : ImportClause) : String :=
  if clause.localName.isEmpty then Text.afterLast clause.name '\\' else clause.localName

namespace Import

/-- An import statement while it is read. -/
structure Reading where
  /-- The kind given for the whole statement. -/
  statement : ImportKind
  /-- The common start of the names of a group, ending in a separator; empty outside a group. -/
  stem : String
  /-- The name of the clause being read. -/
  current : String
  /-- The local name of the clause being read. -/
  localName : String
  /-- The kind of the clause being read. -/
  kind : ImportKind
  /-- The clauses so far, the latest first. -/
  clauses : List ImportClause

/-- The state before the first clause. -/
def Reading.start (statement : ImportKind) : Reading := ⟨statement, "", "", "", statement, []⟩

/-- Ends the clause being read. A clause whose name is empty or ends in a separator binds nothing. -/
def Reading.finish (reading : Reading) : Reading :=
  let name := Name.unrooted reading.current
  let clauses :=
    if name.isEmpty || Text.endsWith name "\\" then reading.clauses
    else ⟨name, reading.localName, reading.kind⟩ :: reading.clauses
  { reading with current := "", localName := "", kind := reading.statement, clauses := clauses }

/-- Opens a group: the name read so far is the common start of the names in it. -/
def Reading.openGroup (reading : Reading) : Reading :=
  let stem :=
    if Text.endsWith reading.current "\\" then reading.current else reading.current ++ "\\"
  { reading with stem := stem, current := "" }

/-- Reads clauses up to the first token that no clause can hold. The result is the final state, all
clauses ended, and the tokens from that token on. -/
def readClauses (reading : Reading) (tokens : List Token) : Reading × List Token :=
  match tokens with
  | [] => (reading.finish, [])
  | token :: rest =>
    if token.isTrivia then readClauses reading rest
    else if token.isNamePart then
      readClauses { reading with current := reading.stem ++ token.text ++ Token.nameAhead rest }
        (Token.afterName rest)
    else if token.isKeyword .asWord then
      match _ahead : Token.skipTrivia rest with
      | [] => (reading.finish, [])
      | next :: after =>
        if next.kind == .name then readClauses { reading with localName := next.text } after
        else readClauses reading (next :: after)
    else
      let ownKind := ImportKind.ofToken? token
      if ownKind.isSome && !reading.stem.isEmpty then
        readClauses { reading with kind := ownKind.getD reading.kind } rest
      else if token.isMark .openBrace then readClauses reading.openGroup rest
      else if token.isMark .comma then readClauses reading.finish rest
      else if token.isMark .closeBrace then readClauses { reading.finish with stem := "" } rest
      else (reading.finish, token :: rest)
termination_by tokens.length
decreasing_by
  all_goals simp only [List.length_cons]
  all_goals first
    | omega
    | (have bound := Token.length_afterName_le rest; omega)
    | (have bound := Token.length_skipTrivia_le rest
       rw [_ahead, List.length_cons] at bound
       omega)

/-- The clauses of the import statement whose keyword stands just before the tokens, and the tokens
from its end on. -/
def read (tokens : List Token) : List ImportClause × List Token :=
  let ahead := Token.skipTrivia tokens
  let (statement, body) :=
    match ahead with
    | [] => (ImportKind.classLike, [])
    | token :: rest =>
      match ImportKind.ofToken? token with
      | some kind => (kind, rest)
      | none => (.classLike, ahead)
  let (reading, after) := readClauses (.start statement) body
  (reading.clauses.reverse, after)

/-- An import statement at a place in a token list. -/
structure Statement where
  /-- Position of the keyword. -/
  start : Nat
  /-- Number of tokens up to and including the one that ends the statement. -/
  stop : Nat
  clauses : List ImportClause
deriving DecidableEq, Repr

/-- The import statement whose keyword stands at a position. -/
def statementAt (tokens : List Token) (index : Nat) : Statement :=
  let (clauses, after) := read (tokens.drop (index + 1))
  let reached := if index < tokens.length then tokens.length - after.length else index + 1
  ⟨index, min (reached + 1) tokens.length, clauses⟩

end Import

end ClassAtlas
