import ClassAtlas.Import.Statement
import ClassAtlas.Import.UseKind

/-!
What names mean in a file: its namespace, its imports, and the resolution of a written name to a full
one. Resolution is lexical: it looks at the file alone.
-/

namespace ClassAtlas

/-- Local names and the full names they stand for, in the order in which they were first bound. -/
abbrev Aliases : Type := List (String × String)

/-- Binds a local name: a name already bound keeps its place and takes the new meaning. -/
def Aliases.bind (aliases : Aliases) (localName fullName : String) : Aliases :=
  match aliases with
  | [] => [(localName, fullName)]
  | (known, old) :: rest =>
    if known == localName then (known, fullName) :: rest
    else (known, old) :: Aliases.bind rest localName fullName

/-- The first namespace declared in a file, empty for the root namespace. -/
def Token.declaredNamespace (tokens : List Token) : String :=
  match tokens.dropWhile (!·.isKeyword .namespaceWord) with
  | [] => ""
  | _ :: after =>
    let header := after.takeWhile fun token =>
      !(token.isMark .semicolon || token.isMark .openBrace)
    Text.dropAround (Token.joinedText (header.filter Token.isNamePart)) Name.isSeparator

/-- Binds the class clauses of one import statement. -/
def Aliases.bindClauses (aliases : Aliases) (clauses : List ImportClause) : Aliases :=
  clauses.foldl (fun aliases clause =>
    if clause.kind = .classLike then aliases.bind clause.key clause.name else aliases) aliases

/-- The names bound by the imports of a file, given the meanings of its `use` keywords. -/
def Aliases.ofUses (tokens : List Token) (uses : List (Nat × UseKind)) : Aliases :=
  uses.foldl (fun aliases use =>
    if use.2 = .fileImport then
      aliases.bindClauses (Import.statementAt tokens use.1).clauses
    else aliases) []

/-- The names bound by the imports of a file. -/
def Aliases.ofTokens (tokens : List Token) : Aliases := .ofUses tokens (UseKind.list tokens)

/-- The full name that a written name stands for: a leading separator roots it, an import of the
whole name or of its first segment expands it, and otherwise it belongs to the namespace. -/
def Name.resolve (aliases : Aliases) (space name : String) : String :=
  if Text.startsWith name "\\" then unrooted name
  else match aliases.lookup name with
    | some fullName => fullName
    | none =>
      match Text.cutFirst? name '\\' with
      | some (head, rest) =>
        match aliases.lookup head with
        | some fullName => fullName ++ "\\" ++ rest
        | none => inside space name
      | none => inside space name

/-- What names mean in one file. -/
structure Context where
  /-- The namespace of the file, empty for the root namespace. -/
  space : String
  aliases : Aliases
  /-- The meanings of the `use` keywords, by position. -/
  uses : List (Nat × UseKind)

namespace Context

/-- The context of a token list. -/
def ofTokens (tokens : List Token) : Context :=
  let uses := UseKind.list tokens
  ⟨Token.declaredNamespace tokens, .ofUses tokens uses, uses⟩

/-- The full name that a written name stands for. -/
def resolve (context : Context) (name : String) : String :=
  Name.resolve context.aliases context.space name

/-- The meaning of the `use` keyword at a position. -/
def useKind? (context : Context) (index : Nat) : Option UseKind := context.uses.lookup index

end Context

end ClassAtlas
