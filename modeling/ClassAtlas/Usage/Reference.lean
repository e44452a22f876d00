import ClassAtlas.Usage.Sighting

/-!
Usages announced by a keyword or a double colon: imports, instantiations, static accesses, parents,
interfaces and traits.
-/

namespace ClassAtlas

namespace Place

/-- An import of the target. Imported names are full names already. -/
def importSightings (view : View) (place : Place) : List Sighting :=
  if view.context.useKind? place.index = some .fileImport then
    let statement := Import.statementAt view.tokens place.index
    if statement.clauses.any fun clause =>
        clause.kind == .classLike && view.isTarget clause.name then
      [⟨.fileImport, place.index, statement.stop, place.index, none⟩]
    else []
  else []

/-- The target as the name after a keyword. -/
def keywordSightings (usageType : UsageType) (view : View) (place : Place) : List Sighting :=
  let ahead := Token.skipTrivia place.after
  let name := Token.nameAhead ahead
  if !name.isEmpty && view.resolvesToTarget name then
    [⟨usageType, place.index, place.indexOf (Token.afterName ahead), place.index, none⟩]
  else []

/-- The member named after a double colon, and the tokens after it. The keyword `class` is passed but
names no member; anything else that is not a name is left. -/
def memberAhead (after : List Token) : Option String × List Token :=
  match Token.skipTrivia after with
  | [] => (none, after)
  | token :: rest =>
    if token.isKeyword .classWord || Text.lower token.text == "class" then (none, rest)
    else if token.kind == .name then (some token.text, rest)
    else (none, after)

/-- The target as the name before a double colon. -/
def staticSightings (view : View) (place : Place) : List Sighting :=
  let back := Token.skipTrivia place.before
  let parts := (back.takeWhile Token.isNamePart).reverse
  if !parts.isEmpty && view.resolvesToTarget (Token.joinedText parts) then
    let (method, rest) := memberAhead place.after
    [⟨.staticCall, back.length - parts.length, place.indexOf rest, place.index, method⟩]
  else []

/-- The names up to the first token that satisfies a predicate, and the tokens from there on. -/
def namesUntil (stops : Token → Bool) (tokens : List Token) : List String × List Token :=
  match tokens with
  | [] => ([], [])
  | token :: rest =>
    if stops token then ([], token :: rest)
    else if token.isNamePart then
      let (names, after) := namesUntil stops (Token.afterName rest)
      ((token.text ++ Token.nameAhead rest) :: names, after)
    else namesUntil stops rest
termination_by tokens.length
decreasing_by
  all_goals simp only [List.length_cons]
  · have bound := Token.length_afterName_le rest
    omega
  · omega

/-- The target among the interfaces after `implements`. -/
def implementsSightings (view : View) (place : Place) : List Sighting :=
  let (names, rest) := namesUntil
    (fun token =>
      token.isMark .openBrace || token.isKeyword .extendsWord || token.isMark .semicolon)
    place.after
  if names.any view.resolvesToTarget then
    [⟨.implementation, place.index, place.indexOf rest, place.index, none⟩]
  else []

/-- The target among the traits that a class body includes. The span holds the token that ends the
list, if there is one. -/
def mixinSightings (view : View) (place : Place) : List Sighting :=
  if view.context.useKind? place.index = some .mixin then
    let (names, rest) := namesUntil
      (fun token => token.isMark .semicolon || token.isMark .openBrace) place.after
    if names.any view.resolvesToTarget then
      [⟨.mixin, place.index, place.indexOf rest.tail, place.index, none⟩]
    else []
  else []

end Place

end ClassAtlas
