import ClassAtlas.Usage.Sighting

/-!
Usages in declared types: of parameters, of properties and of results.

A type is a run of names, question marks, bars and ampersands, with trivia in between. The usage is
anchored at the first name of the type that stands for the target.
-/

namespace ClassAtlas

namespace Token

/-- Whether a token joins or qualifies the names of a type. -/
def isTypePunctuation (token : Token) : Bool :=
  token.kind == .other && (token.text == "?" || token.text == "|" || token.text == "&")

/-- Whether a type can start with a token. -/
def startsType (token : Token) : Bool :=
  token.isNamePart || (token.kind == .other && token.text == "?")

/-- The type at the front of the tokens, without trailing trivia. -/
def typeAhead (tokens : List Token) : List Token :=
  let run := tokens.takeWhile fun token =>
    token.isNamePart || token.isTypePunctuation || token.isTrivia
  (run.reverse.dropWhile isTrivia).reverse

/-- The tokens inside a parenthesis and those after it, given the tokens after the opening one and
the number of further parentheses open. Absent if the parenthesis does not close. -/
def closeParen? (depth : Nat) : List Token → Option (List Token × List Token)
  | [] => none
  | token :: rest =>
    if token.isMark .closeParen then
      match depth with
      | 0 => some ([], rest)
      | depth + 1 => (closeParen? depth rest).map fun (inside, after) => (token :: inside, after)
    else
      let depth := if token.isMark .openParen then depth + 1 else depth
      (closeParen? depth rest).map fun (inside, after) => (token :: inside, after)

/-- Passes the first token and the trivia after it, if that token satisfies a predicate. -/
def passIf (passes : Token → Bool) : List Token → List Token
  | [] => []
  | token :: rest => if passes token then skipTrivia rest else token :: rest

/-- The tokens after the parenthesis that opens a parameter list, given the tokens after the keyword.
A by-reference ampersand and one further token, the name, are skipped. -/
def afterParameterParen? (tokens : List Token) : Option (List Token) :=
  let ahead := passIf (·.text == "&") (skipTrivia tokens)
  match passIf (!·.isMark .openParen) ahead with
  | token :: rest => if token.isMark .openParen then some rest else none
  | [] => none

/-- Number of parentheses open after tokens that are given latest first. A closing parenthesis
without an open one does not count. -/
def parenDepth : List Token → Nat
  | [] => 0
  | token :: before =>
    let depth := parenDepth before
    if token.isMark .openParen then depth + 1
    else if token.isMark .closeParen then depth - 1
    else depth

theorem length_typeAhead_le (tokens : List Token) : (typeAhead tokens).length ≤ tokens.length := by
  simp only [typeAhead, List.length_reverse]
  refine Nat.le_trans (length_dropWhile_le _ _) ?_
  simp only [List.length_reverse]
  exact (List.takeWhile_sublist _).length_le

end Token

namespace Place

/-- The variable that a type is followed by, skipping an ellipsis: the tokens after it. -/
def afterVariable? (tokens : List Token) : Option (List Token) :=
  match Token.passIf (·.text == "...") (Token.skipTrivia tokens) with
  | token :: rest => if token.kind == .variableName then some rest else none
  | [] => none

/-- The typed parameters that name the target, among the tokens of a parameter list that begin at a
position. -/
def parametersFrom (view : View) (index : Nat) (tokens : List Token) : List Sighting :=
  match tokens with
  | [] => []
  | token :: rest =>
    if token.startsType then
      let type := Token.typeAhead (token :: rest)
      let size := max type.length 1
      let others := parametersFrom view (index + size) ((token :: rest).drop size)
      let found := do
        let after ← afterVariable? ((token :: rest).drop type.length)
        let hit ← type.findIdx? view.namesTarget
        some (⟨.typeHint, index, index + ((token :: rest).length - after.length), index + hit, none⟩ :
          Sighting)
      found.toList ++ others
    else parametersFrom view (index + 1) rest
termination_by tokens.length
decreasing_by
  all_goals simp only [List.length_cons, List.length_drop]
  all_goals omega

/-- The typed parameters of a function that name the target. A list that does not close reaches to
the end of the file. -/
def parameterSightings (view : View) (place : Place) : List Sighting :=
  match Token.afterParameterParen? place.after with
  | none => []
  | some tokens =>
    let inside :=
      match Token.closeParen? 0 tokens with
      | some (inside, _) => inside
      | none => tokens
    parametersFrom view (place.indexOf tokens) inside

/-- The tokens after any number of `static` and `readonly`. -/
def skipPropertyWords (tokens : List Token) : List Token :=
  match _ahead : Token.skipTrivia tokens with
  | [] => []
  | token :: rest =>
    if token.isKeyword .staticWord || token.isKeyword .readonlyWord then skipPropertyWords rest
    else token :: rest
termination_by tokens.length
decreasing_by
  have bound := Token.length_skipTrivia_le tokens
  rw [_ahead, List.length_cons] at bound
  omega

/-- A typed property that names the target, after its visibility. Inside parentheses a visibility
belongs to a parameter. -/
def propertySightings (view : View) (place : Place) : List Sighting :=
  if Token.parenDepth place.before > 0 then []
  else
    let ahead := skipPropertyWords place.after
    match ahead with
    | [] => []
    | token :: _ =>
      if token.startsType then
        let type := Token.typeAhead ahead
        match Token.skipTrivia (ahead.drop type.length) with
        | [] => []
        | next :: after =>
          if next.kind == .variableName then
            match type.findIdx? view.namesTarget with
            | none => []
            | some hit =>
              [⟨.typeHint, place.index, place.indexOf after, place.indexOf ahead + hit, none⟩]
          else []
      else []

/-- Typed parameters after `function` and `fn`, a typed property after a visibility. -/
def typeHintSightings (view : View) (place : Place) : List Sighting :=
  if place.token.isKeyword .functionWord || place.token.isKeyword .fnWord then
    parameterSightings view place
  else propertySightings view place

/-- The tokens after the variables that a closure binds, or all tokens when it binds none. Absent if
the binding is malformed. -/
def afterBinding? (tokens : List Token) : Option (List Token) :=
  match tokens with
  | token :: rest =>
    if token.isKeyword .useWord then
      match Token.skipTrivia rest with
      | next :: bound =>
        if next.isMark .openParen then
          (Token.closeParen? 0 bound).map fun (_, after) => Token.skipTrivia after
        else none
      | [] => none
    else some tokens
  | [] => some []

/-- The result type of a function that names the target. The span starts at the colon. -/
def returnTypeSightings (view : View) (place : Place) : List Sighting :=
  let found := do
    let tokens ← Token.afterParameterParen? place.after
    let (_, after) ← Token.closeParen? 0 tokens
    let ahead ← afterBinding? (Token.skipTrivia after)
    match ahead with
    | colon :: rest =>
      if colon.isMark .colon then
        let typed := Token.skipTrivia rest
        let first ← typed.head?
        if first.startsType then
          let type := Token.typeAhead typed
          let hit ← type.findIdx? view.namesTarget
          let start := place.indexOf typed
          some (⟨.typeHint, place.indexOf ahead, start + type.length, start + hit, none⟩ : Sighting)
        else none
      else none
    | [] => none
  found.toList

end Place

end ClassAtlas
