import ClassAtlas.Proofs.Token.WrittenType
import ClassAtlas.Proofs.Usage.TypeHint

/-!
Typed properties are found as they are written.

Whether a visibility belongs to a property or to a parameter is decided by the parentheses that are open
before it. So outside all parentheses no typed property is missed, whatever follows it. Inside one none
is reported, also where the parenthesis encloses a whole class and not the parameters of a function.
-/

namespace ClassAtlas

open Token

/-- A typed property as it is written after its visibility. -/
structure WrittenProperty where
  words : List Token
  /-- The type, without trivia around it. -/
  type : List Token
  blank : List Token
  name : Token
  words_pass : ∀ token ∈ words, token.isTrivia = true ∨
    token.isKeyword .staticWord = true ∨ token.isKeyword .readonlyWord = true
  type_reads : IsTypeText type
  blank_isBlank : ∀ token ∈ blank, token.isTrivia = true
  name_isVariable : name.kind = .variableName

/-- The tokens after the visibility up to the name of the property. -/
def WrittenProperty.tokens (property : WrittenProperty) : List Token :=
  property.words ++ (property.type ++ (property.blank ++ [property.name]))

namespace Place

variable {view : View} {place : Place}

theorem skipPropertyWords_of_startsType {first : Token} (starts : first.startsType = true)
    (more : List Token) : skipPropertyWords (first :: more) = first :: more := by
  have noWord := (kind_of_isTyped (isTyped_of_startsType starts)).2
  rw [skipPropertyWords_eq, skipTrivia_cons (not_isTrivia_of_startsType starts)]
  simp [noWord]

/-- Any number of `static` and `readonly` is passed, with the trivia around them. -/
theorem skipPropertyWords_append {words : List Token}
    (pass : ∀ token ∈ words, token.isTrivia = true ∨
      token.isKeyword .staticWord = true ∨ token.isKeyword .readonlyWord = true) (rest : List Token) :
    skipPropertyWords (words ++ rest) = skipPropertyWords rest := by
  induction words with
  | nil => rfl
  | cons token words inductionHypothesis =>
    rw [List.forall_mem_cons] at pass
    rw [List.cons_append, skipPropertyWords_eq, ← inductionHypothesis pass.2]
    by_cases isTrivia : token.isTrivia = true
    · rw [skipTrivia, List.dropWhile_cons_of_pos isTrivia, ← skipTrivia, ← skipPropertyWords_eq]
    · have isWord := pass.1.resolve_left isTrivia
      rw [skipTrivia_cons (by simpa using isTrivia)]
      simp [isWord]

/-- Outside all parentheses a type and a variable after it are reported, if the type names the target. -/
theorem propertySightings_eq (outside : parenDepth place.before = 0) {type rest after : List Token}
    {name : Token} (ahead : skipPropertyWords place.after = type ++ rest) (reads : IsTypeText type)
    (follows : skipTrivia rest = name :: after) (isVariable : name.kind = .variableName) :
    propertySightings view place =
      ((type.findIdx? view.namesTarget).map fun hit =>
        (⟨.typeHint, place.index, place.indexOf after, place.indexOf (type ++ rest) + hit, none⟩ :
          Sighting)).toList := by
  have ends : EndsType (skipTrivia rest) := by
    rw [follows]
    exact endsType_cons (isTyped_of_isVariable isVariable) after
  have whole := reads.typeAhead_eq ends
  obtain ⟨first, more, rfl, starts⟩ := reads.starts
  rw [List.cons_append] at whole ahead
  simp only [propertySightings, outside, ahead, whole, starts, List.cons_append, List.length_cons,
    List.drop_succ_cons, List.drop_left, follows, isVariable, gt_iff_lt, Nat.lt_irrefl, if_false,
    if_true, beq_self_eq_true]
  cases List.findIdx? view.namesTarget (first :: more) <;> rfl

theorem propertySightings_of_inside (inside : parenDepth place.before ≠ 0) :
    propertySightings view place = [] := by
  rw [propertySightings, if_pos (Nat.pos_of_ne_zero inside)]

theorem typeHintSightings_of_isVisibilityWord
    (isWord : Detector.isVisibilityWord place.token = true) :
    typeHintSightings view place = propertySightings view place := by
  have noFunction := Detector.isFunctionWord_of_isVisibilityWord isWord
  rw [Detector.isFunctionWord] at noFunction
  simp [typeHintSightings, noFunction]

/-- A visibility before which each parenthesis is closed reports the typed property after it, if its type
names the target: once, with the line of the first such name and the text up to the name of the property.
Where a parenthesis is open nothing is reported. -/
theorem property_reported_once (member : place ∈ list view.tokens)
    (isWord : Detector.isVisibilityWord place.token = true) (property : WrittenProperty)
    {rest : List Token} (after : place.after = property.tokens ++ rest) {first : Token}
    (named : property.type.find? view.namesTarget = some first) :
    (ClosesParens place.before.reverse →
        (typeHintSightings view place).map (Sighting.record view.tokens) =
          [.found first.line .typeHint (code (place.token :: property.tokens)) none]) ∧
      (¬ ClosesParens place.before.reverse → typeHintSightings view place = []) := by
  rw [typeHintSightings_of_isVisibilityWord isWord, ← parenDepth_eq_zero_iff, List.reverse_reverse]
  refine ⟨fun outside => ?_, propertySightings_of_inside⟩
  have shape : place.after =
      property.words ++ (property.type ++ (property.blank ++ property.name :: rest)) := by
    simp [after, WrittenProperty.tokens]
  have follows := skipTrivia_append_blank property.blank_isBlank
    (isTrivia_of_isVariable property.name_isVariable) rest
  have ahead : skipPropertyWords place.after =
      property.type ++ (property.blank ++ property.name :: rest) := by
    obtain ⟨start, more, typeShape, starts⟩ := property.type_reads.starts
    rw [shape, skipPropertyWords_append property.words_pass, typeShape, List.cons_append,
      skipPropertyWords_of_startsType starts]
  have typeStands := (standsAt_indexOf member (ahead ▸ skipPropertyWords_suffix place.after)).of_isPrefix
    (List.prefix_append _ _)
  obtain ⟨hit, found, line⟩ := typeStands.exists_hit named
  have stands : StandsAt view.tokens place.index (place.token :: property.tokens) :=
    ⟨place.before.reverse, rest, by simp [tokens_eq_of_mem_list member, after], by simp [index]⟩
  have stop : place.indexOf rest = place.index + (place.token :: property.tokens).length := by
    rw [indexOf_append (after ▸ List.suffix_rfl : property.tokens ++ rest <:+ place.after), ← after,
      indexOf_after, List.length_cons]
    omega
  rw [propertySightings_eq outside ahead property.type_reads follows property.name_isVariable, found]
  simp only [Option.map_some, Option.toList_some, List.map_cons, List.map_nil, Sighting.record, line,
    Option.getD_some, stop, stands.codeBetween_eq]

section Sample

/-- The property `static readonly ?B|A $a`, over three lines. -/
def sampleProperty : WrittenProperty where
  words := [⟨.whitespace, " ", 1⟩, ⟨.keyword .staticWord, "static", 1⟩, ⟨.comment, "/**/", 1⟩,
    ⟨.keyword .readonlyWord, "readonly", 1⟩, ⟨.whitespace, "\n", 1⟩]
  type := [⟨.other, "?", 2⟩, ⟨.name, "B", 2⟩, ⟨.other, "|", 2⟩, ⟨.whitespace, "\n", 2⟩, ⟨.name, "A", 3⟩]
  blank := [⟨.whitespace, " ", 3⟩]
  name := ⟨.variableName, "$a", 3⟩
  words_pass := by decide
  type_reads := ⟨⟨_, _, rfl, by decide⟩, by decide,
    ⟨[⟨.other, "?", 2⟩, ⟨.name, "B", 2⟩, ⟨.other, "|", 2⟩, ⟨.whitespace, "\n", 2⟩], _, rfl, rfl⟩⟩
  blank_isBlank := by decide
  name_isVariable := rfl

/-- A property of a class past a call and a closing parenthesis that was never opened. -/
def sampleDeclared : Place where
  before := [⟨.mark .openBrace, "\x7b", 1⟩, ⟨.name, "C", 1⟩, ⟨.whitespace, " ", 1⟩,
    ⟨.keyword .classWord, "class", 1⟩, ⟨.mark .closeParen, ")", 1⟩, ⟨.mark .closeParen, ")", 1⟩,
    ⟨.mark .openParen, "(", 1⟩, ⟨.name, "f", 1⟩]
  token := ⟨.keyword .publicWord, "public", 1⟩
  after := sampleProperty.tokens ++ [⟨.mark .semicolon, ";", 3⟩]

/-- The first name of the type need not be the one that is reported. -/
theorem property_reported_once_static :
    let view := View.ofTokens (sampleDeclared.before.reverse ++
      sampleDeclared.token :: sampleDeclared.after) "A"
    (typeHintSightings view sampleDeclared).map (Sighting.record view.tokens) =
      [.found 3 .typeHint "public static/**/readonly\n?B|\nA $a" none] := by
  intro view
  have member : sampleDeclared ∈ list view.tokens :=
    mem_list_append sampleDeclared.before.reverse sampleDeclared.token sampleDeclared.after
  have named : sampleProperty.type.find? view.namesTarget = some ⟨.name, "A", 3⟩ := by decide +kernel
  have text : code (sampleDeclared.token :: sampleProperty.tokens) =
      "public static/**/readonly\n?B|\nA $a" := by
    decide +kernel
  have closes : ClosesParens sampleDeclared.before.reverse :=
    (parenDepth_eq_zero_iff _).mp (by decide)
  rw [(property_reported_once member rfl sampleProperty rfl named).1 closes, text]

/-- A property of a class that is declared in the arguments of a call. -/
def sampleArgument : Place where
  before := [⟨.mark .openBrace, "\x7b", 1⟩, ⟨.keyword .classWord, "class", 1⟩,
    ⟨.whitespace, " ", 1⟩, ⟨.keyword .newWord, "new", 1⟩, ⟨.mark .openParen, "(", 1⟩,
    ⟨.name, "f", 1⟩]
  token := ⟨.keyword .publicWord, "public", 1⟩
  after := [⟨.whitespace, " ", 1⟩, ⟨.name, "A", 1⟩, ⟨.whitespace, " ", 1⟩, ⟨.variableName, "$a", 1⟩,
    ⟨.mark .semicolon, ";", 1⟩, ⟨.mark .closeBrace, "\x7d", 1⟩, ⟨.mark .closeParen, ")", 1⟩,
    ⟨.mark .semicolon, ";", 1⟩]

/-- A typed property that lies in the parameter list of no function is missed where a class is declared
in an argument. -/
theorem property_in_argument_unreported :
    let tokens := sampleArgument.before.reverse ++ sampleArgument.token :: sampleArgument.after
    let view := View.ofTokens tokens "A"
    sampleArgument ∈ list tokens ∧ Detector.isVisibilityWord sampleArgument.token = true ∧
      (∀ place ∈ list tokens, Detector.isFunctionWord place.token = false) ∧
      (∃ property : WrittenProperty, property.tokens <+: sampleArgument.after ∧
        property.type.find? view.namesTarget = some ⟨.name, "A", 1⟩) ∧
      typeHintSightings view sampleArgument = [] := by
  intro tokens view
  refine ⟨mem_list_append sampleArgument.before.reverse sampleArgument.token sampleArgument.after, rfl,
    by decide, ⟨⟨[⟨.whitespace, " ", 1⟩], [⟨.name, "A", 1⟩], [⟨.whitespace, " ", 1⟩],
      ⟨.variableName, "$a", 1⟩, by decide, ⟨⟨_, _, rfl, rfl⟩, by decide, ⟨[], _, rfl, rfl⟩⟩, by decide,
      rfl⟩, ?_, ?_⟩, rfl⟩
  · exact ⟨[⟨.mark .semicolon, ";", 1⟩, ⟨.mark .closeBrace, "\x7d", 1⟩,
      ⟨.mark .closeParen, ")", 1⟩, ⟨.mark .semicolon, ";", 1⟩], rfl⟩
  · decide +kernel

end Sample

end Place

end ClassAtlas
