import ClassAtlas.Proofs.Usage.Property

/-!
Promoted parameters are reported as parameters only.

A visibility in the parameter list of a function is recognised in two ways: the count of open
parentheses over the whole file keeps it from being read as a property, and the search for the partner
of one opening parenthesis lets its type be read as that of a parameter. Nothing is assumed of the
parentheses. Those that close nothing are not counted, and a list without a partner reaches to the end
of the file.
-/

namespace ClassAtlas.Place

/-- Whether a place lies in the parameter list of the function whose keyword stands at another: past
its opening parenthesis, and before the partner of that or the end of the file. -/
def InParametersOf (place outer : Place) : Prop :=
  ∃ tokens ∈ Token.afterParameterParen? outer.after,
    outer.indexOf tokens ≤ place.index ∧
      place.index < outer.indexOf tokens + (Token.insideParen tokens).length

instance (place outer : Place) : Decidable (place.InParametersOf outer) :=
  decidable_of_iff ((Token.afterParameterParen? outer.after).any fun tokens =>
      outer.indexOf tokens ≤ place.index ∧
        place.index < outer.indexOf tokens + (Token.insideParen tokens).length) <| by
    simp [InParametersOf, Option.any_eq_true]

section Promotion

variable {file : List Token} {outer place : Place}

/-- Parentheses are open before a place in a parameter list. -/
theorem parenDepth_pos_of_inParametersOf (outerMember : outer ∈ list file) (member : place ∈ list file)
    (inside : place.InParametersOf outer) : 0 < Token.parenDepth place.before := by
  obtain ⟨tokens, opens, begins, ends⟩ := inside
  obtain ⟨paren, -, ahead, parameters⟩ := exists_parameterList outerMember opens
  have next := indexOf_tail ahead
  have deeper := parameters.deeper place.index (by omega) (by omega)
  rw [depthAt_index member] at deeper
  exact Nat.zero_lt_of_lt deeper

/-- From a visibility before which a parenthesis is open no type hint is reported. -/
theorem hints_eq_nil_of_parenDepth_pos (isWord : Detector.isVisibilityWord place.token = true)
    (inside : 0 < Token.parenDepth place.before) (view : View) : hints view place = [] := by
  rw [hints_eq, Detector.isFunctionWord_of_isVisibilityWord isWord, isWord,
    typeHintSightings_of_isVisibilityWord isWord,
    propertySightings_of_inside (Nat.ne_of_gt inside)]
  rfl

/-- The name of a property is the name of no parameter, also when the two are sought for different
classes. -/
theorem anchor_ne_of_property_of_parameter {first second : View}
    (sameFile : first.tokens = second.tokens) (member : place ∈ list first.tokens)
    (isWord : Detector.isVisibilityWord place.token = true) (outerMember : outer ∈ list first.tokens)
    (begins : Detector.isFunctionWord outer.token = true) {property parameter : Sighting}
    (found : property ∈ propertySightings first place)
    (parameterFound : parameter ∈ parameterSightings second outer) :
    property.anchor ≠ parameter.anchor := by
  intro shared
  have named := anchor_of_mem_propertySightings member found
  obtain ⟨opening, stop, ends, parameters, after, before⟩ :=
    anchor_of_mem_parameterSightings (sameFile ▸ outerMember) parameterFound
  rw [← sameFile, ← shared] at *
  have apart : place.index ≠ outer.index := fun same => by
    rw [eq_of_index_eq member outerMember same] at isWord
    rw [Detector.isFunctionWord_of_isVisibilityWord isWord] at begins
    cases begins
  exact not_reports_of_propertyName member isWord named outerMember apart
    (.parameter opening stop begins ends parameters after before)

/-- A visibility in the parameter list of a function stands inside a parenthesis and is reported as no
property, and no name is reported both for a property and for a parameter. -/
theorem promoted_reported_once (file : List Token) :
    (∀ outer ∈ list file, Detector.isFunctionWord outer.token = true →
      ∀ place ∈ list file, Detector.isVisibilityWord place.token = true → place.InParametersOf outer →
        0 < Token.parenDepth place.before ∧ ∀ view, hints view place = []) ∧
    ∀ first second : View, first.tokens = file → second.tokens = file →
      ∀ place ∈ list file, Detector.isVisibilityWord place.token = true →
        ∀ outer ∈ list file, Detector.isFunctionWord outer.token = true →
          ∀ property ∈ propertySightings first place, ∀ parameter ∈ parameterSightings second outer,
            property.anchor ≠ parameter.anchor := by
  constructor
  · intro outer outerMember _ place member isWord inside
    have deep := parenDepth_pos_of_inParametersOf outerMember member inside
    exact ⟨deep, hints_eq_nil_of_parenDepth_pos isWord deep⟩
  · rintro first second rfl sameFile place member isWord outer outerMember begins property found
      parameter parameterFound
    exact anchor_ne_of_property_of_parameter sameFile.symm member isWord outerMember begins found
      parameterFound

end Promotion

section Sample

/-- The parameter `public A $a` of a list that nothing closes, past a property `public A $p` and a closing
parenthesis that was never opened. -/
def samplePromoted : Place where
  before := [⟨.mark .openParen, "(", 1⟩, ⟨.name, "f", 1⟩, ⟨.whitespace, " ", 1⟩,
    ⟨.keyword .functionWord, "function", 1⟩, ⟨.mark .closeParen, ")", 1⟩, ⟨.mark .semicolon, ";", 1⟩,
    ⟨.variableName, "$p", 1⟩, ⟨.whitespace, " ", 1⟩, ⟨.name, "A", 1⟩, ⟨.whitespace, " ", 1⟩,
    ⟨.keyword .publicWord, "public", 1⟩]
  token := ⟨.keyword .publicWord, "public", 1⟩
  after := [⟨.whitespace, " ", 1⟩, ⟨.name, "A", 1⟩, ⟨.whitespace, " ", 1⟩, ⟨.variableName, "$a", 1⟩]

def sampleUnclosed : List Token :=
  samplePromoted.before.reverse ++ samplePromoted.token :: samplePromoted.after

/-- The keyword of the function, and the visibility of the property. -/
def sampleKeywords : Place × Place :=
  (⟨(sampleUnclosed.take 7).reverse, ⟨.keyword .functionWord, "function", 1⟩, sampleUnclosed.drop 8⟩,
    ⟨[], ⟨.keyword .publicWord, "public", 1⟩, sampleUnclosed.drop 1⟩)

/-- The list of parameters reaches to the end of the file. -/
theorem promoted_reported_once_unclosed :
    let view := View.ofTokens sampleUnclosed "A"
    let (function, visibility) := sampleKeywords
    Token.closeParen? 0 (samplePromoted.token :: samplePromoted.after) = none ∧
      0 < Token.parenDepth samplePromoted.before ∧ (∀ view, hints view samplePromoted = []) ∧
      (propertySightings view visibility).map (·.anchor) = [2] ∧
      (parameterSightings view function).map (·.anchor) = [13] ∧
      ∀ property ∈ propertySightings view visibility,
        ∀ parameter ∈ parameterSightings view function, property.anchor ≠ parameter.anchor := by
  intro view
  have promoted : samplePromoted ∈ list sampleUnclosed :=
    mem_list_append samplePromoted.before.reverse samplePromoted.token samplePromoted.after
  have function : sampleKeywords.1 ∈ list sampleUnclosed :=
    mem_list_append (sampleUnclosed.take 7) sampleKeywords.1.token (sampleUnclosed.drop 8)
  have visibility : sampleKeywords.2 ∈ list sampleUnclosed :=
    mem_list_append [] sampleKeywords.2.token (sampleUnclosed.drop 1)
  obtain ⟨inside, apart⟩ := promoted_reported_once sampleUnclosed
  obtain ⟨deep, silent⟩ := inside _ function rfl _ promoted rfl (by decide)
  exact ⟨rfl, deep, silent, by decide +kernel, by decide +kernel,
    apart view view rfl rfl _ visibility rfl _ function rfl⟩

end Sample

end ClassAtlas.Place
