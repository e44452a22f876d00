import ClassAtlas.Proofs.Usage.HintName

/-!
Type hints that are reported twice.

No name is reported for two hints unless both belong to functions, and the keyword of one stands between
the keyword of the other and the end of its parameter list: the names of all other hints are kept apart
by what stands around them and by their depths.
-/

namespace ClassAtlas

namespace Detector

theorem select_typeHint :
    select [.typeHint] = [
      ⟨"type_hint", .typeHint, fun token => isFunctionWord token || isVisibilityWord token,
        Place.typeHintSightings⟩,
      ⟨"return_type", .typeHint, isFunctionWord, Place.returnTypeSightings⟩] := rfl

theorem isMark_of_isVisibilityWord {token : Token} (isWord : isVisibilityWord token = true)
    (mark : Mark) : token.isMark mark = false := by
  simp only [isVisibilityWord, Bool.or_eq_true] at isWord
  rcases isWord with (isWord | isWord) | isWord <;> exact Token.isMark_of_isKeyword isWord mark

theorem isFunctionWord_of_isVisibilityWord {token : Token} (isWord : isVisibilityWord token = true) :
    isFunctionWord token = false := by
  simp only [isVisibilityWord, Token.isKeyword, Bool.or_eq_true, beq_iff_eq] at isWord
  rcases isWord with (kind | kind) | kind <;> simp [isFunctionWord, Token.isKeyword, kind]

theorem not_isPropertyPart_of_isVisibilityWord {token : Token}
    (isWord : isVisibilityWord token = true) : ¬ token.IsPropertyPart := by
  simp only [isVisibilityWord, Bool.or_eq_true, Token.isKeyword, beq_iff_eq] at isWord
  rintro (typed | isStatic | isReadonly)
  · have noWord := (Token.kind_of_isTyped typed).2
    simp only [Token.isKeyword, beq_eq_false_iff_ne, ne_eq] at noWord
    rcases isWord with (isWord | isWord) | isWord <;> exact noWord _ isWord
  · simp only [Token.isKeyword, beq_iff_eq] at isStatic
    simp [isStatic] at isWord
  · simp only [Token.isKeyword, beq_iff_eq] at isReadonly
    simp [isReadonly] at isWord

end Detector

namespace Place

variable {view : View} {place : Place} {sighting : Sighting}

section Nesting

/-- Whether the function whose keyword stands at one place begins in the parameter list of the function
whose keyword stands at another. -/
def Within (inner outer : Place) : Prop :=
  outer.index < inner.index ∧ ∃ stop ∈ outer.parameterEnd?, inner.index < stop

instance (inner outer : Place) : Decidable (inner.Within outer) :=
  inferInstanceAs (Decidable (_ ∧ _))

/-- How a type hint comes to be reported at a position from the keyword at a place. -/
inductive Reports (file : List Token) (place : Place) (anchor : Nat) : Prop where
  | parameter (opening stop : Nat) (begins : Detector.isFunctionWord place.token = true)
      (ends : place.parameterEnd? = some stop)
      (parameters : ParameterList file place.index opening stop) (after : opening < anchor)
      (before : anchor < stop)
  | result (opening stop : Nat) (begins : Detector.isFunctionWord place.token = true)
      (ends : place.parameterEnd? = some stop)
      (parameters : ParameterList file place.index opening stop)
      (name : ResultName file opening stop anchor)
  | property (begins : Detector.isVisibilityWord place.token = true)
      (name : PropertyName file place.index anchor)

/-- The type hints that are reported from the keyword at a place. -/
def hints (view : View) (place : Place) : List Sighting :=
  (Detector.select [.typeHint]).flatMap fun detector =>
    if detector.triggers place.token then detector.sightings view place else []

theorem hints_eq (view : View) (place : Place) :
    hints view place =
      (if Detector.isFunctionWord place.token || Detector.isVisibilityWord place.token then
          typeHintSightings view place else []) ++
        if Detector.isFunctionWord place.token then returnTypeSightings view place else [] := by
  simp [hints, Detector.select_typeHint]

theorem reports_of_mem_hints (member : place ∈ list view.tokens)
    (found : sighting ∈ hints view place) : Reports view.tokens place sighting.anchor := by
  rw [hints_eq] at found
  by_cases begins : Detector.isFunctionWord place.token = true
  · have isWord := begins
    rw [Detector.isFunctionWord] at isWord
    simp only [begins, Bool.true_or, if_true, typeHintSightings, isWord, List.mem_append] at found
    rcases found with found | found
    · obtain ⟨opening, stop, ends, parameters, after, before⟩ :=
        anchor_of_mem_parameterSightings member found
      exact .parameter opening stop begins ends parameters after before
    · obtain ⟨opening, stop, ends, parameters, name⟩ := anchor_of_mem_returnTypeSightings member found
      exact .result opening stop begins ends parameters name
  · have isWord := begins
    rw [Detector.isFunctionWord] at isWord
    simp only [begins, Bool.false_or, Bool.false_eq_true, if_false, List.append_nil, typeHintSightings,
      isWord, List.mem_ite_nil_right] at found
    exact .property found.1 (anchor_of_mem_propertySightings member found.2)

variable {file : List Token} {earlier later : Place} {anchor : Nat}

/-- No mark stands between a visibility and the name of its property. -/
theorem lt_of_isMark (member : place ∈ list file)
    (isWord : Detector.isVisibilityWord place.token = true)
    (name : PropertyName file place.index anchor) {index : Nat} {token : Token} {mark : Mark}
    (stands : file[index]? = some token) (isMark : token.isMark mark = true)
    (before : index < anchor) : index < place.index := by
  by_contra after
  have noMark : token.isMark mark = false := by
    rcases Nat.eq_or_lt_of_le (Nat.le_of_not_lt after) with rfl | past
    · rw [getElem?_index member] at stands
      cases stands
      exact Detector.isMark_of_isVisibilityWord isWord mark
    · exact Token.isMark_of_isPropertyPart (name.parts index token past before stands) mark
  rw [isMark] at noMark
  cases noMark

/-- The name of a property is reported from its visibility alone. -/
theorem not_reports_of_propertyName (member : place ∈ list file)
    (isWord : Detector.isVisibilityWord place.token = true)
    (name : PropertyName file place.index anchor) {other : Place} (otherMember : other ∈ list file)
    (apart : place.index ≠ other.index) (reports : Reports file other anchor) : False := by
  have stands := getElem?_index member
  have named := name.keyword_lt_anchor
  cases reports with
  | parameter opening stop _ _ parameters after before =>
    obtain ⟨paren, opens, isOpen⟩ := parameters.opens
    have past := lt_of_isMark member isWord name opens isOpen after
    have deeper := parameters.deeper place.index past (by omega)
    rw [name.level] at deeper
    exact Nat.not_lt_zero _ deeper
  | result opening stop _ _ _ resultName =>
    obtain ⟨index, sign, before, isSign, isColon, typed⟩ := resultName.colon
    have past := lt_of_isMark member isWord name isSign isColon before
    exact Detector.not_isPropertyPart_of_isVisibilityWord isWord
      (.inl (typed place.index place.token past named stands))
  | property otherIsWord otherName =>
    rcases Nat.lt_or_gt_of_ne apart with first | second
    · exact Detector.not_isPropertyPart_of_isVisibilityWord otherIsWord
        (name.parts other.index other.token first otherName.keyword_lt_anchor
          (getElem?_index otherMember))
    · exact Detector.not_isPropertyPart_of_isVisibilityWord isWord
        (otherName.parts place.index place.token second named stands)

/-- A name reported twice is reported from a function. Its list opens before the name, and no deeper. -/
theorem Reports.exists_opening (member : place ∈ list file) {other : Place}
    (otherMember : other ∈ list file) (apart : place.index ≠ other.index)
    (reports : Reports file place anchor) (otherReports : Reports file other anchor) :
    Detector.isFunctionWord place.token = true ∧
      ∃ opening stop, ParameterList file place.index opening stop ∧ opening < anchor ∧
        Token.depthAt file opening ≤ Token.depthAt file anchor := by
  cases reports with
  | parameter opening stop begins _ parameters after before =>
    exact ⟨begins, opening, stop, parameters, after,
      Nat.le_of_lt (parameters.deeper anchor after (Nat.le_of_lt before))⟩
  | result opening stop begins _ parameters name =>
    exact ⟨begins, opening, stop, parameters,
      Nat.lt_trans parameters.opening_lt_stop name.stop_lt_anchor, Nat.le_of_eq name.level.symm⟩
  | property isWord name =>
    exact (not_reports_of_propertyName member isWord name otherMember apart otherReports).elim

/-- Two functions that report one name are nested. -/
theorem Reports.within (member : earlier ∈ list file) (laterMember : later ∈ list file)
    (ordered : earlier.index < later.index) (reports : Reports file earlier anchor)
    (laterReports : Reports file later anchor) : later.Within earlier := by
  obtain ⟨begins, opening, _, parameters, opensBefore, level⟩ :=
    laterReports.exists_opening laterMember member (by omega) reports
  have keywordBefore := parameters.keyword_lt_opening
  cases reports with
  | parameter _ stop _ ends _ _ before => exact ⟨ordered, stop, ends, by omega⟩
  | property isWord name =>
    exact (not_reports_of_propertyName member isWord name laterMember (by omega) laterReports).elim
  | result outer stop _ ends _ name =>
    refine ⟨ordered, stop, ends, ?_⟩
    by_contra past
    have stands := getElem?_index laterMember
    -- A keyword is not the closing parenthesis, and past that one the second list is too deep.
    rcases Nat.eq_or_lt_of_le (Nat.le_of_not_lt past) with rfl | past
    · obtain ⟨paren, closes, isClose⟩ := name.closes
      rw [stands] at closes
      cases closes
      rw [Detector.isFunctionWord, Token.isKeyword_of_isMark isClose,
        Token.isKeyword_of_isMark isClose] at begins
      cases begins
    · obtain ⟨paren, opens, isOpen⟩ := parameters.opens
      have deeper := name.nested later.index later.token opening paren past keywordBefore opensBefore
        stands begins opens isOpen
      rw [name.level] at level
      omega

end Nesting

end Place

/-- Whether two type hints belong to two functions, one of which begins in the parameter list of the
other. -/
def View.NestedHints (view : View) (first second : Sighting) : Prop :=
  ∃ outer ∈ Place.list view.tokens, ∃ inner ∈ Place.list view.tokens,
    Detector.isFunctionWord outer.token = true ∧ Detector.isFunctionWord inner.token = true ∧
      inner.Within outer ∧
      (first ∈ Place.hints view outer ∧ second ∈ Place.hints view inner ∨
        first ∈ Place.hints view inner ∧ second ∈ Place.hints view outer)

namespace View

variable {view : View}

/-- Hints at one name are reported from one keyword or belong to nested functions. -/
theorem nestedHints_of_anchor_eq {place other : Place} {first second : Sighting}
    (member : place ∈ Place.list view.tokens) (otherMember : other ∈ Place.list view.tokens)
    (found : first ∈ Place.hints view place) (otherFound : second ∈ Place.hints view other)
    (apart : place.index ≠ other.index) (shared : first.anchor = second.anchor) :
    view.NestedHints first second := by
  have reports := Place.reports_of_mem_hints member found
  have otherReports := Place.reports_of_mem_hints otherMember otherFound
  rw [← shared] at otherReports
  have begins := (reports.exists_opening member otherMember apart otherReports).1
  have otherBegins := (otherReports.exists_opening otherMember member apart.symm reports).1
  rcases Nat.lt_or_gt_of_ne apart with ordered | ordered
  · exact ⟨place, member, other, otherMember, begins, otherBegins,
      reports.within member otherMember ordered otherReports, .inl ⟨found, otherFound⟩⟩
  · exact ⟨other, otherMember, place, member, otherBegins, begins,
      otherReports.within otherMember member ordered reports, .inr ⟨found, otherFound⟩⟩

section Single

/-- The parameters of one function, or the property of one visibility, are reported at different
names. -/
theorem typeHintSightings_increasing (view : View) (place : Place) :
    (Place.typeHintSightings view place).Pairwise fun first second => first.anchor < second.anchor := by
  rw [Place.typeHintSightings]
  split
  · exact Place.parameterSightings_increasing view place
  · simp only [Place.propertySightings]
    repeat' split
    all_goals first | exact .nil | exact List.pairwise_singleton _ _

/-- One detector reports different names from one keyword. -/
theorem sightings_increasing {detector : Detector} (selected : detector ∈ Detector.select [.typeHint])
    (view : View) (place : Place) :
    (detector.sightings view place).Pairwise fun first second => first.anchor < second.anchor := by
  rw [Detector.select_typeHint, List.mem_pair] at selected
  rcases selected with rfl | rfl
  · exact typeHintSightings_increasing view place
  · exact Place.pairwise_toList _

/-- Two detectors report different names from one keyword. -/
theorem detectors_apart (view : View) :
    (Detector.select [.typeHint]).Pairwise fun detector other =>
      ∀ place ∈ Place.list view.tokens, other.triggers place.token = true →
        ∀ first ∈ detector.sightings view place, ∀ second ∈ other.sightings view place,
          first.anchor ≠ second.anchor := by
  rw [Detector.select_typeHint, List.pairwise_pair]
  intro place member begins first found second resultFound
  have isWord : (place.token.isKeyword .functionWord || place.token.isKeyword .fnWord) = true := begins
  simp only [Place.typeHintSightings, isWord, if_true] at found
  obtain ⟨-, stop, ends, -, -, before⟩ := Place.anchor_of_mem_parameterSightings member found
  obtain ⟨_, resultStop, resultEnds, _, name⟩ :=
    Place.anchor_of_mem_returnTypeSightings member resultFound
  obtain rfl : stop = resultStop := Option.some.inj (ends.symm.trans resultEnds)
  have past := name.stop_lt_anchor
  omega

end Single

/-- One detector reports a name twice only from nested functions. -/
theorem run_pairwise {detector : Detector} (selected : detector ∈ Detector.select [.typeHint])
    (view : View) :
    (detector.run view).Pairwise fun first second =>
      first.anchor = second.anchor → view.NestedHints first second := by
  refine List.pairwise_flatMap.mpr ⟨fun place member => ?_, ?_⟩
  · split
    · exact (sightings_increasing selected view place).imp fun ordered shared =>
        absurd shared (Nat.ne_of_lt ordered)
    · exact .nil
  · refine (Place.list_increasing view.tokens).imp_of_mem
      fun member otherMember ordered first found second otherFound shared => ?_
    exact nestedHints_of_anchor_eq member otherMember
      (List.mem_flatMap.mpr ⟨detector, selected, found⟩)
      (List.mem_flatMap.mpr ⟨detector, selected, otherFound⟩) (Nat.ne_of_lt ordered) shared

/-- A name is reported for two type hints only if they belong to nested functions. -/
theorem typeHints_pairwise (view : View) :
    (view.sightings [.typeHint]).Pairwise fun first second =>
      first.anchor = second.anchor → view.NestedHints first second := by
  refine List.pairwise_flatMap.mpr ⟨fun detector selected => run_pairwise selected view, ?_⟩
  refine (detectors_apart view).imp_of_mem
    fun {detector other} selected otherSelected apart first found second otherFound shared => ?_
  obtain ⟨place, member, found⟩ := List.mem_flatMap.mp found
  obtain ⟨otherPlace, otherMember, otherFound⟩ := List.mem_flatMap.mp otherFound
  by_cases same : place.index = otherPlace.index
  · obtain rfl := Place.eq_of_index_eq member otherMember same
    rw [List.mem_ite_nil_right] at found otherFound
    exact absurd shared (apart place member otherFound.1 first found.2 second otherFound.2)
  · exact nestedHints_of_anchor_eq member otherMember
      (List.mem_flatMap.mpr ⟨detector, selected, found⟩)
      (List.mem_flatMap.mpr ⟨other, otherSelected, otherFound⟩) same shared

/-- A name is reported for two type hints only if they belong to functions one of which begins in the
parameter list of the other. So where no function begins in a parameter list, every type hint is
reported once. -/
theorem typeHints_reported_once (view : View) :
    ((view.sightings [.typeHint]).Pairwise fun first second =>
      first.anchor = second.anchor → view.NestedHints first second) ∧
    ((∀ outer ∈ Place.list view.tokens, ∀ inner ∈ Place.list view.tokens,
        Detector.isFunctionWord outer.token = true → Detector.isFunctionWord inner.token = true →
          ¬ inner.Within outer) →
      ((view.sightings [.typeHint]).map (·.anchor)).Nodup) := by
  refine ⟨typeHints_pairwise view, fun flat => List.pairwise_map.mpr ?_⟩
  refine (typeHints_pairwise view).imp fun nested shared => ?_
  obtain ⟨outer, member, inner, innerMember, begins, innerBegins, within, -⟩ := nested shared
  exact flat outer member inner innerMember begins innerBegins within

/-- A function with a typed parameter and a result type: `function f(A $a): A`. -/
def sampleFunction : List Token :=
  let blank : Token := ⟨.whitespace, " ", 1⟩
  [⟨.keyword .functionWord, "function", 1⟩, blank, ⟨.name, "f", 1⟩, ⟨.mark .openParen, "(", 1⟩,
    ⟨.name, "A", 1⟩, blank, ⟨.variableName, "$a", 1⟩, ⟨.mark .closeParen, ")", 1⟩,
    ⟨.mark .colon, ":", 1⟩, blank, ⟨.name, "A", 1⟩]

/-- Of two functions in a row, each type is reported once. -/
theorem typeHints_reported_once_sample :
    let view := View.ofTokens (sampleFunction ++ sampleFunction) "A"
    (view.sightings [.typeHint]).length = 4 ∧ ((view.sightings [.typeHint]).map (·.anchor)).Nodup :=
  ⟨by decide +kernel, (typeHints_reported_once _).2 (by decide +kernel)⟩

/-- A function whose parameter defaults to an arrow function: `function f($g = fn(A $a) => $a)`. -/
def sampleNested : List Token :=
  let blank : Token := ⟨.whitespace, " ", 1⟩
  [⟨.keyword .functionWord, "function", 1⟩, blank, ⟨.name, "f", 1⟩, ⟨.mark .openParen, "(", 1⟩,
    ⟨.variableName, "$g", 1⟩, blank, ⟨.other, "=", 1⟩, blank, ⟨.keyword .fnWord, "fn", 1⟩,
    ⟨.mark .openParen, "(", 1⟩, ⟨.name, "A", 1⟩, blank, ⟨.variableName, "$a", 1⟩,
    ⟨.mark .closeParen, ")", 1⟩, blank, ⟨.other, "=>", 1⟩, blank, ⟨.variableName, "$a", 1⟩,
    ⟨.mark .closeParen, ")", 1⟩]

/-- The type of the arrow function's parameter is reported once for each of the two functions. -/
theorem typeHint_reported_twice :
    ((View.ofTokens sampleNested "A").sightings [.typeHint]).map (·.anchor) = [10, 10] ∧
      ¬ (((View.ofTokens sampleNested "A").sightings [.typeHint]).map (·.anchor)).Nodup := by
  decide +kernel

end View

end ClassAtlas
