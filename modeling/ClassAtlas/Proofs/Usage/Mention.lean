import ClassAtlas.Proofs.Name.LastSegment
import ClassAtlas.Usage.Detector

/-!
A file that does not mention the short name of a class does not use it.

Each detector compares the target with the meaning of a contiguous run of tokens, or with the full name
of an import. When none of these can be the target, no detector finds anything.
-/

namespace ClassAtlas

/-- Nothing that is written in a file means the target. -/
structure View.Blind (view : View) : Prop where
  /-- No contiguous run of tokens stands for the target. -/
  runs : ∀ run, run <:+: view.tokens → view.resolvesToTarget (Token.joinedText run) = false
  /-- No import statement names the target. -/
  imports : ∀ index, ∀ clause ∈ (Import.statementAt view.tokens index).clauses,
    view.isTarget clause.name = false

namespace Place

variable {view : View} {place : Place}

theorem importSightings_eq_nil (blind : view.Blind) : importSightings view place = [] := by
  have none : ((Import.statementAt view.tokens place.index).clauses.any fun clause =>
      clause.kind == .classLike && view.isTarget clause.name) = false := by
    rw [List.any_eq_false]
    intro clause member
    simp [blind.imports place.index clause member]
  simp [importSightings, none]

theorem keywordSightings_eq_nil (blind : view.Blind) (member : place ∈ list view.tokens)
    (usageType : UsageType) : keywordSightings usageType view place = [] := by
  have ahead : Token.skipTrivia place.after <:+ view.tokens :=
    (Token.skipTrivia_suffix _).trans (after_suffix member)
  have other : view.resolvesToTarget (Token.nameAhead (Token.skipTrivia place.after)) = false :=
    blind.runs _ ((List.takeWhile_prefix _).isInfix.trans ahead.isInfix)
  simp [keywordSightings, other]

theorem staticSightings_eq_nil (blind : view.Blind) (member : place ∈ list view.tokens) :
    staticSightings view place = [] := by
  have back : (Token.skipTrivia place.before).takeWhile Token.isNamePart <:+: place.before :=
    (List.takeWhile_prefix _).isInfix.trans (Token.skipTrivia_suffix _).isInfix
  have before : place.before.reverse <+: view.tokens :=
    ⟨place.token :: place.after, (tokens_eq_of_mem_list member).symm⟩
  have other := blind.runs _ ((List.reverse_infix.mpr back).trans before.isInfix)
  simp [staticSightings, other]

/-- No name in a list of names stands for the target. -/
theorem any_namesUntil (blind : view.Blind) (member : place ∈ list view.tokens)
    (stops : Token → Bool) :
    (namesUntil stops place.after).1.any view.resolvesToTarget = false := by
  rw [List.any_eq_false]
  intro name listed
  obtain ⟨front, run, back, equal, -, -, rfl⟩ := exists_run_of_mem_namesUntil listed
  have contiguous : run <:+: place.after :=
    ⟨front, back ++ (namesUntil stops place.after).2, by rw [← List.append_assoc, ← equal]⟩
  simp [blind.runs run (contiguous.trans (after_suffix member).isInfix)]

theorem implementsSightings_eq_nil (blind : view.Blind) (member : place ∈ list view.tokens) :
    implementsSightings view place = [] := by
  simp [implementsSightings, any_namesUntil blind member]

theorem mixinSightings_eq_nil (blind : view.Blind) (member : place ∈ list view.tokens) :
    mixinSightings view place = [] := by
  simp [mixinSightings, any_namesUntil blind member]

/-- No token of a type stands for the target. -/
theorem findIdx?_namesTarget (blind : view.Blind) {type : List Token} (inside : type <:+: view.tokens) :
    type.findIdx? view.namesTarget = none := by
  rw [List.findIdx?_eq_none_iff]
  intro token member
  obtain ⟨front, back, rfl⟩ := List.append_of_mem member
  have alone : [token] <:+: front ++ token :: back := ⟨front, back, by simp⟩
  have other := blind.runs [token] (alone.trans inside)
  simp only [Token.joinedText_cons, Token.joinedText_nil, String.append_empty] at other
  simp [View.namesTarget, other]

theorem parametersFrom_eq_nil (blind : view.Blind) {tokens : List Token}
    (inside : tokens <:+: view.tokens) (index : Nat) : parametersFrom view index tokens = [] := by
  fun_induction parametersFrom view index tokens with
  | case1 => rfl
  | case2 index token rest _ type size others found inductionHypothesis =>
    have tail := (List.drop_suffix size (token :: rest)).isInfix.trans inside
    have absent : type.findIdx? view.namesTarget = none :=
      findIdx?_namesTarget blind ((Token.typeAhead_isPrefix _).isInfix.trans inside)
    have nothing : found = none := by simp [found, absent]
    simp [nothing, others, inductionHypothesis tail]
  | case3 index token rest _ inductionHypothesis =>
    exact inductionHypothesis ((List.suffix_cons token rest).isInfix.trans inside)

theorem parameterSightings_eq_nil (blind : view.Blind) (member : place ∈ list view.tokens) :
    parameterSightings view place = [] := by
  rw [parameterSightings]
  split
  case h_1 => rfl
  case h_2 tokens found =>
    have placed : tokens <:+ view.tokens :=
      (Token.afterParameterParen?_suffix found).trans (after_suffix member)
    apply parametersFrom_eq_nil blind
    split
    case h_1 inside after closes =>
      exact (Token.closeParen?_parts closes).1.isInfix.trans placed.isInfix
    case h_2 => exact placed.isInfix

theorem propertySightings_eq_nil (blind : view.Blind) (member : place ∈ list view.tokens) :
    propertySightings view place = [] := by
  have placed : skipPropertyWords place.after <:+ view.tokens :=
    (skipPropertyWords_suffix _).trans (after_suffix member)
  have absent := findIdx?_namesTarget blind
    ((Token.typeAhead_isPrefix (skipPropertyWords place.after)).isInfix.trans placed.isInfix)
  simp only [propertySightings, absent]
  split
  · rfl
  split
  · rfl
  split
  · split
    · rfl
    · exact ite_self []
  · rfl

theorem typeHintSightings_eq_nil (blind : view.Blind) (member : place ∈ list view.tokens) :
    typeHintSightings view place = [] := by
  rw [typeHintSightings, parameterSightings_eq_nil blind member, propertySightings_eq_nil blind member,
    ite_self]

theorem returnTypeSightings_eq_nil (blind : view.Blind) (member : place ∈ list view.tokens) :
    returnTypeSightings view place = [] := by
  simp only [returnTypeSightings, Option.toList_eq_nil_iff, Option.bind_eq_bind,
    Option.bind_eq_none_iff]
  rintro tokens opens ⟨inside, after⟩ closes ahead bound
  have placed : ahead <:+ view.tokens :=
    (afterBinding?_suffix bound).trans ((Token.skipTrivia_suffix after).trans
      ((Token.closeParen?_parts closes).2.trans
        ((Token.afterParameterParen?_suffix opens).trans (after_suffix member))))
  split
  case h_2 => rfl
  case h_1 colon rest =>
    have typed : Token.skipTrivia rest <:+ view.tokens :=
      (Token.skipTrivia_suffix rest).trans ((List.suffix_cons colon rest).trans placed)
    have absent := findIdx?_namesTarget blind
      ((Token.typeAhead_isPrefix (Token.skipTrivia rest)).isInfix.trans typed.isInfix)
    simp [absent]

end Place

namespace View

variable {view : View}

theorem Blind.run_eq_nil (blind : view.Blind) {detector : Detector} (listed : detector ∈ Detector.all) :
    detector.run view = [] := by
  rw [Detector.run, List.flatMap_eq_nil_iff]
  intro place member
  have nothing : detector.sightings view place = [] := by
    simp only [Detector.all, List.mem_cons, List.not_mem_nil, or_false] at listed
    rcases listed with rfl | rfl | rfl | rfl | rfl | rfl | rfl | rfl
    · exact Place.importSightings_eq_nil blind
    · exact Place.keywordSightings_eq_nil blind member .new
    · exact Place.staticSightings_eq_nil blind member
    · exact Place.keywordSightings_eq_nil blind member .extension
    · exact Place.implementsSightings_eq_nil blind member
    · exact Place.mixinSightings_eq_nil blind member
    · exact Place.typeHintSightings_eq_nil blind member
    · exact Place.returnTypeSightings_eq_nil blind member
  rw [nothing, ite_self]

/-- Where nothing means the target, no detector finds it. -/
theorem Blind.sightings_eq_nil (blind : view.Blind) (wanted : List UsageType) :
    view.sightings wanted = [] := by
  rw [sightings, List.flatMap_eq_nil_iff]
  intro detector selected
  apply blind.run_eq_nil
  rw [Detector.select] at selected
  split at selected
  · exact selected
  · exact (List.mem_filter.mp selected).1

/-- Tokens whose text does not hold the short name of a class hold nothing that means the class. -/
theorem ofTokens_blind {tokens : List Token} {target : String}
    (absent : ¬ (Name.short target).toList <:+: (Token.joinedText tokens).toList) :
    (ofTokens tokens target).Blind := by
  have other : ∀ fullName, Name.EndsIn (Token.joinedText tokens).toList fullName →
      (ofTokens tokens target).isTarget fullName = false := by
    intro fullName written
    rw [isTarget, beq_eq_false_iff_ne]
    intro same
    apply absent
    rw [Name.toList_short]
    have segment : Name.lastSegment (Name.normalized target) = Name.lastSegment fullName := by
      rw [← Name.lastSegment_unrooted fullName, same]
      rfl
    rw [segment]
    exact written
  have imports : (Context.ofTokens tokens).aliases.AllFull
      (Name.EndsIn (Token.joinedText tokens).toList) :=
    Aliases.AllFull.ofUses (fun index => Import.statementAt_endsIn index) _
  constructor
  · intro run contiguous
    exact other _ (Name.resolve_endsIn imports _ (Token.joinedText_isInfix contiguous))
  · intro index clause member
    exact other _ (Import.statementAt_endsIn index clause member)

end View

end ClassAtlas
