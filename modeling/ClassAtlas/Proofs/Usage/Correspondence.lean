import Mathlib.Data.List.Forall2
import ClassAtlas.Proofs.Token.Alignment
import ClassAtlas.Proofs.Token.Place
import ClassAtlas.Usage.Detector

/-!
Detectors over two files in step.

Two views correspond when their significant tokens, one by one, cannot be told apart by a detector and
their `use` keywords mean the same. Every detector then finds corresponding usages in both, in the
same order. In a file without adjacent parts of names each name is a single token, so it is enough to
compare tokens.
-/

namespace ClassAtlas

open Token

/-- Two tokens that detectors cannot tell apart, each in its view, and of one text where `exact`. -/
structure View.Alike (view other : View) (exact : Prop) (token twin : Token) : Prop where
  kind : token.kind = twin.kind
  line : token.line = twin.line
  sign : ∀ sign ∈ signs, (token.text == sign) = (twin.text == sign)
  isEmpty : token.text.isEmpty = twin.text.isEmpty
  resolves : token.isNamePart = true →
    view.resolvesToTarget token.text = other.resolvesToTarget twin.text
  text : exact → token.text = twin.text

/-- Two sightings that are reported with one type and one line, and with one method where `exact`. -/
structure Sighting.Agree (view other : View) (exact : Prop) (sighting twin : Sighting) : Prop where
  usageType : sighting.usageType = twin.usageType
  line : (view.tokens[sighting.anchor]?).map (·.line) = (other.tokens[twin.anchor]?).map (·.line)
  method : exact → sighting.method = twin.method

/-- Two places, each in the file of its view, whose tokens are alike, with alike tokens around them,
and at which `use` means the same. -/
structure Place.Twins (view other : View) (exact : Prop) (place twin : Place) : Prop where
  member : place ∈ list view.tokens
  twinMember : twin ∈ list other.tokens
  token : view.Alike other exact place.token twin.token
  before : Aligned (view.Alike other exact) place.before twin.before
  after : Aligned (view.Alike other exact) place.after twin.after
  useKind? : view.context.useKind? place.index = other.context.useKind? twin.index
  imports : view.context.useKind? place.index = some .fileImport →
    ((Import.statementAt view.tokens place.index).clauses.any fun clause =>
      clause.kind == .classLike && view.isTarget clause.name) =
    (Import.statementAt other.tokens twin.index).clauses.any fun clause =>
      clause.kind == .classLike && other.isTarget clause.name

variable {view other : View} {exact : Prop}

/-- Sightings that agree are reported with one line. -/
theorem Sighting.Agree.record_line {sighting twin : Sighting}
    (agree : Sighting.Agree view other exact sighting twin) :
    (sighting.record view.tokens).line = (twin.record other.tokens).line := by
  simp only [Sighting.record, UsageRecord.found, agree.line]

namespace View

theorem alike_faithful : Faithful (view.Alike other exact) := ⟨Alike.kind, Alike.sign⟩

theorem Alike.namesTarget {token twin : Token} (alike : view.Alike other exact token twin) :
    view.namesTarget token = other.namesTarget twin := by
  simp only [View.namesTarget, ← alike_faithful.isNamePart alike]
  cases isPart : token.isNamePart with
  | true => rw [alike.resolves isPart]
  | false => simp

theorem namesTarget_of_isTrivia {token : Token} (isTrivia : token.isTrivia = true) :
    view.namesTarget token = false := by
  simp [View.namesTarget, isNamePart_of_isTrivia isTrivia]

/-- Types name the target in step. -/
theorem findIdx?_aligned {type twinType : List Token}
    (aligned : Aligned (view.Alike other exact) type twinType) :
    Option.Rel (fun hit twinHit => ∃ token twin, type[hit]? = some token ∧
      twinType[twinHit]? = some twin ∧ view.Alike other exact token twin)
      (type.findIdx? view.namesTarget) (twinType.findIdx? other.namesTarget) :=
  aligned.findIdx? (fun _ _ => Alike.namesTarget)
    fun _ isTrivia => ⟨namesTarget_of_isTrivia isTrivia, namesTarget_of_isTrivia isTrivia⟩

end View

namespace Place

section Sparse

variable {tokens : List Token} {place : Place}

theorem before_sparse (sparse : Sparse tokens) (member : place ∈ list tokens) :
    Sparse place.before := by
  have front : Sparse place.before.reverse :=
    sparse.of_isInfix ⟨[], place.token :: place.after, by simp [tokens_eq_of_mem_list member]⟩
  simpa using front.reverse

theorem after_sparse (sparse : Sparse tokens) (member : place ∈ list tokens) : Sparse place.after :=
  sparse.of_isInfix (after_suffix member).isInfix

end Sparse

section Parameters

variable {index : Nat} {token : Token} {rest : List Token}

/-- A token with which no type starts is passed. -/
theorem parametersFrom_of_not_startsType (notType : token.startsType = false) :
    parametersFrom view index (token :: rest) = parametersFrom view (index + 1) rest := by
  rw [parametersFrom, if_neg (by simp [notType])]

/-- The parameter whose type the tokens start with, if it names the target. -/
def parameter? (view : View) (index : Nat) (tokens : List Token) : Option Sighting := do
  let after ← afterVariable? (tokens.drop (typeAhead tokens).length)
  let hit ← (typeAhead tokens).findIdx? view.namesTarget
  some ⟨.typeHint, index, index + (tokens.length - after.length), index + hit, none⟩

/-- A type is read as a whole, and the parameters after it are read from its end on. -/
theorem parametersFrom_of_startsType (starts : token.startsType = true) :
    parametersFrom view index (token :: rest) =
      (parameter? view index (token :: rest)).toList ++
        parametersFrom view (index + (typeAhead (token :: rest)).length)
          ((token :: rest).drop (typeAhead (token :: rest)).length) := by
  have size : max (typeAhead (token :: rest)).length 1 = (typeAhead (token :: rest)).length :=
    Nat.max_eq_left (List.length_pos_iff.mpr (typeAhead_ne_nil starts rest))
  rw [parametersFrom, if_pos starts]
  simp only [size, parameter?]

end Parameters

section Results

/-- The result type that the tokens start with after a colon, if it names the target. -/
def resultType? (view : View) (place : Place) (ahead : List Token) : Option Sighting :=
  match ahead with
  | colon :: rest =>
    if colon.isMark .colon then
      (skipTrivia rest).head?.bind fun first =>
        if first.startsType then
          ((typeAhead (skipTrivia rest)).findIdx? view.namesTarget).bind fun hit =>
            some ⟨.typeHint, place.indexOf ahead,
              place.indexOf (skipTrivia rest) + (typeAhead (skipTrivia rest)).length,
              place.indexOf (skipTrivia rest) + hit, none⟩
        else none
    else none
  | [] => none

theorem returnTypeSightings_eq (view : View) (place : Place) :
    returnTypeSightings view place =
      ((afterParameterParen? place.after).bind fun tokens =>
        (closeParen? 0 tokens).bind fun parts =>
          (afterBinding? (skipTrivia parts.2)).bind (resultType? view place)).toList := by
  rfl

theorem resultType_suffix {after tokens ahead : List Token} {parts : List Token × List Token}
    (opens : afterParameterParen? after = some tokens) (closes : closeParen? 0 tokens = some parts)
    (bound : afterBinding? (skipTrivia parts.2) = some ahead) : ahead <:+ after :=
  (afterBinding?_suffix bound).trans ((skipTrivia_suffix parts.2).trans
    ((closeParen?_parts closes).2.trans (afterParameterParen?_suffix opens)))

end Results

namespace Twins

variable {place twin : Place}

/-- A sighting at a place is reported with the line of its token. -/
theorem line_eq (twins : Twins view other exact place twin) :
    (view.tokens[place.index]?).map (·.line) = (other.tokens[twin.index]?).map (·.line) := by
  rw [getElem?_index twins.member, getElem?_index twins.twinMember, Option.map_some, Option.map_some,
    twins.token.line]

theorem importSightings (twins : Twins view other exact place twin) :
    List.Forall₂ (Sighting.Agree view other exact) (importSightings view place)
      (importSightings other twin) := by
  simp only [Place.importSightings, ← twins.useKind?]
  split
  case isFalse => exact .nil
  case isTrue use =>
    rw [← twins.imports use]
    split
    · exact .cons ⟨rfl, twins.line_eq, fun _ => rfl⟩ .nil
    · exact .nil

theorem nameAhead_eq {tokens twins : List Token} (met : Met (view.Alike other exact) tokens twins)
    (sparse : Sparse tokens) (twinSparse : Sparse twins) :
    (!(nameAhead tokens).isEmpty && view.resolvesToTarget (nameAhead tokens)) =
      (!(nameAhead twins).isEmpty && other.resolvesToTarget (nameAhead twins)) := by
  have empty : "".isEmpty = true := by decide
  cases met with
  | nil => simp [nameAhead, empty]
  | cons alike significant aligned =>
    rw [sparse.nameAhead_cons, twinSparse.nameAhead_cons, ← View.alike_faithful.isNamePart alike]
    split
    case isTrue isPart => rw [alike.isEmpty, alike.resolves isPart]
    case isFalse => simp [empty]

theorem keywordSightings (twins : Twins view other exact place twin) (sparse : Sparse view.tokens)
    (twinSparse : Sparse other.tokens) (usageType : UsageType) :
    List.Forall₂ (Sighting.Agree view other exact) (keywordSightings usageType view place)
      (keywordSightings usageType other twin) := by
  have met := twins.after.skipTrivia View.alike_faithful
  have same := nameAhead_eq met
    ((after_sparse sparse twins.member).of_isInfix (skipTrivia_suffix _).isInfix)
    ((after_sparse twinSparse twins.twinMember).of_isInfix (skipTrivia_suffix _).isInfix)
  simp only [Place.keywordSightings, same]
  split
  · exact .cons ⟨rfl, twins.line_eq, fun _ => rfl⟩ .nil
  · exact .nil

theorem memberAhead_eq {tokens twins : List Token}
    (aligned : Aligned (view.Alike other exact) tokens twins) (isExact : exact) :
    (memberAhead tokens).1 = (memberAhead twins).1 := by
  have met := aligned.skipTrivia View.alike_faithful
  simp only [memberAhead]
  revert met
  generalize skipTrivia tokens = ahead
  generalize skipTrivia twins = twinAhead
  intro met
  cases met with
  | nil => rfl
  | cons alike significant aligned =>
    simp only [← View.alike_faithful.isKeyword alike, ← alike.kind, ← alike.text isExact,
      apply_ite Prod.fst]

/-- In a sparse list the name that a list starts with is one token or none. -/
theorem takeWhile_eq {tokens twins : List Token} (met : Met (view.Alike other exact) tokens twins)
    (sparse : Sparse tokens) (twinSparse : Sparse twins) :
    (!(tokens.takeWhile isNamePart).reverse.isEmpty &&
        view.resolvesToTarget (joinedText (tokens.takeWhile isNamePart).reverse)) =
      (!(twins.takeWhile isNamePart).reverse.isEmpty &&
        other.resolvesToTarget (joinedText (twins.takeWhile isNamePart).reverse)) := by
  cases met with
  | nil => simp
  | @cons token twin rest others alike significant aligned =>
    have samePart := View.alike_faithful.isNamePart alike
    cases isPart : token.isNamePart with
    | true =>
      have twinPart := samePart.symm.trans isPart
      simp [isPart, twinPart, sparse.takeWhile_isNamePart isPart,
        twinSparse.takeWhile_isNamePart twinPart, alike.resolves isPart]
    | false =>
      have notTwinPart := samePart.symm.trans isPart
      simp [isPart, notTwinPart]

theorem staticSightings (twins : Twins view other exact place twin) (sparse : Sparse view.tokens)
    (twinSparse : Sparse other.tokens) :
    List.Forall₂ (Sighting.Agree view other exact) (staticSightings view place)
      (staticSightings other twin) := by
  have same := takeWhile_eq (twins.before.skipTrivia View.alike_faithful)
    ((before_sparse sparse twins.member).of_isInfix (skipTrivia_suffix _).isInfix)
    ((before_sparse twinSparse twins.twinMember).of_isInfix (skipTrivia_suffix _).isInfix)
  simp only [Place.staticSightings, same]
  split
  · exact .cons ⟨rfl, twins.line_eq, memberAhead_eq twins.after⟩ .nil
  · exact .nil

/-- Lists of names after a place name the target in step. -/
theorem any_namesUntil (twins : Twins view other exact place twin) (sparse : Sparse view.tokens)
    (twinSparse : Sparse other.tokens) (stops : Token → Bool)
    (agree : ∀ token twin, view.Alike other exact token twin → stops token = stops twin)
    (noTrivia : ∀ token, token.isTrivia = true → stops token = false) :
    (namesUntil stops place.after).1.any view.resolvesToTarget =
      (namesUntil stops twin.after).1.any other.resolvesToTarget :=
  any_namesUntil_aligned View.alike_faithful twins.after agree noTrivia
    (fun _ _ alike => alike.resolves) (after_sparse sparse twins.member)
    (after_sparse twinSparse twins.twinMember)

theorem implementsSightings (twins : Twins view other exact place twin) (sparse : Sparse view.tokens)
    (twinSparse : Sparse other.tokens) :
    List.Forall₂ (Sighting.Agree view other exact) (implementsSightings view place)
      (implementsSightings other twin) := by
  have same := twins.any_namesUntil sparse twinSparse
    (fun token =>
      token.isMark .openBrace || token.isKeyword .extendsWord || token.isMark .semicolon)
    (fun _ _ alike => by
      simp only [View.alike_faithful.isMark alike, View.alike_faithful.isKeyword alike])
    (fun _ isTrivia => by simp [isMark_of_isTrivia isTrivia, isKeyword_of_isTrivia isTrivia])
  simp only [Place.implementsSightings, same]
  split
  · exact .cons ⟨rfl, twins.line_eq, fun _ => rfl⟩ .nil
  · exact .nil

theorem mixinSightings (twins : Twins view other exact place twin) (sparse : Sparse view.tokens)
    (twinSparse : Sparse other.tokens) :
    List.Forall₂ (Sighting.Agree view other exact) (mixinSightings view place)
      (mixinSightings other twin) := by
  have same := twins.any_namesUntil sparse twinSparse
    (fun token => token.isMark .semicolon || token.isMark .openBrace)
    (fun _ _ alike => by simp only [View.alike_faithful.isMark alike])
    (fun _ isTrivia => by simp [isMark_of_isTrivia isTrivia])
  simp only [Place.mixinSightings, ← twins.useKind?, same]
  split
  · split
    · exact .cons ⟨rfl, twins.line_eq, fun _ => rfl⟩ .nil
    · exact .nil
  · exact .nil

/-- A token of a type is found in the file where the type stands. -/
theorem line_hit {tokens type : List Token} {index hit : Nat} (stands : StandsAt tokens index type)
    {token : Token} (found : type[hit]? = some token) :
    (tokens[index + hit]?).map (·.line) = some token.line := by
  obtain ⟨inside, -⟩ := List.getElem?_eq_some_iff.mp found
  rw [stands.getElem? inside, found, Option.map_some]

theorem forall₂_toList {α β : Type} {related : α → β → Prop} {found : Option α} {other : Option β}
    (rel : Option.Rel related found other) : List.Forall₂ related found.toList other.toList := by
  cases rel with
  | none => exact .nil
  | some holds => exact .cons holds .nil

theorem parameter? {index twinIndex : Nat} {tokens twins : List Token}
    (aligned : Aligned (view.Alike other exact) tokens twins)
    (stands : StandsAt view.tokens index tokens) (twinStands : StandsAt other.tokens twinIndex twins) :
    Option.Rel (Sighting.Agree view other exact) (parameter? view index tokens)
      (parameter? other twinIndex twins) := by
  have type := aligned.typeAhead View.alike_faithful
  refine rel_bind (afterVariable?_aligned View.alike_faithful
    (aligned.afterType View.alike_faithful)) fun after twinAfter _ => ?_
  refine rel_bind (View.findIdx?_aligned type) ?_
  rintro hit twinHit ⟨token, twin, found, twinFound, alike⟩
  refine .some ⟨rfl, ?_, fun _ => rfl⟩
  rw [line_hit (stands.of_isPrefix (typeAhead_isPrefix tokens)) found,
    line_hit (twinStands.of_isPrefix (typeAhead_isPrefix twins)) twinFound, alike.line]

/-- Typed parameters are found in step, wherever the two parts of the files stand. -/
theorem parametersFrom {index twinIndex : Nat} {tokens twins : List Token}
    (aligned : Aligned (view.Alike other exact) tokens twins)
    (stands : StandsAt view.tokens index tokens) (twinStands : StandsAt other.tokens twinIndex twins) :
    List.Forall₂ (Sighting.Agree view other exact) (parametersFrom view index tokens)
      (parametersFrom other twinIndex twins) := by
  induction bound : tokens.length + twins.length using Nat.strong_induction_on
    generalizing index twinIndex tokens twins with
  | _ bound inductionHypothesis =>
    subst bound
    cases aligned with
    | nil => simp [Place.parametersFrom]
    | left isTrivia aligned =>
      rw [parametersFrom_of_not_startsType (startsType_of_isTrivia isTrivia)]
      exact inductionHypothesis _ (by simp) aligned stands.tail twinStands rfl
    | right isTrivia aligned =>
      rw [parametersFrom_of_not_startsType (startsType_of_isTrivia isTrivia)]
      exact inductionHypothesis _ (by simp) aligned stands twinStands.tail rfl
    | @both token twin rest others alike significant aligned =>
      have sameStart := View.alike_faithful.startsType alike
      cases starts : token.startsType with
      | false =>
        rw [parametersFrom_of_not_startsType starts,
          parametersFrom_of_not_startsType (sameStart.symm.trans starts)]
        refine inductionHypothesis _ ?_ aligned stands.tail twinStands.tail rfl
        simp only [List.length_cons]
        omega
      | true =>
        have whole : Aligned (view.Alike other exact) (token :: rest) (twin :: others) :=
          .both alike significant aligned
        have nonempty := List.length_pos_iff.mpr (typeAhead_ne_nil starts rest)
        rw [parametersFrom_of_startsType starts,
          parametersFrom_of_startsType (sameStart.symm.trans starts)]
        refine List.rel_append (forall₂_toList (parameter? whole stands twinStands))
          (inductionHypothesis _ ?_ (whole.afterType View.alike_faithful)
            (stands.drop (typeAhead_isPrefix _).length_le)
            (twinStands.drop (typeAhead_isPrefix _).length_le) rfl)
        simp only [List.length_cons, List.length_drop]
        omega

theorem parameterSightings (twins : Twins view other exact place twin) :
    List.Forall₂ (Sighting.Agree view other exact) (parameterSightings view place)
      (parameterSightings other twin) := by
  have opens := twins.after.afterParameterParen? View.alike_faithful
  simp only [Place.parameterSightings]
  generalize found : afterParameterParen? place.after = opened at opens ⊢
  generalize twinFound : afterParameterParen? twin.after = twinOpened at opens ⊢
  cases opens with
  | none => exact .nil
  | @some tokens twinTokens aligned =>
    have stands := standsAt_indexOf twins.member (afterParameterParen?_suffix found)
    have twinStands := standsAt_indexOf twins.twinMember (afterParameterParen?_suffix twinFound)
    have closes := aligned.closeParen? View.alike_faithful 0
    simp only
    generalize inside : closeParen? 0 tokens = closed at closes ⊢
    generalize twinInside : closeParen? 0 twinTokens = twinClosed at closes ⊢
    cases closes with
    | none => exact parametersFrom aligned stands twinStands
    | some parts =>
      exact parametersFrom parts.1 (stands.of_isPrefix (closeParen?_parts inside).1)
        (twinStands.of_isPrefix (closeParen?_parts twinInside).1)

theorem propertySightings (twins : Twins view other exact place twin) :
    List.Forall₂ (Sighting.Agree view other exact) (propertySightings view place)
      (propertySightings other twin) := by
  have met := skipPropertyWords_met View.alike_faithful twins.after
  have stands := standsAt_indexOf twins.member (skipPropertyWords_suffix place.after)
  have twinStands := standsAt_indexOf twins.twinMember (skipPropertyWords_suffix twin.after)
  simp only [Place.propertySightings, ← twins.before.parenDepth View.alike_faithful]
  generalize skipPropertyWords place.after = ahead at met stands ⊢
  generalize skipPropertyWords twin.after = twinAhead at met twinStands ⊢
  split
  · exact .nil
  cases met with
  | nil => exact .nil
  | @cons token twin rest others alike significant aligned =>
    have whole : Aligned (view.Alike other exact) (token :: rest) (twin :: others) :=
      .both alike significant aligned
    simp only [← View.alike_faithful.startsType alike]
    split
    case isFalse => exact .nil
    case isTrue =>
      have next := (whole.afterType View.alike_faithful).skipTrivia View.alike_faithful
      have hits := View.findIdx?_aligned (whole.typeAhead View.alike_faithful)
      have type := stands.of_isPrefix (typeAhead_isPrefix (token :: rest))
      have twinType := twinStands.of_isPrefix (typeAhead_isPrefix (twin :: others))
      generalize skipTrivia ((token :: rest).drop (typeAhead (token :: rest)).length) = left at next ⊢
      generalize skipTrivia ((twin :: others).drop (typeAhead (twin :: others)).length) = twinLeft
        at next ⊢
      cases next with
      | nil => exact .nil
      | cons alikeNext _ _ =>
        simp only [← alikeNext.kind]
        split
        case isFalse => exact .nil
        case isTrue =>
          generalize (typeAhead (token :: rest)).findIdx? view.namesTarget = hit at hits ⊢
          generalize (typeAhead (twin :: others)).findIdx? other.namesTarget = twinHit at hits ⊢
          cases hits with
          | none => exact .nil
          | some hit =>
            obtain ⟨named, twinNamed, found, twinFound, alikeNamed⟩ := hit
            refine .cons ⟨rfl, ?_, fun _ => rfl⟩ .nil
            rw [line_hit type found, line_hit twinType twinFound, alikeNamed.line]

theorem typeHintSightings (twins : Twins view other exact place twin) :
    List.Forall₂ (Sighting.Agree view other exact) (typeHintSightings view place)
      (typeHintSightings other twin) := by
  simp only [Place.typeHintSightings, ← View.alike_faithful.isKeyword twins.token]
  split
  · exact twins.parameterSightings
  · exact twins.propertySightings

/-- The result types that two corresponding places are followed by name the target in step. -/
theorem resultType? (twins : Twins view other exact place twin) {ahead twinAhead : List Token}
    (placed : ahead <:+ place.after) (twinPlaced : twinAhead <:+ twin.after)
    (met : Met (view.Alike other exact) ahead twinAhead) :
    Option.Rel (Sighting.Agree view other exact) (resultType? view place ahead)
      (resultType? other twin twinAhead) := by
  cases met with
  | nil => exact .none
  | @cons colon twinColon rest others alike _ aligned =>
    simp only [Place.resultType?, ← View.alike_faithful.isMark alike]
    split
    case isFalse => exact .none
    case isTrue =>
      have typed : Met (view.Alike other exact) (skipTrivia rest) (skipTrivia others) :=
        aligned.skipTrivia View.alike_faithful
      have stands := standsAt_indexOf twins.member
        ((skipTrivia_suffix rest).trans ((List.suffix_cons colon rest).trans placed))
      have twinStands := standsAt_indexOf twins.twinMember
        ((skipTrivia_suffix others).trans ((List.suffix_cons twinColon others).trans twinPlaced))
      generalize skipTrivia rest = type at typed stands ⊢
      generalize skipTrivia others = twinType at typed twinStands ⊢
      cases typed with
      | nil => exact .none
      | @cons first twinFirst rest others alikeFirst significant aligned =>
        simp only [List.head?_cons, Option.bind_some, ← View.alike_faithful.startsType alikeFirst]
        split
        case isFalse => exact .none
        case isTrue =>
          have whole : Aligned (view.Alike other exact) (first :: rest) (twinFirst :: others) :=
            .both alikeFirst significant aligned
          refine rel_bind (View.findIdx?_aligned (whole.typeAhead View.alike_faithful)) ?_
          rintro hit twinHit ⟨named, twinNamed, found, twinFound, alikeNamed⟩
          refine .some ⟨rfl, ?_, fun _ => rfl⟩
          rw [line_hit (stands.of_isPrefix (typeAhead_isPrefix _)) found,
            line_hit (twinStands.of_isPrefix (typeAhead_isPrefix _)) twinFound, alikeNamed.line]

theorem returnTypeSightings (twins : Twins view other exact place twin) :
    List.Forall₂ (Sighting.Agree view other exact) (returnTypeSightings view place)
      (returnTypeSightings other twin) := by
  rw [returnTypeSightings_eq, returnTypeSightings_eq]
  refine forall₂_toList ?_
  have opens := twins.after.afterParameterParen? View.alike_faithful
  generalize found : afterParameterParen? place.after = opened at opens ⊢
  generalize twinFound : afterParameterParen? twin.after = twinOpened at opens ⊢
  cases opens with
  | none => exact .none
  | @some tokens twinTokens aligned =>
    have closes := aligned.closeParen? View.alike_faithful 0
    simp only [Option.bind_some]
    generalize inside : closeParen? 0 tokens = closed at closes ⊢
    generalize twinInside : closeParen? 0 twinTokens = twinClosed at closes ⊢
    cases closes with
    | none => exact .none
    | @some parts twinParts aligned =>
      have binds := afterBinding?_met View.alike_faithful
        (aligned.2.skipTrivia View.alike_faithful)
      simp only [Option.bind_some]
      generalize bound : afterBinding? (skipTrivia parts.2) = ahead at binds ⊢
      generalize twinBound : afterBinding? (skipTrivia twinParts.2) = twinAhead at binds ⊢
      cases binds with
      | none => exact .none
      | some met =>
        exact twins.resultType? (resultType_suffix found inside bound)
          (resultType_suffix twinFound twinInside twinBound) met

/-- At corresponding places a detector finds corresponding usages. -/
theorem sightings (twins : Twins view other exact place twin) (sparse : Sparse view.tokens)
    (twinSparse : Sparse other.tokens) {detector : Detector} (listed : detector ∈ Detector.all) :
    List.Forall₂ (Sighting.Agree view other exact) (detector.sightings view place)
      (detector.sightings other twin) := by
  simp only [Detector.all, List.mem_cons, List.not_mem_nil, or_false] at listed
  rcases listed with rfl | rfl | rfl | rfl | rfl | rfl | rfl | rfl
  · exact twins.importSightings
  · exact twins.keywordSightings sparse twinSparse .new
  · exact twins.staticSightings sparse twinSparse
  · exact twins.keywordSightings sparse twinSparse .extension
  · exact twins.implementsSightings sparse twinSparse
  · exact twins.mixinSightings sparse twinSparse
  · exact twins.typeHintSightings
  · exact twins.returnTypeSightings

end Twins

/-- The places of the significant tokens of a file, in order. -/
def significant (tokens : List Token) : List Place :=
  (list tokens).filter fun place => !place.token.isTrivia

/-- Two places with related tokens and aligned tokens before and after them. -/
structure Matched (same : Token → Token → Prop) (place twin : Place) : Prop where
  token : same place.token twin.token
  before : Aligned same place.before twin.before
  after : Aligned same place.after twin.after

theorem listFrom_matched {same : Token → Token → Prop} (faithful : Faithful same)
    {tokens twins before twinBefore : List Token} (aligned : Aligned same tokens twins)
    (alignedBefore : Aligned same before twinBefore) :
    List.Forall₂ (Matched same) ((listFrom before tokens).filter fun place => !place.token.isTrivia)
      ((listFrom twinBefore twins).filter fun place => !place.token.isTrivia) := by
  induction aligned generalizing before twinBefore with
  | nil => exact .nil
  | left isTrivia _ inductionHypothesis =>
    rw [listFrom, List.filter_cons_of_neg (by simp [isTrivia])]
    exact inductionHypothesis (.left isTrivia alignedBefore)
  | right isTrivia _ inductionHypothesis =>
    rw [listFrom, List.filter_cons_of_neg (by simp [isTrivia])]
    exact inductionHypothesis (.right isTrivia alignedBefore)
  | both related significant aligned inductionHypothesis =>
    have twinSignificant := (faithful.isTrivia related).symm.trans significant
    rw [listFrom, listFrom, List.filter_cons_of_pos (by simp [significant]),
      List.filter_cons_of_pos (by simp [twinSignificant])]
    exact .cons ⟨related, alignedBefore, aligned⟩
      (inductionHypothesis (.both related significant alignedBefore))

/-- The significant places of aligned files match one by one. -/
theorem significant_matched {same : Token → Token → Prop} (faithful : Faithful same)
    {tokens twins : List Token} (aligned : Aligned same tokens twins) :
    List.Forall₂ (Matched same) (significant tokens) (significant twins) :=
  listFrom_matched faithful aligned .nil

theorem mem_list_of_mem_significant {tokens : List Token} {place : Place}
    (member : place ∈ significant tokens) : place ∈ list tokens :=
  (List.mem_filter.mp member).1

end Place

namespace Detector

/-- What a detector starts from is a matter of kind. -/
theorem triggers_congr {detector : Detector} (listed : detector ∈ all) {token twin : Token}
    (kind : token.kind = twin.kind) : detector.triggers token = detector.triggers twin := by
  simp only [all, List.mem_cons, List.not_mem_nil, or_false] at listed
  rcases listed with rfl | rfl | rfl | rfl | rfl | rfl | rfl | rfl <;>
    simp only [isFunctionWord, isVisibilityWord, Token.isKeyword, Token.isMark, kind]

theorem triggers_of_isTrivia {detector : Detector} (listed : detector ∈ all) {token : Token}
    (isTrivia : token.isTrivia = true) : detector.triggers token = false := by
  simp only [all, List.mem_cons, List.not_mem_nil, or_false] at listed
  rcases listed with rfl | rfl | rfl | rfl | rfl | rfl | rfl | rfl <;>
    simp [isFunctionWord, isVisibilityWord, isKeyword_of_isTrivia isTrivia,
      isMark_of_isTrivia isTrivia]

/-- A detector starts from significant tokens only. -/
theorem run_eq_significant {detector : Detector} (listed : detector ∈ all) (view : View) :
    detector.run view = (Place.significant view.tokens).flatMap fun place =>
      if detector.triggers place.token then detector.sightings view place else [] := by
  rw [run, Place.significant]
  induction Place.list view.tokens with
  | nil => rfl
  | cons place rest inductionHypothesis =>
    rw [List.flatMap_cons, inductionHypothesis]
    cases isTrivia : place.token.isTrivia with
    | true => simp [isTrivia, triggers_of_isTrivia listed isTrivia]
    | false => simp [isTrivia]

end Detector

theorem forall₂_mem {α β : Type} {related : α → β → Prop} {items : List α} {twins : List β}
    (rel : List.Forall₂ related items twins) :
    List.Forall₂ (fun item twin => related item twin ∧ item ∈ items ∧ twin ∈ twins) items twins := by
  induction rel with
  | nil => exact .nil
  | cons holds _ inductionHypothesis =>
    refine .cons ⟨holds, List.mem_cons_self, List.mem_cons_self⟩ (inductionHypothesis.imp ?_)
    rintro item twin ⟨holds, member, twinMember⟩
    exact ⟨holds, List.mem_cons_of_mem _ member, List.mem_cons_of_mem _ twinMember⟩

/-- Two views whose significant places correspond, in files without adjacent parts of names. -/
structure View.Twins (view other : View) (exact : Prop) : Prop where
  sparse : Sparse view.tokens
  twinSparse : Sparse other.tokens
  places : List.Forall₂ (Place.Twins view other exact) (Place.significant view.tokens)
    (Place.significant other.tokens)

namespace View.Twins

theorem run (twins : View.Twins view other exact) {detector : Detector}
    (listed : detector ∈ Detector.all) :
    List.Forall₂ (Sighting.Agree view other exact) (detector.run view) (detector.run other) := by
  rw [Detector.run_eq_significant listed, Detector.run_eq_significant listed]
  refine List.rel_flatMap twins.places fun place twin corresponds => ?_
  rw [Detector.triggers_congr listed corresponds.token.kind]
  split
  · exact corresponds.sightings twins.sparse twins.twinSparse listed
  · exact .nil

/-- Corresponding views have corresponding usages, in the same order. -/
theorem sightings (twins : View.Twins view other exact) (wanted : List UsageType) :
    List.Forall₂ (Sighting.Agree view other exact) (view.sightings wanted)
      (other.sightings wanted) := by
  have selected : List.Forall₂ (fun detector twin => detector = twin ∧ detector ∈ Detector.all)
      (Detector.select wanted) (Detector.select wanted) := by
    rw [List.forall₂_same]
    exact fun detector selected => ⟨rfl, Detector.mem_all_of_mem_select selected⟩
  refine List.rel_flatMap selected ?_
  rintro detector _ ⟨rfl, listed⟩
  exact twins.run listed

end View.Twins

end ClassAtlas
