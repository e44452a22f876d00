import ClassAtlas.Proofs.Name.Full
import ClassAtlas.Proofs.Token.Place
import ClassAtlas.Usage.Detector

/-!
Every usage that is reported is written where the report says.

The span of a sighting lies in the file, holds the token whose line is reported, and holds a run of
name tokens that stands for the target, or is an import statement with a clause that names it.
Comments, strings and other tokens are never read as names.
-/

namespace ClassAtlas

namespace View

/-- Whether a run of name tokens between two positions stands for the target. -/
def NamesTargetBetween (view : View) (start stop : Nat) : Prop :=
  ∃ index run, start ≤ index ∧ index + run.length ≤ stop ∧ Token.StandsAt view.tokens index run ∧
    run ≠ [] ∧ (∀ token ∈ run, token.isNamePart = true) ∧
    view.resolvesToTarget (Token.joinedText run) = true

/-- Whether the tokens between two positions are an import statement that names the target in a
class clause. -/
def ImportsTargetBetween (view : View) (start stop : Nat) : Prop :=
  start < view.tokens.length ∧ view.context.useKind? start = some .fileImport ∧
    stop = (Import.statementAt view.tokens start).stop ∧
    ∃ clause ∈ (Import.statementAt view.tokens start).clauses,
      clause.kind = .classLike ∧ view.isTarget clause.name = true

variable {view : View} {start stop : Nat}

theorem NamesTargetBetween.widen (names : view.NamesTargetBetween start stop) {first last : Nat}
    (earlier : first ≤ start) (later : stop ≤ last) : view.NamesTargetBetween first last := by
  obtain ⟨index, run, begins, ends, found⟩ := names
  exact ⟨index, run, Nat.le_trans earlier begins, Nat.le_trans ends later, found⟩

/-- A type in which a token names the target names it within its length. -/
theorem namesTargetBetween_of_findIdx? {type : List Token} {index hit : Nat}
    (stands : Token.StandsAt view.tokens index type)
    (found : type.findIdx? view.namesTarget = some hit) :
    hit < type.length ∧ view.NamesTargetBetween index (index + type.length) := by
  obtain ⟨inside, named, -⟩ := List.findIdx?_eq_some_iff_getElem.mp found
  simp only [namesTarget, Bool.and_eq_true] at named
  refine ⟨inside, index + hit, [type[hit]], Nat.le_add_right _ _, ?_, ?_, by simp, ?_, ?_⟩
  · simp only [List.length_singleton]
    omega
  · apply (stands.drop (Nat.le_of_lt inside)).of_isPrefix
    rw [List.drop_eq_getElem_cons inside]
    exact List.cons_prefix_cons.mpr ⟨rfl, List.nil_prefix⟩
  · simpa using named.1
  · simpa using named.2

end View

/-- A sighting whose span lies in the file, holds the anchor, and names the target. -/
structure Sighting.Real (view : View) (sighting : Sighting) : Prop where
  start_le_anchor : sighting.start ≤ sighting.anchor
  anchor_lt_stop : sighting.anchor < sighting.stop
  stop_le_length : sighting.stop ≤ view.tokens.length
  named : view.NamesTargetBetween sighting.start sighting.stop ∨
    sighting.usageType = .fileImport ∧ view.ImportsTargetBetween sighting.start sighting.stop

namespace Place

variable {view : View} {place : Place} {sighting : Sighting}

theorem importSightings_real (member : place ∈ list view.tokens)
    (found : sighting ∈ importSightings view place) : sighting.Real view := by
  have inside := index_lt_length member
  simp only [importSightings] at found
  split at found
  case isFalse => cases found
  case isTrue use =>
    split at found
    case isFalse => cases found
    case isTrue named =>
      rw [List.mem_singleton] at found
      subst found
      obtain ⟨clause, listed, isClass⟩ := List.any_eq_true.mp named
      simp only [Bool.and_eq_true, beq_iff_eq] at isClass
      exact ⟨Nat.le_refl _, Import.index_lt_stop inside, Import.stop_le_length _ _,
        .inr ⟨rfl, inside, use, rfl, clause, listed, isClass⟩⟩

/-- A run of name tokens after a place that stands for the target names it up to what follows. -/
theorem namesTargetBetween_of_run (member : place ∈ list view.tokens) {run rest : List Token}
    (ahead : run ++ rest <:+ place.after) (nonempty : run ≠ [])
    (parts : ∀ token ∈ run, token.isNamePart = true)
    (resolves : view.resolvesToTarget (Token.joinedText run) = true) :
    view.NamesTargetBetween place.index (place.indexOf rest) := by
  refine ⟨place.indexOf (run ++ rest), run, Nat.le_of_lt (index_lt_indexOf _ _), ?_, ?_, nonempty,
    parts, resolves⟩
  · exact Nat.le_of_eq (indexOf_append ahead).symm
  · exact (standsAt_indexOf member ahead).of_isPrefix (List.prefix_append run rest)

theorem keywordSightings_real (member : place ∈ list view.tokens) {usageType : UsageType}
    (found : sighting ∈ keywordSightings usageType view place) : sighting.Real view := by
  have ahead := Token.skipTrivia_suffix place.after
  simp only [keywordSightings] at found
  split at found
  case isFalse => cases found
  case isTrue named =>
    rw [List.mem_singleton] at found
    subst found
    simp only [Bool.and_eq_true, Bool.not_eq_true', String.isEmpty_eq_false_iff] at named
    refine ⟨Nat.le_refl _, index_lt_indexOf _ _,
      indexOf_le_length member ((Token.afterName_suffix _).trans ahead), .inl ?_⟩
    refine namesTargetBetween_of_run member ?_ ?_ (List.all_eq_true.mp List.all_takeWhile) named.2
    · rw [Token.afterName, List.takeWhile_append_dropWhile]
      exact ahead
    · intro empty
      rw [Token.nameAhead, empty] at named
      exact named.1 rfl

theorem memberAhead_suffix (after : List Token) : (memberAhead after).2 <:+ after := by
  rw [memberAhead]
  split
  case h_1 => exact List.suffix_rfl
  case h_2 token rest ahead =>
    have further := (List.suffix_cons token rest).trans (Token.suffix_of_skipTrivia ahead)
    split
    · exact further
    · split
      · exact further
      · exact List.suffix_rfl

theorem staticSightings_real (member : place ∈ list view.tokens)
    (found : sighting ∈ staticSightings view place) : sighting.Real view := by
  simp only [staticSightings] at found
  split at found
  case isFalse => cases found
  case isTrue named =>
    rw [List.mem_singleton] at found
    subst found
    simp only [Bool.and_eq_true, Bool.not_eq_true', List.isEmpty_eq_false_iff] at named
    obtain ⟨near, skipped⟩ := Token.skipTrivia_suffix place.before
    obtain ⟨far, split⟩ : ∃ far, (Token.skipTrivia place.before).takeWhile Token.isNamePart ++ far =
        Token.skipTrivia place.before := List.takeWhile_prefix _
    have order : place.before =
        near ++ ((Token.skipTrivia place.before).takeWhile Token.isNamePart ++ far) := by
      rw [split, skipped]
    have length := congrArg List.length split
    have total := congrArg List.length skipped
    simp only [List.length_append] at length total
    refine ⟨?_, index_lt_indexOf _ _, indexOf_le_length member (memberAhead_suffix _), .inl ?_⟩
    · simp only [index]
      omega
    · have after := index_lt_indexOf place (memberAhead place.after).2
      refine ⟨far.length, _, ?_, ?_, standsAt_before member order, named.1, ?_, named.2⟩
      · simp only [List.length_reverse]
        omega
      · simp only [List.length_reverse, index] at after ⊢
        omega
      · intro token listed
        exact List.all_eq_true.mp List.all_takeWhile token (List.mem_reverse.mp listed)

/-- A list of names with one that stands for the target names it before its end. -/
theorem namesTargetBetween_of_namesUntil (member : place ∈ list view.tokens) {stops : Token → Bool}
    (named : (namesUntil stops place.after).1.any view.resolvesToTarget = true) :
    view.NamesTargetBetween place.index (place.indexOf (namesUntil stops place.after).2) := by
  obtain ⟨name, listed, resolves⟩ := List.any_eq_true.mp named
  obtain ⟨front, run, back, equal, nonempty, parts, rfl⟩ := exists_run_of_mem_namesUntil listed
  have ahead : run ++ (back ++ (namesUntil stops place.after).2) <:+ place.after :=
    ⟨front, by rw [← List.append_assoc, ← List.append_assoc, ← equal]⟩
  refine (namesTargetBetween_of_run member ahead nonempty parts resolves).widen (Nat.le_refl _) ?_
  exact indexOf_le_indexOf ((List.suffix_append run _).trans ahead) (List.suffix_append back _)

theorem implementsSightings_real (member : place ∈ list view.tokens)
    (found : sighting ∈ implementsSightings view place) : sighting.Real view := by
  simp only [implementsSightings] at found
  split at found
  case isFalse => cases found
  case isTrue named =>
    rw [List.mem_singleton] at found
    subst found
    exact ⟨Nat.le_refl _, index_lt_indexOf _ _, indexOf_le_length member (namesUntil_suffix _ _),
      .inl (namesTargetBetween_of_namesUntil member named)⟩

theorem mixinSightings_real (member : place ∈ list view.tokens)
    (found : sighting ∈ mixinSightings view place) : sighting.Real view := by
  simp only [mixinSightings] at found
  split at found
  case isFalse => cases found
  case isTrue =>
    split at found
    case isFalse => cases found
    case isTrue named =>
      rw [List.mem_singleton] at found
      subst found
      have ahead := namesUntil_suffix
        (fun token => token.isMark .semicolon || token.isMark .openBrace) place.after
      have ends := List.tail_suffix (namesUntil
        (fun token => token.isMark .semicolon || token.isMark .openBrace) place.after).2
      exact ⟨Nat.le_refl _, index_lt_indexOf _ _, indexOf_le_length member (ends.trans ahead),
        .inl ((namesTargetBetween_of_namesUntil member named).widen (Nat.le_refl _)
          (indexOf_le_indexOf ahead ends))⟩

/-- A variable after a type leaves fewer tokens. -/
theorem afterVariable?_suffix {tokens rest : List Token} (found : afterVariable? tokens = some rest) :
    rest <:+ tokens ∧ rest.length < tokens.length := by
  simp only [afterVariable?] at found
  split at found
  case h_2 => cases found
  case h_1 variable' tail reached =>
    split at found
    case isFalse => cases found
    case isTrue =>
      cases found
      have ahead : variable' :: rest <:+ tokens :=
        reached ▸ (Token.passIf_suffix _ _).trans (Token.skipTrivia_suffix tokens)
      exact ⟨(List.suffix_cons _ _).trans ahead, Nat.lt_of_succ_le ahead.length_le⟩

/-- The parameters found in a part of the file that starts at a position are real. -/
theorem parametersFrom_real {index : Nat} {tokens : List Token}
    (stands : Token.StandsAt view.tokens index tokens)
    (found : sighting ∈ parametersFrom view index tokens) : sighting.Real view := by
  fun_induction parametersFrom view index tokens with
  | case1 => cases found
  | case2 index token rest starts type size others parameter inductionHypothesis =>
    have typePrefix : type <+: token :: rest := Token.typeAhead_isPrefix _
    rcases List.mem_append.mp found with here | later
    · simp only [parameter, Option.mem_toList, Option.bind_eq_bind, Option.bind_eq_some_iff,
        Option.some.injEq] at here
      obtain ⟨after, reached, hit, named, rfl⟩ := here
      obtain ⟨left, fewer⟩ := afterVariable?_suffix reached
      obtain ⟨inside, names⟩ :=
        View.namesTargetBetween_of_findIdx? (stands.of_isPrefix typePrefix) named
      have bound := stands.length_le
      rw [List.length_drop] at fewer
      refine ⟨Nat.le_add_right _ _, ?_, ?_, .inl (names.widen (Nat.le_refl _) ?_)⟩
      · simp only
        omega
      · simp only
        omega
      · simp only
        omega
    · have inside : size ≤ (token :: rest).length := by
        have bound := typePrefix.length_le
        simp only [size, List.length_cons] at bound ⊢
        omega
      exact inductionHypothesis (stands.drop inside) later
  | case3 index token rest _ inductionHypothesis =>
    have tail : Token.StandsAt view.tokens (index + 1) rest := by
      have inside : 1 ≤ (token :: rest).length := by simp
      exact stands.drop inside
    exact inductionHypothesis tail found

theorem parameterSightings_real (member : place ∈ list view.tokens)
    (found : sighting ∈ parameterSightings view place) : sighting.Real view := by
  rw [parameterSightings] at found
  split at found
  case h_1 => cases found
  case h_2 tokens opens =>
    have stands := standsAt_indexOf member (Token.afterParameterParen?_suffix opens)
    refine parametersFrom_real ?_ found
    split
    case h_1 inside after closes => exact stands.of_isPrefix (Token.closeParen?_parts closes).1
    case h_2 => exact stands

theorem propertySightings_real (member : place ∈ list view.tokens)
    (found : sighting ∈ propertySightings view place) : sighting.Real view := by
  have ahead := skipPropertyWords_suffix place.after
  have stands := standsAt_indexOf member ahead
  have typePrefix := Token.typeAhead_isPrefix (skipPropertyWords place.after)
  simp only [propertySightings] at found
  split at found
  · cases found
  split at found
  · cases found
  case h_2 token rest words =>
    split at found
    case isFalse => cases found
    case isTrue =>
      split at found
      · cases found
      case h_2 next after reached =>
        split at found
        case isFalse => cases found
        case isTrue =>
          split at found
          · cases found
          case h_2 hit named =>
            rw [List.mem_singleton] at found
            subst found
            obtain ⟨inside, names⟩ :=
              View.namesTargetBetween_of_findIdx? (stands.of_isPrefix typePrefix) named
            have typed := indexOf_drop ahead typePrefix.length_le
            have left := Token.suffix_of_skipTrivia reached
            have untyped := (List.drop_suffix
              (Token.typeAhead (skipPropertyWords place.after)).length _).trans ahead
            have ends := indexOf_lt_indexOf untyped left
            have starts := index_lt_indexOf place (skipPropertyWords place.after)
            refine ⟨?_, ?_, ?_, .inl (names.widen (Nat.le_of_lt starts) ?_)⟩
            · simp only
              omega
            · simp only
              omega
            · exact indexOf_le_length member
                ((List.suffix_cons next after).trans (left.trans untyped))
            · simp only
              omega

theorem returnTypeSightings_real (member : place ∈ list view.tokens)
    (found : sighting ∈ returnTypeSightings view place) : sighting.Real view := by
  simp only [returnTypeSightings, Option.mem_toList, Option.bind_eq_bind,
    Option.bind_eq_some_iff] at found
  obtain ⟨tokens, opens, ⟨inside, after⟩, closes, ahead, bound, found⟩ := found
  have placed : ahead <:+ place.after :=
    (afterBinding?_suffix bound).trans ((Token.skipTrivia_suffix after).trans
      ((Token.closeParen?_parts closes).2.trans (Token.afterParameterParen?_suffix opens)))
  split at found
  case h_2 => cases found
  case h_1 colon rest =>
    split at found
    case isFalse => cases found
    case isTrue =>
      simp only [Option.bind_eq_some_iff] at found
      obtain ⟨first, -, found⟩ := found
      split at found
      case isFalse => cases found
      case isTrue =>
        obtain ⟨hit, named, found⟩ := Option.bind_eq_some_iff.mp found
        cases found
        have typed : Token.skipTrivia rest <:+ colon :: rest :=
          (Token.skipTrivia_suffix rest).trans (List.suffix_cons colon rest)
        have stands := (standsAt_indexOf member (typed.trans placed)).of_isPrefix
          (Token.typeAhead_isPrefix (Token.skipTrivia rest))
        obtain ⟨inside, names⟩ := View.namesTargetBetween_of_findIdx? stands named
        have starts := indexOf_le_indexOf placed typed
        refine ⟨?_, ?_, stands.length_le, .inl (names.widen starts (Nat.le_refl _))⟩
        · simp only
          omega
        · simp only
          omega

theorem typeHintSightings_real (member : place ∈ list view.tokens)
    (found : sighting ∈ typeHintSightings view place) : sighting.Real view := by
  rw [typeHintSightings] at found
  split at found
  · exact parameterSightings_real member found
  · exact propertySightings_real member found

end Place

namespace View

variable {view : View} {sighting : Sighting}

theorem run_real {detector : Detector} (listed : detector ∈ Detector.all)
    (found : sighting ∈ detector.run view) : sighting.Real view := by
  obtain ⟨place, member, found⟩ := List.mem_flatMap.mp found
  split at found
  case isFalse => cases found
  case isTrue =>
    simp only [Detector.all, List.mem_cons, List.not_mem_nil, or_false] at listed
    rcases listed with rfl | rfl | rfl | rfl | rfl | rfl | rfl | rfl
    · exact Place.importSightings_real member found
    · exact Place.keywordSightings_real member found
    · exact Place.staticSightings_real member found
    · exact Place.keywordSightings_real member found
    · exact Place.implementsSightings_real member found
    · exact Place.mixinSightings_real member found
    · exact Place.typeHintSightings_real member found
    · exact Place.returnTypeSightings_real member found

/-- Every sighting is real. -/
theorem sightings_real {wanted : List UsageType} (found : sighting ∈ view.sightings wanted) :
    sighting.Real view := by
  obtain ⟨detector, selected, found⟩ := List.mem_flatMap.mp found
  exact run_real (Detector.mem_all_of_mem_select selected) found

end View

namespace Token

/-- Whether a run of name tokens between two positions of a file stands for a full name. -/
def ResolvesBetween (tokens : List Token) (start stop : Nat) (fullName : String) : Prop :=
  ∃ index run, start ≤ index ∧ index + run.length ≤ stop ∧ StandsAt tokens index run ∧
    run ≠ [] ∧ (∀ token ∈ run, token.isNamePart = true) ∧
    (Context.ofTokens tokens).resolve (joinedText run) = fullName

/-- Whether the tokens between two positions of a file are an import statement, the same when the file
ends with it, with a class clause of a full name. -/
def ImportsBetween (tokens : List Token) (start stop : Nat) (fullName : String) : Prop :=
  (Context.ofTokens tokens).useKind? start = some .fileImport ∧
    stop = (Import.statementAt tokens start).stop ∧
    (Import.statementAt (tokens.take stop) start).clauses =
      (Import.statementAt tokens start).clauses ∧
    ∃ clause ∈ (Import.statementAt tokens start).clauses,
      clause.kind = .classLike ∧ clause.name = fullName

variable {tokens : List Token} {target : String} {start stop : Nat}

theorem resolvesBetween_of_namesTargetBetween
    (names : (View.ofTokens tokens target).NamesTargetBetween start stop) :
    ResolvesBetween tokens start stop (Name.normalized target) := by
  obtain ⟨index, run, begins, ends, stands, nonempty, parts, resolves⟩ := names
  refine ⟨index, run, begins, ends, stands, nonempty, parts, ?_⟩
  have same : Name.unrooted ((Context.ofTokens tokens).resolve (joinedText run)) =
      Name.normalized target := beq_iff_eq.mp resolves
  rwa [(Context.isFull_resolve_ofTokens tokens _).unrooted_eq] at same

theorem importsBetween_of_importsTargetBetween
    (names : (View.ofTokens tokens target).ImportsTargetBetween start stop) :
    ImportsBetween tokens start stop (Name.normalized target) := by
  obtain ⟨inside, use, rfl, clause, listed, isClass, isTarget⟩ := names
  refine ⟨use, rfl, Import.statementAt_take inside, clause, listed, isClass, ?_⟩
  have same := beq_iff_eq.mp isTarget
  rwa [(Import.statementAt_spelled tokens start clause listed).2.1.unrooted_eq] at same

/-- The short form of a class that a name stands for is written in a name of the file. -/
theorem ResolvesBetween.writtenIn
    (resolves : ResolvesBetween tokens start stop (Name.normalized target)) :
    Name.WrittenIn tokens (Name.short target).toList := by
  obtain ⟨index, run, -, -, stands, -, parts, same⟩ := resolves
  rw [Name.toList_short, ← same]
  refine Name.lastSegment_resolve (Aliases.AllFull.ofUses (fun index clause member => ?_) _) _ ?_
  · exact (Import.statementAt_spelled tokens index clause member).1
  · intro part inside
    exact ⟨run, stands.isInfix, parts, inside⟩

theorem ImportsBetween.writtenIn
    (imports : ImportsBetween tokens start stop (Name.normalized target)) :
    Name.WrittenIn tokens (Name.short target).toList := by
  obtain ⟨-, -, -, clause, listed, -, same⟩ := imports
  rw [Name.toList_short, ← same]
  exact (Import.statementAt_spelled tokens start clause listed).1

end Token

/-- The record of a real sighting shows its span and a line inside it. -/
theorem Sighting.Real.record_line {view : View} {sighting : Sighting} (real : sighting.Real view) :
    ∃ token, view.tokens[sighting.anchor]? = some token ∧
      (sighting.record view.tokens).line = .int token.line := by
  have inside := Nat.lt_of_lt_of_le real.anchor_lt_stop real.stop_le_length
  refine ⟨view.tokens[sighting.anchor], List.getElem?_eq_getElem inside, ?_⟩
  simp [Sighting.record, UsageRecord.found, List.getElem?_eq_getElem inside]

/-- Every record shows the source text of a span and the line of a token in it, and the span holds a
name that stands for the target or imports it. A target that no name of the file spells has no
records. -/
theorem findUsages_real (tokens : List Token) (target : String) (wanted : List UsageType) :
    (∀ record ∈ findUsages tokens target wanted, ∃ start stop,
      record.code = .str (Token.codeBetween tokens start stop) ∧
      (∃ index token, start ≤ index ∧ index < stop ∧ tokens[index]? = some token ∧
        record.line = .int token.line) ∧
      (Token.ResolvesBetween tokens start stop (Name.normalized target) ∨
        record.usageType = .fileImport ∧
          Token.ImportsBetween tokens start stop (Name.normalized target))) ∧
    (¬ Name.WrittenIn tokens (Name.short target).toList → findUsages tokens target wanted = []) := by
  have spans : ∀ record ∈ findUsages tokens target wanted, ∃ start stop,
      record.code = .str (Token.codeBetween tokens start stop) ∧
      (∃ index token, start ≤ index ∧ index < stop ∧ tokens[index]? = some token ∧
        record.line = .int token.line) ∧
      (Token.ResolvesBetween tokens start stop (Name.normalized target) ∨
        record.usageType = .fileImport ∧
          Token.ImportsBetween tokens start stop (Name.normalized target)) := by
    intro record listed
    obtain ⟨sighting, found, rfl⟩ := List.mem_map.mp listed
    have real := View.sightings_real found
    obtain ⟨token, stands, line⟩ := real.record_line
    refine ⟨sighting.start, sighting.stop, rfl, ⟨sighting.anchor, token, real.start_le_anchor,
      real.anchor_lt_stop, stands, line⟩, ?_⟩
    exact real.named.imp Token.resolvesBetween_of_namesTargetBetween
      (And.imp_right Token.importsBetween_of_importsTargetBetween)
  refine ⟨spans, fun unwritten => List.eq_nil_iff_forall_not_mem.mpr fun record listed => ?_⟩
  obtain ⟨start, stop, -, -, resolves | ⟨-, imports⟩⟩ := spans record listed
  · exact unwritten resolves.writtenIn
  · exact unwritten imports.writtenIn

/-- Only the name after `new` is found where a comment and a text hold the same name. -/
theorem findUsages_real_mentions :
    let comment : Token := ⟨.comment, "// A", 1⟩
    let text : Token := ⟨.other, "A", 2⟩
    (∃ start stop, Token.codeBetween
          [comment, text, ⟨.keyword .newWord, "new", 3⟩, ⟨.whitespace, " ", 3⟩, ⟨.name, "A", 3⟩]
          start stop = "new A" ∧
        Token.ResolvesBetween
          [comment, text, ⟨.keyword .newWord, "new", 3⟩, ⟨.whitespace, " ", 3⟩, ⟨.name, "A", 3⟩]
          start stop "A") ∧
      findUsages [comment, text] "A" [] = [] := by
  intro comment text
  constructor
  · obtain ⟨start, stop, code, -, named⟩ := (findUsages_real
      [comment, text, ⟨.keyword .newWord, "new", 3⟩, ⟨.whitespace, " ", 3⟩, ⟨.name, "A", 3⟩] "A" []).1
      (.found 3 .new "new A" none)
      (List.mem_map.mpr ⟨⟨.new, 2, 5, 2, none⟩, by decide +kernel, by cbv⟩)
    rcases named with resolves | ⟨isImport, -⟩
    · exact ⟨start, stop, (Json.str.inj code).symm, resolves⟩
    · cases isImport
  · refine (findUsages_real [comment, text] "A" []).2 ?_
    rintro ⟨run, inside, parts, held⟩
    have empty : run = [] := by
      rw [List.eq_nil_iff_forall_not_mem]
      intro token member
      have listed := inside.subset member
      simp only [List.mem_cons, List.not_mem_nil, or_false] at listed
      rcases listed with rfl | rfl <;> cases parts _ member
    rw [empty] at held
    exact absurd (List.infix_nil.mp held) (by decide)

end ClassAtlas
