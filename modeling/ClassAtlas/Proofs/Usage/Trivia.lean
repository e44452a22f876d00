import ClassAtlas.Proofs.Import.UseKind
import ClassAtlas.Proofs.Usage.Correspondence

/-!
Blanks and comments do not change what is found.

Trivia can be inserted anywhere into a file whose parts of names stand apart. If the `use` keywords
keep their meanings, the namespace and the imports of the file stay the same, and the detectors find
the same usages, with the same types, lines and methods.
-/

namespace ClassAtlas

open Token

namespace Token

/-- A token list with trivia inserted into another. -/
inductive Inserted : List Token → List Token → Prop where
  | nil : Inserted [] []
  | keep (token : Token) {tokens longer : List Token} (inserted : Inserted tokens longer) :
      Inserted (token :: tokens) (token :: longer)
  | insert {trivia : Token} (isTrivia : trivia.isTrivia = true) {tokens longer : List Token}
      (inserted : Inserted tokens longer) : Inserted tokens (trivia :: longer)

namespace Inserted

variable {tokens longer : List Token}

theorem aligned (inserted : Inserted tokens longer) : Aligned (· = ·) tokens longer := by
  induction inserted with
  | nil => exact .nil
  | keep token _ inductionHypothesis =>
    cases isTrivia : token.isTrivia with
    | true => exact .left isTrivia (.right isTrivia inductionHypothesis)
    | false => exact .both rfl isTrivia inductionHypothesis
  | insert isTrivia _ inductionHypothesis => exact .right isTrivia inductionHypothesis

/-- A part of a name at the front was there before. -/
theorem head?_eq (inserted : Inserted tokens longer) {next : Token}
    (first : longer.head? = some next) (isPart : next.isNamePart = true) :
    tokens.head? = some next := by
  cases inserted with
  | nil => cases first
  | keep token _ => exact first
  | insert isTrivia _ =>
    cases first
    rw [isNamePart_of_isTrivia isTrivia] at isPart
    cases isPart

/-- Trivia does not bring parts of names together. -/
theorem sparse (inserted : Inserted tokens longer) (apart : Sparse tokens) : Sparse longer := by
  induction inserted with
  | nil => exact apart
  | keep token inserted inductionHypothesis =>
    refine List.IsChain.cons (inductionHypothesis apart.tail) ?_
    rintro next first ⟨isPart, nextPart⟩
    exact (List.isChain_cons.mp apart).1 next (inserted.head?_eq first nextPart) ⟨isPart, nextPart⟩
  | insert isTrivia _ inductionHypothesis =>
    refine List.IsChain.cons (inductionHypothesis apart) ?_
    rintro next _ ⟨isPart, -⟩
    rw [isNamePart_of_isTrivia isTrivia] at isPart
    cases isPart

end Inserted

theorem eq_faithful : Faithful ((· = ·) : Token → Token → Prop) where
  kind same := congrArg Token.kind same
  sign same sign _ := by rw [same]

/-- Lists with the same significant tokens hold the same tokens of any significant sort. -/
theorem Aligned.filter_eq {tokens twins : List Token} (aligned : Aligned (· = ·) tokens twins)
    {keeps : Token → Bool} (noTrivia : ∀ token, token.isTrivia = true → keeps token = false) :
    tokens.filter keeps = twins.filter keeps := by
  induction aligned with
  | nil => rfl
  | left isTrivia _ inductionHypothesis =>
    rwa [List.filter_cons_of_neg (by simp [noTrivia _ isTrivia])]
  | right isTrivia _ inductionHypothesis =>
    rwa [List.filter_cons_of_neg (by simp [noTrivia _ isTrivia])]
  | both same _ _ inductionHypothesis =>
    subst same
    rw [List.filter_cons, List.filter_cons, inductionHypothesis]

theorem declaredNamespace_aligned {tokens twins : List Token}
    (aligned : Aligned (· = ·) tokens twins) :
    declaredNamespace tokens = declaredNamespace twins := by
  have met := aligned.dropWhile (fun token => !token.isKeyword .namespaceWord)
    (fun _ _ same => by rw [same]) fun _ isTrivia => by simp [isKeyword_of_isTrivia isTrivia]
  rw [declaredNamespace, declaredNamespace]
  generalize tokens.dropWhile (fun token => !token.isKeyword .namespaceWord) = ahead at met ⊢
  generalize twins.dropWhile (fun token => !token.isKeyword .namespaceWord) = twinAhead at met ⊢
  cases met with
  | nil => rfl
  | cons _ _ further =>
    have header := further.takeWhile
      (fun token => !(token.isMark .semicolon || token.isMark .openBrace))
      (fun _ _ same => by rw [same]) fun _ isTrivia => by simp [isMark_of_isTrivia isTrivia]
    simp only
    rw [header.filter_eq fun _ => isNamePart_of_isTrivia]

end Token

namespace Import

/-- Import statements of the same significant tokens read the same. -/
theorem readClauses_aligned {tokens twins : List Token} (aligned : Aligned (· = ·) tokens twins)
    (sparse : Sparse tokens) (twinSparse : Sparse twins) (reading : Reading) :
    (readClauses reading tokens).1 = (readClauses reading twins).1 := by
  -- The lengths of both lists go down: trivia is passed in one of them, and `as` in both together with
  -- the trivia after it.
  induction bound : tokens.length + twins.length using Nat.strong_induction_on
    generalizing reading tokens twins with
  | _ bound inductionHypothesis =>
    subst bound
    cases aligned with
    | nil => rfl
    | left isTrivia aligned =>
      rw [(Step.trivia isTrivia).readClauses_eq]
      exact inductionHypothesis _ (by simp) aligned sparse.tail twinSparse reading rfl
    | right isTrivia aligned =>
      rw [(Step.trivia isTrivia).readClauses_eq]
      exact inductionHypothesis _ (by simp) aligned sparse twinSparse.tail reading rfl
    | @both token _ rest others same significant aligned =>
      subst same
      have shorter :
          rest.length + others.length < (token :: rest).length + (token :: others).length := by
        simp only [List.length_cons]
        omega
      by_cases isPart : token.isNamePart = true
      · rw [(Step.name isPart).readClauses_eq, (Step.name isPart).readClauses_eq,
          sparse.nameAhead_eq isPart, sparse.afterName_eq isPart, twinSparse.nameAhead_eq isPart,
          twinSparse.afterName_eq isPart]
        exact inductionHypothesis _ shorter aligned sparse.tail twinSparse.tail _ rfl
      by_cases isAs : token.isKeyword .asWord = true
      · rw [readClauses_of_as reading rest isAs, readClauses_of_as reading others isAs]
        have met := aligned.skipTrivia eq_faithful
        have left := skipTrivia_suffix rest
        have twinLeft := skipTrivia_suffix others
        have bound := left.length_le
        have twinBound := twinLeft.length_le
        have apart := sparse.tail.of_isInfix left.isInfix
        have twinApart := twinSparse.tail.of_isInfix twinLeft.isInfix
        generalize skipTrivia rest = ahead at met bound apart ⊢
        generalize skipTrivia others = twinAhead at met twinBound twinApart ⊢
        cases met with
        | nil => rfl
        | @cons next _ after twinAfter same significant aligned =>
          subst same
          simp only [List.length_cons] at bound twinBound shorter
          simp only
          split
          · refine inductionHypothesis _ ?_ aligned apart.tail twinApart.tail _ rfl
            simp only [List.length_cons]
            omega
          · refine inductionHypothesis _ ?_ (.both rfl significant aligned) apart twinApart _ rfl
            simp only [List.length_cons]
            omega
      have isSign : isSign token = true := by simp [isSign, significant, isPart, isAs]
      cases taken : reading.take? token with
      | none => rw [(Ends.stop isSign taken).readClauses_eq, (Ends.stop isSign taken).readClauses_eq]
      | some next =>
        rw [(Step.sign isSign taken).readClauses_eq, (Step.sign isSign taken).readClauses_eq]
        exact inductionHypothesis _ shorter aligned sparse.tail twinSparse.tail next rfl

theorem read_aligned {tokens twins : List Token} (aligned : Aligned (· = ·) tokens twins)
    (sparse : Sparse tokens) (twinSparse : Sparse twins) : (read tokens).1 = (read twins).1 := by
  have met := aligned.skipTrivia eq_faithful
  have apart := sparse.of_isInfix (skipTrivia_suffix tokens).isInfix
  have twinApart := twinSparse.of_isInfix (skipTrivia_suffix twins).isInfix
  rw [read_eq, read_eq, bodyOf, bodyOf]
  generalize skipTrivia tokens = ahead at met apart ⊢
  generalize skipTrivia twins = twinAhead at met twinApart ⊢
  cases met with
  | nil => rfl
  | @cons token _ rest others same significant aligned =>
    subst same
    cases kind : ImportKind.ofToken? token with
    | some kind =>
      simp only [kind]
      rw [readClauses_aligned aligned apart.tail twinApart.tail]
    | none =>
      simp only [kind]
      rw [readClauses_aligned (.both rfl significant aligned) apart twinApart]

/-- The clauses of the statement at a place are read from the tokens after it. -/
theorem statementAt_clauses {tokens : List Token} {place : Place} (member : place ∈ Place.list tokens) :
    (statementAt tokens place.index).clauses = (read place.after).1 := by
  simp only [statementAt, Place.drop_index member]

end Import

namespace UseKind

/-- The meaning of a `use` keyword, with the clauses that an import statement there has. -/
def bindings (tokens : List Token) : List (UseKind × List ImportClause) :=
  (places tokens).map fun place => (ofPlace place, (Import.read place.after).1)

/-- The names that a file binds depend on what its `use` keywords mean and bind. -/
theorem aliases_eq (tokens : List Token) :
    Aliases.ofUses tokens (list tokens) =
      (bindings tokens).foldl
        (fun (aliases : Aliases) binding =>
          if binding.1 = .fileImport then aliases.bindClauses binding.2 else aliases) [] := by
  rw [Aliases.ofUses, list_eq, bindings, List.foldl_map, List.foldl_map]
  refine List.foldl_ext _ _ _ fun aliases place use => ?_
  rw [Import.statementAt_clauses (List.mem_filter.mp use).1]

theorem places_eq (tokens : List Token) :
    places tokens = (Place.significant tokens).filter (·.token.isKeyword .useWord) := by
  rw [places, Place.significant, List.filter_filter]
  refine List.filter_congr fun place _ => ?_
  cases isTrivia : place.token.isTrivia with
  | true => simp [isKeyword_of_isTrivia isTrivia]
  | false => simp

end UseKind

/-- Where related items that are kept have the same images in order, each pair has. -/
theorem forall₂_of_filter_map {α β γ : Type} {related : α → β → Prop} {items : List α}
    {twins : List β} (rel : List.Forall₂ related items twins) {keeps : α → Bool} {keepsTwin : β → Bool}
    (agree : ∀ item twin, related item twin → keeps item = keepsTwin twin) {image : α → γ}
    {twinImage : β → γ}
    (same : (items.filter keeps).map image = (twins.filter keepsTwin).map twinImage) :
    List.Forall₂
      (fun item twin => related item twin ∧ (keeps item = true → image item = twinImage twin))
      items twins := by
  induction rel with
  | nil => exact .nil
  | @cons item twin items twins holds _ inductionHypothesis =>
    cases kept : keeps item with
    | true =>
      have twinKept := (agree _ _ holds).symm.trans kept
      rw [List.filter_cons_of_pos kept, List.filter_cons_of_pos twinKept, List.map_cons, List.map_cons,
        List.cons.injEq] at same
      exact .cons ⟨holds, fun _ => same.1⟩ (inductionHypothesis same.2)
    | false =>
      have notTwinKept := (agree _ _ holds).symm.trans kept
      rw [List.filter_cons_of_neg (by simp [kept]), List.filter_cons_of_neg (by simp [notTwinKept])]
        at same
      exact .cons ⟨holds, fun isKept => by rw [kept] at isKept; cases isKept⟩
        (inductionHypothesis same)

theorem filter_map_eq_of_forall₂ {α β γ : Type} {related : α → β → Prop} {items : List α}
    {twins : List β} (rel : List.Forall₂ related items twins) {keeps : α → Bool} {keepsTwin : β → Bool}
    (agree : ∀ item twin, related item twin → keeps item = keepsTwin twin) {image : α → γ}
    {twinImage : β → γ}
    (same : ∀ item twin, related item twin → keeps item = true → image item = twinImage twin) :
    (items.filter keeps).map image = (twins.filter keepsTwin).map twinImage := by
  induction rel with
  | nil => rfl
  | @cons item twin items twins holds _ inductionHypothesis =>
    cases kept : keeps item with
    | true =>
      have twinKept := (agree _ _ holds).symm.trans kept
      rw [List.filter_cons_of_pos kept, List.filter_cons_of_pos twinKept, List.map_cons, List.map_cons,
        same _ _ holds kept, inductionHypothesis]
    | false =>
      have notTwinKept := (agree _ _ holds).symm.trans kept
      rw [List.filter_cons_of_neg (by simp [kept]), List.filter_cons_of_neg (by simp [notTwinKept]),
        inductionHypothesis]

/-- Two places of files with the same significant tokens at which `use` means the same. -/
structure Place.SameUse (tokens longer : List Token) (place twin : Place) : Prop where
  member : place ∈ list tokens
  twinMember : twin ∈ list longer
  matched : Matched (· = ·) place twin
  meaning : place.token.isKeyword .useWord = true → UseKind.ofPlace place = UseKind.ofPlace twin

section Insertion

variable {tokens longer : List Token}

theorem significant_sameUse (aligned : Aligned (· = ·) tokens longer)
    (meanings : (UseKind.list tokens).map (·.2) = (UseKind.list longer).map (·.2)) :
    List.Forall₂ (Place.SameUse tokens longer) (Place.significant tokens)
      (Place.significant longer) := by
  have matched := Place.significant_matched eq_faithful aligned
  rw [UseKind.list_eq, UseKind.list_eq, List.map_map, List.map_map, UseKind.places_eq,
    UseKind.places_eq] at meanings
  refine (forall₂_mem (forall₂_of_filter_map matched ?_ meanings)).imp ?_
  · intro place twin corresponds
    rw [corresponds.token]
  · rintro place twin ⟨⟨corresponds, meaning⟩, member, twinMember⟩
    exact ⟨Place.mem_list_of_mem_significant member, Place.mem_list_of_mem_significant twinMember,
      corresponds, meaning⟩

theorem Place.SameUse.read_eq {place twin : Place} (same : SameUse tokens longer place twin)
    (apart : Sparse tokens) (twinApart : Sparse longer) :
    (Import.read place.after).1 = (Import.read twin.after).1 :=
  Import.read_aligned same.matched.after (after_sparse apart same.member)
    (after_sparse twinApart same.twinMember)

theorem Place.SameUse.useKind?_eq {place twin : Place} (same : SameUse tokens longer place twin) :
    (Context.ofTokens tokens).useKind? place.index = (Context.ofTokens longer).useKind? twin.index := by
  rw [Context.useKind?_ofTokens same.member, Context.useKind?_ofTokens same.twinMember,
    ← same.matched.token]
  split
  case isTrue isUse => rw [same.meaning isUse]
  case isFalse => rfl

/-- Names mean the same in files with the same significant tokens. -/
theorem resolve_aligned (aligned : Aligned (· = ·) tokens longer) (apart : Sparse tokens)
    (twinApart : Sparse longer)
    (places : List.Forall₂ (Place.SameUse tokens longer) (Place.significant tokens)
      (Place.significant longer)) :
    (Context.ofTokens tokens).resolve = (Context.ofTokens longer).resolve := by
  have bound : UseKind.bindings tokens = UseKind.bindings longer := by
    rw [UseKind.bindings, UseKind.bindings, UseKind.places_eq, UseKind.places_eq]
    refine filter_map_eq_of_forall₂ places ?_ ?_
    · intro place twin same
      rw [same.matched.token]
    · intro place twin same isUse
      rw [same.meaning isUse, same.read_eq apart twinApart]
  funext name
  simp only [Context.resolve, Context.ofTokens, UseKind.aliases_eq, bound,
    declaredNamespace_aligned aligned]

/-- Trivia inserted into a file without adjacent parts of names, that leaves the `use` keywords their
meanings, leaves the usages of a class: one by one they keep their type, line and method. -/
theorem findUsages_of_inserted (apart : Sparse tokens) (inserted : Inserted tokens longer)
    (meanings : (UseKind.list tokens).map (·.2) = (UseKind.list longer).map (·.2))
    (target : String) (wanted : List UsageType) :
    List.Forall₂ (fun record twin => record.usageType = twin.usageType ∧ record.line = twin.line ∧
        record.method = twin.method)
      (findUsages tokens target wanted) (findUsages longer target wanted) := by
  have aligned := inserted.aligned
  have twinApart := inserted.sparse apart
  have places := significant_sameUse aligned meanings
  have resolves := resolve_aligned aligned apart twinApart places
  have alike : ∀ {token twin : Token}, token = twin →
      (View.ofTokens tokens target).Alike (View.ofTokens longer target) True token twin := by
    rintro token _ rfl
    refine ⟨rfl, rfl, fun _ _ => rfl, rfl, fun _ => ?_, fun _ => rfl⟩
    simp only [View.resolvesToTarget, View.ofTokens, View.isTarget, resolves]
  have twins : View.Twins (View.ofTokens tokens target) (View.ofTokens longer target) True := by
    refine ⟨apart, twinApart, places.imp fun place twin same => ?_⟩
    refine ⟨same.member, same.twinMember, alike same.matched.token, same.matched.before.mono alike,
      same.matched.after.mono alike, same.useKind?_eq, fun _ => ?_⟩
    simp only [View.ofTokens, Import.statementAt_clauses same.member,
      Import.statementAt_clauses same.twinMember, same.read_eq apart twinApart]
    rfl
  refine List.rel_map (fun sighting twin agree => ?_) (twins.sightings wanted)
  exact ⟨agree.usageType, agree.record_line, congrArg Json.ofText? (agree.method trivial)⟩

end Insertion

/-- A comment inside a qualified access to a static member leaves the access found. -/
theorem findUsages_of_inserted_comment :
    let name : Token := ⟨.name, "A", 1⟩
    let colons : Token := ⟨.mark .doubleColon, "::", 1⟩
    let comment : Token := ⟨.comment, "/* c */", 1⟩
    let member : Token := ⟨.name, "make", 2⟩
    Sighting.record [name, colons, member] ⟨.staticCall, 0, 3, 1, some "make"⟩ ∈
        findUsages [name, colons, member] "A" [.staticCall] ∧
      List.Forall₂ (fun record twin => record.usageType = twin.usageType ∧
          record.line = twin.line ∧ record.method = twin.method)
        (findUsages [name, colons, member] "A" [.staticCall])
        (findUsages [name, comment, colons, comment, member] "A" [.staticCall]) := by
  intro name colons comment member
  constructor
  · exact List.mem_map_of_mem (by decide +kernel)
  · refine findUsages_of_inserted (by decide) ?_ (by decide) "A" [.staticCall]
    exact .keep name (.insert rfl (.keep colons (.insert rfl (.keep member .nil))))

end ClassAtlas
