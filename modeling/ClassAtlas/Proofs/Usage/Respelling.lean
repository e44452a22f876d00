import ClassAtlas.Proofs.Import.UseKind
import ClassAtlas.Proofs.Name.Full
import ClassAtlas.Proofs.Usage.Correspondence

/-!
A class reference counts only by what it resolves to.

A name outside of the import statements can be written in full, with a leading separator, without a
change to what is found: an alias, an aliased first segment, a name of the namespace and a full name
are interchangeable for every detector.
-/

namespace ClassAtlas

open Token

namespace Name

/-- Whether a character can stand in a name: a letter, a digit, an underscore, any character beyond
ASCII, or a separator. -/
def isNameChar (char : Char) : Bool :=
  char.isAlphanum || char == '_' || decide (0x80 ≤ char.toNat) || isSeparator char

/-- Whether a text is a name as it is written in source code, plain or qualified. -/
def IsWritten (text : String) : Prop := text ≠ "" ∧ ∀ char ∈ text.toList, isNameChar char = true

instance (text : String) : Decidable (IsWritten text) :=
  decidable_of_iff (text ≠ "" ∧ text.toList.all isNameChar = true) (by rw [IsWritten, List.all_eq_true])

/-- No sign is a name. -/
theorem IsWritten.ne_sign {text : String} (written : IsWritten text) {sign : String}
    (listed : sign ∈ signs) : (text == sign) = false := by
  rw [beq_eq_false_iff_ne]
  rintro rfl
  have chars := List.all_eq_true.mpr written.2
  simp only [signs, List.mem_cons, List.not_mem_nil, or_false] at listed
  rcases listed with rfl | rfl | rfl | rfl <;> revert chars <;> decide

/-- No sign starts with a separator. -/
theorem rooted_ne_sign (name : String) {sign : String} (listed : sign ∈ signs) :
    ("\\" ++ name == sign) = false := by
  rw [beq_eq_false_iff_ne]
  intro same
  have first := congrArg (·.toList.head?) same
  rw [String.toList_append] at first
  simp only [signs, List.mem_cons, List.not_mem_nil, or_false] at listed
  rcases listed with rfl | rfl | rfl | rfl <;> revert first <;> simp

end Name

section Pointwise

variable {same : Token → Token → Prop} {tokens twins : List Token}

/-- Lists whose tokens are related one by one are aligned. -/
theorem Token.Aligned.of_forall₂ (faithful : Faithful same) (related : List.Forall₂ same tokens twins) :
    Aligned same tokens twins := by
  induction related with
  | nil => exact .nil
  | @cons token twin _ _ holds _ inductionHypothesis =>
    cases isTrivia : token.isTrivia with
    | true =>
      exact .left isTrivia (.right ((faithful.isTrivia holds).symm.trans isTrivia) inductionHypothesis)
    | false => exact .both holds isTrivia inductionHypothesis

theorem Token.forall₂_set (refl : ∀ token, same token token) {index : Nat} {token twin : Token}
    (stands : tokens[index]? = some token) (related : same token twin) :
    List.Forall₂ same tokens (tokens.set index twin) := by
  induction tokens generalizing index with
  | nil => cases stands
  | cons first rest inductionHypothesis =>
    cases index with
    | zero =>
      rw [List.getElem?_cons_zero, Option.some.injEq] at stands
      subst stands
      exact .cons related (List.forall₂_same.mpr fun token _ => refl token)
    | succ index => exact .cons (refl first) (inductionHypothesis stands)

/-- Two places of files that are related token by token. -/
structure Place.Parallel (same : Token → Token → Prop) (place twin : Place) : Prop where
  token : same place.token twin.token
  before : List.Forall₂ same place.before twin.before
  after : List.Forall₂ same place.after twin.after

theorem Place.listFrom_parallel {before twinBefore : List Token}
    (related : List.Forall₂ same tokens twins) (relatedBefore : List.Forall₂ same before twinBefore) :
    List.Forall₂ (Parallel same) (listFrom before tokens) (listFrom twinBefore twins) := by
  induction related generalizing before twinBefore with
  | nil => exact .nil
  | cons holds rest inductionHypothesis =>
    exact .cons ⟨holds, relatedBefore, rest⟩ (inductionHypothesis (.cons holds relatedBefore))

theorem Place.Parallel.index_eq {place twin : Place} (parallel : Parallel same place twin) :
    place.index = twin.index :=
  parallel.before.length_eq

theorem Token.Sparse.of_forall₂ (faithful : Faithful same) (related : List.Forall₂ same tokens twins)
    (apart : Sparse tokens) : Sparse twins := by
  induction related with
  | nil => exact apart
  | cons holds rest inductionHypothesis =>
    refine List.isChain_cons.mpr ⟨?_, inductionHypothesis apart.tail⟩
    rintro next first ⟨isPart, nextPart⟩
    cases rest with
    | nil => cases first
    | cons holdsNext _ =>
      cases first
      rw [← faithful.isNamePart holds] at isPart
      rw [← faithful.isNamePart holdsNext] at nextPart
      exact (List.isChain_cons_cons.mp apart).1 ⟨isPart, nextPart⟩

/-- The significant places of parallel files are parallel. -/
theorem Place.significant_parallel (faithful : Faithful same)
    (related : List.Forall₂ same tokens twins) :
    List.Forall₂ (Parallel same) (significant tokens) (significant twins) := by
  refine List.rel_filter (fun place twin parallel => ?_) (listFrom_parallel related .nil)
  simp only [faithful.isTrivia parallel.token]

end Pointwise

section Respelling

variable {tokens : List Token} {index : Nat} {token : Token}

/-- A token whose text is written in full, with a leading separator. -/
def Token.inFull (context : Context) (token : Token) : Token :=
  { token with text := "\\" ++ context.resolve token.text }

/-- The view of a file with the context of another. -/
def View.within (context : Context) (tokens : List Token) (target : String) : View :=
  ⟨tokens, context, Name.normalized target⟩

/-- A name cannot be told apart from the name written in full. -/
theorem View.alike_inFull (target : String) (other : List Token)
    (written : Name.IsWritten token.text) :
    (View.ofTokens tokens target).Alike (.within (.ofTokens tokens) other target) False token
      (token.inFull (.ofTokens tokens)) where
  kind := rfl
  line := rfl
  sign sign listed := by
    rw [written.ne_sign listed, Token.inFull, Name.rooted_ne_sign _ listed]
  isEmpty := by
    have rooted : (token.inFull (.ofTokens tokens)).text ≠ "" := by simp [Token.inFull]
    rw [String.isEmpty_eq_false_iff.mpr written.1, String.isEmpty_eq_false_iff.mpr rooted]
  resolves _ := by
    have full := Context.isFull_resolve_ofTokens tokens token.text
    have same : (Context.ofTokens tokens).resolve (token.inFull (.ofTokens tokens)).text =
        (Context.ofTokens tokens).resolve token.text := Name.resolve_rooted _ _ full
    simp only [View.resolvesToTarget, View.ofTokens, View.within, View.isTarget, same]
  text := False.elim

/-- A name outside of the import statements that is written in full leaves the usages of a class: one
by one they keep their type and line. -/
theorem findUsages_of_respelled (apart : Sparse tokens)
    (names : ∀ token ∈ tokens, token.kind = .name → Name.IsWritten token.text)
    (stands : tokens[index]? = some token) (isName : token.kind = .name)
    (outside : ∀ start, (start, UseKind.fileImport) ∈ UseKind.list tokens →
      index < start ∨ (Import.statementAt tokens start).stop ≤ index)
    (target : String) (wanted : List UsageType) :
    let context := Context.ofTokens tokens
    let respelled := tokens.set index (token.inFull context)
    List.Forall₂ (fun record twin => record.usageType = twin.usageType ∧ record.line = twin.line)
      (findUsages tokens target wanted)
      (((View.within context respelled target).sightings wanted).map
        (Sighting.record respelled)) := by
  intro context respelled
  have changed : (View.ofTokens tokens target).Alike (.within context respelled target) False token
      (token.inFull context) :=
    View.alike_inFull target respelled (names token (List.mem_of_getElem? stands) isName)
  have kept : ∀ other, (View.ofTokens tokens target).Alike (.within context respelled target) False
      other other :=
    fun other => ⟨rfl, rfl, fun _ _ => rfl, rfl, fun _ => rfl, False.elim⟩
  have related := forall₂_set kept stands changed
  have faithful : Faithful ((View.ofTokens tokens target).Alike (.within context respelled target)
      False) := View.alike_faithful
  have imports : ∀ start < tokens.length, context.useKind? start = some .fileImport →
      Import.statementAt respelled start = Import.statementAt tokens start := by
    intro start inside use
    obtain ⟨front, back, uses, -⟩ := List.lookup_eq_some_iff.mp use
    have listed : (start, UseKind.fileImport) ∈ UseKind.list tokens := by
      change _ ∈ context.uses
      simp [uses]
    exact Import.statementAt_set inside (outside start listed) _
  have twins : View.Twins (View.ofTokens tokens target) (.within context respelled target) False := by
    refine ⟨apart, apart.of_forall₂ faithful related, ?_⟩
    refine (forall₂_mem (Place.significant_parallel faithful related)).imp ?_
    rintro place twin ⟨parallel, member, twinMember⟩
    have listed := Place.mem_list_of_mem_significant member
    refine ⟨listed, Place.mem_list_of_mem_significant twinMember, parallel.token,
      .of_forall₂ faithful parallel.before, .of_forall₂ faithful parallel.after, ?_, fun use => ?_⟩
    · rw [← parallel.index_eq]
      rfl
    · have same := imports place.index (Place.index_lt_length listed) use
      simp only [View.ofTokens, View.within, ← parallel.index_eq, same]
      rfl
  refine List.rel_map (fun sighting twin agree => ?_) (twins.sightings wanted)
  exact ⟨agree.usageType, agree.record_line⟩

end Respelling

/-- An alias after `new` can be written in full. -/
theorem findUsages_of_respelled_alias :
    let blank : Token := ⟨.whitespace, " ", 1⟩
    let named : Token := ⟨.name, "U", 1⟩
    let front : List Token := [⟨.keyword .useWord, "use", 1⟩, blank, ⟨.name, "App\\User", 1⟩, blank,
      ⟨.keyword .asWord, "as", 1⟩, blank, named, ⟨.mark .semicolon, ";", 1⟩,
      ⟨.keyword .newWord, "new", 1⟩, blank]
    let context := Context.ofTokens (front ++ [named])
    named.inFull context = ⟨.name, "\\App\\User", 1⟩ ∧
      (⟨.new, 8, 11, 8, none⟩ : Sighting) ∈
        (View.ofTokens (front ++ [named]) "App\\User").sightings [.new] ∧
      List.Forall₂ (fun record twin => record.usageType = twin.usageType ∧ record.line = twin.line)
        (findUsages (front ++ [named]) "App\\User" [.new])
        (((View.within context (front ++ [named.inFull context]) "App\\User").sightings [.new]).map
          (Sighting.record (front ++ [named.inFull context]))) := by
  intro blank named front context
  refine ⟨by decide +kernel, by decide +kernel, ?_⟩
  refine @findUsages_of_respelled (front ++ [named]) 10 named (by decide) (by decide +kernel) rfl rfl
    ?_ "App\\User" [.new]
  intro start listed
  have uses : UseKind.list (front ++ [named]) = [(0, .fileImport)] := by decide +kernel
  rw [uses] at listed
  cases List.mem_singleton.mp listed
  exact .inr (by decide +kernel)

end ClassAtlas
