import ClassAtlas.Proofs.Import.Reading

/-!
The last segment of a full name stands in the file that uses it.

Aliases, group stems, the namespace and leading separators only ever add segments in front of a name or
replace those in front. Whatever way a written name takes to its full name, the last segment of the
full name is one contiguous piece of the source text.
-/

namespace ClassAtlas

namespace Name

/-- The last segment of a name, as characters. -/
def lastSegment (name : String) : List Char := Text.lastPiece '\\' name.toList

theorem lastSegment_isInfix (name : String) : lastSegment name <:+: name.toList :=
  (Text.lastPiece_suffix _ _).isInfix

/-- Segments in front of a name do not reach its last segment. -/
theorem lastSegment_append (front back : String) :
    lastSegment (front ++ "\\" ++ back) = lastSegment back := by
  simp only [lastSegment, String.toList_append, List.append_assoc]
  exact Text.lastPiece_append_cons '\\' front.toList back.toList

theorem lastSegment_unrooted (name : String) : lastSegment (unrooted name) = lastSegment name := by
  rw [lastSegment, unrooted, Text.toList_dropStart]
  exact Text.lastPiece_dropWhile '\\' name.toList

theorem lastSegment_inside (space name : String) :
    lastSegment (inside space name) = lastSegment name := by
  rw [inside]
  split
  · rfl
  · exact lastSegment_append space name

/-- The short form of a class name is its last segment. -/
theorem toList_short (name : String) : (short name).toList = lastSegment (normalized name) :=
  Text.toList_afterLast (normalized name) '\\'

/-- Whether the last segment of a name stands in a text. -/
def EndsIn (text : List Char) (name : String) : Prop := lastSegment name <:+: text

/-- Whether characters stand inside one run of tokens of a file that are parts of names. -/
def WrittenIn (file : List Token) (chars : List Char) : Prop :=
  ∃ run, run <:+: file ∧ (∀ token ∈ run, token.isNamePart = true) ∧
    chars <:+: (Token.joinedText run).toList

theorem writtenIn_nil (file : List Token) : WrittenIn file [] :=
  ⟨[], List.nil_infix, by simp, List.nil_infix⟩

/-- What is written in a name stands in the text of the file. -/
theorem WrittenIn.isInfix {file : List Token} {chars : List Char} (written : WrittenIn file chars) :
    chars <:+: (Token.joinedText file).toList := by
  obtain ⟨run, inside, -, held⟩ := written
  exact held.trans (Token.joinedText_isInfix inside)

/-- Whether a name is full: it does not start with a separator. -/
def IsFull (name : String) : Prop := name.toList.head? ≠ some '\\'

theorem isFull_unrooted (name : String) : IsFull (unrooted name) := by
  have stops := List.head?_dropWhile_not isSeparator name.toList
  rw [IsFull, unrooted, Text.toList_dropStart]
  intro leading
  simp [leading, isSeparator] at stops

theorem IsFull.unrooted_eq {name : String} (full : IsFull name) : unrooted name = name := by
  rw [← String.toList_inj, unrooted, Text.toList_dropStart]
  cases chars : name.toList with
  | nil => rfl
  | cons first rest =>
    rw [IsFull, chars, List.head?_cons, ne_eq, Option.some.injEq] at full
    rw [List.dropWhile_cons_of_neg (by simpa [isSeparator] using full)]

/-- A full name with more after it is full. -/
theorem IsFull.append {name : String} (full : IsFull name) (notEmpty : name ≠ "") (more : String) :
    IsFull (name ++ more) := by
  rw [IsFull] at full ⊢
  rw [String.toList_append]
  cases chars : name.toList with
  | nil => exact absurd (String.toList_inj.mp chars) notEmpty
  | cons first rest => rwa [chars] at full

end Name

namespace Import

/-- What is known of an import statement while it is read from a file: all names end in a name of the
file, the stem of a group ends in a separator, and the clauses have full names. -/
structure Reading.Spelled (file : List Token) (reading : Reading) : Prop where
  stem : reading.stem = "" ∨ ∃ front, reading.stem = front ++ "\\"
  current : Name.WrittenIn file (Name.lastSegment reading.current)
  clauses : ∀ clause ∈ reading.clauses, Name.WrittenIn file (Name.lastSegment clause.name) ∧
    Name.IsFull clause.name ∧ clause.name ≠ ""

theorem Reading.start_spelled (file : List Token) (statement : ImportKind) :
    (Reading.start statement).Spelled file where
  stem := .inl rfl
  current := Name.writtenIn_nil file
  clauses := by simp [Reading.start]

theorem Reading.Spelled.finish {file : List Token} {reading : Reading}
    (spelled : reading.Spelled file) : reading.finish.Spelled file where
  stem := spelled.stem
  current := Name.writtenIn_nil file
  clauses := by
    intro clause member
    simp only [Reading.finish] at member
    split at member
    case isTrue => exact spelled.clauses clause member
    case isFalse named =>
      rcases List.mem_cons.mp member with rfl | earlier
      · refine ⟨?_, Name.isFull_unrooted reading.current, ?_⟩
        · rw [Name.lastSegment_unrooted]
          exact spelled.current
        · simp only [Bool.or_eq_true, String.isEmpty_iff, not_or] at named
          exact named.1
      · exact spelled.clauses clause earlier

theorem Reading.Spelled.openGroup {file : List Token} {reading : Reading}
    (spelled : reading.Spelled file) : reading.openGroup.Spelled file where
  stem := by
    right
    simp only [Reading.openGroup]
    split
    case isTrue ends =>
      obtain ⟨front, equal⟩ := (Text.endsWith_iff _ _).mp ends
      refine ⟨String.ofList front, ?_⟩
      rw [← String.toList_inj, ← equal]
      simp
    case isFalse => exact ⟨reading.current, rfl⟩
  current := Name.writtenIn_nil file
  clauses := spelled.clauses

/-- A name read from the file ends in it, in a group too. -/
theorem Reading.Spelled.read {file run : List Token} {reading : Reading}
    (spelled : reading.Spelled file) (inside : run <:+: file)
    (parts : ∀ token ∈ run, token.isNamePart = true) :
    Name.WrittenIn file (Name.lastSegment (reading.stem ++ Token.joinedText run)) := by
  have own : Name.WrittenIn file (Name.lastSegment (Token.joinedText run)) :=
    ⟨run, inside, parts, Name.lastSegment_isInfix _⟩
  rcases spelled.stem with stem | ⟨front, stem⟩
  · rwa [stem, String.empty_append]
  · rwa [stem, Name.lastSegment_append]

theorem Reading.spelled_kept (file : List Token) : Reading.Kept file (Reading.Spelled file) where
  finish _ spelled := spelled.finish
  name _ _ spelled inside parts := ⟨spelled.stem, spelled.read inside parts, spelled.clauses⟩
  localName _ _ spelled := ⟨spelled.stem, spelled.current, spelled.clauses⟩
  kind _ _ spelled := ⟨spelled.stem, spelled.current, spelled.clauses⟩
  openGroup _ spelled := spelled.openGroup
  closeGroup _ spelled := ⟨.inl rfl, spelled.current, spelled.clauses⟩

/-- Every name that an import statement of a file binds is full and ends in a name of the file. -/
theorem statementAt_spelled (file : List Token) (index : Nat) :
    ∀ clause ∈ (statementAt file index).clauses,
      Name.WrittenIn file (Name.lastSegment clause.name) ∧ Name.IsFull clause.name ∧
        clause.name ≠ "" := by
  obtain ⟨reading, spelled, clauses⟩ :=
    (Reading.spelled_kept file).statementAt (Reading.start_spelled file) index
  intro clause member
  rw [clauses, List.mem_reverse] at member
  exact spelled.clauses clause member

theorem statementAt_endsIn {file : List Token} (index : Nat) :
    ∀ clause ∈ (statementAt file index).clauses,
      Name.EndsIn (Token.joinedText file).toList clause.name :=
  fun clause member => (statementAt_spelled file index clause member).1.isInfix

end Import

namespace Aliases

/-- Binding a name adds no other entry than the one given. -/
theorem mem_bind {aliases : Aliases} {localName fullName : String} {entry : String × String}
    (member : entry ∈ aliases.bind localName fullName) :
    entry ∈ aliases ∨ entry = (localName, fullName) := by
  induction aliases with
  | nil => exact .inr (List.mem_singleton.mp member)
  | cons known rest inductionHypothesis =>
    simp only [bind] at member
    split at member
    case isTrue same =>
      rcases List.mem_cons.mp member with rfl | later
      · rw [beq_iff_eq.mp same]
        exact .inr rfl
      · exact .inl (List.mem_cons_of_mem known later)
    case isFalse =>
      rcases List.mem_cons.mp member with rfl | later
      · exact .inl List.mem_cons_self
      · exact (inductionHypothesis later).imp_left (List.mem_cons_of_mem known)

section Entries

variable {holds : String × String → Prop}

/-- What holds of the entries of clauses holds of all entries when the clauses are bound. -/
theorem forall_mem_bindClauses {aliases : Aliases} (known : ∀ entry ∈ aliases, holds entry)
    {clauses : List ImportClause} (bound : ∀ clause ∈ clauses, holds (clause.key, clause.name)) :
    ∀ entry ∈ aliases.bindClauses clauses, holds entry := by
  rw [Aliases.bindClauses]
  induction clauses generalizing aliases with
  | nil => exact known
  | cons clause rest inductionHypothesis =>
    rw [List.forall_mem_cons] at bound
    rw [List.foldl_cons]
    refine inductionHypothesis ?_ bound.2
    split
    · intro entry member
      rcases mem_bind member with earlier | rfl
      · exact known entry earlier
      · exact bound.1
    · exact known

/-- What holds of the entries of all import clauses of a file holds of its aliases. -/
theorem forall_mem_ofUses {tokens : List Token}
    (bound : ∀ index, ∀ clause ∈ (Import.statementAt tokens index).clauses,
      holds (clause.key, clause.name))
    (uses : List (Nat × UseKind)) : ∀ entry ∈ Aliases.ofUses tokens uses, holds entry := by
  have extend : ∀ aliases : Aliases, (∀ entry ∈ aliases, holds entry) →
      ∀ entry ∈ uses.foldl (fun aliases use =>
        if use.2 = .fileImport then
          aliases.bindClauses (Import.statementAt tokens use.1).clauses
        else aliases) aliases, holds entry := by
    induction uses with
    | nil => exact fun _ known => known
    | cons use rest inductionHypothesis =>
      intro aliases known
      rw [List.foldl_cons]
      apply inductionHypothesis
      split
      · exact forall_mem_bindClauses known (bound use.1)
      · exact known
  exact extend [] (by simp)

end Entries

/-- All full names that aliases stand for satisfy a predicate. -/
def AllFull (property : String → Prop) (aliases : Aliases) : Prop :=
  ∀ entry ∈ aliases, property entry.2

theorem AllFull.ofUses {property : String → Prop} {tokens : List Token}
    (named : ∀ index, ∀ clause ∈ (Import.statementAt tokens index).clauses, property clause.name)
    (uses : List (Nat × UseKind)) : (Aliases.ofUses tokens uses).AllFull property :=
  @forall_mem_ofUses (fun entry => property entry.2) tokens named uses

theorem AllFull.lookup {property : String → Prop} {aliases : Aliases}
    (holds : aliases.AllFull property) {name fullName : String}
    (found : List.lookup name aliases = some fullName) : property fullName := by
  obtain ⟨front, back, rfl, _⟩ := List.lookup_eq_some_iff.mp found
  exact holds (name, fullName) (List.mem_append_right front List.mem_cons_self)

end Aliases

namespace Name

/-- The last segment of the full name that a name stands for is a part of the name as written, or the
last segment of an import. -/
theorem lastSegment_resolve {held : List Char → Prop} {aliases : Aliases}
    (imports : aliases.AllFull fun fullName => held (lastSegment fullName)) (space : String)
    {name : String} (written : ∀ part, part <:+: name.toList → held part) :
    held (lastSegment (resolve aliases space name)) := by
  have own : held (lastSegment name) := written _ (lastSegment_isInfix name)
  have inNamespace : held (lastSegment (inside space name)) := by
    rw [lastSegment_inside]
    exact own
  rw [resolve]
  split
  · rw [lastSegment_unrooted]
    exact own
  split
  case h_1 fullName found => exact imports.lookup found
  case h_2 =>
    split
    case h_2 => exact inNamespace
    case h_1 head rest cut =>
      split
      case h_2 => exact inNamespace
      case h_1 fullName found =>
        have ending : rest.toList <:+ name.toList :=
          ⟨head.toList ++ ['\\'], by simp [Text.toList_of_cutFirst? cut]⟩
        rw [lastSegment_append]
        exact written _ ((lastSegment_isInfix rest).trans ending.isInfix)

/-- A written name resolves to one whose last segment stands in the text, if the name and the full
names of all imports do. -/
theorem resolve_endsIn {text : List Char} {aliases : Aliases} (imports : aliases.AllFull (EndsIn text))
    (space : String) {name : String} (written : name.toList <:+: text) :
    EndsIn text (resolve aliases space name) :=
  @lastSegment_resolve (· <:+: text) aliases imports space name fun _ part => part.trans written

end Name

end ClassAtlas
