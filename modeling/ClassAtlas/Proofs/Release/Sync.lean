import ClassAtlas.Proofs.Entries
import ClassAtlas.Proofs.Release.Span
import ClassAtlas.Proofs.Text.Utf8

/-!
Bringing files up to date with the version of the release.

A run goes through the files that state the version until one cannot be read. In each file before that
one the stated versions take their new form and nothing else changes but the line ends, and no other
file changes. The new forms are stated versions themselves and hold nothing that is read in another way
than it is written, so a second run leaves everything as it is and ends in the same way.
-/

namespace ClassAtlas

theorem Utf8.read_encode (text : String) : Utf8.read (Utf8.encode text) = .ok text := by
  rw [Utf8.read, Utf8.firstBreak?_encode, Utf8.decode_encode]

namespace Text

theorem notMem_unifyLineEnds (chars : List Char) : '\r' ∉ unifyLineEnds chars := by
  fun_induction unifyLineEnds chars with
  | case1 => exact List.not_mem_nil
  | case2 rest inductionHypothesis => simpa using inductionHypothesis
  | case3 rest _ inductionHypothesis => simpa using inductionHypothesis
  | case4 char rest _ other inductionHypothesis =>
    rw [List.mem_cons, not_or]
    exact ⟨fun same => other same.symm, inductionHypothesis⟩

theorem unifyLineEnds_eq_self {chars : List Char} (plain : '\r' ∉ chars) :
    unifyLineEnds chars = chars := by
  fun_induction unifyLineEnds chars <;> simp_all

end Text

namespace Version

/-- The characters of a version are digits and dots. -/
theorem plain_of_mem {version : Version} {char : Char} (member : char ∈ version.text.toList) :
    (Text.isDecimalDigit char || char == '.') = true := by
  have valid := version.valid
  simp only [isVersionText, Bool.and_eq_true, List.all_eq_true] at valid
  rcases Text.separates_or_mem_pieces (· == '.') member with separator | ⟨piece, among, inside⟩
  · rw [separator, Bool.or_true]
  · rw [(valid.2 piece among).2 char inside, Bool.true_or]

theorem toList_text_ne_nil (version : Version) : version.text.toList ≠ [] := by
  intro empty
  have valid := version.valid
  rw [isVersionText, empty] at valid
  cases valid

end Version

namespace Release

open Text

/-- What a text that states the version becomes, by the path of its file. A package description states
the version once, at the start of a line. -/
inductive Restates (version : Version) (path : String) (text later : List Char) : Prop where
  | package (isPackage : path = "pyproject.toml")
      (replaces : ReplacesFirst (QuotedPart "version = " (· == '"'))
        ("version = \"" ++ version.text ++ "\"").toList true text later)
  | constant (isConstant : path = "src/php_reflector/config.py")
      (replaces : Replaces (QuotedPart "__version__ = " isQuote)
        ("__version__ = \"" ++ version.text ++ "\"").toList text later)
  | badge (isBadge : path = "README.md")
      (replaces : Replaces BadgePart ("release-v" ++ version.text ++ "-blue").toList text later)

section Texts

variable {version : Version} {path : String} {text later : List Char}

theorem isQuote_eq_false_of_mem {char : Char} (member : char ∈ version.text.toList) :
    isQuote char = false := by
  have plain := version.plain_of_mem member
  rw [Bool.eq_false_iff]
  intro quote
  simp only [isQuote, Bool.or_eq_true, beq_iff_eq] at quote
  rcases quote with rfl | rfl <;> revert plain <;> decide

theorem quotedPart_form (version : Version) {opening start : String} {quotes : Char → Bool}
    (starts : start.toList = opening.toList ++ ['"']) (isQuote : quotes '"' = true)
    (plain : ∀ char ∈ version.text.toList, quotes char = false) :
    QuotedPart opening quotes (start ++ version.text ++ "\"").toList := by
  refine ⟨'"', isQuote, version.text.toList, ['"'], version.toList_text_ne_nil, ?_, ⟨'"', isQuote, rfl⟩, ?_⟩
  · intro char member
    simp [plain char member]
  · rw [String.toList_append, String.toList_append, starts, List.append_assoc]
    rfl

theorem quotedPart_package (version : Version) :
    QuotedPart "version = " (· == '"') ("version = \"" ++ version.text ++ "\"").toList := by
  refine quotedPart_form version (by decide) rfl fun char member => ?_
  have plain := isQuote_eq_false_of_mem member
  rw [isQuote, Bool.or_eq_false_iff] at plain
  exact plain.1

theorem quotedPart_constant (version : Version) :
    QuotedPart "__version__ = " isQuote ("__version__ = \"" ++ version.text ++ "\"").toList :=
  quotedPart_form version (by decide) rfl fun _ => isQuote_eq_false_of_mem

theorem badgePart_form (version : Version) :
    BadgePart ("release-v" ++ version.text ++ "-blue").toList := by
  refine ⟨version.text.toList, _, version.toList_text_ne_nil, fun char => version.plain_of_mem, rfl, ?_⟩
  rw [String.toList_append, String.toList_append, List.append_assoc]

/-- The form of a version is plain text: nothing in it is read in another way than it is written. -/
theorem notMem_form {start ending : String} (plainStart : '\r' ∉ start.toList)
    (plainEnding : '\r' ∉ ending.toList) : '\r' ∉ (start ++ version.text ++ ending).toList := by
  have plain : '\r' ∉ version.text.toList := by
    intro member
    exact absurd (version.plain_of_mem member) (by decide)
  simp only [String.toList_append, List.mem_append, not_or]
  exact ⟨⟨plainStart, plain⟩, plainEnding⟩

/-- A text that has been brought up to date stays as it is. -/
theorem Restates.again (restates : Restates version path text later) :
    Restates version path later later := by
  cases restates with
  | package isPackage replaces =>
    have form := quotedPart_package version
    exact .package isPackage (replaces.again form (screens_quoted (by decide) (by decide) form))
  | constant isConstant replaces =>
    have form := quotedPart_constant version
    exact .constant isConstant (replaces.again form (screens_quoted (by decide) (by decide) form))
  | badge isBadge replaces =>
    have form := badgePart_form version
    exact .badge isBadge (replaces.again form (screens_badge form))

theorem Restates.notMem (restates : Restates version path text later) (plain : '\r' ∉ text) :
    '\r' ∉ later := by
  intro member
  cases restates with
  | package _ replaces =>
    exact (replaces.mem member).elim plain (notMem_form (by decide) (by decide))
  | constant _ replaces =>
    exact (replaces.mem member).elim plain (notMem_form (by decide) (by decide))
  | badge _ replaces =>
    exact (replaces.mem member).elim plain (notMem_form (by decide) (by decide))

/-- The rule of a statement is what restates its text. -/
theorem restates_iff {statement : Statement} (member : statement ∈ statements) {text later : String} :
    Restates version statement.path text.toList later.toList ↔ statement.update version text = later := by
  rw [← String.toList_inj]
  simp only [statements, List.mem_cons, List.not_mem_nil, or_false] at member
  rcases member with rfl | rfl | rfl
  · simp only [replaceFirstLine, String.toList_ofList, ← replacesFirst_iff recognises_packageEntry]
    refine ⟨?_, .package rfl⟩
    rintro (⟨-, replaces⟩ | ⟨isConstant, -⟩ | ⟨isBadge, -⟩)
    · exact replaces
    · exact absurd isConstant (by decide)
    · exact absurd isBadge (by decide)
  · simp only [replaceAll, String.toList_ofList, ← replaces_iff recognises_constantDefinition]
    refine ⟨?_, .constant rfl⟩
    rintro (⟨isPackage, -⟩ | ⟨-, replaces⟩ | ⟨isBadge, -⟩)
    · exact absurd isPackage (by decide)
    · exact replaces
    · exact absurd isBadge (by decide)
  · simp only [replaceAll, String.toList_ofList, ← replaces_iff recognises_badge]
    refine ⟨?_, .badge rfl⟩
    rintro (⟨isPackage, -⟩ | ⟨isConstant, -⟩ | ⟨-, replaces⟩)
    · exact absurd isPackage (by decide)
    · exact absurd isConstant (by decide)
    · exact replaces

theorem restates_update {statement : Statement} (member : statement ∈ statements) (version : Version)
    (text : String) :
    Restates version statement.path text.toList (statement.update version text).toList :=
  (restates_iff member).mpr rfl

theorem readText_eq_ok_iff {bytes : Bytes} {text : String} :
    readText bytes = .ok text ↔ ∃ raw, Utf8.read bytes = .ok raw ∧ withLineFeeds raw = text := by
  rw [readText]
  cases Utf8.read bytes with
  | error fault => simp
  | ok raw => simp

/-- What has been written is read back, and the rule leaves it as it is. -/
theorem readText_update {statement : Statement} (member : statement ∈ statements) {bytes : Bytes}
    {text : String} (read : readText bytes = .ok text) :
    readText (Utf8.encode (statement.update version text)) = .ok (statement.update version text) ∧
      statement.update version (statement.update version text) = statement.update version text := by
  have restates := restates_update member version text
  refine ⟨readText_eq_ok_iff.mpr ⟨_, Utf8.read_encode _, ?_⟩, (restates_iff member).mp restates.again⟩
  have plain : '\r' ∉ (statement.update version text).toList := by
    refine restates.notMem ?_
    obtain ⟨raw, -, rfl⟩ := readText_eq_ok_iff.mp read
    rw [withLineFeeds, String.toList_ofList]
    exact notMem_unifyLineEnds raw.toList
  rw [withLineFeeds, unifyLineEnds_eq_self plain, String.ofList_toList]

end Texts

section Overwriting

variable (files : Files) (path : String) (bytes : Bytes)

@[simp] theorem map_fst_overwrite : (overwrite files path bytes).map Prod.fst = files.map Prod.fst := by
  simp [overwrite]

theorem lookup_overwrite (other : String) :
    (overwrite files path bytes).lookup other =
      (files.lookup other).map fun content => if other == path then bytes else content :=
  Entries.lookup_map files other fun known content => if known == path then bytes else content

@[simp] theorem overwrite_overwrite :
    overwrite (overwrite files path bytes) path bytes = overwrite files path bytes := by
  simp only [overwrite, List.map_map, List.map_inj_left]
  rintro ⟨known, before⟩ -
  by_cases isPath : known = path <;> simp [isPath]

/-- Files at different paths may be overwritten in either order. -/
theorem overwrite_comm {other : String} (different : other ≠ path) (content : Bytes) :
    overwrite (overwrite files other content) path bytes =
      overwrite (overwrite files path bytes) other content := by
  simp only [overwrite, List.map_map, List.map_inj_left]
  rintro ⟨known, before⟩ -
  by_cases isPath : known = path
  · subst isPath
    simp [different.symm]
  · simp [isPath]

variable {files path}

/-- Where a file is found depends on the paths of the files and on what stands at its own. -/
theorem bytesAt_congr {later : Files} (paths : later.map Prod.fst = files.map Prod.fst)
    (same : later.lookup path = files.lookup path) : bytesAt later path = bytesAt files path := by
  have known : ∀ accepts : String → Bool,
      (later.any fun entry => accepts entry.1) = files.any fun entry => accepts entry.1 := by
    intro accepts
    have mapped := congrArg (List.any · accepts) paths
    simpa [List.any_map, Function.comp_def] using mapped
  rw [bytesAt, bytesAt, same]
  simp only [known fun path' => startsWith path' (path ++ "/"),
    known fun path' => startsWith path (path' ++ "/")]

theorem lookup_overwrite_of_ne {other : String} (different : other ≠ path) :
    (overwrite files path bytes).lookup other = files.lookup other := by
  rw [lookup_overwrite]
  simp [different]

theorem lookup_of_bytesAt {found : Bytes} (isFound : bytesAt files path = .ok (some found)) :
    files.lookup path = some found := by
  rw [bytesAt] at isFound
  split at isFound
  case h_1 content stands =>
    rw [stands, Option.some.inj (Except.ok.inj isFound)]
  case h_2 =>
    repeat' split at isFound
    all_goals cases isFound

theorem bytesAt_overwrite {found : Bytes} (isFound : bytesAt files path = .ok (some found)) :
    bytesAt (overwrite files path bytes) path = .ok (some bytes) := by
  rw [bytesAt, lookup_overwrite, lookup_of_bytesAt isFound, Option.map_some, beq_self_eq_true]
  rfl

end Overwriting

/-- A statement whose file has been brought up to date, or is missing and may be. -/
inductive Restated (version : Version) (files last : Files) (statement : Statement) : Prop where
  | missing (isOptional : statement.isOptional = true)
      (absent : bytesAt files statement.path = .ok none)
  | restated {bytes : Bytes} {text later : String}
      (found : bytesAt files statement.path = .ok (some bytes)) (read : Utf8.read bytes = .ok text)
      (restates : Restates version statement.path (unifyLineEnds text.toList) later.toList)
      (written : bytesAt last statement.path = .ok (some (Utf8.encode later)))

/-- Why a run cannot bring a file up to date. -/
inductive Blocks (files : Files) (statement : Statement) : Fault → Prop where
  | unreachable {fault : Fault} (stopped : bytesAt files statement.path = .error fault) :
      Blocks files statement fault
  | missing (required : statement.isOptional = false)
      (absent : bytesAt files statement.path = .ok none) : Blocks files statement .fileMissing
  | unreadable {bytes : Bytes} {fault : Fault} (found : bytesAt files statement.path = .ok (some bytes))
      (broken : Utf8.read bytes = .error fault) : Blocks files statement fault

/-- Whether an outcome is a result exactly if nothing is left to do, and else the fault of the first
statement that is left. -/
def StopsBefore {α : Type} (files : Files) (left : List Statement) (outcome : Except Fault α) : Prop :=
  match left with
  | [] => ∃ result, outcome = .ok result
  | statement :: _ => ∃ fault, outcome = .error fault ∧ Blocks files statement fault

/-- What bringing files up to date does to all of them: the statements up to one that stops it are
restated, and every other file is left as it was. -/
structure Synchronises {α : Type} (version : Version) (wanted : List Statement) (files last : Files)
    (outcome : Except Fault α) : Prop where
  paths : last.map Prod.fst = files.map Prod.fst
  reaches : ∃ reached left, wanted = reached ++ left ∧
    (∀ statement ∈ reached, Restated version files last statement) ∧
    (∀ path, path ∉ reached.map Statement.path → last.lookup path = files.lookup path) ∧
    StopsBefore files left outcome

section Runs

variable {version : Version} {files : Files} {statement : Statement} {wanted : List Statement}

theorem updateFile_of_read {bytes : Bytes} {text : String}
    (found : bytesAt files statement.path = .ok (some bytes)) (read : readText bytes = .ok text) :
    updateFile version files statement =
      .ok (overwrite files statement.path (Utf8.encode (statement.update version text)),
        ["[OK] Updated " ++ statement.path ++ " to v" ++ version.text]) := by
  rw [updateFile, found]
  simp only [read, bind, Except.bind]
  rfl

theorem updateFile_of_missing (isOptional : statement.isOptional = true)
    (absent : bytesAt files statement.path = .ok none) :
    updateFile version files statement = .ok (files, []) := by
  rw [updateFile, absent, isOptional]
  rfl

/-- Bringing one file up to date leaves it missing, if it may be, or writes what the rule makes of the
text that is read, unless it stops with a fault. -/
theorem updateFile_cases (version : Version) (files : Files) (statement : Statement) :
    (statement.isOptional = true ∧ bytesAt files statement.path = .ok none) ∨
    (∃ bytes text, bytesAt files statement.path = .ok (some bytes) ∧ readText bytes = .ok text) ∨
    ∃ fault, updateFile version files statement = .error fault ∧ Blocks files statement fault := by
  cases found : bytesAt files statement.path with
  | error fault =>
    refine .inr (.inr ⟨fault, ?_, .unreachable found⟩)
    rw [updateFile, found]
    rfl
  | ok content =>
    cases content with
    | none =>
      cases optional : statement.isOptional with
      | true => exact .inl ⟨rfl, rfl⟩
      | false =>
        refine .inr (.inr ⟨.fileMissing, ?_, .missing optional found⟩)
        rw [updateFile, found, optional]
        rfl
    | some bytes =>
      cases decoded : Utf8.read bytes with
      | error fault =>
        refine .inr (.inr ⟨fault, ?_, .unreadable found decoded⟩)
        rw [updateFile, found]
        simp [readText, decoded, bind, Except.bind]
      | ok raw => exact .inr (.inl ⟨bytes, _, rfl, readText_eq_ok_iff.mpr ⟨raw, decoded, rfl⟩⟩)

theorem Blocks.of_bytesAt {later : Files} {fault : Fault}
    (same : bytesAt later statement.path = bytesAt files statement.path)
    (blocks : Blocks later statement fault) : Blocks files statement fault := by
  cases blocks with
  | unreachable stopped => exact .unreachable (same ▸ stopped)
  | missing required absent => exact .missing required (same ▸ absent)
  | unreadable found broken => exact .unreadable (same ▸ found) broken

theorem Restated.of_bytesAt {later last final : Files}
    (before : bytesAt later statement.path = bytesAt files statement.path)
    (after : bytesAt final statement.path = bytesAt last statement.path)
    (restated : Restated version later last statement) : Restated version files final statement := by
  cases restated with
  | missing isOptional absent => exact .missing isOptional (before ▸ absent)
  | restated found read restates written =>
    exact .restated (before ▸ found) read restates (after.trans written)

theorem Synchronises.map {α β : Type} {last : Files} {outcome : Except Fault α} (change : α → β)
    (synchronises : Synchronises version wanted files last outcome) :
    Synchronises version wanted files last (outcome.map change) := by
  obtain ⟨reached, left, whole, restated, frame, stops⟩ := synchronises.reaches
  refine ⟨synchronises.paths, reached, left, whole, restated, frame, ?_⟩
  cases left with
  | nil =>
    obtain ⟨result, rfl⟩ := stops
    exact ⟨change result, rfl⟩
  | cons next more =>
    obtain ⟨fault, rfl, blocks⟩ := stops
    exact ⟨fault, rfl, blocks⟩

/-- What is done to the file of one statement comes before what is done to the others. -/
theorem Synchronises.cons {α : Type} {later last : Files} {outcome : Except Fault α}
    (notIn : statement.path ∉ wanted.map Statement.path)
    (paths : later.map Prod.fst = files.map Prod.fst)
    (others : ∀ path, path ≠ statement.path → later.lookup path = files.lookup path)
    (restated : Restated version files later statement)
    (synchronises : Synchronises version wanted later last outcome) :
    Synchronises version (statement :: wanted) files last outcome := by
  obtain ⟨reached, left, rfl, reachedRestated, frame, stops⟩ := synchronises.reaches
  have same : ∀ other ∈ reached ++ left, bytesAt later other.path = bytesAt files other.path := by
    intro other member
    refine bytesAt_congr paths (others other.path fun samePath => notIn ?_)
    exact samePath ▸ List.mem_map_of_mem member
  have kept : bytesAt last statement.path = bytesAt later statement.path := by
    rw [List.map_append, List.mem_append, not_or] at notIn
    exact bytesAt_congr synchronises.paths (frame statement.path notIn.1)
  refine ⟨synchronises.paths.trans paths, statement :: reached, left, rfl, ?_, ?_, ?_⟩
  · refine List.forall_mem_cons.mpr ⟨restated.of_bytesAt rfl kept, fun other member => ?_⟩
    exact (reachedRestated other member).of_bytesAt (same other (List.mem_append_left left member)) rfl
  · intro path absent
    rw [List.map_cons, List.mem_cons, not_or] at absent
    exact (frame path absent.2).trans (others path absent.1)
  · cases left with
    | nil => exact stops
    | cons next more =>
      obtain ⟨fault, isFault, blocks⟩ := stops
      exact ⟨fault, isFault, blocks.of_bytesAt (same next (by simp))⟩

theorem updateFiles_of_updateFile {updated : Files} {printed : List String}
    (first : updateFile version files statement = .ok (updated, printed)) (rest : List Statement) :
    updateFiles version files (statement :: rest) =
      ((updateFiles version updated rest).1, (updateFiles version updated rest).2.map (printed ++ ·)) := by
  rw [updateFiles, first]

theorem updateFiles_synchronises (known : ∀ statement ∈ wanted, statement ∈ statements)
    (distinct : (wanted.map Statement.path).Nodup) (files : Files) :
    Synchronises version wanted files (updateFiles version files wanted).1
      (updateFiles version files wanted).2 := by
  induction wanted generalizing files with
  | nil => exact ⟨rfl, [], [], rfl, by simp, fun _ _ => rfl, [], rfl⟩
  | cons statement rest inductionHypothesis =>
    rw [List.forall_mem_cons] at known
    rw [List.map_cons, List.nodup_cons] at distinct
    have further := inductionHypothesis known.2 distinct.2
    rcases updateFile_cases version files statement with
      ⟨isOptional, absent⟩ | ⟨bytes, text, found, read⟩ | ⟨fault, stopped, blocks⟩
    · rw [updateFiles_of_updateFile (updateFile_of_missing isOptional absent)]
      exact .cons distinct.1 rfl (fun _ _ => rfl) (.missing isOptional absent) ((further files).map _)
    · rw [updateFiles_of_updateFile (updateFile_of_read found read)]
      refine .cons distinct.1 (map_fst_overwrite ..) (fun path => lookup_overwrite_of_ne _) ?_
        ((further _).map _)
      obtain ⟨raw, decoded, rfl⟩ := readText_eq_ok_iff.mp read
      refine .restated found decoded ?_ (bytesAt_overwrite _ found)
      have restates := restates_update known.1 version (withLineFeeds raw)
      rwa [withLineFeeds, String.toList_ofList] at restates
    · rw [updateFiles, stopped]
      exact ⟨rfl, [], statement :: rest, rfl, by simp, fun _ _ => rfl, fault, rfl, blocks⟩

/-- What has been written at a path stays while the files at other paths are brought up to date. -/
theorem overwrite_updateFiles {path : String} {bytes : Bytes}
    (notIn : path ∉ wanted.map Statement.path) (written : overwrite files path bytes = files) :
    overwrite (updateFiles version files wanted).1 path bytes = (updateFiles version files wanted).1 := by
  induction wanted generalizing files with
  | nil => exact written
  | cons statement rest inductionHypothesis =>
    rw [List.map_cons, List.mem_cons, not_or] at notIn
    rcases updateFile_cases version files statement with
      ⟨isOptional, absent⟩ | ⟨_, text, found, read⟩ | ⟨fault, stopped, -⟩
    · rw [updateFiles_of_updateFile (updateFile_of_missing isOptional absent)]
      exact inductionHypothesis notIn.2 written
    · rw [updateFiles_of_updateFile (updateFile_of_read found read)]
      refine inductionHypothesis notIn.2 ?_
      rw [overwrite_comm _ _ _ (Ne.symm notIn.1), written]
    · rw [updateFiles, stopped]
      exact written

/-- Bringing files up to date a second time changes nothing and ends in the same way. -/
theorem updateFiles_again (known : ∀ statement ∈ wanted, statement ∈ statements)
    (distinct : (wanted.map Statement.path).Nodup) (files : Files) :
    updateFiles version (updateFiles version files wanted).1 wanted =
      updateFiles version files wanted := by
  induction wanted generalizing files with
  | nil => rfl
  | cons statement rest inductionHypothesis =>
    have restKnown := (List.forall_mem_cons.mp known).2
    rw [List.map_cons, List.nodup_cons] at distinct
    -- The files at other paths are brought up to date without a change at this one.
    have kept : ∀ updated : Files, bytesAt (updateFiles version updated rest).1 statement.path =
        bytesAt updated statement.path := by
      intro updated
      have synchronises : Synchronises version rest updated (updateFiles version updated rest).1
          (updateFiles version updated rest).2 :=
        updateFiles_synchronises restKnown distinct.2 updated
      obtain ⟨reached, left, whole, -, frame, -⟩ := synchronises.reaches
      refine bytesAt_congr synchronises.paths (frame statement.path fun member => distinct.1 ?_)
      rw [whole, List.map_append]
      exact List.mem_append_left _ member
    rcases updateFile_cases version files statement with
      ⟨isOptional, absent⟩ | ⟨bytes, text, found, read⟩ | ⟨fault, stopped, blocks⟩
    · rw [updateFiles_of_updateFile (updateFile_of_missing isOptional absent)]
      have later : updateFile version _ statement = .ok (_, []) :=
        updateFile_of_missing isOptional ((kept files).trans absent)
      rw [updateFiles_of_updateFile later, inductionHypothesis restKnown distinct.2]
    · rw [updateFiles_of_updateFile (updateFile_of_read found read)]
      have again : readText (Utf8.encode (statement.update version text)) = _ ∧ _ :=
        readText_update (known statement List.mem_cons_self) read
      obtain ⟨readBack, settled⟩ := again
      have later : updateFile version _ statement = _ :=
        updateFile_of_read ((kept _).trans (bytesAt_overwrite _ found)) readBack
      rw [settled, overwrite_updateFiles distinct.1 (overwrite_overwrite ..)] at later
      rw [updateFiles_of_updateFile later, inductionHypothesis restKnown distinct.2]
    · have whole : updateFiles version files (statement :: rest) = (files, .error fault) := by
        rw [updateFiles, stopped]
      rw [whole]
      exact whole

theorem run_of_accepted (accepted : currentVersion files = .ok version) :
    run files = ((updateFiles version files statements).1,
      (updateFiles version files statements).2.map (announcement version)) := by
  rw [run, accepted]

end Runs

/-- The files of a release. The package description has carriage returns and states two versions, and the
version constant is defined twice, once with quotes of both kinds. -/
def staleRelease : Files := [
  ("VERSION", Utf8.encode "1.2.0\n"),
  ("pyproject.toml", Utf8.encode "[project]\r\nversion = \"0.9\"\r\nversion = \"0.8\"\r\n"),
  ("src/php_reflector/config.py", Utf8.encode "__version__ = '0.9'\n__version__ = \"0.8'\n"),
  ("README.md", Utf8.encode "release-v0.9-blue release-v0-blue\n")]

theorem currentVersion_staleRelease : currentVersion staleRelease = .ok ⟨"1.2.0", by decide⟩ := by
  have stands : bytesAt staleRelease versionFile = .ok (some (Utf8.encode "1.2.0\n")) := rfl
  have text : Version.fileText (Utf8.encode "1.2.0\n") = "1.2.0\n" := by
    rw [Version.fileText, Utf8.decode?_encode]
    decide
  have cleaned : Version.cleaned "1.2.0\n" = "1.2.0" := by decide
  have valid : isVersionText "1.2.0" = true := by decide
  rw [currentVersion, stands]
  simp only [bind, Except.bind, Version.read, text, cleaned, valid, dif_pos]

end Release

end ClassAtlas
