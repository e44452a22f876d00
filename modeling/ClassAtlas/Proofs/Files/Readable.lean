import ClassAtlas.Proofs.Files.Subdirectory
import ClassAtlas.Proofs.Text.Utf8

/-!
A file tree without the files that cannot be read.

Directories stay, so a path to a directory or to a file that can be read leads there as before: the
place it leads to is itself a path to the file, with no more components. The source files of a directory
are those that can be read, in the same order.
-/

namespace ClassAtlas

namespace Path

variable {parts others : List String}

/-- Fewer components are not longer when they are written. -/
theorem length_encode_join_le (fewer : parts.Sublist others) :
    (Utf8.encode (Text.join "/" parts)).length ≤ (Utf8.encode (Text.join "/" others)).length := by
  have written (first : String) {rest : List String} (more : rest ≠ []) :
      (Utf8.encode (Text.join "/" (first :: rest))).length =
        (Utf8.encode first).length + 1 + (Utf8.encode (Text.join "/" rest)).length := by
    obtain ⟨second, others, rfl⟩ := List.exists_cons_of_ne_nil more
    rw [Text.join_cons_cons, Utf8.encode_append, Utf8.encode_append, List.length_append,
      List.length_append]
    rfl
  induction fewer with
  | slnil => exact le_rfl
  | @cons parts others extra fewer inductionHypothesis =>
    rcases eq_or_ne others [] with rfl | more
    · rw [List.sublist_nil.mp fewer]
      exact Nat.zero_le _
    · rw [written extra more]
      omega
  | @cons_cons parts others first fewer inductionHypothesis =>
    rcases eq_or_ne parts [] with rfl | some
    · rcases eq_or_ne others [] with rfl | more
      · exact le_rfl
      · rw [written first more]
        simp only [Text.join]
        omega
    · have more : others ≠ [] := fun none => some (List.sublist_nil.mp (none ▸ fewer))
      rw [written first some, written first more]
      omega

theorem byteLength_absolute_le (fewer : parts.Sublist others) :
    (absolute parts).byteLength ≤ (absolute others).byteLength := by
  have written (parts : List String) :
      (absolute parts).byteLength = 1 + (Utf8.encode (Text.join "/" parts)).length := by
    have rendered : (absolute parts).render = "/" ++ Text.join "/" parts := rfl
    rw [byteLength, rendered, Utf8.encode_append, List.length_append]
    rfl
  have shorter := length_encode_join_le fewer
  rw [written, written]
  omega

theorem hasNull_absolute_of_sublist (fewer : parts.Sublist others)
    (clean : (absolute others).hasNull = false) : (absolute parts).hasNull = false := by
  simp only [hasNull, absolute, List.any_eq_false] at clean ⊢
  exact fun part member => clean part (fewer.mem member)

end Path

namespace FileTree

variable {tree : FileTree} {directory parts path place : List String} {file : File}

theorem find_absolute (tree : FileTree) (path : List String) :
    tree.find (.absolute path) =
      if (Path.absolute path).hasNull then .missing
      else if (Path.absolute path).byteLength ≥ pathLimit then .nameTooLong
      else tree.follow [] path := rfl

/-- Whether a directory and those above it are passed on the way from the root. -/
def Reached (tree : FileTree) (directory : List String) : Prop :=
  ∀ above, above <+: directory → ∀ rest, tree.follow [] (above ++ rest) = tree.follow above rest

theorem reached_root (tree : FileTree) : tree.Reached [] := by
  intro above within rest
  rw [List.prefix_nil.mp within, List.nil_append]

theorem Reached.dropLast (reached : tree.Reached directory) : tree.Reached directory.dropLast :=
  fun above within => reached above (within.trans directory.dropLast_prefix)

theorem Reached.push {part : String} (reached : tree.Reached directory)
    (passed : tree.closed.contains directory = false) (named : part ≠ "..")
    (short : ¬ (Utf8.encode part).length > maxNameBytes)
    (exist : tree.hasDirectory (directory ++ [part]) = true) : tree.Reached (directory ++ [part]) := by
  intro above within rest
  rcases List.prefix_concat_iff.mp within with rfl | earlier
  · rw [List.append_assoc, reached directory (List.prefix_refl _), List.singleton_append, follow, passed,
      if_neg Bool.false_ne_true, if_neg (by simpa using named), if_neg short]
    exact if_pos exist
  · exact reached above earlier rest

/-- The place of a file that is found is a path to it, with no more components. -/
theorem follow_place (reached : tree.Reached directory)
    (found : tree.follow directory parts = .file place file) :
    place.Sublist (directory ++ parts) ∧ tree.follow [] place = .file place file := by
  induction parts generalizing directory with
  | nil => cases found
  | cons part rest inductionHypothesis =>
    obtain ⟨passed, step⟩ := step_of_follow found
    cases step with
    | up _ onward =>
      obtain ⟨fewer, leads⟩ := inductionHypothesis reached.dropLast onward
      refine ⟨fewer.trans ?_, leads⟩
      exact directory.dropLast_sublist.append (List.sublist_cons_self part rest)
    | down named short exist onward =>
      rw [List.append_cons]
      exact inductionHypothesis (reached.push passed named short exist) onward
    | last _ ends isPlace =>
      subst ends isPlace
      exact ⟨List.Sublist.refl _, (reached directory (List.prefix_refl _) _).trans found⟩

/-- Whether the source at an absolute path can be read. -/
def canRead (tree : FileTree) (path : List String) : Bool :=
  (tree.readSource (.absolute path)).toOption.isSome

theorem canRead_iff :
    tree.canRead path = true ↔ ∃ source, tree.readSource (.absolute path) = .ok source := by
  rw [canRead]
  cases tree.readSource (.absolute path) <;> simp [Except.toOption]

theorem canRead_eq_false_iff :
    tree.canRead path = false ↔ ∃ fault, tree.readSource (.absolute path) = .error fault := by
  rw [canRead]
  cases tree.readSource (.absolute path) <;> simp [Except.toOption]

/-- The file tree without the files that cannot be read. -/
def readableOnly (tree : FileTree) : FileTree :=
  { tree with files := tree.files.filter fun entry => tree.canRead entry.1 }

theorem file?_readableOnly (tree : FileTree) (place : List String) :
    tree.readableOnly.file? place = if tree.canRead place then tree.file? place else none :=
  Entries.lookup_filter tree.files place tree.canRead

/-- Whether what is found is missing without the files that cannot be read. -/
def Loses (tree : FileTree) : Found → Prop
  | .file place _ => tree.canRead place = false
  | .notDirectory => True
  | _ => False

/-- What is left leads where it did, unless it led to a file that cannot be read, or below a file. -/
theorem follow_readableOnly (tree : FileTree) (directory parts : List String) :
    tree.readableOnly.follow directory parts = tree.follow directory parts ∨
      tree.readableOnly.follow directory parts = .missing ∧ tree.Loses (tree.follow directory parts) := by
  have directories : ∀ path, tree.readableOnly.hasDirectory path = tree.hasDirectory path :=
    fun _ => rfl
  have closed : tree.readableOnly.closed = tree.closed := rfl
  induction parts generalizing directory with
  | nil => exact .inl rfl
  | cons part rest inductionHypothesis =>
    simp only [follow, directories, closed, file?_readableOnly]
    split
    · exact .inl rfl
    split
    · exact inductionHypothesis _
    split
    · exact .inl rfl
    split
    · exact inductionHypothesis _
    cases tree.file? (directory ++ [part]) with
    | none =>
      rw [ite_self]
      exact .inl rfl
    | some file =>
      cases kept : tree.canRead (directory ++ [part]) with
      | true => exact .inl rfl
      | false =>
        refine .inr ⟨rfl, ?_⟩
        dsimp only
        split
        · exact kept
        · trivial

theorem find_readableOnly (tree : FileTree) (path : Path) :
    tree.readableOnly.find path = tree.find path ∨
      tree.readableOnly.find path = .missing ∧ tree.Loses (tree.find path) := by
  have workingDirectory : tree.readableOnly.workingDirectory = tree.workingDirectory := rfl
  rw [find, find, workingDirectory]
  split
  · exact .inl rfl
  split
  · exact .inl rfl
  · exact tree.follow_readableOnly _ _

theorem find_readableOnly_eq {path : Path} (keeps : ¬ tree.Loses (tree.find path)) :
    tree.readableOnly.find path = tree.find path :=
  (tree.find_readableOnly path).resolve_right fun lost => keeps lost.2

theorem find_place (found : tree.find (.absolute path) = .file place file) :
    tree.find (.absolute place) = .file place file := by
  rw [find_absolute] at found ⊢
  split at found
  · cases found
  case isFalse clean =>
  split at found
  · cases found
  case isFalse short =>
    obtain ⟨fewer, leads⟩ := follow_place tree.reached_root found
    have placeClean := Path.hasNull_absolute_of_sublist fewer (Bool.not_eq_true _ ▸ clean)
    have placeShort : ¬ (Path.absolute place).byteLength ≥ pathLimit := fun long =>
      short (le_trans long (Path.byteLength_absolute_le fewer))
    rw [placeClean, if_neg Bool.false_ne_true, if_neg placeShort, leads]

/-- Sources that can be read are read as before. -/
theorem readSource_readableOnly {source : Source}
    (read : tree.readSource (.absolute path) = .ok source) :
    tree.readableOnly.readSource (.absolute path) = .ok source := by
  cases found : tree.find (.absolute path) with
  | file place file =>
    rw [readSource, found] at read
    have kept : tree.canRead place = true := by
      refine canRead_iff.mpr ⟨source, ?_⟩
      rw [readSource, find_place found]
      exact read
    have keeps : ¬ tree.Loses (tree.find (.absolute path)) := by
      rw [found]
      exact fun lost => Bool.false_ne_true (lost.symm.trans kept)
    rw [readSource, find_readableOnly_eq keeps, found]
    exact read
  | _ =>
    rw [readSource, found] at read
    cases read

theorem canRead_readableOnly (kept : tree.canRead path = true) :
    tree.readableOnly.canRead path = true := by
  obtain ⟨source, read⟩ := canRead_iff.mp kept
  exact canRead_iff.mpr ⟨source, readSource_readableOnly read⟩

theorem isFile_of_canRead (kept : tree.canRead path = true) :
    (tree.find (.absolute path)).isFile = true := by
  obtain ⟨source, read⟩ := canRead_iff.mp kept
  rw [readSource] at read
  split at read
  case h_1 found => rw [found]; rfl
  all_goals cases read

theorem lists_readableOnly (tree : FileTree) (entry : List String) :
    tree.readableOnly.lists entry = tree.lists entry := by
  rw [lists, lists]
  rcases tree.find_readableOnly (.absolute entry.dropLast) with same | ⟨missing, lost⟩
  · rw [same]
  · rw [missing]
    cases found : tree.find (.absolute entry.dropLast) with
    | directory place =>
      rw [found] at lost
      exact lost.elim
    | _ => rfl

end FileTree

namespace Project

variable {project : Project} {tree : FileTree}

theorem directory_readableOnly {path : String} {directory : List String}
    (located : project.directory tree path = .ok directory) :
    project.directory tree.readableOnly path = .ok directory := by
  rw [Project.directory] at located ⊢
  cases found : tree.find ((Path.absolute project.root).join (.parse path)) with
  | directory place =>
    simp only [FileTree.isDirectory, found] at located
    have keeps : ¬ tree.Loses (tree.find ((Path.absolute project.root).join (.parse path))) := by
      rw [found]
      exact id
    simp only [FileTree.isDirectory, FileTree.find_readableOnly_eq keeps, found]
    exact located
  | _ =>
    simp only [FileTree.isDirectory, found] at located
    cases located

theorem stopsAt_readableOnly (tree : FileTree) (directory : List String) (recursive : Bool)
    (entry : List String) :
    stopsAt tree.readableOnly directory recursive entry = stopsAt tree directory recursive entry := by
  have directories : tree.readableOnly.hasDirectory entry = tree.hasDirectory entry := rfl
  rw [stopsAt, stopsAt, tree.lists_readableOnly, directories]
  rcases tree.find_readableOnly (.absolute entry) with same | ⟨missing, lost⟩
  · rw [same]
  · rw [missing]
    cases found : tree.find (.absolute entry) with
    | denied | nameTooLong =>
      rw [found] at lost
      exact lost.elim
    | _ => rfl

theorem isStopped_readableOnly {directory : List String} {recursive : Bool}
    (passed : isStopped tree directory recursive = false) :
    isStopped tree.readableOnly directory recursive = false := by
  rw [isStopped, List.any_eq_false] at passed ⊢
  intro entry member
  rw [stopsAt_readableOnly]
  refine passed entry ?_
  rcases List.mem_append.mp member with isFile | isDirectory
  · exact List.mem_append_left _ ((List.filter_sublist.map _).mem isFile)
  · exact List.mem_append_right _ isDirectory

theorem counted_readableOnly (project : Project) (tree : FileTree) (directory : List String)
    (recursive excludeVendor : Bool) :
    project.counted tree.readableOnly directory recursive excludeVendor =
      (project.counted tree directory recursive excludeVendor).filter tree.canRead := by
  have left : tree.readableOnly.files.map (·.1) = (tree.files.map (·.1)).filter tree.canRead := by
    rw [List.filter_map]
    rfl
  rw [counted, counted, left, List.filter_filter, List.filter_filter]
  refine List.filter_congr fun place _ => ?_
  cases kept : tree.canRead place with
  | false => simp
  | true =>
    rw [FileTree.isFile_of_canRead kept,
      FileTree.isFile_of_canRead (FileTree.canRead_readableOnly kept)]
    simp

/-- The source files that are left are those that can be read. -/
theorem sourceFiles_readableOnly {path : String} {recursive excludeVendor : Bool}
    {found : List (List String)}
    (listed : project.sourceFiles tree path recursive excludeVendor = .ok found) :
    project.sourceFiles tree.readableOnly path recursive excludeVendor =
      .ok (found.filter tree.canRead) := by
  obtain ⟨directory, located, passed, rfl⟩ := exists_of_sourceFiles listed
  rw [sourceFiles_of_located (directory_readableOnly located) (isStopped_readableOnly passed),
    counted_readableOnly, Path.filter_mergeSort]

end Project

end ClassAtlas
