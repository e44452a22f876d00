import ClassAtlas.Files.Project
import ClassAtlas.Proofs.Text.Search

/-!
What is read from a file tree.

Reading a path gives the source of a file of the tree, so whatever holds of all files holds of all that
is read. A directory of a project that is searched holds no source files but those of the project.
-/

namespace ClassAtlas

namespace FileTree

variable {tree : FileTree}

/-- A step on the way from a directory to a file: up, down into a directory, or to the file. -/
inductive StepTo (tree : FileTree) (directory : List String) (part : String) (rest : List String)
    (place : List String) (file : File) : Prop where
  | up (double : part = "..") (onward : tree.follow directory.dropLast rest = .file place file)
  | down (named : part ≠ "..") (short : ¬ (Utf8.encode part).length > maxNameBytes)
    (exist : tree.hasDirectory (directory ++ [part]) = true)
    (onward : tree.follow (directory ++ [part]) rest = .file place file)
  | last (named : part ≠ "..") (ends : rest = []) (isPlace : place = directory ++ [part])
    (stored : tree.file? place = some file)

theorem step_of_follow {directory rest place : List String} {part : String} {file : File}
    (found : tree.follow directory (part :: rest) = .file place file) :
    tree.closed.contains directory = false ∧ tree.StepTo directory part rest place file := by
  rw [follow] at found
  dsimp only at found
  split at found
  · cases found
  case isFalse passed =>
  refine ⟨Bool.not_eq_true _ ▸ passed, ?_⟩
  split at found
  case isTrue up => exact .up (beq_iff_eq.mp up) found
  case isFalse notUp =>
  have named : part ≠ ".." := fun same => notUp (beq_iff_eq.mpr same)
  split at found
  · cases found
  case isFalse short =>
  split at found
  case isTrue exist => exact .down named short exist found
  split at found
  · cases found
  case h_2 other stored =>
  split at found
  case isTrue ends =>
    cases found
    exact .last named (List.isEmpty_iff.mp ends) rfl stored
  case isFalse => cases found

/-- What is found as a file is a file of the tree. -/
theorem mem_files_of_follow {directory parts path : List String} {file : File}
    (found : tree.follow directory parts = .file path file) : (path, file) ∈ tree.files := by
  induction parts generalizing directory with
  | nil => cases found
  | cons part rest inductionHypothesis =>
    cases (step_of_follow found).2 with
    | up _ onward | down _ _ _ onward => exact inductionHypothesis onward
    | last _ _ _ stored =>
      obtain ⟨front, back, split, _⟩ := List.lookup_eq_some_iff.mp stored
      simp [split]

theorem exists_file_of_readSource {path : Path} {source : Source}
    (read : tree.readSource path = .ok source) : ∃ entry ∈ tree.files, entry.2.source = source := by
  rw [readSource] at read
  split at read
  case h_1 place file found =>
    split at read
    · cases read
      rw [find] at found
      split at found
      · cases found
      split at found
      · cases found
      · exact ⟨(place, file), mem_files_of_follow found, rfl⟩
    · cases read
  all_goals cases read

/-- Whether every file holds the syntax tree that a parser gives for its content. -/
def ParsedBy (parse : Bytes → Node) (tree : FileTree) : Prop :=
  ∀ entry ∈ tree.files, entry.2.source.root = parse entry.2.source.bytes

theorem ParsedBy.of_readSource {parse : Bytes → Node} (parsed : tree.ParsedBy parse) {path : Path}
    {source : Source} (read : tree.readSource path = .ok source) :
    source.root = parse source.bytes := by
  obtain ⟨entry, member, rfl⟩ := exists_file_of_readSource read
  exact parsed entry member

end FileTree

namespace Project

variable {project : Project} {tree : FileTree}

variable {path : String} {directory : List String} {recursive excludeVendor : Bool}
  {found : List (List String)}

theorem mem_counted {place : List String} :
    place ∈ project.counted tree directory recursive excludeVendor ↔
      place ∈ tree.files.map (·.1) ∧ (tree.find (.absolute place)).isFile = true ∧
        project.accepts directory recursive excludeVendor place = true := by
  rw [counted, List.mem_filter, Bool.and_eq_true]

theorem sourceFiles_eq (located : project.directory tree path = .ok directory) :
    project.sourceFiles tree path recursive excludeVendor =
      if isStopped tree directory recursive then .error .refused
      else .ok ((project.counted tree directory recursive excludeVendor).mergeSort Path.comesBefore) := by
  simp only [sourceFiles, located, bind, Except.bind]
  cases isStopped tree directory recursive <;> rfl

/-- In a closed directory, which can be listed, nothing can be asked about the file. -/
example :
    let tree : FileTree :=
      { workingDirectory := ["app"], files := [(["app", "b", "c.php"], ⟨⟨[], .empty⟩, true⟩)],
        directories := [["app"], ["app", "b"]], closed := [["app", "b"]] }
    isStopped tree ["app"] true = true ∧ isStopped tree ["app"] false = false := by
  decide +kernel

theorem sourceFiles_of_located (located : project.directory tree path = .ok directory)
    (passed : isStopped tree directory recursive = false) :
    project.sourceFiles tree path recursive excludeVendor =
      .ok ((project.counted tree directory recursive excludeVendor).mergeSort Path.comesBefore) := by
  rw [sourceFiles_eq located, passed]
  rfl

/-- A listing of source files is one of a directory in which the search stopped nowhere. -/
theorem exists_of_sourceFiles
    (listed : project.sourceFiles tree path recursive excludeVendor = .ok found) :
    ∃ directory, project.directory tree path = .ok directory ∧
      isStopped tree directory recursive = false ∧
      found = (project.counted tree directory recursive excludeVendor).mergeSort Path.comesBefore := by
  cases located : project.directory tree path with
  | error fault =>
    rw [sourceFiles, located] at listed
    cases listed
  | ok directory =>
    rw [sourceFiles_eq located] at listed
    split at listed
    · cases listed
    case isFalse passed =>
      cases listed
      exact ⟨directory, rfl, Bool.not_eq_true _ ▸ passed, rfl⟩

theorem exists_directory_of_sourceFiles
    (listed : project.sourceFiles tree path recursive excludeVendor = .ok found) :
    ∃ directory, project.directory tree path = .ok directory ∧
      found.Perm (project.counted tree directory recursive excludeVendor) := by
  obtain ⟨directory, located, -, rfl⟩ := exists_of_sourceFiles listed
  exact ⟨directory, located, List.mergeSort_perm _ _⟩

/-- The source files that are listed are found. -/
theorem isFile_of_mem_sourceFiles {place : List String}
    (listed : project.sourceFiles tree path recursive excludeVendor = .ok found) (member : place ∈ found) :
    (tree.find (.absolute place)).isFile = true := by
  obtain ⟨directory, -, same⟩ := exists_directory_of_sourceFiles listed
  exact (mem_counted.mp (same.mem_iff.mp member)).2.1

/-- What counts in a directory: source files below it, at any depth only if subdirectories are searched,
with no excluded directory on the way. -/
theorem accepts_iff {path : List String} :
    project.accepts directory recursive excludeVendor path = true ↔
      ∃ between name, path = directory ++ (between ++ [name]) ∧ isSourceName name = true ∧
        (recursive = true ∨ between = []) ∧ (∀ part ∈ between, part ∉ excludedDirectories) ∧
        (excludeVendor = false ∨ project.isVendor (.absolute path) path = false) := by
  have searched (between : List String) : (between.any excludedDirectories.contains) = false ↔
      ∀ part ∈ between, part ∉ excludedDirectories := by
    simp [List.any_eq_false]
  constructor
  · intro accepted
    cases under : Path.below? directory path with
    | none => simp [accepts, under] at accepted
    | some rest =>
      rcases List.eq_nil_or_concat rest with rfl | ⟨between, name, rfl⟩
      · simp [accepts, under] at accepted
      · rw [List.concat_eq_append] at under
        refine ⟨between, name, Text.afterStart?_eq_some_iff.mp under, ?_⟩
        simpa [accepts, under, searched, and_assoc] using accepted
  · rintro ⟨between, name, split, source, depth, outside, own⟩
    have under : Path.below? directory path = some (between ++ [name]) :=
      Text.afterStart?_eq_some_iff.mpr split
    simpa [accepts, under, searched, and_assoc] using ⟨source, depth, outside, own⟩

/-- What counts in a directory counts in those above it, unless an excluded directory lies between. -/
theorem accepts_above {below path : List String}
    (searched : ∀ part ∈ below, part ∉ excludedDirectories)
    (accepted : project.accepts (directory ++ below) recursive excludeVendor path = true) :
    project.accepts directory true false path = true := by
  obtain ⟨between, name, split, source, _, outside, _⟩ := accepts_iff.mp accepted
  refine accepts_iff.mpr ⟨below ++ between, name, by simp [split], source, .inl rfl, ?_, .inl rfl⟩
  intro part member
  rcases List.mem_append.mp member with early | late
  · exact searched part early
  · exact outside part late

/-- The source files of a directory are among those of a directory above it, unless an excluded
directory lies between. -/
theorem sourceFiles_above {above : String} {below : List String} {all : List (List String)}
    (searched : ∀ part ∈ below, part ∉ excludedDirectories)
    (located : project.directory tree above = .ok directory)
    (inside : project.directory tree path = .ok (directory ++ below))
    (listed : project.sourceFiles tree above true false = .ok all)
    (listedInside : project.sourceFiles tree path recursive excludeVendor = .ok found) :
    ∀ file ∈ found, file ∈ all := by
  intro file member
  obtain ⟨outer, outerLocated, outerFiles⟩ := exists_directory_of_sourceFiles listed
  obtain ⟨inner, innerLocated, innerFiles⟩ := exists_directory_of_sourceFiles listedInside
  rw [located] at outerLocated
  rw [inside] at innerLocated
  cases outerLocated
  cases innerLocated
  obtain ⟨known, isFile, accepted⟩ := mem_counted.mp (innerFiles.mem_iff.mp member)
  exact outerFiles.mem_iff.mpr (mem_counted.mpr ⟨known, isFile, accepts_above searched accepted⟩)

end Project

end ClassAtlas
