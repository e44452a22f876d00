import ClassAtlas.Proofs.Entries
import ClassAtlas.Proofs.Files.Reading
import ClassAtlas.Proofs.Usage.Order

/-!
The source files of a directory and of one below it.

A file system may list its entries in any order: paths lead to the same entries, and source files are
sorted by path. The source files of a directory below are those among the source files above that lie in
it, unless an excluded directory is on the way. The path that reports give a file leads back to the
file.
-/

namespace ClassAtlas

namespace Path

/-- Whether the components of a path are names. -/
def Named (parts : List String) : Prop :=
  ∀ part ∈ parts, part ≠ "" ∧ part ≠ "." ∧ '/' ∉ part.toList

instance (parts : List String) : Decidable (Named parts) :=
  inferInstanceAs (Decidable (∀ part ∈ parts, _))

theorem comesBefore_total (first second : List String) :
    (comesBefore first second || comesBefore second first) = true := by
  induction first generalizing second with
  | nil => rfl
  | cons part rest inductionHypothesis =>
    cases second with
    | nil => rfl
    | cons other others =>
      by_cases same : part = other
      · subst same
        simpa [comesBefore] using inductionHypothesis others
      · have ordered := lt_or_gt_of_ne same
        simpa [comesBefore, same, Ne.symm same] using ordered

theorem comesBefore_antisymm {first second : List String} (ordered : comesBefore first second = true)
    (reversed : comesBefore second first = true) : first = second := by
  induction first generalizing second with
  | nil =>
    cases second with
    | nil => rfl
    | cons other others => cases reversed
  | cons part rest inductionHypothesis =>
    cases second with
    | nil => cases ordered
    | cons other others =>
      by_cases same : part = other
      · subst same
        simp only [comesBefore, beq_self_eq_true, if_true] at ordered reversed
        rw [inductionHypothesis ordered reversed]
      · simp only [comesBefore, beq_iff_eq, same, Ne.symm same, if_false, decide_eq_true_eq]
          at ordered reversed
        exact absurd reversed (lt_asymm ordered)

theorem comesBefore_trans (first second third : List String)
    (ordered : comesBefore first second = true) (next : comesBefore second third = true) :
    comesBefore first third = true := by
  induction first generalizing second third with
  | nil => rfl
  | cons part rest inductionHypothesis =>
    obtain _ | ⟨other, others⟩ := second
    · cases ordered
    obtain _ | ⟨last, more⟩ := third
    · cases next
    simp only [comesBefore, beq_iff_eq] at ordered next ⊢
    split at ordered
    case isTrue same =>
      subst same
      split at next
      case isTrue equal =>
        subst equal
        simpa using inductionHypothesis _ _ ordered next
      case isFalse apart => simpa [apart] using next
    case isFalse different =>
      rw [decide_eq_true_eq] at ordered
      split at next
      case isTrue equal =>
        subst equal
        simpa [different] using ordered
      case isFalse apart =>
        rw [decide_eq_true_eq] at next
        have below := lt_trans ordered next
        simpa [below.ne] using below

/-- Sorted paths do not depend on the order in which they are listed. -/
theorem mergeSort_eq_of_perm {paths others : List (List String)} (same : paths.Perm others) :
    paths.mergeSort comesBefore = others.mergeSort comesBefore := by
  have sorted := List.pairwise_mergeSort comesBefore_trans comesBefore_total
  refine List.Perm.eq_of_pairwise (fun _ _ _ _ => comesBefore_antisymm) (sorted paths)
    (sorted others) ?_
  exact (List.mergeSort_perm _ _).trans (same.trans (List.mergeSort_perm _ _).symm)

theorem filter_mergeSort (keeps : List String → Bool) (paths : List (List String)) :
    (paths.mergeSort comesBefore).filter keeps = (paths.filter keeps).mergeSort comesBefore :=
  ClassAtlas.filter_mergeSort comesBefore_trans comesBefore_total keeps paths

end Path

namespace FileTree

/-- What holds of the files of every file system: a path leads to one file, and its components are
names. -/
structure Regular (tree : FileTree) : Prop where
  unique : (tree.files.map (·.1)).Nodup
  named : ∀ entry ∈ tree.files, Path.Named entry.1

/-- Whether a file tree has the entries of another, in whatever order they are listed. -/
structure Relists (listing tree : FileTree) : Prop where
  workingDirectory : listing.workingDirectory = tree.workingDirectory
  files : listing.files.Perm tree.files
  directories : listing.directories.Perm tree.directories
  closed : listing.closed.Perm tree.closed

namespace Relists

variable {listing tree : FileTree}

theorem hasDirectory (relists : Relists listing tree) (path : List String) :
    listing.hasDirectory path = tree.hasDirectory path := by
  rw [FileTree.hasDirectory, FileTree.hasDirectory, relists.directories.contains_eq]

theorem file? (relists : Relists listing tree) (regular : tree.Regular) (path : List String) :
    listing.file? path = tree.file? path :=
  (Entries.lookup_eq_of_perm relists.files.symm regular.unique path).symm

theorem follow (relists : Relists listing tree) (regular : tree.Regular)
    (directory parts : List String) :
    listing.follow directory parts = tree.follow directory parts := by
  induction parts generalizing directory with
  | nil => rfl
  | cons part rest inductionHypothesis =>
    simp only [FileTree.follow, inductionHypothesis, relists.hasDirectory, relists.file? regular,
      relists.closed.contains_eq]

theorem find (relists : Relists listing tree) (regular : tree.Regular) (path : Path) :
    listing.find path = tree.find path := by
  simp only [FileTree.find, relists.workingDirectory, relists.follow regular]

theorem readSource (relists : Relists listing tree) (regular : tree.Regular) (path : Path) :
    listing.readSource path = tree.readSource path := by
  simp only [FileTree.readSource, relists.find regular]

theorem directory (relists : Relists listing tree) (regular : tree.Regular) (project : Project)
    (path : String) : project.directory listing path = project.directory tree path := by
  simp only [Project.directory, isDirectory, relists.find regular, resolve, relists.workingDirectory]

end Relists

end FileTree

namespace Project

variable {project : Project} {tree listing : FileTree} {directory below path : List String}

/-- Whether a path, given by its components, lies below a directory. -/
def isBelow (directory path : List String) : Bool :=
  match Path.below? directory path with
  | some (_ :: _) => true
  | _ => false

theorem isBelow_iff :
    isBelow directory path = true ↔ ∃ part rest, path = directory ++ part :: rest := by
  rw [isBelow]
  split
  case h_1 part rest under => simp [Text.afterStart?_eq_some_iff.mp under]
  case h_2 other =>
    simp only [Bool.false_eq_true, false_iff, not_exists]
    exact fun part rest split => other part rest (Text.afterStart?_eq_some_iff.mpr split)

/-- What counts in a directory below is what counts above and lies in it, unless an excluded directory
is on the way. -/
theorem accepts_below (searched : ∀ part ∈ below, part ∉ excludedDirectories) (excludeVendor : Bool)
    (path : List String) :
    project.accepts (directory ++ below) true excludeVendor path =
      (isBelow (directory ++ below) path && project.accepts directory true excludeVendor path) := by
  rw [Bool.eq_iff_iff, Bool.and_eq_true, isBelow_iff, accepts_iff, accepts_iff]
  constructor
  · rintro ⟨between, name, rfl, source, -, outside, own⟩
    obtain ⟨part, rest, split⟩ := List.exists_cons_of_ne_nil (List.concat_ne_nil name between)
    refine ⟨⟨part, rest, by rw [split]⟩, below ++ between, name, by simp, source, .inl rfl, ?_, own⟩
    exact List.forall_mem_append.mpr ⟨searched, outside⟩
  · rintro ⟨⟨part, rest, split⟩, between, name, whole, source, -, outside, own⟩
    have nonempty : part :: rest ≠ [] := List.cons_ne_nil part rest
    have same : below ++ (part :: rest) = between ++ [name] := by
      rw [whole, List.append_assoc] at split
      exact (List.append_cancel_left split).symm
    -- Both ways to write the path end in the name of the file.
    rw [← List.dropLast_append_getLast nonempty, ← List.append_assoc] at same
    obtain ⟨middle, last⟩ := List.append_inj' same rfl
    refine ⟨(part :: rest).dropLast, name, ?_, source, .inl rfl, ?_, own⟩
    · rw [split, ← last, List.dropLast_append_getLast nonempty]
    · intro part member
      exact outside part (middle ▸ List.mem_append_right below member)

/-- The source files of a directory, if they are listed in order. -/
theorem sourceFiles_of_ordered {inner : String} {recursive excludeVendor : Bool}
    {paths : List (List String)} (located : project.directory tree inner = .ok directory)
    (passed : isStopped tree directory recursive = false)
    (listed : project.counted tree directory recursive excludeVendor = paths)
    (ordered : paths.Pairwise fun first second => Path.comesBefore first second = true) :
    project.sourceFiles tree inner recursive excludeVendor = .ok paths := by
  rw [sourceFiles_of_located located passed, listed, List.mergeSort_of_pairwise ordered]

/-- Where a search of a directory below stops, a search above stops too. -/
theorem stopsAt_above {recursive : Bool}
    (stops : stopsAt tree (directory ++ below) recursive path = true) :
    stopsAt tree directory true path = true := by
  rw [stopsAt] at stops ⊢
  split at stops
  · cases stops
  case h_2 rest under =>
  have whole := Text.afterStart?_eq_some_iff.mp under
  have outer : Path.below? directory path = some (below ++ rest) :=
    Text.afterStart?_eq_some_iff.mpr (by rw [whole, List.append_assoc])
  rw [outer]
  dsimp only
  split at stops
  · cases stops
  case h_2 name last =>
  have lastBelow : (below ++ rest).getLast? = some name := by simp [List.getLast?_append, last]
  rw [lastBelow]
  simp only [Bool.and_eq_true] at stops
  obtain ⟨⟨-, listed⟩, refused⟩ := stops
  simp only [Bool.true_or, listed, Bool.true_and]
  cases found : tree.find (.absolute path) <;> rw [found] at refused <;> simp at refused ⊢
  · exact refused
  · exact refused.imp_right And.right

theorem isStopped_below (relists : listing.Relists tree) (regular : tree.Regular)
    (passed : isStopped tree directory true = false) :
    isStopped listing (directory ++ below) true = false := by
  have entries := (relists.files.map (·.1)).append relists.directories
  have same : stopsAt listing = stopsAt tree := by
    funext directory recursive entry
    simp only [stopsAt, FileTree.lists, relists.find regular, relists.hasDirectory]
  rw [isStopped, List.any_eq_false] at passed ⊢
  intro entry member stops
  exact passed entry (entries.mem_iff.mp member) (stopsAt_above (same ▸ stops))

/-- The source files of a directory below are those among the source files above that lie in it,
whatever order the entries are listed in. -/
theorem sourceFiles_below (relists : listing.Relists tree) (regular : tree.Regular)
    (searched : ∀ part ∈ below, part ∉ excludedDirectories) {above inner : String}
    (located : project.directory tree above = .ok directory)
    (inside : project.directory tree inner = .ok (directory ++ below)) {excludeVendor : Bool}
    {all : List (List String)} (listed : project.sourceFiles tree above true excludeVendor = .ok all) :
    project.sourceFiles listing inner true excludeVendor =
      .ok (all.filter (isBelow (directory ++ below))) := by
  obtain ⟨outer, outerLocated, passed, rfl⟩ := exists_of_sourceFiles listed
  rw [located] at outerLocated
  cases outerLocated
  have insideListing : project.directory listing inner = .ok (directory ++ below) :=
    (relists.directory regular project _).trans inside
  have counted : (project.counted listing (directory ++ below) true excludeVendor).Perm
      ((project.counted tree directory true excludeVendor).filter (isBelow (directory ++ below))) := by
    have same (place : List String) :
        ((listing.find (.absolute place)).isFile &&
            project.accepts (directory ++ below) true excludeVendor place) =
          (isBelow (directory ++ below) place &&
            ((tree.find (.absolute place)).isFile &&
              project.accepts directory true excludeVendor place)) := by
      rw [relists.find regular, accepts_below searched, Bool.and_left_comm]
    rw [Project.counted, Project.counted, List.filter_filter, funext same]
    exact (relists.files.map _).filter _
  rw [sourceFiles_of_located insideListing (isStopped_below relists regular passed),
    Path.mergeSort_eq_of_perm counted, Path.filter_mergeSort]

end Project

namespace Path

variable {parts : List String}

theorem filter_names (named : Named parts) :
    parts.filter (fun part => !part.isEmpty && part != ".") = parts := by
  refine List.filter_eq_self.mpr fun part member => ?_
  obtain ⟨nonempty, noDot, -⟩ := named part member
  simp [nonempty, noDot]

/-- No separator leads what names join to. -/
theorem takeWhile_join (named : Named parts) :
    (Text.join "/" parts).toList.takeWhile (· == '/') = [] := by
  cases parts with
  | nil => rfl
  | cons first rest =>
    obtain ⟨nonempty, -, plain⟩ := named first List.mem_cons_self
    have leads : ∃ more, (Text.join "/" (first :: rest)).toList = first.toList ++ more := by
      cases rest with
      | nil => exact ⟨[], by simp [Text.join]⟩
      | cons second others =>
        rw [Text.join_cons_cons, String.toList_append, String.toList_append, List.append_assoc]
        exact ⟨_, rfl⟩
    obtain ⟨more, isJoined⟩ := leads
    cases chars : first.toList with
    | nil => exact absurd (String.toList_eq_nil_iff.mp chars) nonempty
    | cons char others =>
      rw [chars] at plain isJoined
      have apart : char ≠ '/' := fun same => plain (same ▸ List.mem_cons_self)
      rw [isJoined, List.cons_append, List.takeWhile_cons_of_neg (by simpa using apart)]

/-- The components of a relative path are read back from its written form. -/
theorem parse_join (named : Named parts) (nonempty : parts ≠ []) :
    parse (Text.join "/" parts) = ⟨"", parts⟩ := by
  have split : Text.splitAt (Text.join "/" parts) '/' = parts :=
    Text.splitAt_join nonempty fun part member => (named part member).2.2
  simp [parse, takeWhile_join named, split, filter_names named]

/-- The components of an absolute path are read back from its written form. -/
theorem parse_render_absolute (named : Named parts) :
    parse (absolute parts).render = absolute parts := by
  have written : (absolute parts).render.toList = '/' :: (Text.join "/" parts).toList := by
    simp [render, absolute]
  have split : Text.splitAt (absolute parts).render '/' =
      "" :: Text.splitAt (Text.join "/" parts) '/' := by
    simp [Text.splitAt, written, Text.pieces]
  have kept : (Text.splitAt (Text.join "/" parts) '/').filter
      (fun part => !part.isEmpty && part != ".") = parts := by
    cases parts with
    | nil => rfl
    | cons first rest =>
      have same : Text.splitAt (Text.join "/" (first :: rest)) '/' = first :: rest :=
        Text.splitAt_join (List.cons_ne_nil first rest) fun part member => (named part member).2.2
      rw [same, filter_names named]
  simp only [parse, written, split]
  simp [takeWhile_join named, kept]
  rfl

end Path

namespace Project

/-- The path that reports give a file leads back to the file from the root of the project. -/
theorem join_relative (project : Project) {path : List String} (named : Path.Named path) :
    ((Path.absolute project.root).join (.parse (project.relative path))).parts = path := by
  rw [relative]
  split
  case h_1 under =>
    have whole := Text.afterStart?_eq_some_iff.mp under
    rw [List.append_nil] at whole
    rw [whole]
    exact List.append_nil _
  case h_2 parts nonempty under =>
    have whole := Text.afterStart?_eq_some_iff.mp under
    have partsNamed : Path.Named parts := fun part member =>
      named part (whole ▸ List.mem_append_right project.root member)
    rw [Path.parse_join partsNamed (fun empty => nonempty empty)]
    exact whole.symm
  case h_3 =>
    rw [Path.parse_render_absolute named]
    rfl

/-- Whether a file, as reports name it, lies below a directory. -/
def liesBelow (project : Project) (directory : List String) (file : String) : Bool :=
  isBelow directory ((Path.absolute project.root).join (.parse file)).parts

end Project

end ClassAtlas
