import ClassAtlas.Proofs.Index.Rounds

/-!
What every use of an index keeps, also when classes are registered by hand.

What is known of files is what they hold, what they hold is registered, and the autoload roots are those
of the project. A name is held to be absent only after a search in vain: under some spelling of it, none
of the files that the roots map it to declares the class, and no source file of the project does. The
last is said of file trees without null characters in paths, as all file systems are.
-/

namespace ClassAtlas

namespace FileTree

variable {tree : FileTree}

/-- What is followed leads to where the components collapse to. -/
theorem eq_collapse_of_follow {directory parts place : List String} {file : File}
    (found : tree.follow directory parts = .file place file) :
    place = Path.collapse directory.reverse parts := by
  induction parts generalizing directory with
  | nil => cases found
  | cons part rest inductionHypothesis =>
    have pushed : part :: directory.reverse = (directory ++ [part]).reverse := by simp
    rw [Path.collapse, pushed]
    cases (step_of_follow found).2 with
    | up double onward =>
      rw [if_pos (beq_iff_eq.mpr double), List.tail_reverse]
      exact inductionHypothesis onward
    | down named _ _ onward =>
      rw [if_neg (by simpa using named)]
      exact inductionHypothesis onward
    | last named ends isPlace =>
      rw [if_neg (by simpa using named), ends, isPlace, Path.collapse, List.reverse_reverse]

/-- A path that leads to a file resolves to the path of the file. -/
theorem resolve_mem_of_isFile {path : Path} (isFile : tree.isFile path = .ok true) :
    tree.resolve path ∈ tree.files.map (·.1) := by
  rw [FileTree.isFile] at isFile
  split at isFile
  case h_1 place file found =>
    rw [find] at found
    split at found
    · cases found
    split at found
    · cases found
    · have isPlace : place = tree.resolve path := eq_collapse_of_follow found
      rw [← isPlace]
      exact List.mem_map.mpr ⟨_, mem_files_of_follow found, rfl⟩
  all_goals cases isFile

theorem declared?_append (tree : FileTree) (files others : List (List String)) (key : String) :
    tree.declared? (files ++ others) key = (tree.declared? files key).or (tree.declared? others key) := by
  rw [declared?, declared, List.flatMap_append, List.find?_append]
  rfl

/-- The classes of a file that declares no class with a key have other keys. -/
theorem find?_eq_none_of_declared? {path : List String} {declarations : List Declaration}
    {key : String} (read : tree.declarations (.absolute path) = .ok declarations)
    (none : tree.declared? [path] key = none) :
    declarations.find? (Name.key ·.name == key) = .none := by
  rw [declared?, declared] at none
  simpa [read, Except.toOption] using none

end FileTree

/-- The files that the autoload roots map a name to, resolved. -/
def Project.Maps (project : Project) (tree : FileTree) (name : String) (files : List (List String)) :
    Prop :=
  ∃ roots paths, Autoload.roots project tree = .ok roots ∧
    Autoload.candidates tree roots name = .ok paths ∧ files = paths.map tree.resolve

/-- Whether no file that a name is mapped to, and no source file of the project, declares the class. -/
structure Project.Misses (project : Project) (tree : FileTree) (name : String) : Prop where
  mapped : ∃ files, project.Maps tree name files ∧ tree.declared? files (Name.key name) = none
  listed : ∀ files, project.sourceFiles tree (Path.absolute project.root).render true false =
    .ok files → tree.declared? files (Name.key name) = none

theorem Project.Maps.unique {project : Project} {tree : FileTree} {name : String}
    {files others : List (List String)} (first : project.Maps tree name files)
    (second : project.Maps tree name others) : files = others := by
  obtain ⟨roots, paths, read, candidates, rfl⟩ := first
  obtain ⟨otherRoots, otherPaths, otherRead, otherCandidates, rfl⟩ := second
  rw [read] at otherRead
  cases otherRead
  rw [candidates] at otherCandidates
  cases otherCandidates
  rfl

/-- What a name is mapped to does not depend on blanks around it and leading separators. -/
theorem Project.Misses.congr {project : Project} {tree : FileTree} {name other : String}
    (misses : project.Misses tree name) (same : Name.normalized name = Name.normalized other) :
    project.Misses tree other := by
  have sameKey : Name.key name = Name.key other := by simp only [Name.key, same]
  obtain ⟨⟨files, ⟨roots, paths, read, candidates, isMapped⟩, undeclared⟩, listed⟩ := misses
  rw [Autoload.candidates, same] at candidates
  rw [sameKey] at undeclared listed
  exact ⟨⟨files, ⟨roots, paths, read, candidates, isMapped⟩, undeclared⟩, listed⟩

theorem Autoload.isFile_of_mem_candidates {tree : FileTree} {roots : List AutoloadRoot}
    {name : String} {paths : List Path} (candidates : Autoload.candidates tree roots name = .ok paths) :
    ∀ path ∈ paths, tree.isFile path = .ok true := by
  intro path member
  rw [Autoload.candidates, List.filterM] at candidates
  cases ran : (roots.filterMap fun root => fileOf? root (Name.normalized name)).filterAuxM
      tree.isFile [] with
  | error fault =>
    rw [ran] at candidates
    cases candidates
  | ok kept =>
    rw [ran] at candidates
    cases candidates
    rcases mem_filterAuxM ran (List.mem_reverse.mp member) with impossible | ⟨-, isFile⟩
    · cases impossible
    · exact isFile

namespace ClassIndex

/-- What an index knows is right, and what it has read is registered. -/
structure Accurate (project : Project) (tree : FileTree) (index : ClassIndex) : Prop
    extends index.Coherent where
  owner : index.project = project
  named : ∀ key declaration, index.class? key = some declaration → Name.key declaration.name = key
  read : ∀ entry ∈ index.byFile, tree.declarations (.absolute entry.1) = .ok entry.2
  registered : index.Registered
  roots : ∀ roots, index.roots = some roots → Autoload.roots project tree = .ok roots

/-- What an index holds to be absent has been sought in vain. -/
structure Candid (project : Project) (tree : FileTree) (index : ClassIndex) : Prop
    extends index.Accurate project tree where
  finished : tree.Clean → index.complete = true → index.ReadAll tree
  missed : tree.Clean → ∀ key ∈ index.absent, ∃ name, Name.key name = key ∧ project.Misses tree name

/-- What changes when files are read: they are known, with the classes that they declare. -/
structure Reading (tree : FileTree) (files : List (List String)) (index later : ClassIndex) : Prop where
  kept : index.byFile <+: later.byFile
  complete : later.complete = index.complete
  absent : ∀ key ∈ later.absent, key ∈ index.absent
  unknown : ∀ key, tree.declared? files key = none → index.class? key = none → later.class? key = none

section Reading

variable {project : Project} {tree : FileTree} {index between later : ClassIndex}
  {files others : List (List String)} {path : List String}

theorem Reading.refl (tree : FileTree) (files : List (List String)) (index : ClassIndex) :
    Reading tree files index index :=
  ⟨List.prefix_rfl, rfl, fun _ => id, fun _ _ => id⟩

theorem Reading.append (first : Reading tree files index between)
    (second : Reading tree others between later) : Reading tree (files ++ others) index later where
  kept := first.kept.trans second.kept
  complete := second.complete.trans first.complete
  absent key member := first.absent key (second.absent key member)
  unknown key none unknown := by
    rw [FileTree.declared?_append, Option.or_eq_none_iff] at none
    exact second.unknown key none.2 (first.unknown key none.1 unknown)

theorem AllRead.of_kept (allRead : index.AllRead tree files) (kept : index.byFile <+: later.byFile) :
    later.AllRead tree files :=
  fun path listed declarations read => kept.subset (allRead path listed declarations read)

theorem ReadAll.of_kept (readAll : index.ReadAll tree) (owner : later.project = index.project)
    (kept : index.byFile <+: later.byFile) : later.ReadAll tree := by
  intro files sources
  rw [owner] at sources
  exact (readAll files sources).of_kept kept

theorem empty_candid (project : Project) (tree : FileTree) :
    (empty project).Candid project tree where
  toCoherent := (empty_orderly tree project).toCoherent
  owner := rfl
  named := by simp [empty, class?]
  read := by simp [empty]
  registered := by simp [Registered, empty]
  roots := by simp [empty]
  finished := by simp [empty]
  missed := by simp [empty]

theorem roots_add (index : ClassIndex) (declaration : Declaration) :
    (index.add declaration).roots = index.roots := by
  rw [add]
  split <;> rfl

theorem roots_foldl_add (index : ClassIndex) (declarations : List Declaration) :
    (declarations.foldl add index).roots = index.roots := by
  induction declarations generalizing index with
  | nil => rfl
  | cons declaration rest inductionHypothesis =>
    rw [List.foldl_cons, inductionHypothesis, roots_add]

/-- Registering a class by hand keeps an index candid. -/
theorem Candid.add (candid : index.Candid project tree) (declaration : Declaration) :
    (index.add declaration).Candid project tree where
  toCoherent := candid.toCoherent.add declaration
  owner := (project_add index declaration).trans candid.owner
  named key found known := by
    rw [class?_add, Option.or_eq_some_iff] at known
    rcases known with early | ⟨-, new⟩
    · exact candid.named key found early
    · obtain ⟨same, equal⟩ := Option.ite_none_right_eq_some.mp new
      rw [← Option.some.inj equal]
      exact same
  read := by
    rw [byFile_add]
    exact candid.read
  registered := by
    intro entry member found listed
    rw [byFile_add] at member
    rw [class?_add, Option.isSome_or, candid.registered entry member found listed, Bool.true_or]
  roots := by
    rw [roots_add]
    exact candid.roots
  finished clean done := by
    rw [complete_add] at done
    refine (candid.finished clean done).of_kept (project_add index declaration) ?_
    exact (byFile_add index declaration).symm ▸ List.prefix_rfl
  missed clean key absent := candid.missed clean key (absent_add absent).1

/-- Entering a file keeps an index accurate. -/
theorem Accurate.addFile (accurate : index.Accurate project tree) {declarations : List Declaration}
    (read : tree.declarations (.absolute path) = .ok declarations) :
    (index.addFile path declarations).Accurate project tree ∧
      Reading tree [path] index (index.addFile path declarations) := by
  let entered : ClassIndex := { index with byFile := index.byFile ++ [(path, declarations)] }
  have coherent : entered.Coherent := { accurate.toCoherent with }
  have classes : ∀ key, (index.addFile path declarations).class? key =
      (index.class? key).or (declarations.find? (Name.key ·.name == key)) :=
    class?_foldl_add_eq entered declarations
  obtain ⟨owner, absent⟩ := project_foldl_add entered declarations
  refine ⟨⟨coherent.foldl_add declarations, owner.trans accurate.owner, ?_, ?_,
    accurate.registered.addFile, ?_⟩, ⟨by simp, complete_addFile index path declarations, absent, ?_⟩⟩
  · intro key declaration known
    rw [classes, Option.or_eq_some_iff] at known
    rcases known with early | ⟨-, new⟩
    · exact accurate.named key declaration early
    · simpa using List.find?_some new
  · intro entry member
    rw [byFile_addFile] at member
    rcases List.mem_append.mp member with known | last
    · exact accurate.read entry known
    · rw [List.mem_singleton.mp last]
      exact read
  · have same : (index.addFile path declarations).roots = index.roots :=
      roots_foldl_add entered declarations
    rw [same]
    exact accurate.roots
  · intro key none unknown
    rw [classes, unknown, Option.none_or]
    exact FileTree.find?_eq_none_of_declared? read none

/-- Reading files keeps an index candid. -/
theorem Candid.of_reading (candid : index.Candid project tree) (accurate : later.Accurate project tree)
    (reading : Reading tree files index later) : later.Candid project tree where
  toAccurate := accurate
  finished clean done := (candid.finished clean (reading.complete ▸ done)).of_kept
    (accurate.owner.trans candid.owner.symm) reading.kept
  missed clean key absent := candid.missed clean key (reading.absent key absent)

end Reading

end ClassIndex

end ClassAtlas
