import ClassAtlas.Proofs.Index.Accurate

/-!
What a search for a class leaves behind, and why it may raise a fault.

A search that returns settles the name. If no file that the name is mapped to and no source file of the
project declares the class, then the search does not make it known. If the files that the name is mapped
to can be found, then a search raises a fault only because the source files of the project cannot be
listed, and only the first time.
-/

namespace ClassAtlas.Lookup

open ClassIndex

variable {project : Project} {tree : FileTree} {index between later : ClassIndex}

section Files

/-- A file that is looked up has been read afterwards. A file that cannot be read changes nothing. -/
theorem indexFile_reading (accurate : index.Accurate project tree) (path : List String) :
    Ends (indexFile tree path) index
      (fun _ later => later.Accurate project tree ∧ Reading tree [path] index later ∧
        later.AllRead tree [path])
      (fun fault later => later = index ∧ tree.declarations (.absolute path) = .error fault) := by
  rw [indexFile]
  refine Ends.get_bind ?_
  split
  case h_1 declarations known =>
    have entered := mem_byFile_of_lookup known
    exact Ends.pure ⟨accurate, .refl tree _ index, allRead_singleton_of_mem (accurate.read _ entered) entered⟩
  case h_2 =>
    refine Ends.ofExcept_bind ?_ fun _ failed => ⟨rfl, failed⟩
    intro declarations read
    refine Ends.set_bind ?_
    obtain ⟨laterAccurate, reading⟩ := accurate.addFile read
    exact Ends.pure ⟨laterAccurate, reading, allRead_singleton_of_mem read (by simp)⟩

/-- A file that is passed over when it cannot be read. A fault is raised for a null character only. -/
theorem tryFile_reading (accurate : index.Accurate project tree) (path : List String) :
    Ends (tryCatch (indexFile tree path) skipUnreadable) index
      (fun _ later => later.Accurate project tree ∧ Reading tree [path] index later ∧
        later.AllRead tree [path])
      (fun _ later => later = index ∧ (Path.absolute path).hasNull = true) := by
  apply Ends.tryCatch
  refine (indexFile_reading accurate path).mono (fun _ _ read => read) ?_
  rintro fault later ⟨rfl, failed⟩
  unfold skipUnreadable
  split
  case h_1 =>
    exact Ends.pure ⟨accurate, .refl tree _ _, allRead_singleton_of_error failed⟩
  case h_2 escapes => exact Ends.throw ⟨rfl, FileTree.hasNull_of_declarations failed escapes⟩

/-- Files that are looked up have been read afterwards, apart from those that cannot be read. -/
theorem indexFiles_reading (accurate : index.Accurate project tree) (paths : List (List String)) :
    Ends (indexFiles tree paths) index
      (fun _ later => later.Accurate project tree ∧ Reading tree paths index later ∧
        later.AllRead tree paths)
      (fun _ later => later.Accurate project tree ∧ Reading tree paths index later ∧
        ∃ path ∈ paths, (Path.absolute path).hasNull = true) := by
  induction paths generalizing index with
  | nil => exact Ends.pure ⟨accurate, .refl tree [] index, fun _ impossible => by cases impossible⟩
  | cons path rest inductionHypothesis =>
    rw [indexFiles]
    refine Ends.bind ((tryFile_reading accurate path).mono (fun _ _ => id) ?_) ?_
    · rintro _ later ⟨rfl, null⟩
      exact ⟨accurate, .refl tree _ _, path, List.mem_cons_self, null⟩
    rintro _ between ⟨readAccurate, reading, read⟩
    refine Ends.bind ((inductionHypothesis readAccurate).mono (fun _ _ => id) ?_) ?_
    · rintro _ later ⟨laterAccurate, others, other, member, null⟩
      exact ⟨laterAccurate, reading.append others, other, List.mem_cons_of_mem path member, null⟩
    rintro _ later ⟨laterAccurate, others, restRead⟩
    exact Ends.pure ⟨laterAccurate, reading.append others, (read.of_kept others.kept).cons restRead⟩

/-- The source files of a directory have been read when this returns. It raises a fault if they cannot
be listed, or for a null character. -/
theorem indexDirectory_reading (accurate : index.Accurate project tree) (path : String)
    (recursive excludeVendor : Bool) :
    Ends (indexDirectory tree path recursive excludeVendor) index
      (fun _ later => later.Accurate project tree ∧ ∃ files,
        project.sourceFiles tree path recursive excludeVendor = .ok files ∧
        Reading tree files index later ∧ later.AllRead tree files)
      (fun _ later => later.Accurate project tree ∧ ∃ files,
        (files = [] ∨ project.sourceFiles tree path recursive excludeVendor = .ok files) ∧
        Reading tree files index later ∧
        (tree.Clean → ∀ found, project.sourceFiles tree path recursive excludeVendor ≠ .ok found)) := by
  rw [indexDirectory]
  refine Ends.get_bind ?_
  rw [accurate.owner]
  refine Ends.ofExcept_bind ?_ ?_
  · intro files sources
    refine (indexFiles_reading accurate files).mono ?_ ?_
    · rintro _ later ⟨laterAccurate, reading, read⟩
      exact ⟨laterAccurate, files, sources, reading, read⟩
    · rintro _ later ⟨laterAccurate, reading, path, member, null⟩
      refine ⟨laterAccurate, files, .inr sources, reading, fun clean => ?_⟩
      rw [clean path (Project.mem_files_of_sourceFiles sources path member)] at null
      cases null
  · intro fault failed
    refine ⟨accurate, [], .inl rfl, .refl tree [] index, fun _ found sources => ?_⟩
    rw [failed] at sources
    cases sources

end Files

/-- What is known after the source files of the project have been read, or could not be. -/
structure Surveyed (project : Project) (tree : FileTree) (index later : ClassIndex) : Prop where
  candid : later.Candid project tree
  complete : later.complete = true
  kept : index.byFile <+: later.byFile
  unknown : ∀ key, (∀ files, project.sourceFiles tree (Path.absolute project.root).render true false =
    .ok files → tree.declared? files key = none) → index.class? key = none → later.class? key = none

/-- The source files of the project are read at most once. -/
theorem indexProject_surveyed (candid : index.Candid project tree) :
    Ends (indexProject tree) index
      (fun _ later => Surveyed project tree index later)
      (fun _ later => Surveyed project tree index later ∧ index.complete = false ∧
        (tree.Clean → ∀ files,
          project.sourceFiles tree (Path.absolute project.root).render true false ≠ .ok files)) := by
  rw [indexProject]
  refine Ends.get_bind ?_
  split
  case isTrue complete => exact Ends.pure ⟨candid, complete, List.prefix_rfl, fun _ _ => id⟩
  case isFalse new =>
    have marked : ({ index with complete := true } : ClassIndex).Accurate project tree :=
      { candid.toAccurate with }
    -- The mark is set before the files are read, so what it says is right only afterwards.
    have surveyed : ∀ {files later}, later.Accurate project tree →
        (files = [] ∨
          project.sourceFiles tree (Path.absolute project.root).render true false = .ok files) →
        Reading tree files { index with complete := true } later →
        (tree.Clean → later.ReadAll tree) → Surveyed project tree index later := by
      intro files later accurate listed reading readAll
      refine ⟨⟨accurate, fun clean _ => readAll clean, fun clean key absent =>
        candid.missed clean key (reading.absent key absent)⟩, reading.complete, reading.kept, ?_⟩
      intro key undeclared unknown
      refine reading.unknown key ?_ unknown
      rcases listed with rfl | sources
      · rfl
      · exact undeclared files sources
    refine Ends.set_bind ?_
    have root : index.project.root = project.root := by rw [candid.owner]
    rw [root]
    refine Ends.bind ((indexDirectory_reading marked _ true false).mono (fun _ _ => id) ?_) ?_
    · rintro _ later ⟨accurate, files, listed, reading, missing⟩
      refine ⟨surveyed accurate listed reading fun clean found sources => ?_, by simpa using new,
        missing⟩
      rw [accurate.owner] at sources
      exact absurd sources (missing clean found)
    · rintro _ later ⟨accurate, files, sources, reading, read⟩
      refine Ends.pure (surveyed accurate (.inr sources) reading fun _ found others => ?_)
      rw [accurate.owner, sources] at others
      cases others
      exact read

/-- The autoload roots are those of the project, also when they have been read before. -/
theorem autoloadRoots_reading (candid : index.Candid project tree) :
    Ends (autoloadRoots tree) index
      (fun roots later => later.Candid project tree ∧ Reading tree [] index later ∧
        Autoload.roots project tree = .ok roots)
      (fun fault later => later = index ∧ Autoload.roots project tree = .error fault) := by
  rw [autoloadRoots]
  refine Ends.get_bind ?_
  split
  case h_1 roots known => exact Ends.pure ⟨candid, .refl tree [] index, candid.roots roots known⟩
  case h_2 =>
    rw [candid.owner]
    refine Ends.ofExcept_bind ?_ fun _ failed => ⟨rfl, failed⟩
    intro roots read
    refine Ends.modify_bind (Ends.pure ⟨{ candid with roots := ?_ }, ?_, read⟩)
    · rintro _ ⟨⟩
      exact read
    · exact ⟨List.prefix_rfl, rfl, fun _ => id, fun _ _ => id⟩

/-- Files that a name is mapped to are read until the class is known. -/
theorem tryCandidates_reading (accurate : index.Accurate project tree) {key : String}
    (unknown : index.class? key = none) (paths : List Path) :
    Ends (tryCandidates tree key paths) index
      (fun found later => later.Accurate project tree ∧
        Reading tree (paths.map tree.resolve) index later ∧
        (found = true → (later.class? key).isSome = true) ∧
        (found = false → later.class? key = none ∧ later.AllRead tree (paths.map tree.resolve)))
      (fun _ later => later.Accurate project tree ∧
        Reading tree (paths.map tree.resolve) index later ∧
        ∃ path ∈ paths, (Path.absolute (tree.resolve path)).hasNull = true) := by
  induction paths generalizing index with
  | nil =>
    refine Ends.pure ⟨accurate, .refl tree [] index, ?_, fun _ => ⟨unknown, ?_⟩⟩
    · intro impossible
      cases impossible
    · intro _ impossible
      cases impossible
  | cons path rest inductionHypothesis =>
    rw [tryCandidates]
    refine Ends.bind ((indexFiles_reading accurate [tree.resolve path]).mono (fun _ _ => id) ?_) ?_
    · rintro _ later ⟨laterAccurate, reading, file, member, null⟩
      rw [List.mem_singleton.mp member] at null
      exact ⟨laterAccurate, reading.append (.refl tree _ later), path, List.mem_cons_self, null⟩
    rintro _ between ⟨readAccurate, reading, read⟩
    refine Ends.get_bind ?_
    split
    case isTrue known =>
      refine Ends.pure ⟨readAccurate, reading.append (.refl tree _ between), fun _ => known, ?_⟩
      intro impossible
      cases impossible
    case isFalse stillUnknown =>
      refine (inductionHypothesis readAccurate (Option.not_isSome_iff_eq_none.mp stillUnknown)).mono
        ?_ ?_
      · rintro found later ⟨laterAccurate, others, known, missed⟩
        refine ⟨laterAccurate, reading.append others, known, fun none => ?_⟩
        exact ⟨(missed none).1, (read.of_kept others.kept).cons (missed none).2⟩
      · rintro _ later ⟨laterAccurate, others, other, member, null⟩
        exact ⟨laterAccurate, reading.append others, other, List.mem_cons_of_mem path member, null⟩

/-- A class that is not known may be noted as absent once its name has been sought in vain. -/
theorem Surveyed.note_absent (surveyed : Surveyed project tree index later) {name : String}
    {files : List (List String)} (mapped : project.Maps tree name files)
    (allRead : index.AllRead tree files) (unknown : later.class? (Name.key name) = none) :
    ({ later with absent := later.absent ++ [Name.key name] } : ClassIndex).Candid project tree := by
  have candid := surveyed.candid
  refine { candid with exclusive := ?_, missed := ?_ }
  · intro key member
    rcases List.mem_append.mp member with known | last
    · exact candid.exclusive key known
    · rw [List.mem_singleton.mp last]
      exact unknown
  · intro clean key member
    rcases List.mem_append.mp member with known | last
    · exact candid.missed clean key known
    · refine ⟨name, (List.mem_singleton.mp last).symm, ⟨files, mapped, ?_⟩, fun found sources => ?_⟩
      · exact candid.registered.declared?_eq_none (allRead.of_kept surveyed.kept) unknown
      · have read := candid.finished clean surveyed.complete found (by rwa [candid.owner])
        exact candid.registered.declared?_eq_none read unknown

/-- How a search ends that raises a fault although the files are found that a name is mapped to: they do
not declare the class, and the source files of the project cannot be listed. It happens once. -/
structure Blocked (project : Project) (tree : FileTree) (name : String) (files : List (List String))
    (index later : ClassIndex) : Prop where
  unmapped : tree.declared? files (Name.key name) = none
  unlisted : ∀ found,
    project.sourceFiles tree (Path.absolute project.root).render true false ≠ .ok found
  first : index.complete = false
  complete : later.complete = true

/-- What a search for a name leaves: a candid index, in which a class that is missed is not known. -/
structure Sought (project : Project) (tree : FileTree) (name : String) (index later : ClassIndex) :
    Prop where
  candid : later.Candid project tree
  unknown : project.Misses tree name → index.class? (Name.key name) = none →
    later.class? (Name.key name) = none

theorem Sought.of_reading {name : String} {files : List (List String)} (candid : index.Candid project tree)
    (accurate : later.Accurate project tree) (mapped : project.Maps tree name files)
    (reading : Reading tree files index later) : Sought project tree name index later where
  candid := candid.of_reading accurate reading
  unknown misses none := by
    obtain ⟨others, otherMapped, undeclared⟩ := misses.mapped
    rw [otherMapped.unique mapped] at undeclared
    exact reading.unknown _ undeclared none

/-- A name is settled when it has been sought. -/
theorem load_sought (candid : index.Candid project tree) (name : String) :
    Ends (load tree name) index
      (fun _ later => Sought project tree name index later ∧
        later.isSettled (Name.key name) = true ∧
        (index.isSettled (Name.key name) = true ∨ ∃ files, project.Maps tree name files))
      (fun _ later => Sought project tree name index later ∧
        (tree.Clean → ∀ files, project.Maps tree name files →
          Blocked project tree name files index later)) := by
  rw [load]
  refine Ends.get_bind ?_
  split
  case isTrue settled => exact Ends.pure ⟨⟨candid, fun _ => id⟩, settled, .inl settled⟩
  case isFalse unsettled =>
    have unknown : index.class? (Name.key name) = none := by
      rw [isSettled, Bool.or_eq_true, not_or] at unsettled
      exact Option.not_isSome_iff_eq_none.mp unsettled.1
    refine Ends.bind ((autoloadRoots_reading candid).mono (fun _ _ => id) ?_) ?_
    · rintro fault later ⟨rfl, failed⟩
      refine ⟨⟨candid, fun _ => id⟩, ?_⟩
      rintro - files ⟨roots, _, read, -, -⟩
      rw [failed] at read
      cases read
    rintro roots start ⟨startCandid, started, read⟩
    have startUnknown := started.unknown _ rfl unknown
    refine Ends.ofExcept_bind ?_ ?_
    case refine_2 =>
      refine fun fault failed => ⟨⟨startCandid, fun _ _ => startUnknown⟩, fun _ files mapped => ?_⟩
      obtain ⟨others, paths, same, candidates, -⟩ := mapped
      rw [read] at same
      cases same
      rw [failed] at candidates
      cases candidates
    intro paths candidates
    have mapped : project.Maps tree name (paths.map tree.resolve) := ⟨roots, paths, read, candidates, rfl⟩
    refine Ends.bind ((tryCandidates_reading startCandid.toAccurate startUnknown paths).mono
      (fun _ _ => id) ?_) ?_
    · rintro _ later ⟨accurate, reading, path, member, null⟩
      refine ⟨Sought.of_reading candid accurate mapped (started.append reading), fun clean => ?_⟩
      have isFile := Autoload.isFile_of_mem_candidates candidates path member
      rw [clean _ (FileTree.resolve_mem_of_isFile isFile)] at null
      cases null
    rintro found tried ⟨accurate, reading, known, missed⟩
    have sought := Sought.of_reading candid accurate mapped (started.append reading)
    split
    case isTrue isFound =>
      refine Ends.pure ⟨sought, ?_, .inr ⟨_, mapped⟩⟩
      rw [isSettled, known isFound, Bool.true_or]
    case isFalse notFound =>
      obtain ⟨triedUnknown, allRead⟩ := missed (Bool.not_eq_true _ ▸ notFound)
      refine Ends.bind ((indexProject_surveyed sought.candid).mono (fun _ _ => id) ?_) ?_
      · rintro _ later ⟨surveyed, new, unlisted⟩
        refine ⟨⟨surveyed.candid, fun misses _ => surveyed.unknown _ misses.listed triedUnknown⟩, ?_⟩
        intro clean files other
        rw [other.unique mapped]
        refine ⟨accurate.registered.declared?_eq_none allRead triedUnknown, unlisted clean, ?_, surveyed.complete⟩
        rw [← (started.append reading).complete]
        exact new
      rintro _ later surveyed
      have stillUnknown : project.Misses tree name → index.class? (Name.key name) = none →
          later.class? (Name.key name) = none := fun misses _ =>
        surveyed.unknown _ misses.listed triedUnknown
      refine Ends.modify ?_
      split
      case isTrue isKnown =>
        refine ⟨⟨surveyed.candid, stillUnknown⟩, ?_, .inr ⟨_, mapped⟩⟩
        rw [isSettled, isKnown, Bool.true_or]
      case isFalse isUnknown =>
        have noted := surveyed.note_absent mapped allRead (Option.not_isSome_iff_eq_none.mp isUnknown)
        exact ⟨⟨noted, stillUnknown⟩, by simp [isSettled], .inr ⟨_, mapped⟩⟩

/-- A search that returns gives what is known then. -/
theorem find_sought (candid : index.Candid project tree) (name : String) :
    Ends (find tree name) index
      (fun found later => found = later.class? (Name.key name) ∧
        Sought project tree name index later ∧ later.isSettled (Name.key name) = true ∧
        (index.isSettled (Name.key name) = true ∨ ∃ files, project.Maps tree name files))
      (fun _ later => Sought project tree name index later ∧
        (tree.Clean → ∀ files, project.Maps tree name files →
          Blocked project tree name files index later)) := by
  rw [find]
  refine Ends.bind (load_sought candid name) ?_
  exact fun _ later sought => Ends.get_bind (Ends.pure ⟨rfl, sought⟩)

end ClassAtlas.Lookup
