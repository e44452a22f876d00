import ClassAtlas.Proofs.Index.Sound

/-!
Looking a class up finds the one that the project declares.

Every lookup keeps an index right and forgets nothing. When a name has been looked up without a fault,
the index holds its declaration, or all files of the project have been read and none declares it.
-/

namespace ClassAtlas

/-- The faults that escape from lookups: the autoload roots cannot be read, or the files that they map an
asked name to cannot be looked at. -/
inductive Obstacle (project : Project) (tree : FileTree) (asked : String → Prop) : Fault → Prop where
  | roots {fault : Fault} (failed : Autoload.roots project tree = .error fault) :
      Obstacle project tree asked fault
  | candidates {roots : List AutoloadRoot} {name : String} {fault : Fault}
      (read : Autoload.roots project tree = .ok roots) (asks : asked name)
      (failed : Autoload.candidates tree roots name = .error fault) :
      Obstacle project tree asked fault

theorem mem_filterAuxM {α : Type} {check : α → Except Fault Bool} {items kept result : List α}
    (ran : items.filterAuxM check kept = .ok result) {item : α} (member : item ∈ result) :
    item ∈ kept ∨ item ∈ items ∧ check item = .ok true := by
  induction items generalizing kept with
  | nil =>
    cases ran
    exact .inl member
  | cons first rest inductionHypothesis =>
    rw [List.filterAuxM] at ran
    cases checked : check first with
    | error fault =>
      rw [checked] at ran
      cases ran
    | ok passes =>
      rw [checked] at ran
      rcases inductionHypothesis ran with before | ⟨later, passed⟩
      · cases passes with
        | false => exact .inl before
        | true =>
          rcases List.mem_cons.mp before with rfl | before
          · exact .inr ⟨List.mem_cons_self, checked⟩
          · exact .inl before
      · exact .inr ⟨List.mem_cons_of_mem first later, passed⟩

/-- The files that the roots map a name to are files of the project. -/
theorem Codebase.resolve_mem_of_candidates {project : Project} {tree : FileTree}
    {files : List (List String)} (codebase : Codebase project tree files) {roots : List AutoloadRoot}
    (read : Autoload.roots project tree = .ok roots) {name : String} {paths : List Path}
    (candidates : Autoload.candidates tree roots name = .ok paths) :
    ∀ path ∈ paths, tree.resolve path ∈ files := by
  intro path member
  rw [Autoload.candidates, List.filterM] at candidates
  cases ran : (roots.filterMap fun root => Autoload.fileOf? root (Name.normalized name)).filterAuxM
      tree.isFile [] with
  | error fault =>
    rw [ran] at candidates
    cases candidates
  | ok kept =>
    rw [ran] at candidates
    cases candidates
    rcases mem_filterAuxM ran (List.mem_reverse.mp member) with impossible | ⟨mapped, isFile⟩
    · cases impossible
    · obtain ⟨root, listed, file⟩ := List.mem_filterMap.mp mapped
      exact codebase.autoloaded roots read root listed name path file isFile

namespace ClassIndex

/-- What an index knows is right, and it knows all that stands in the files it has read. -/
structure Consistent (project : Project) (tree : FileTree) (files : List (List String))
    (index : ClassIndex) : Prop extends index.Sound project tree files where
  registered : index.Registered

/-- Whether every file of the project that can be read has been read. -/
def AllRead (tree : FileTree) (files : List (List String)) (index : ClassIndex) : Prop :=
  ∀ path ∈ files, ∀ declarations, tree.declarations (.absolute path) = .ok declarations →
    (path, declarations) ∈ index.byFile

/-- An index between two lookups. -/
structure Healthy (project : Project) (tree : FileTree) (files : List (List String))
    (index : ClassIndex) : Prop extends index.Consistent project tree files where
  finished : index.complete = true → index.AllRead tree files

section Healthy

variable {project : Project} {tree : FileTree} {files : List (List String)} {index later : ClassIndex}

theorem AllRead.grows (allRead : index.AllRead tree files) (grows : index.Grows later) :
    later.AllRead tree files :=
  fun path listed declarations read => grows.files.subset (allRead path listed declarations read)

theorem AllRead.cons {path : List String} {rest : List (List String)}
    (first : index.AllRead tree [path]) (others : index.AllRead tree rest) :
    index.AllRead tree (path :: rest) := by
  intro other member
  rcases List.mem_cons.mp member with rfl | later
  · exact first other List.mem_cons_self
  · exact others other later

/-- A file that has been read is known with what it holds. -/
theorem allRead_singleton_of_mem {path : List String} {declarations : List Declaration}
    (holds : tree.declarations (.absolute path) = .ok declarations)
    (entered : (path, declarations) ∈ index.byFile) : index.AllRead tree [path] := by
  intro other member found read
  rw [List.mem_singleton.mp member] at read ⊢
  rw [holds] at read
  cases read
  exact entered

theorem Sound.allRead_singleton (sound : index.Sound project tree files) {path : List String}
    {declarations : List Declaration} (entered : (path, declarations) ∈ index.byFile) :
    index.AllRead tree [path] :=
  allRead_singleton_of_mem (sound.read _ entered).2 entered

theorem mem_byFile_of_lookup {path : List String} {declarations : List Declaration}
    (known : index.byFile.lookup path = some declarations) : (path, declarations) ∈ index.byFile := by
  obtain ⟨front, back, entries, _⟩ := List.lookup_eq_some_iff.mp known
  simp [entries]

theorem allRead_singleton_of_error {path : List String} {fault : Fault}
    (failed : tree.declarations (.absolute path) = .error fault) : index.AllRead tree [path] := by
  intro other member found read
  rw [List.mem_singleton.mp member, failed] at read
  cases read

theorem empty_healthy (project : Project) (tree : FileTree) (files : List (List String)) :
    (empty project).Healthy project tree files where
  toSound := empty_sound project tree files
  registered := by simp [Registered, empty]
  finished := by simp [empty]

theorem Healthy.of_consistent (healthy : index.Healthy project tree files)
    (consistent : later.Consistent project tree files) (grows : index.Grows later)
    (complete : later.complete = index.complete) : later.Healthy project tree files where
  toConsistent := consistent
  finished done := (healthy.finished (complete ▸ done)).grows grows

/-- A class that is not known is declared in no file that was read. -/
theorem Registered.declared?_eq_none (registered : index.Registered) (allRead : index.AllRead tree files)
    {key : String} (unknown : index.class? key = none) : tree.declared? files key = none := by
  refine List.find?_eq_none.mpr fun declaration declared same => ?_
  obtain ⟨path, listed, inFile⟩ := List.mem_flatMap.mp declared
  cases read : tree.declarations (.absolute path) with
  | error fault => simp [read, Except.toOption] at inFile
  | ok declarations =>
    have member : declaration ∈ declarations := by simpa [read, Except.toOption] using inFile
    have known := registered _ (allRead path listed declarations read) declaration member
    rw [beq_iff_eq.mp same, unknown] at known
    cases known

/-- An index that has read all files knows all classes. -/
theorem Consistent.class?_eq_of_allRead (consistent : index.Consistent project tree files)
    (allRead : index.AllRead tree files) (key : String) :
    index.class? key = tree.declared? files key := by
  cases known : index.class? key with
  | none => rw [consistent.registered.declared?_eq_none allRead known]
  | some declaration => rw [consistent.classes key declaration known]

/-- An index knows what the project declares under a key that is settled. -/
theorem Sound.class?_eq_of_isSettled (sound : index.Sound project tree files) {key : String}
    (settled : index.isSettled key = true) : index.class? key = tree.declared? files key := by
  cases known : index.class? key with
  | some declaration => rw [sound.classes key declaration known]
  | none =>
    rw [isSettled, known] at settled
    rw [sound.absent key (by simpa using settled)]

/-- An index that has read all files may note that a class it does not know is absent. -/
theorem Healthy.note_absent (healthy : index.Healthy project tree files)
    (allRead : index.AllRead tree files) {key : String} (unknown : index.class? key = none) :
    ({ index with absent := index.absent ++ [key] } : ClassIndex).Healthy project tree files ∧
      index.Grows { index with absent := index.absent ++ [key] } := by
  constructor
  · refine { healthy with absent := ?_ }
    intro other member
    rcases List.mem_append.mp member with known | last
    · exact healthy.absent other known
    · rw [List.mem_singleton.mp last, ← healthy.class?_eq_of_allRead allRead, unknown]
  · refine ⟨List.prefix_rfl, fun _ => ⟨rfl, rfl⟩, ?_⟩
    intro other settled
    rw [isSettled, Bool.or_eq_true] at settled ⊢
    exact settled.imp_right fun absent => by simp at absent; simp [absent]

end Healthy

end ClassIndex

namespace Lookup

open ClassIndex

variable {project : Project} {tree : FileTree} {files : List (List String)} {index : ClassIndex}

/-- A file that is looked up has been read afterwards. A file that cannot be read changes nothing. -/
theorem indexFile_ends (codebase : Codebase project tree files)
    (consistent : index.Consistent project tree files) {path : List String} (listed : path ∈ files) :
    Ends (indexFile tree path) index
      (fun declarations later => later.Consistent project tree files ∧ index.Grows later ∧
        later.complete = index.complete ∧ (path, declarations) ∈ later.byFile)
      (fun fault later => later = index ∧ tree.declarations (.absolute path) = .error fault) := by
  rw [indexFile]
  refine Ends.get_bind ?_
  split
  case h_1 declarations known =>
    exact Ends.pure ⟨consistent, Grows.refl index, rfl, mem_byFile_of_lookup known⟩
  case h_2 new =>
    refine Ends.ofExcept_bind ?_ fun _ failed => ⟨rfl, failed⟩
    intro declarations read
    refine Ends.set_bind ?_
    refine Ends.pure ⟨⟨?_, consistent.registered.addFile⟩, ?_, ?_, by simp⟩
    · exact consistent.addFile codebase listed new read
    · exact grows_addFile index path declarations
    · exact complete_addFile index path declarations

/-- Files that are looked up have been read afterwards, apart from those that cannot be read. -/
theorem indexFiles_ends (codebase : Codebase project tree files)
    (consistent : index.Consistent project tree files) {paths : List (List String)}
    (listed : ∀ path ∈ paths, path ∈ files) (asked : String → Prop) :
    Ends (indexFiles tree paths) index
      (fun _ later => later.Consistent project tree files ∧ index.Grows later ∧
        later.complete = index.complete ∧ later.AllRead tree paths)
      (fun fault _ => Obstacle project tree asked fault) := by
  induction paths generalizing index with
  | nil => exact Ends.pure ⟨consistent, Grows.refl index, rfl, fun _ impossible => by cases impossible⟩
  | cons path rest inductionHypothesis =>
    rw [List.forall_mem_cons] at listed
    rw [indexFiles]
    have first : Ends (tryCatch (indexFile tree path) skipUnreadable) index
        (fun _ later => later.Consistent project tree files ∧ index.Grows later ∧
          later.complete = index.complete ∧ later.AllRead tree [path])
        (fun fault _ => Obstacle project tree asked fault) := by
      apply Ends.tryCatch
      refine (indexFile_ends codebase consistent listed.1).mono ?_ ?_
      · rintro declarations later ⟨laterConsistent, grows, complete, entered⟩
        exact ⟨laterConsistent, grows, complete, laterConsistent.allRead_singleton entered⟩
      · rintro fault later ⟨rfl, failed⟩
        unfold skipUnreadable
        split
        case h_1 =>
          exact Ends.pure ⟨consistent, Grows.refl _, rfl, allRead_singleton_of_error failed⟩
        case h_2 escapes =>
          have null := FileTree.hasNull_of_declarations failed escapes
          rw [codebase.hasNull_eq_false listed.1] at null
          cases null
    refine Ends.bind first ?_
    rintro _ between ⟨betweenConsistent, grows, complete, read⟩
    refine Ends.bind (inductionHypothesis betweenConsistent listed.2) ?_
    rintro _ later ⟨laterConsistent, laterGrows, laterComplete, restRead⟩
    refine Ends.pure ⟨laterConsistent, grows.trans laterGrows, laterComplete.trans complete, ?_⟩
    exact (read.grows laterGrows).cons restRead

/-- The source files of a directory have been read when this ends. -/
theorem indexDirectory_ends (codebase : Codebase project tree files)
    (consistent : index.Consistent project tree files) {path : String} {recursive excludeVendor : Bool}
    (listed : ∀ found, project.sourceFiles tree path recursive excludeVendor = .ok found →
      ∀ file ∈ found, file ∈ files) (asked : String → Prop) :
    Ends (indexDirectory tree path recursive excludeVendor) index
      (fun _ later => later.Consistent project tree files ∧ index.Grows later ∧
        later.complete = index.complete ∧
        ∀ found, project.sourceFiles tree path recursive excludeVendor = .ok found →
          later.AllRead tree found)
      (fun fault _ => project.sourceFiles tree path recursive excludeVendor = .error fault ∨
        Obstacle project tree asked fault) := by
  rw [indexDirectory]
  refine Ends.get_bind ?_
  refine Ends.ofExcept_bind ?_ ?_
  · intro found sources
    rw [consistent.owner] at sources
    refine (indexFiles_ends codebase consistent (listed found sources) asked).mono ?_ ?_
    · rintro _ later ⟨laterConsistent, grows, complete, read⟩
      refine ⟨laterConsistent, grows, complete, ?_⟩
      intro others same
      rw [sources] at same
      cases same
      exact read
    · exact fun _ _ => .inr
  · intro fault failed
    rw [consistent.owner] at failed
    exact .inl failed

/-- All files of the project have been read when this ends. -/
theorem indexProject_ends (codebase : Codebase project tree files)
    (healthy : index.Healthy project tree files) (asked : String → Prop) :
    Ends (indexProject tree) index
      (fun _ later => later.Healthy project tree files ∧ index.Grows later ∧
        later.AllRead tree files)
      (fun fault _ => Obstacle project tree asked fault) := by
  rw [indexProject]
  refine Ends.get_bind ?_
  split
  case isTrue complete => exact Ends.pure ⟨healthy, Grows.refl index, healthy.finished complete⟩
  case isFalse =>
    -- The mark is set before the files are read: in between the index is consistent, not healthy.
    have marked : ({ index with complete := true } : ClassIndex).Consistent project tree files :=
      { healthy.toConsistent with }
    have grown : index.Grows { index with complete := true } :=
      ⟨List.prefix_rfl, fun _ => ⟨rfl, rfl⟩, fun _ known => known⟩
    have directory := indexDirectory_ends codebase marked
      (fun found sources => by
        rw [codebase.listed] at sources
        cases sources
        exact fun _ => id) asked
    obtain rfl := healthy.owner
    refine Ends.set_bind ?_
    refine Ends.bind (directory.mono (fun _ _ => id) ?_) ?_
    · rintro fault _ (failed | obstacle)
      · rw [codebase.listed] at failed
        cases failed
      · exact obstacle
    · rintro _ later ⟨consistent, grows, _, read⟩
      have allRead := read files codebase.listed
      exact Ends.pure ⟨⟨consistent, fun _ => allRead⟩, grown.trans grows, allRead⟩

/-- The autoload roots are those of the project, also when they have been read before. -/
theorem autoloadRoots_ends (healthy : index.Healthy project tree files) (asked : String → Prop) :
    Ends (autoloadRoots tree) index
      (fun roots later => later.Healthy project tree files ∧ index.Grows later ∧
        Autoload.roots project tree = .ok roots)
      (fun fault _ => Obstacle project tree asked fault) := by
  rw [autoloadRoots]
  refine Ends.get_bind ?_
  split
  case h_1 roots known => exact Ends.pure ⟨healthy, Grows.refl index, healthy.roots roots known⟩
  case h_2 =>
    rw [healthy.owner]
    refine Ends.ofExcept_bind ?_ fun _ failed => .roots failed
    intro roots read
    refine Ends.modify_bind ?_
    refine Ends.pure ⟨{ healthy with roots := ?_ }, ?_, read⟩
    · intro others same
      cases same
      exact read
    · exact ⟨List.prefix_rfl, fun _ => ⟨rfl, rfl⟩, fun _ known => known⟩

/-- Reading candidate files keeps an index right, and the flag that it gives is true. -/
theorem tryCandidates_ends (codebase : Codebase project tree files)
    (healthy : index.Healthy project tree files) (key : String) {paths : List Path}
    (listed : ∀ path ∈ paths, tree.resolve path ∈ files) (asked : String → Prop) :
    Ends (tryCandidates tree key paths) index
      (fun found later => later.Healthy project tree files ∧ index.Grows later ∧
        (found = true → (later.class? key).isSome = true))
      (fun fault _ => Obstacle project tree asked fault) := by
  induction paths generalizing index with
  | nil => exact Ends.pure ⟨healthy, Grows.refl index, fun impossible => by cases impossible⟩
  | cons path rest inductionHypothesis =>
    rw [List.forall_mem_cons] at listed
    rw [tryCandidates]
    have resolved : ∀ other ∈ [tree.resolve path], other ∈ files := by simpa using listed.1
    refine Ends.bind (indexFiles_ends codebase healthy.toConsistent resolved asked) ?_
    rintro _ between ⟨consistent, grows, complete, _⟩
    have betweenHealthy := healthy.of_consistent consistent grows complete
    refine Ends.get_bind ?_
    split
    case isTrue known => exact Ends.pure ⟨betweenHealthy, grows, fun _ => known⟩
    case isFalse =>
      refine (inductionHypothesis betweenHealthy listed.2).mono ?_ fun _ _ => id
      rintro found later ⟨laterHealthy, laterGrows, registered⟩
      exact ⟨laterHealthy, grows.trans laterGrows, registered⟩

/-- A name is settled when this ends. -/
theorem load_ends (codebase : Codebase project tree files)
    (healthy : index.Healthy project tree files) (name : String) (asked : String → Prop)
    (asks : asked name) :
    Ends (load tree name) index
      (fun _ later => later.Healthy project tree files ∧ index.Grows later ∧
        later.isSettled (Name.key name) = true)
      (fun fault _ => Obstacle project tree asked fault) := by
  rw [load]
  refine Ends.get_bind ?_
  split
  case isTrue settled => exact Ends.pure ⟨healthy, Grows.refl index, settled⟩
  case isFalse =>
    refine Ends.bind (autoloadRoots_ends healthy asked) ?_
    rintro roots between ⟨rootsHealthy, rootsGrow, read⟩
    refine Ends.ofExcept_bind ?_ fun _ failed => .candidates read asks failed
    intro paths candidates
    have listed := codebase.resolve_mem_of_candidates read candidates
    refine Ends.bind (tryCandidates_ends codebase rootsHealthy (Name.key name) listed asked) ?_
    rintro found between ⟨triedHealthy, triedGrows, registered⟩
    split
    case isTrue isFound =>
      refine Ends.pure ⟨triedHealthy, rootsGrow.trans triedGrows, ?_⟩
      rw [isSettled, registered isFound, Bool.true_or]
    case isFalse =>
      refine Ends.bind (indexProject_ends codebase triedHealthy asked) ?_
      rintro _ between ⟨readHealthy, readGrows, allRead⟩
      have grows := (rootsGrow.trans triedGrows).trans readGrows
      refine Ends.modify ?_
      split
      case isTrue known =>
        refine ⟨readHealthy, grows, ?_⟩
        rw [isSettled, known, Bool.true_or]
      case isFalse unknown =>
        obtain ⟨noted, notedGrows⟩ := readHealthy.note_absent allRead (by simpa using unknown)
        exact ⟨noted, grows.trans notedGrows, by simp [isSettled]⟩

/-- A lookup finds what the project declares. -/
theorem find_ends (codebase : Codebase project tree files)
    (healthy : index.Healthy project tree files) (name : String) :
    Ends (find tree name) index
      (fun value later => later.Healthy project tree files ∧ index.Grows later ∧
        value = tree.declared? files (Name.key name) ∧ value = later.class? (Name.key name))
      (fun fault _ => Obstacle project tree (· = name) fault) := by
  rw [find]
  refine Ends.bind (load_ends codebase healthy name (· = name) rfl) ?_
  rintro _ later ⟨laterHealthy, grows, settled⟩
  refine Ends.get_bind ?_
  exact Ends.pure ⟨laterHealthy, grows, laterHealthy.class?_eq_of_isSettled settled, rfl⟩

end Lookup

end ClassAtlas
