import ClassAtlas.Proofs.Index.Orderly

/-!
Every lookup only adds to an index.

Whether it returns or raises a fault, a lookup leaves an orderly index that extends the one before. A
name that was looked up is settled when the lookup returns.
-/

namespace ClassAtlas.Lookup

open ClassIndex

variable {tree : FileTree} {index between later : ClassIndex}

/-- What every lookup leaves behind: an orderly index that extends the one before. What is absent stays
rightly so. -/
structure Passes (tree : FileTree) (index later : ClassIndex) : Prop where
  orderly : later.Orderly tree
  grown : index.Extends later
  thorough : tree.Clean → index.Thorough tree → later.Thorough tree

/-- What reading files leaves behind: no name becomes absent, and the project is not taken for read. -/
structure Adds (tree : FileTree) (index later : ClassIndex) : Prop where
  orderly : later.Orderly tree
  grown : index.Extends later
  complete : later.complete = index.complete
  absent : ∀ key ∈ later.absent, key ∈ index.absent

theorem Passes.refl (orderly : index.Orderly tree) : Passes tree index index :=
  ⟨orderly, Extends.refl index, fun _ => id⟩

theorem Passes.trans (first : Passes tree index between) (second : Passes tree between later) :
    Passes tree index later :=
  ⟨second.orderly, first.grown.trans second.grown,
    fun clean early => second.thorough clean (first.thorough clean early)⟩

theorem Adds.refl (orderly : index.Orderly tree) : Adds tree index index :=
  ⟨orderly, Extends.refl index, rfl, fun _ member => member⟩

theorem Adds.trans (first : Adds tree index between) (second : Adds tree between later) :
    Adds tree index later :=
  ⟨second.orderly, first.grown.trans second.grown, second.complete.trans first.complete,
    fun key member => first.absent key (second.absent key member)⟩

theorem Adds.passes (adds : Adds tree index later) : Passes tree index later :=
  ⟨adds.orderly, adds.grown, fun _ thorough => thorough.extends adds.grown adds.complete adds.absent⟩

section Reading

/-- A file that is looked up has been read afterwards. A file that cannot be read changes nothing. -/
theorem indexFile_adds (orderly : index.Orderly tree) {path : List String} (named : tree.Names path) :
    Ends (indexFile tree path) index
      (fun declarations later => Adds tree index later ∧ (path, declarations) ∈ later.byFile)
      (fun fault later => later = index ∧ tree.declarations (.absolute path) = .error fault) := by
  rw [indexFile]
  refine Ends.get_bind ?_
  split
  case h_1 declarations known => exact Ends.pure ⟨Adds.refl orderly, mem_byFile_of_lookup known⟩
  case h_2 new =>
    refine Ends.ofExcept_bind ?_ fun _ failed => ⟨rfl, failed⟩
    intro declarations read
    refine Ends.set_bind ?_
    obtain ⟨laterOrderly, grown, absent⟩ := orderly.addFile new (named declarations read) read
    exact Ends.pure ⟨⟨laterOrderly, grown, complete_addFile index path declarations, absent⟩, by simp⟩

/-- A file that is passed over when it cannot be read. A fault is raised for a null character only. -/
theorem tryFile_adds (orderly : index.Orderly tree) {path : List String} (named : tree.Names path) :
    Ends (tryCatch (indexFile tree path) skipUnreadable) index
      (fun found later => Adds tree index later ∧ later.AllRead tree [path] ∧
        ∀ declaration ∈ found, declaration ∈ later.declarations)
      (fun _ later => Adds tree index later ∧ (Path.absolute path).hasNull = true) := by
  apply Ends.tryCatch
  refine (indexFile_adds orderly named).mono ?_ ?_
  · rintro declarations later ⟨adds, entered⟩
    have holds := (adds.orderly.read _ entered).2
    exact ⟨adds, allRead_singleton_of_mem holds entered, fun declaration member =>
      List.mem_flatMap.mpr ⟨_, entered, member⟩⟩
  · rintro fault later ⟨rfl, failed⟩
    unfold skipUnreadable
    split
    case h_1 =>
      exact Ends.pure ⟨Adds.refl orderly, allRead_singleton_of_error failed,
        fun _ impossible => absurd impossible List.not_mem_nil⟩
    case h_2 escapes =>
      exact Ends.throw ⟨Adds.refl orderly, FileTree.hasNull_of_declarations failed escapes⟩

/-- Files that are looked up have been read afterwards, apart from those that cannot be read. -/
theorem indexFiles_adds (orderly : index.Orderly tree) {paths : List (List String)}
    (named : ∀ path ∈ paths, tree.Names path) :
    Ends (indexFiles tree paths) index
      (fun found later => Adds tree index later ∧ later.AllRead tree paths ∧
        ∀ declaration ∈ found, declaration ∈ later.declarations)
      (fun _ later => Adds tree index later ∧
        ∃ path ∈ paths, (Path.absolute path).hasNull = true) := by
  induction paths generalizing index with
  | nil =>
    exact Ends.pure ⟨Adds.refl orderly, fun _ impossible => absurd impossible List.not_mem_nil,
      fun _ impossible => absurd impossible List.not_mem_nil⟩
  | cons path rest inductionHypothesis =>
    rw [List.forall_mem_cons] at named
    rw [indexFiles]
    refine Ends.bind ((tryFile_adds orderly named.1).mono (fun _ _ => id) ?_) ?_
    · rintro fault later ⟨adds, null⟩
      exact ⟨adds, path, List.mem_cons_self, null⟩
    rintro found between ⟨adds, read, lists⟩
    refine Ends.bind ((inductionHypothesis adds.orderly named.2).mono (fun _ _ => id) ?_) ?_
    · rintro fault later ⟨laterAdds, other, member, null⟩
      exact ⟨adds.trans laterAdds, other, List.mem_cons_of_mem path member, null⟩
    rintro others later ⟨laterAdds, restRead, restLists⟩
    refine Ends.pure ⟨adds.trans laterAdds, (read.grows laterAdds.grown.toGrows).cons restRead, ?_⟩
    intro declaration member
    rcases List.mem_append.mp member with here | there
    · exact laterAdds.grown.declarations (lists declaration here)
    · exact restLists declaration there

/-- The source files of a directory have been read when this returns, and they always are if the
directory can be searched. -/
theorem indexDirectory_adds (orderly : index.Orderly tree) (path : String)
    (recursive excludeVendor : Bool) :
    Ends (indexDirectory tree path recursive excludeVendor) index
      (fun found later => Adds tree index later ∧
        (∀ files, index.project.sourceFiles tree path recursive excludeVendor = .ok files →
          later.AllRead tree files) ∧
        ∀ declaration ∈ found, declaration ∈ later.declarations)
      (fun _ later => Adds tree index later ∧ (tree.Clean → ∀ files,
        index.project.sourceFiles tree path recursive excludeVendor ≠ .ok files)) := by
  rw [indexDirectory]
  refine Ends.get_bind ?_
  refine Ends.ofExcept_bind ?_ ?_
  · intro files sources
    have listed := Project.mem_files_of_sourceFiles sources
    refine (indexFiles_adds orderly fun file member =>
      FileTree.names_of_mem (listed file member)).mono ?_ ?_
    · rintro found later ⟨adds, read, lists⟩
      refine ⟨adds, fun others same => ?_, lists⟩
      rw [sources] at same
      cases same
      exact read
    · rintro fault later ⟨adds, file, member, null⟩
      refine ⟨adds, fun clean => ?_⟩
      rw [clean file (listed file member)] at null
      cases null
  · intro fault failed
    refine ⟨Adds.refl orderly, fun _ files sources => ?_⟩
    rw [failed] at sources
    cases sources

/-- The project is taken for read afterwards, and it has been read, unless there is no such directory. -/
theorem indexProject_passes (orderly : index.Orderly tree) :
    Ends (indexProject tree) index
      (fun _ later => Passes tree index later ∧ later.complete = true)
      (fun _ later => Passes tree index later) := by
  rw [indexProject]
  refine Ends.get_bind ?_
  split
  case isTrue complete =>
    exact Ends.pure ⟨Passes.refl orderly, complete⟩
  case isFalse =>
    have marked : ({ index with complete := true } : ClassIndex).Orderly tree := { orderly with }
    have grown : index.Extends { index with complete := true } :=
      extends_of_same rfl rfl rfl rfl fun _ => id
    have passes : ∀ {later}, Adds tree { index with complete := true } later →
        (tree.Clean → later.ReadAll tree) → Passes tree index later := by
      intro later adds readAll
      refine ⟨adds.orderly, grown.trans adds.grown, fun clean thorough => ⟨fun _ => readAll clean, ?_⟩⟩
      intro files sources key member
      rw [(grown.trans adds.grown).project] at sources
      exact thorough.absent files sources key (adds.absent key member)
    refine Ends.set_bind ?_
    refine Ends.bind ((indexDirectory_adds marked _ true false).mono (fun _ _ => id) ?_) ?_
    · rintro fault later ⟨adds, missing⟩
      refine passes adds fun clean files sources => ?_
      rw [(grown.trans adds.grown).project] at sources
      exact absurd sources (missing clean files)
    · rintro _ later ⟨adds, read, -⟩
      refine Ends.pure ⟨passes adds fun _ files sources => ?_, adds.complete⟩
      rw [(grown.trans adds.grown).project] at sources
      exact read files sources

end Reading

section Loading

theorem autoloadRoots_adds (orderly : index.Orderly tree) :
    Ends (autoloadRoots tree) index (fun _ later => Adds tree index later)
      (fun _ later => Adds tree index later) := by
  rw [autoloadRoots]
  refine Ends.get_bind ?_
  split
  case h_1 => exact Ends.pure (Adds.refl orderly)
  case h_2 =>
    refine Ends.ofExcept_bind ?_ fun _ _ => Adds.refl orderly
    intro roots _
    refine Ends.modify_bind ?_
    refine Ends.pure ⟨{ orderly with }, ?_, rfl, fun _ member => member⟩
    exact extends_of_same rfl rfl rfl rfl fun _ => id

theorem tryCandidates_adds (orderly : index.Orderly tree) (key : String) (paths : List Path) :
    Ends (tryCandidates tree key paths) index
      (fun found later => Adds tree index later ∧
        (found = true → (later.class? key).isSome = true))
      (fun _ later => Adds tree index later) := by
  induction paths generalizing index with
  | nil => exact Ends.pure ⟨Adds.refl orderly, fun impossible => by cases impossible⟩
  | cons path rest inductionHypothesis =>
    rw [tryCandidates]
    have named : ∀ file ∈ [tree.resolve path], tree.Names file := by
      intro file member
      rw [List.mem_singleton.mp member]
      exact tree.names_resolve path
    refine Ends.bind ((indexFiles_adds orderly named).mono (fun _ _ => id) fun _ _ => And.left) ?_
    rintro _ between ⟨adds, -⟩
    refine Ends.get_bind ?_
    split
    case isTrue known => exact Ends.pure ⟨adds, fun _ => known⟩
    case isFalse =>
      exact (inductionHypothesis adds.orderly).mono
        (fun _ later found => ⟨adds.trans found.1, found.2⟩) fun _ later => adds.trans

/-- A class that is not known may be noted as absent once the project has been read. -/
theorem note_absent_passes (orderly : index.Orderly tree) (complete : index.complete = true)
    {key : String} (unknown : index.class? key = none) :
    Passes tree index { index with absent := index.absent ++ [key] } := by
  refine ⟨{ orderly with exclusive := ?_ },
    extends_of_same rfl rfl rfl rfl fun _ => List.mem_append_left [key], ?_⟩
  · intro other member
    rcases List.mem_append.mp member with known | last
    · exact orderly.exclusive other known
    · rw [List.mem_singleton.mp last]
      exact unknown
  · intro clean thorough
    have readAll := thorough.finished complete
    refine ⟨fun _ => readAll, fun files sources other member => ?_⟩
    rcases List.mem_append.mp member with known | last
    · exact thorough.absent files sources other known
    · rw [List.mem_singleton.mp last]
      exact orderly.registered.declared?_eq_none (readAll files sources) unknown

/-- A name is settled when it has been looked up. -/
theorem load_passes (orderly : index.Orderly tree) (name : String) :
    Ends (load tree name) index
      (fun _ later => Passes tree index later ∧ later.isSettled (Name.key name) = true)
      (fun _ later => Passes tree index later) := by
  rw [load]
  refine Ends.get_bind ?_
  split
  case isTrue settled => exact Ends.pure ⟨Passes.refl orderly, settled⟩
  case isFalse =>
    refine Ends.bind ((autoloadRoots_adds orderly).mono (fun _ _ => id) fun _ _ => Adds.passes) ?_
    intro roots between adds
    refine Ends.ofExcept_bind ?_ fun _ _ => adds.passes
    intro candidates _
    refine Ends.bind ((tryCandidates_adds adds.orderly (Name.key name) candidates).mono (fun _ _ => id)
      fun _ _ tried => (adds.trans tried).passes) ?_
    rintro found tried ⟨triedAdds, known⟩
    have start := (adds.trans triedAdds).passes
    split
    case isTrue isFound =>
      refine Ends.pure ⟨start, ?_⟩
      rw [isSettled, known isFound, Bool.true_or]
    case isFalse =>
      refine Ends.bind ((indexProject_passes start.orderly).mono (fun _ _ => id)
        fun _ _ => start.trans) ?_
      rintro _ read ⟨passed, complete⟩
      refine Ends.modify ?_
      split
      case isTrue isKnown =>
        refine ⟨start.trans passed, ?_⟩
        rw [isSettled, isKnown, Bool.true_or]
      case isFalse isUnknown =>
        have noted := note_absent_passes passed.orderly complete
          (Option.not_isSome_iff_eq_none.mp isUnknown)
        exact ⟨(start.trans passed).trans noted, by simp [isSettled]⟩

/-- A lookup gives what is known of the name afterwards. -/
theorem find_passes (orderly : index.Orderly tree) (name : String) :
    Ends (find tree name) index
      (fun found later => Passes tree index later ∧ later.isSettled (Name.key name) = true ∧
        found = later.class? (Name.key name))
      (fun _ later => Passes tree index later) := by
  rw [find]
  refine Ends.bind (load_passes orderly name) ?_
  rintro _ later ⟨passed, settled⟩
  exact Ends.get_bind (Ends.pure ⟨passed, settled, rfl⟩)

end Loading

end ClassAtlas.Lookup
