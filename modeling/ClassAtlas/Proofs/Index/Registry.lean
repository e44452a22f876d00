import ClassAtlas.Proofs.Index.Absence
import ClassAtlas.Proofs.Index.Climb
import Mathlib.Data.List.Induction

/-!
Registry and graph stay in step.

An index is used for anything, while files are written, changed and removed, and faults are raised. Still
its nodes carry the names of the registered classes and no others, its edges lead from these classes to
what their declarations build on, and a name is remembered as absent only after the project has been taken
for read. Reading files keeps this step by step. The mark that all files have been read is set before they
are listed and read, so the index is not steady in between. It stays set when a fault ends the listing,
after which no file has been read.
-/

namespace ClassAtlas

/-- The names that a declaration builds on. A parent without a name is none. -/
def Declaration.bases (declaration : Declaration) : List String :=
  declaration.parentName?.toList ++ declaration.interfaces ++ declaration.traits

namespace ClassIndex

/-- Whether those files that can be read have been read. A file that was read before it changed is not
read again. -/
def HasRead (tree : FileTree) (files : List (List String)) (index : ClassIndex) : Prop :=
  ∀ path ∈ files, ∀ declarations, tree.declarations (.absolute path) = .ok declarations →
    path ∈ index.byFile.map (·.1)

/-- Whether all source files that the project has in a file tree have been read. Where they cannot be
listed, nothing is known of them: the project is taken for read before that is tried. -/
def Explored (tree : FileTree) (index : ClassIndex) : Prop :=
  ∀ files, index.project.sourceFiles tree (Path.absolute index.project.root).render true false =
    .ok files → index.HasRead tree files

/-- Whether registry and graph are in step while files are being read. -/
structure Filed (index : ClassIndex) : Prop extends index.Coherent where
  keyed : ∀ key declaration, index.class? key = some declaration → Name.key declaration.name = key
  registered : index.Registered

/-- Whether registry, graph and absent names are in step between lookups. -/
structure Steady (index : ClassIndex) : Prop extends index.Filed where
  noted : ∀ key ∈ index.absent, index.complete = true

/-- What reading files leaves behind: the files that were read before stay, no name becomes absent, and
the project is not taken for read. -/
structure ReadsOn (index later : ClassIndex) : Prop extends later.Filed where
  project : later.project = index.project
  files : index.byFile <+: later.byFile
  complete : later.complete = index.complete
  absent : ∀ key ∈ later.absent, key ∈ index.absent

/-- What a lookup in a file tree leaves behind: a steady index that knows the files that were read before.
If the project is taken for read now, then it has been explored in this file tree. -/
structure MovesOn (tree : FileTree) (index later : ClassIndex) : Prop extends later.Steady where
  project : later.project = index.project
  files : index.byFile <+: later.byFile
  complete : index.complete = true → later.complete = true
  explored : index.complete = false → later.complete = true → tree.Clean → later.Explored tree

section Edges

variable {declaration : Declaration}

theorem map_target_edgesOf (declaration : Declaration) :
    (edgesOf declaration).map (·.target) = declaration.bases.map Name.key := by
  have parents : declaration.parent.toList.filter (!·.isEmpty) = declaration.parentName?.toList := by
    rw [Declaration.parentName?]
    cases declaration.parent with
    | none => rfl
    | some name => by_cases empty : name = "" <;> simp [empty, Option.filter]
  simp only [edgesOf, Declaration.bases, parents, List.map_append, List.map_map]
  rfl

/-- The edges of a declaration lead to what it builds on, and nowhere else. -/
theorem mem_targets_outgoing {target : String} :
    target ∈ (outgoing declaration).map (·.target) ↔ target ∈ declaration.bases.map Name.key := by
  rw [← map_target_edgesOf]
  constructor
  · intro member
    obtain ⟨edge, isEdge, same⟩ := List.mem_map.mp member
    exact List.mem_map.mpr ⟨edge, mem_edgesOf_of_mem_outgoing isEdge, same⟩
  · intro member
    obtain ⟨edge, brought, same⟩ := List.mem_map.mp member
    -- Of several edges to the target, the last one stays.
    have found : ((edgesOf declaration).reverse.find? (·.target == target)).isSome = true :=
      List.find?_isSome.mpr ⟨edge, List.mem_reverse.mpr brought, beq_iff_eq.mpr same⟩
    obtain ⟨last, isLast⟩ := Option.isSome_iff_exists.mp found
    exact List.mem_map.mpr ⟨last, mem_outgoing_of_find? isLast, by simpa using List.find?_some isLast⟩

end Edges

section Filed

variable {index between later : ClassIndex} {tree : FileTree}

theorem empty_steady (project : Project) : (empty project).Steady where
  edges := by simp [empty, class?, edgesFrom]
  names _ := rfl
  exclusive := by simp [empty]
  keyed := by simp [empty, class?]
  registered := by simp [Registered, empty]
  noted := by simp [empty]

theorem Explored.of_isPrefix (explored : index.Explored tree) (project : later.project = index.project)
    (files : index.byFile <+: later.byFile) : later.Explored tree := by
  intro found sources path listed declarations read
  rw [project] at sources
  exact (files.map (·.1)).subset (explored found sources path listed declarations read)

theorem Filed.readsOn (filed : index.Filed) : index.ReadsOn index where
  toFiled := filed
  project := rfl
  files := List.prefix_rfl
  complete := rfl
  absent _ := id

theorem ReadsOn.trans (first : index.ReadsOn between) (second : between.ReadsOn later) :
    index.ReadsOn later where
  toFiled := second.toFiled
  project := second.project.trans first.project
  files := first.files.trans second.files
  complete := second.complete.trans first.complete
  absent key member := first.absent key (second.absent key member)

theorem Steady.movesOn (steady : index.Steady) (tree : FileTree) : MovesOn tree index index where
  toSteady := steady
  project := rfl
  files := List.prefix_rfl
  complete := id
  explored unread read := by
    rw [unread] at read
    cases read

theorem MovesOn.trans (first : MovesOn tree index between) (second : MovesOn tree between later) :
    MovesOn tree index later where
  toSteady := second.toSteady
  project := second.project.trans first.project
  files := first.files.trans second.files
  complete read := second.complete (first.complete read)
  explored unread read clean := by
    by_cases done : between.complete = true
    · exact (first.explored unread done clean).of_isPrefix second.project second.files
    · exact second.explored (Bool.not_eq_true _ ▸ done) read clean

/-- Reading files keeps an index steady. -/
theorem Steady.of_readsOn (steady : index.Steady) (reads : index.ReadsOn later) :
    MovesOn tree index later where
  toFiled := reads.toFiled
  noted key member := by
    rw [reads.complete]
    exact steady.noted key (reads.absent key member)
  project := reads.project
  files := reads.files
  complete read := reads.complete.trans read
  explored unread read := by
    rw [reads.complete, unread] at read
    cases read

theorem keyed_foldl_add
    (keyed : ∀ key declaration, index.class? key = some declaration → Name.key declaration.name = key)
    (declarations : List Declaration) {key : String} {declaration : Declaration}
    (known : (declarations.foldl add index).class? key = some declaration) :
    Name.key declaration.name = key := by
  rw [class?_foldl_add_eq, Option.or_eq_some_iff] at known
  rcases known with known | ⟨-, found⟩
  · exact keyed key declaration known
  · simpa using List.find?_some found

/-- Registering a class by hand keeps registry and graph in step. -/
theorem Filed.add (filed : index.Filed) (declaration : Declaration) :
    index.ReadsOn (index.add declaration) where
  toCoherent := filed.toCoherent.add declaration
  keyed _ _ known := keyed_foldl_add filed.keyed [declaration] known
  registered := by
    intro entry entered found member
    rw [byFile_add] at entered
    rw [class?_add, Option.isSome_or, filed.registered entry entered found member, Bool.true_or]
  project := project_add index declaration
  files := by simp [byFile_add]
  complete := complete_add index declaration
  absent _ member := (absent_add member).1

/-- Reading a file keeps registry and graph in step. -/
theorem Filed.addFile (filed : index.Filed) (path : List String) (declarations : List Declaration) :
    index.ReadsOn (index.addFile path declarations) := by
  let entered : ClassIndex := { index with byFile := index.byFile ++ [(path, declarations)] }
  have coherent : entered.Coherent := { filed.toCoherent with }
  have keyed : ∀ key declaration, entered.class? key = some declaration →
    Name.key declaration.name = key := filed.keyed
  obtain ⟨project, absent⟩ := project_foldl_add entered declarations
  exact
    { toCoherent := coherent.foldl_add declarations
      keyed := fun _ _ known => keyed_foldl_add keyed declarations known
      registered := filed.registered.addFile
      project := project
      files := by simp
      complete := complete_addFile index path declarations
      absent := absent }

/-- Once the project is taken for read, a class that is not known may be noted as absent. -/
theorem Steady.note_absent (steady : index.Steady) (complete : index.complete = true)
    {key : String} (unknown : index.class? key = none) :
    MovesOn tree index { index with absent := index.absent ++ [key] } := by
  have exclusive : ∀ other ∈ index.absent ++ [key], index.class? other = none := by
    intro other member
    rcases List.mem_append.mp member with known | last
    · exact steady.exclusive other known
    · rw [List.mem_singleton.mp last]
      exact unknown
  have noted : ({ index with absent := index.absent ++ [key] } : ClassIndex).Steady :=
    { steady with exclusive := exclusive, noted := fun _ _ => complete }
  refine ⟨noted, rfl, List.prefix_rfl, id, fun unread => ?_⟩
  rw [complete] at unread
  cases unread

end Filed

end ClassIndex

namespace Lookup

open ClassIndex

variable {index : ClassIndex} {tree : FileTree}

/-- A file that is looked up has been read afterwards. A file that cannot be read changes nothing. -/
theorem indexFile_readsOn (filed : index.Filed) (path : List String) :
    Ends (indexFile tree path) index
      (fun _ later => index.ReadsOn later ∧ path ∈ later.byFile.map (·.1))
      (fun fault later => later = index ∧ tree.declarations (.absolute path) = .error fault) := by
  rw [indexFile]
  refine Ends.get_bind ?_
  split
  case h_1 declarations known =>
    have entered := mem_byFile_of_lookup known
    exact Ends.pure ⟨filed.readsOn, List.mem_map_of_mem entered⟩
  case h_2 new =>
    refine Ends.ofExcept_bind (fun declarations read => ?_) fun _ failed => ⟨rfl, failed⟩
    refine Ends.set_bind (Ends.pure ⟨filed.addFile path declarations, ?_⟩)
    rw [byFile_addFile, List.map_append]
    simp

/-- Those files that can be read have been read afterwards, unless there is a null character in a path. -/
theorem indexFiles_readsOn (filed : index.Filed) (paths : List (List String)) :
    Ends (indexFiles tree paths) index
      (fun _ later => index.ReadsOn later ∧ later.HasRead tree paths)
      (fun _ later => index.ReadsOn later ∧
        ∃ path ∈ paths, (Path.absolute path).hasNull = true) := by
  induction paths generalizing index with
  | nil => exact Ends.pure ⟨filed.readsOn, fun _ impossible => by cases impossible⟩
  | cons path rest inductionHypothesis =>
    rw [indexFiles]
    have first : Ends (tryCatch (indexFile tree path) skipUnreadable) index
        (fun _ later => index.ReadsOn later ∧ later.HasRead tree [path])
        (fun _ later => index.ReadsOn later ∧ (Path.absolute path).hasNull = true) := by
      apply Ends.tryCatch
      refine (indexFile_readsOn filed path).mono ?_ ?_
      · rintro declarations later ⟨reads, entered⟩
        refine ⟨reads, fun other listed _ _ => ?_⟩
        rwa [List.mem_singleton.mp listed]
      · rintro fault later ⟨rfl, failed⟩
        unfold skipUnreadable
        split
        case h_1 =>
          refine Ends.pure ⟨filed.readsOn, fun other listed declarations read => ?_⟩
          rw [List.mem_singleton.mp listed, failed] at read
          cases read
        case h_2 escapes =>
          exact Ends.throw ⟨filed.readsOn, FileTree.hasNull_of_declarations failed escapes⟩
    refine Ends.bind (first.mono (fun _ _ => id) ?_) ?_
    · rintro _ later ⟨reads, null⟩
      exact ⟨reads, path, List.mem_cons_self, null⟩
    rintro _ between ⟨reads, read⟩
    refine Ends.bind ((inductionHypothesis reads.toFiled).mono (fun _ _ => id) ?_) ?_
    · rintro _ later ⟨others, other, member, null⟩
      exact ⟨reads.trans others, other, List.mem_cons_of_mem path member, null⟩
    rintro _ later ⟨others, restRead⟩
    refine Ends.pure ⟨reads.trans others, ?_⟩
    intro other member declarations isRead
    rcases List.mem_cons.mp member with rfl | listed
    · exact (others.files.map (·.1)).subset (read _ List.mem_cons_self declarations isRead)
    · exact restRead other listed declarations isRead

/-- The source files of a directory have been read when this returns. A fault is raised when the directory
cannot be listed, and else for a null character only. -/
theorem indexDirectory_readsOn (filed : index.Filed) (path : String) (recursive excludeVendor : Bool) :
    Ends (indexDirectory tree path recursive excludeVendor) index
      (fun _ later => index.ReadsOn later ∧
        ∀ files, index.project.sourceFiles tree path recursive excludeVendor = .ok files →
          later.HasRead tree files)
      (fun _ later => index.ReadsOn later ∧ (tree.Clean → ∀ files,
        index.project.sourceFiles tree path recursive excludeVendor ≠ .ok files)) := by
  rw [indexDirectory]
  refine Ends.get_bind (Ends.ofExcept_bind ?_ ?_)
  · intro files sources
    refine (indexFiles_readsOn filed files).mono ?_ ?_
    · rintro _ later ⟨reads, read⟩
      refine ⟨reads, fun others same => ?_⟩
      rw [sources] at same
      cases same
      exact read
    · rintro _ later ⟨reads, file, listed, null⟩
      refine ⟨reads, fun clean _ _ => ?_⟩
      rw [clean file (Project.mem_files_of_sourceFiles sources file listed)] at null
      cases null
  · intro fault failed
    refine ⟨filed.readsOn, fun _ files sources => ?_⟩
    rw [failed] at sources
    cases sources

/-- Whether a lookup moves on from every steady index, also when it raises a fault. -/
def Moves (tree : FileTree) {α : Type} (action : Lookup α) : Prop :=
  ∀ index, index.Steady →
    Ends action index (fun _ later => MovesOn tree index later) fun _ later => MovesOn tree index later

theorem moves_compositional (tree : FileTree) : Compositional (Moves tree) where
  pure _ _ steady := Ends.pure (steady.movesOn tree)
  bind first rest index steady := by
    refine Ends.bind (first index steady) fun value between moved => ?_
    exact (rest value between moved.toSteady).mono (fun _ _ => moved.trans) fun _ _ => moved.trans

theorem indexFile_moves (tree : FileTree) (path : List String) : Moves tree (indexFile tree path) := by
  intro index steady
  refine (indexFile_readsOn steady.toFiled path).mono ?_ ?_
  · exact fun _ _ ends => steady.of_readsOn ends.1
  · rintro _ later ⟨rfl, -⟩
    exact steady.movesOn tree

theorem indexFiles_moves (tree : FileTree) (paths : List (List String)) :
    Moves tree (indexFiles tree paths) :=
  fun _ steady => (indexFiles_readsOn steady.toFiled paths).mono
    (fun _ _ ends => steady.of_readsOn ends.1) fun _ _ ends => steady.of_readsOn ends.1

theorem indexDirectory_moves (tree : FileTree) (path : String) (recursive excludeVendor : Bool) :
    Moves tree (indexDirectory tree path recursive excludeVendor) :=
  fun _ steady => (indexDirectory_readsOn steady.toFiled path recursive excludeVendor).mono
    (fun _ _ ends => steady.of_readsOn ends.1) fun _ _ ends => steady.of_readsOn ends.1

/-- The project is taken for read when this returns. -/
theorem indexProject_movesOn (steady : index.Steady) :
    Ends (indexProject tree) index
      (fun _ later => MovesOn tree index later ∧ later.complete = true)
      (fun _ later => MovesOn tree index later) := by
  rw [indexProject]
  refine Ends.get_bind ?_
  split
  case isTrue complete => exact Ends.pure ⟨steady.movesOn tree, complete⟩
  case isFalse unread =>
    have marked : ({ index with complete := true } : ClassIndex).Filed := { steady.toFiled with }
    -- Whether all files could be read or not, the project was explored in this file tree.
    have settles : ∀ later, ({ index with complete := true } : ClassIndex).ReadsOn later →
        (tree.Clean → later.Explored tree) → MovesOn tree index later := by
      intro later reads explored
      exact ⟨⟨reads.toFiled, fun _ _ => reads.complete⟩, reads.project, reads.files,
        fun _ => reads.complete, fun _ _ => explored⟩
    refine Ends.set_bind (Ends.bind ((indexDirectory_readsOn marked
      (Path.absolute index.project.root).render true false).mono (fun _ _ => id) ?_) ?_)
    · rintro _ later ⟨reads, unlisted⟩
      refine settles later reads fun clean files sources => ?_
      rw [reads.project] at sources
      exact absurd sources (unlisted clean files)
    · rintro _ later ⟨reads, read⟩
      refine Ends.pure ⟨settles later reads fun _ files sources => ?_, reads.complete⟩
      rw [reads.project] at sources
      exact read files sources

theorem autoloadRoots_moves (tree : FileTree) : Moves tree (autoloadRoots tree) := by
  intro index steady
  rw [autoloadRoots]
  refine Ends.get_bind ?_
  split
  case h_1 => exact Ends.pure (steady.movesOn tree)
  case h_2 =>
    refine Ends.ofExcept_bind (fun roots _ => ?_) fun _ _ => steady.movesOn tree
    have same := steady.movesOn tree
    exact Ends.modify_bind (Ends.pure { same with })

theorem tryCandidates_moves (tree : FileTree) (key : String) (paths : List Path) :
    Moves tree (tryCandidates tree key paths) := by
  have composes := moves_compositional tree
  induction paths with
  | nil => exact composes.pure false
  | cons path rest inductionHypothesis =>
    rw [tryCandidates]
    refine composes.bind (indexFiles_moves tree _) fun _ => ?_
    refine composes.bind (fun _ steady => Ends.of_get (steady.movesOn tree)) fun index => ?_
    split
    · exact composes.pure true
    · exact inductionHypothesis

/-- What a search notes to be absent was not found, and the project is taken for read then. -/
theorem load_moves (tree : FileTree) (name : String) : Moves tree (load tree name) := by
  have composes := moves_compositional tree
  intro index steady
  rw [load]
  refine Ends.get_bind ?_
  split
  case isTrue => exact Ends.pure (steady.movesOn tree)
  case isFalse =>
    refine composes.bind (autoloadRoots_moves tree) (fun roots => ?_) index steady
    intro start startSteady
    refine Ends.ofExcept_bind (fun paths _ => ?_) fun _ _ => startSteady.movesOn tree
    refine composes.bind (tryCandidates_moves tree _ paths) (fun found => ?_) start startSteady
    split
    case isTrue => exact composes.pure ()
    case isFalse =>
      intro tried triedSteady
      refine Ends.bind (indexProject_movesOn triedSteady) ?_
      rintro _ later ⟨moved, complete⟩
      refine Ends.modify ?_
      split
      case isTrue => exact moved
      case isFalse unknown =>
        have missing := Option.not_isSome_iff_eq_none.mp unknown
        exact moved.trans (moved.toSteady.note_absent complete missing)

namespace Action

theorem perform_moves (tree : FileTree) (action : Action) : Moves tree (action.perform tree) :=
  holds_perform (moves_compositional tree) (fun _ steady => Ends.of_get (steady.movesOn tree))
    (fun declaration _ steady => Ends.modify (steady.of_readsOn (steady.add declaration)))
    (load_moves tree) (fun path => indexFile_moves tree (tree.resolve path))
    (indexDirectory_moves tree) action

/-- The index that actions leave, each taken in the file tree of its time, whether they return or raise a
fault. -/
def replay (index : ClassIndex) (steps : List (FileTree × Action)) : ClassIndex :=
  steps.foldl (fun index step => (outcome (step.2.perform step.1) index).2) index

theorem replay_append_singleton (index : ClassIndex) (steps : List (FileTree × Action))
    (step : FileTree × Action) :
    replay index (steps ++ [step]) = (outcome (step.2.perform step.1) (replay index steps)).2 := by
  rw [replay, List.foldl_append]
  rfl

/-- Whether a file tree is the one in which the project was taken for read. -/
def TakenForRead (project : Project) (steps : List (FileTree × Action)) (tree : FileTree) : Prop :=
  ∃ before action after, steps = before ++ (tree, action) :: after ∧
    (replay (.empty project) before).complete = false ∧
    (replay (.empty project) (before ++ [(tree, action)])).complete = true

/-- A new index stays steady. Once the project is taken for read, all source files that it has in the file
tree of that time have been read, if they could be listed. -/
theorem replay_steady (project : Project) (steps : List (FileTree × Action)) :
    (replay (.empty project) steps).Steady ∧
      ((replay (.empty project) steps).complete = true → ∃ tree, TakenForRead project steps tree ∧
        (tree.Clean → (replay (.empty project) steps).Explored tree)) := by
  -- The induction is on the last step, since what was explored before it stays so.
  induction steps using List.reverseRecOn with
  | nil => exact ⟨empty_steady project, fun impossible => by cases impossible⟩
  | append_singleton steps step inductionHypothesis =>
    obtain ⟨steady, explored⟩ := inductionHypothesis
    have moved := (perform_moves step.1 step.2 _ steady).left
    rw [← replay_append_singleton] at moved
    refine ⟨moved.toSteady, fun complete => ?_⟩
    by_cases done : (replay (.empty project) steps).complete = true
    · obtain ⟨tree, ⟨before, action, after, rfl, unread, read⟩, kept⟩ := explored done
      refine ⟨tree, ⟨before, action, after ++ [step], by simp, unread, read⟩, fun clean => ?_⟩
      exact (kept clean).of_isPrefix moved.project moved.files
    · have unread : (replay (.empty project) steps).complete = false := Bool.not_eq_true _ ▸ done
      exact ⟨step.1, ⟨steps, step.2, [], rfl, unread, complete⟩, moved.explored unread complete⟩

end Action

end Lookup

namespace ClassIndex

/-- Whether registry, graph and absent names are in step. -/
structure InStep (index : ClassIndex) : Prop where
  /-- A class is registered under the key of its name, and the node with this key carries the name. -/
  registered : ∀ key declaration, index.class? key = some declaration →
    Name.key declaration.name = key ∧ index.nodeName? key = some declaration.name
  /-- What carries a name is registered under it. -/
  named : ∀ key name, index.nodeName? key = some name →
    ∃ declaration, index.class? key = some declaration ∧ declaration.name = name
  /-- Edges start at registered classes only. -/
  sources : ∀ edge ∈ index.edges, (index.class? edge.source).isSome = true
  /-- The edges of a class lead to what its declaration builds on, and nowhere else. -/
  targets : ∀ key declaration, index.class? key = some declaration → ∀ target,
    (∃ edge ∈ index.edges, edge.source = key ∧ edge.target = target) ↔
      target ∈ declaration.bases.map Name.key
  /-- An edge leads to the key of the name that it has for its target. -/
  spelled : ∀ edge ∈ index.edges, Name.key edge.name = edge.target
  exclusive : ∀ key ∈ index.absent, index.class? key = none

theorem Steady.inStep {index : ClassIndex} (steady : index.Steady) : index.InStep where
  registered key declaration known := by
    refine ⟨steady.keyed key declaration known, ?_⟩
    rw [steady.names, known, Option.map_some]
  named key name carried := by
    rw [steady.names] at carried
    exact Option.map_eq_some_iff.mp carried
  sources edge member := by
    obtain ⟨declaration, known, -⟩ := steady.mem_edges_iff.mp member
    rw [known, Option.isSome_some]
  targets key declaration known target := by
    rw [← mem_targets_outgoing, List.mem_map]
    constructor
    · rintro ⟨edge, member, rfl, isTarget⟩
      obtain ⟨other, isOther, own⟩ := steady.mem_edges_iff.mp member
      rw [known] at isOther
      cases isOther
      exact ⟨edge, own, isTarget⟩
    · rintro ⟨edge, own, isTarget⟩
      have isSource : edge.source = key :=
        (source_of_mem_edgesOf (mem_edgesOf_of_mem_outgoing own)).1.trans
          (steady.keyed key declaration known)
      exact ⟨edge, steady.mem_edges_iff.mpr ⟨declaration, isSource ▸ known, own⟩, isSource, isTarget⟩
  spelled edge member := (steady.target_eq member).symm
  exclusive := steady.exclusive

end ClassIndex

namespace Lookup

open ClassIndex

/-- Registry and graph are in step whatever a new index has been used for. A name is held to be absent only
after the project has been taken for read: then all source files that it had in the file tree of that time
have been read, apart from those that could not be, and what stands in files that were read is registered.
Where a fault kept the files from being listed, none of them need have been read. Nothing is said of file
trees with null characters in paths. -/
theorem inStep_replay (project : Project) (steps : List (FileTree × Action)) :
    (Action.replay (.empty project) steps).InStep ∧
      ∀ key ∈ (Action.replay (.empty project) steps).absent,
        (Action.replay (.empty project) steps).complete = true ∧
        (Action.replay (.empty project) steps).Registered ∧
        ∃ tree, Action.TakenForRead project steps tree ∧
          (tree.Clean → (Action.replay (.empty project) steps).Explored tree) := by
  obtain ⟨steady, explored⟩ := Action.replay_steady project steps
  refine ⟨steady.inStep, fun key member => ?_⟩
  have complete := steady.noted key member
  exact ⟨complete, steady.registered, explored complete⟩

/-- A source with a class whose parent has no name. -/
def namelessSource : Source where
  bytes := Utf8.encode "<?php class A extends \\ {}"
  root := .mk ⟨"program", true, "", 0, 26⟩ [
    .mk ⟨"class_declaration", true, "", 6, 26⟩ [
      .mk ⟨"name", true, "name", 12, 13⟩ [],
      .mk ⟨"base_clause", true, "", 14, 23⟩ [.mk ⟨"qualified_name", true, "", 22, 23⟩ []]]]

def namelessTree : FileTree where
  workingDirectory := ["app"]
  files := [(["app", "A.php"], ⟨namelessSource, true⟩)]
  directories := [["app"]]

/-- A class that no file declares is held to be absent, and the one file has been read. -/
theorem inStep_replay_absent :
    let index := Action.replay (.empty familyProject) [(namelessTree, .ask (.get "B"))]
    index.absent = ["b"] ∧ index.InStep ∧ index.complete = true ∧
      index.HasRead namelessTree [["app", "A.php"]] := by
  intro index
  have absent : index.absent = ["b"] := by decide +kernel
  obtain ⟨inStep, noted⟩ := inStep_replay familyProject [(namelessTree, .ask (.get "B"))]
  have member : "b" ∈ index.absent := by simp [absent]
  obtain ⟨complete, -, tree, ⟨before, action, after, only, -, -⟩, explored⟩ := noted "b" member
  have same : tree = namelessTree := by
    cases before with
    | nil =>
      cases only
      rfl
    | cons first rest => simp at only
  subst same
  have clean : ∀ path ∈ namelessTree.files.map (·.1), (Path.absolute path).hasNull = false := by
    decide +kernel
  have sources : index.project.sourceFiles namelessTree (Path.absolute index.project.root).render true
      false = .ok [["app", "A.php"]] := by decide +kernel
  exact ⟨absent, inStep, complete, explored clean _ sources⟩

/-- The same file, and another one in a directory in which nothing can be looked up. -/
def shutTree : FileTree where
  workingDirectory := ["app"]
  files := [(["app", "A.php"], ⟨namelessSource, true⟩), (["app", "shut", "B.php"], ⟨namelessSource, true⟩)]
  directories := [["app"], ["app", "shut"]]
  closed := [["app", "shut"]]

/-- A listing that ended in a fault is not tried again: the second lookup holds a class to be absent that
stands in a readable file. -/
example :
    let index := Action.replay (.empty familyProject)
      [(shutTree, .ask (.get "A")), (shutTree, .ask (.get "A"))]
    index.absent = ["a"] ∧ index.complete = true ∧ index.byFile.map (·.1) = [] := by
  decide +kernel

/-- A new index after this source has been read. -/
def namelessIndex : ClassIndex :=
  Action.replay (.empty familyProject) [(namelessTree, .ask (.indexDirectory "." true false))]

/-- No edge leads to a parent without a name, though it is the parent of the declaration. -/
theorem not_edge_to_every_parent :
    ¬ ∀ key declaration, namelessIndex.class? key = some declaration → ∀ target,
      (∃ edge ∈ namelessIndex.edges, edge.source = key ∧ edge.target = target) ↔
        target ∈ (declaration.parent.toList ++ declaration.interfaces ++ declaration.traits).map
          Name.key := by
  have facts : namelessIndex.edges = [] ∧
      ∃ declaration ∈ namelessIndex.class? "a", declaration.parent = some "" := by
    decide +kernel
  obtain ⟨noEdges, declaration, known, parent⟩ := facts
  intro every
  have listed : Name.key "" ∈
      (declaration.parent.toList ++ declaration.interfaces ++ declaration.traits).map Name.key := by
    simp [parent]
  obtain ⟨edge, member, -⟩ := (every "a" declaration known (Name.key "")).mpr listed
  rw [noEdges] at member
  cases member

end Lookup

end ClassAtlas
