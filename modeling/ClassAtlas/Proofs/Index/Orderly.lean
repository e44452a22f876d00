import ClassAtlas.Proofs.Files.Reading
import ClassAtlas.Proofs.Index.BreadthFirst
import ClassAtlas.Proofs.Index.Loading

/-!
What holds of every index.

Nothing is assumed of the project here: classes may be declared twice, files may lie outside of it, and
lookups may raise faults. What is registered was read from a file of the file tree, has the edges of its
declaration, and is not absent. Every lookup keeps this, also when it raises a fault, and forgets
nothing. What is absent is not declared in the project, unless a path holds a null character.
-/

namespace ClassAtlas

namespace Path

theorem notMem_collapse {kept parts : List String} (plain : ".." ∉ kept) :
    ".." ∉ collapse kept parts := by
  induction parts generalizing kept with
  | nil => simpa [collapse] using plain
  | cons part rest inductionHypothesis =>
    rw [collapse]
    split
    case isTrue => exact inductionHypothesis fun member => plain (List.mem_of_mem_tail member)
    case isFalse named =>
      refine inductionHypothesis ?_
      rw [List.mem_cons, not_or]
      exact ⟨fun same => named (by simp [← same]), plain⟩

end Path

namespace FileTree

variable {tree : FileTree} {directory parts path place : List String}

/-- A path without double dots leads to the place that it names. -/
theorem place_of_follow {file : File} (plain : ".." ∉ parts)
    (found : tree.follow directory parts = .file place file) : place = directory ++ parts := by
  induction parts generalizing directory with
  | nil => cases found
  | cons part rest inductionHypothesis =>
    rw [List.mem_cons, not_or] at plain
    cases (step_of_follow found).2 with
    | up double => exact absurd double.symm plain.1
    | down _ _ _ onward =>
      rw [List.append_cons]
      exact inductionHypothesis plain.2 onward
    | last _ ends isPlace => rw [isPlace, ends]

/-- Whether a path can be read only if it is the path of a file. -/
def Names (tree : FileTree) (path : List String) : Prop :=
  ∀ declarations, tree.declarations (.absolute path) = .ok declarations →
    path ∈ tree.files.map (·.1)

/-- Whether no path of a file holds a null character, as in every file system. -/
def Clean (tree : FileTree) : Prop :=
  ∀ path ∈ tree.files.map (·.1), (Path.absolute path).hasNull = false

theorem names_of_mem (member : path ∈ tree.files.map (·.1)) : tree.Names path := fun _ _ => member

theorem names_resolve (tree : FileTree) (path : Path) : tree.Names (tree.resolve path) := by
  intro declarations read
  have plain : ".." ∉ tree.resolve path := Path.notMem_collapse List.not_mem_nil
  generalize tree.resolve path = parts at read plain
  rw [FileTree.declarations] at read
  split at read
  · cases read
  split at read
  · cases read
  case h_2 source isRead =>
    rw [readSource] at isRead
    split at isRead
    case h_1 place file found =>
      rw [find] at found
      split at found
      · cases found
      split at found
      · cases found
      · rw [place_of_follow plain found] at found
        exact List.mem_map.mpr ⟨_, mem_files_of_follow found, rfl⟩
    all_goals cases isRead

end FileTree

theorem Project.mem_files_of_sourceFiles {project : Project} {tree : FileTree} {path : String}
    {recursive excludeVendor : Bool} {files : List (List String)}
    (listed : project.sourceFiles tree path recursive excludeVendor = .ok files) :
    ∀ file ∈ files, file ∈ tree.files.map (·.1) := by
  intro file member
  obtain ⟨directory, -, found⟩ := exists_directory_of_sourceFiles listed
  exact (List.mem_filter.mp (found.mem_iff.mp member)).1

namespace ClassIndex

/-- The declarations of the files that were read, in the order in which these were read. -/
def declarations (index : ClassIndex) : List Declaration := index.byFile.flatMap (·.2)

/-- Whether classes, nodes, edges and absent names fit together. -/
structure Coherent (index : ClassIndex) : Prop where
  /-- The edges of a class are those of its declaration. -/
  edges : ∀ key, edgesFrom index.edges key = ((index.class? key).map outgoing).getD []
  names : index.Named
  /-- No class is both known and absent. -/
  exclusive : ∀ key ∈ index.absent, index.class? key = none

/-- What holds of an index whatever has been asked of it. -/
structure Orderly (tree : FileTree) (index : ClassIndex) : Prop extends index.Coherent where
  /-- The first declaration of a class counts. -/
  classes : ∀ key, index.class? key = index.declarations.find? (Name.key ·.name == key)
  /-- Files that were read are files of the tree, and known by what they hold. -/
  read : ∀ entry ∈ index.byFile, entry.1 ∈ tree.files.map (·.1) ∧
    tree.declarations (.absolute entry.1) = .ok entry.2
  distinct : (index.byFile.map (·.1)).Nodup

/-- Nothing is forgotten, and no class is replaced. -/
structure Extends (index later : ClassIndex) : Prop extends index.Grows later where
  project : later.project = index.project
  classes : ∀ key declaration, index.class? key = some declaration →
    later.class? key = some declaration

/-- Whether all source files of the project have been read. -/
def ReadAll (tree : FileTree) (index : ClassIndex) : Prop :=
  ∀ files, index.project.sourceFiles tree (Path.absolute index.project.root).render true false =
    .ok files → index.AllRead tree files

/-- Whether what an index holds to be absent is not declared in the project. -/
structure Thorough (tree : FileTree) (index : ClassIndex) : Prop where
  finished : index.complete = true → index.ReadAll tree
  absent : ∀ files, index.project.sourceFiles tree (Path.absolute index.project.root).render true
    false = .ok files → ∀ key ∈ index.absent, tree.declared? files key = none

section Edges

variable {edges entered : List Edge} {edge : Edge} {key : String}

/-- Entering an edge of a source keeps the targets of the source different. -/
theorem nodup_insertEdge (own : ∀ known ∈ edges, known.source = edge.source)
    (distinct : (edges.map (·.target)).Nodup) :
    ((insertEdge edges edge).map (·.target)).Nodup := by
  induction edges with
  | nil => simp [insertEdge]
  | cons known rest inductionHypothesis =>
    rw [List.forall_mem_cons] at own
    rw [List.map_cons, List.nodup_cons] at distinct
    rw [insertEdge]
    split
    case isTrue same =>
      rw [Bool.and_eq_true, beq_iff_eq, beq_iff_eq] at same
      rw [List.map_cons, List.nodup_cons, ← same.2]
      exact distinct
    case isFalse other =>
      rw [List.map_cons, List.nodup_cons]
      refine ⟨fun member => ?_, inductionHypothesis own.2 distinct.2⟩
      obtain ⟨found, listed, same⟩ := List.mem_map.mp member
      rcases mem_insertEdge listed with early | rfl
      · exact distinct.1 (List.mem_map.mpr ⟨found, early, same⟩)
      · exact other (by simp [own.1, same])

/-- Edges of one source stay so when another edge of the source is entered. -/
theorem source_of_mem_insertEdge (own : edge.source = key)
    (known : ∀ edge ∈ edges, edge.source = key) : ∀ other ∈ insertEdge edges edge, other.source = key := by
  intro other member
  rcases mem_insertEdge member with early | rfl
  · exact known other early
  · exact own

theorem nodup_foldl_insertEdge (own : ∀ edge ∈ entered, edge.source = key)
    (known : ∀ edge ∈ edges, edge.source = key) (distinct : (edges.map (·.target)).Nodup) :
    ((entered.foldl insertEdge edges).map (·.target)).Nodup := by
  induction entered generalizing edges with
  | nil => exact distinct
  | cons edge rest inductionHypothesis =>
    rw [List.forall_mem_cons] at own
    refine inductionHypothesis own.2 (source_of_mem_insertEdge own.1 known) (nodup_insertEdge ?_ distinct)
    exact fun other member => (known other member).trans own.1.symm

end Edges

section Extensions

variable {tree : FileTree} {index between later : ClassIndex}

theorem Extends.refl (index : ClassIndex) : index.Extends index where
  toGrows := Grows.refl index
  project := rfl
  classes _ _ known := known

theorem Extends.trans (first : index.Extends between) (second : between.Extends later) :
    index.Extends later where
  toGrows := first.toGrows.trans second.toGrows
  project := second.project.trans first.project
  classes key declaration known := second.classes key declaration (first.classes key declaration known)

/-- What is read, known and connected stays the same, and what is absent stays absent. -/
theorem extends_of_same (files : later.byFile = index.byFile) (classes : later.classes = index.classes)
    (edges : later.edges = index.edges) (project : later.project = index.project)
    (absent : ∀ key ∈ index.absent, key ∈ later.absent) : index.Extends later where
  files := files ▸ List.prefix_rfl
  same _ := ⟨classes, edges⟩
  settled key settled := by
    rw [isSettled, Bool.or_eq_true, List.contains_iff_mem] at settled ⊢
    rw [class?, classes]
    exact settled.imp_right (absent key)
  project := project
  classes key declaration known := by
    rw [class?, classes]
    exact known

theorem Extends.declarations (grown : index.Extends later) {declaration : Declaration}
    (listed : declaration ∈ index.declarations) : declaration ∈ later.declarations := by
  obtain ⟨entry, entered, member⟩ := List.mem_flatMap.mp listed
  exact List.mem_flatMap.mpr ⟨entry, grown.files.subset entered, member⟩

theorem ReadAll.extends (readAll : index.ReadAll tree) (grown : index.Extends later) :
    later.ReadAll tree := by
  intro files sources
  rw [grown.project] at sources
  exact (readAll files sources).grows grown.toGrows

/-- More files and fewer absent names keep an index thorough. -/
theorem Thorough.extends (thorough : index.Thorough tree) (grown : index.Extends later)
    (complete : later.complete = index.complete) (absent : ∀ key ∈ later.absent, key ∈ index.absent) :
    later.Thorough tree where
  finished done := (thorough.finished (complete ▸ done)).extends grown
  absent files sources key member := by
    rw [grown.project] at sources
    exact thorough.absent files sources key (absent key member)

theorem Orderly.key_eq (orderly : index.Orderly tree) {key : String} {declaration : Declaration}
    (known : index.class? key = some declaration) : Name.key declaration.name = key := by
  rw [orderly.classes] at known
  simpa using List.find?_some known

/-- Every class that was read is known. -/
theorem Orderly.isSome_class? (orderly : index.Orderly tree) {declaration : Declaration}
    (listed : declaration ∈ index.declarations) :
    (index.class? (Name.key declaration.name)).isSome = true := by
  rw [orderly.classes, List.find?_isSome]
  exact ⟨declaration, listed, beq_self_eq_true _⟩

theorem Orderly.registered (orderly : index.Orderly tree) : index.Registered :=
  fun entry entered _ member => orderly.isSome_class? (List.mem_flatMap.mpr ⟨entry, entered, member⟩)

theorem Orderly.length_byFile_le (orderly : index.Orderly tree) :
    index.byFile.length ≤ tree.files.length := by
  have bound := List.Nodup.length_le_of_subset orderly.distinct fun path member => by
    obtain ⟨entry, entered, rfl⟩ := List.mem_map.mp member
    exact (orderly.read entry entered).1
  rwa [List.length_map, List.length_map] at bound

/-- The edges of a class lead to different classes. -/
theorem Coherent.simple (coherent : index.Coherent) : Simple index.edges := by
  intro key
  rw [coherent.edges]
  cases index.class? key with
  | none => exact List.nodup_nil
  | some declaration =>
    exact nodup_foldl_insertEdge (fun edge entered => (source_of_mem_edgesOf entered).1) (by simp)
      List.nodup_nil

/-- What is settled is either known or absent. -/
theorem Coherent.xor_of_isSettled (coherent : index.Coherent) {key : String}
    (settled : index.isSettled key = true) :
    Xor ((index.class? key).isSome = true) (key ∈ index.absent) := by
  rw [isSettled, Bool.or_eq_true, List.contains_iff_mem] at settled
  rcases settled with known | absent
  · refine .inl ⟨known, fun absent => ?_⟩
    rw [coherent.exclusive key absent] at known
    cases known
  · refine .inr ⟨absent, fun known => ?_⟩
    rw [coherent.exclusive key absent] at known
    cases known

end Extensions

section Registering

variable {tree : FileTree} {index : ClassIndex} {path : List String} {declarations : List Declaration}

theorem empty_orderly (tree : FileTree) (project : Project) : (empty project).Orderly tree where
  edges := by simp [empty, class?, edgesFrom]
  names _ := rfl
  exclusive := by simp [empty]
  classes := by simp [empty, class?, declarations]
  read := by simp [empty]
  distinct := by simp [empty]

theorem empty_thorough (tree : FileTree) (project : Project) : (empty project).Thorough tree where
  finished := by simp [empty]
  absent := by simp [empty]

theorem absent_add {declaration : Declaration} {key : String}
    (absent : key ∈ (index.add declaration).absent) :
    key ∈ index.absent ∧
      (key = Name.key declaration.name → (index.class? key).isSome = true) := by
  rw [add] at absent
  split at absent
  case isTrue known => exact ⟨absent, fun same => same ▸ known⟩
  case isFalse =>
    obtain ⟨member, other⟩ := List.mem_filter.mp absent
    exact ⟨member, fun same => absurd same (by simpa using other)⟩

theorem Coherent.add (coherent : index.Coherent) (declaration : Declaration) :
    (index.add declaration).Coherent := by
  refine ⟨edgesFrom_add coherent.edges declaration, coherent.names.add declaration,
    fun key absent => ?_⟩
  obtain ⟨member, known⟩ := absent_add absent
  have unknown := coherent.exclusive key member
  rw [class?_add, unknown, Option.none_or, if_neg]
  intro same
  rw [unknown] at known
  cases known same.symm

/-- Registering declarations keeps an index coherent. -/
theorem Coherent.foldl_add (coherent : index.Coherent) (declarations : List Declaration) :
    (declarations.foldl ClassIndex.add index).Coherent := by
  induction declarations generalizing index with
  | nil => exact coherent
  | cons declaration rest inductionHypothesis => exact inductionHypothesis (coherent.add declaration)

/-- Of declarations that are registered one after the other, the first of a class counts. -/
theorem class?_foldl_add_eq (index : ClassIndex) (declarations : List Declaration) (key : String) :
    (declarations.foldl ClassIndex.add index).class? key =
      (index.class? key).or (declarations.find? (Name.key ·.name == key)) := by
  induction declarations generalizing index with
  | nil => simp
  | cons declaration rest inductionHypothesis =>
    rw [List.foldl_cons, inductionHypothesis, class?_add, Option.or_assoc, List.find?_cons]
    by_cases same : Name.key declaration.name = key
    · simp [same]
    · simp [same, beq_eq_false_iff_ne.mpr same]

theorem project_add (index : ClassIndex) (declaration : Declaration) :
    (index.add declaration).project = index.project := by
  rw [add]
  split <;> rfl

/-- Registering declarations touches no other project and makes no name absent. -/
theorem project_foldl_add (index : ClassIndex) (declarations : List Declaration) :
    (declarations.foldl ClassIndex.add index).project = index.project ∧
      ∀ key ∈ (declarations.foldl ClassIndex.add index).absent, key ∈ index.absent := by
  induction declarations generalizing index with
  | nil => exact ⟨rfl, fun _ absent => absent⟩
  | cons declaration rest inductionHypothesis =>
    obtain ⟨project, absent⟩ := inductionHypothesis (index.add declaration)
    exact ⟨project.trans (project_add index declaration), fun key member =>
      (absent_add (absent key member)).1⟩

/-- Registering a file of the tree keeps an index orderly and extends it. -/
theorem Orderly.addFile (orderly : index.Orderly tree) (new : index.byFile.lookup path = none)
    (named : path ∈ tree.files.map (·.1))
    (read : tree.declarations (.absolute path) = .ok declarations) :
    (index.addFile path declarations).Orderly tree ∧
      index.Extends (index.addFile path declarations) ∧
      ∀ key ∈ (index.addFile path declarations).absent, key ∈ index.absent := by
  obtain ⟨project, absent⟩ :=
    project_foldl_add { index with byFile := index.byFile ++ [(path, declarations)] } declarations
  have entered : ({ index with byFile := index.byFile ++ [(path, declarations)] } :
      ClassIndex).Coherent := { orderly.toCoherent with }
  have classes : ∀ key, (index.addFile path declarations).class? key =
      (index.class? key).or (declarations.find? (Name.key ·.name == key)) :=
    class?_foldl_add_eq { index with byFile := index.byFile ++ [(path, declarations)] } declarations
  refine ⟨⟨entered.foldl_add declarations, ?_, ?_, ?_⟩, ⟨grows_addFile index path declarations,
    project, ?_⟩, absent⟩
  · intro key
    rw [classes, orderly.classes, ClassIndex.declarations, ClassIndex.declarations, byFile_addFile,
      List.flatMap_append, List.flatMap_singleton, List.find?_append]
  · intro entry member
    rw [byFile_addFile] at member
    rcases List.mem_append.mp member with known | last
    · exact orderly.read entry known
    · rw [List.mem_singleton.mp last]
      exact ⟨named, read⟩
  · rw [byFile_addFile]
    exact nodup_entered orderly.distinct new declarations
  · intro key found known
    rw [classes, known, Option.some_or]

end Registering

end ClassIndex

end ClassAtlas
