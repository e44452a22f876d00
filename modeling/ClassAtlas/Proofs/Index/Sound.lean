import ClassAtlas.Proofs.Files.Reading
import ClassAtlas.Proofs.Index.Ends
import ClassAtlas.Proofs.Index.Graph

/-!
What an index knows is right.

Whatever has been asked of an index, each class it has registered is the one that the project declares,
with the edges of its declaration, and each name that it holds to be absent is not declared. Registering
a file keeps this and forgets nothing.
-/

namespace ClassAtlas

/-- The declarations of those files that can be read. -/
def FileTree.declared (tree : FileTree) (files : List (List String)) : List Declaration :=
  files.flatMap fun path => ((tree.declarations (.absolute path)).toOption).getD []

/-- The declaration with a key in those files that can be read. -/
def FileTree.declared? (tree : FileTree) (files : List (List String)) (key : String) :
    Option Declaration :=
  (tree.declared files).find? (Name.key ·.name == key)

/-- A project with given source files, in which each class is declared at most once and all files that
the autoload roots lead to are among the source files. -/
structure Codebase (project : Project) (tree : FileTree) (files : List (List String)) : Prop where
  listed : project.sourceFiles tree (Path.absolute project.root).render true false = .ok files
  unique : ∀ first ∈ tree.declared files, ∀ second ∈ tree.declared files,
    Name.key first.name = Name.key second.name → first = second
  autoloaded : ∀ roots, Autoload.roots project tree = .ok roots → ∀ root ∈ roots, ∀ name path,
    Autoload.fileOf? root (Name.normalized name) = some path → tree.isFile path = .ok true →
      tree.resolve path ∈ files

section Declared

variable {project : Project} {tree : FileTree} {files : List (List String)}

/-- Only a null character keeps a file from being passed over when it cannot be read. -/
theorem FileTree.hasNull_of_declarations {path : Path} {fault : Fault}
    (failed : tree.declarations path = .error fault)
    (escapes : ∀ place cause, fault ≠ .failure (.fileUnreadable place cause)) : path.hasNull = true := by
  rw [FileTree.declarations] at failed
  split at failed
  case isTrue null => exact null
  case isFalse =>
    split at failed
    · cases failed
      exact absurd rfl (escapes _ _)
    · cases failed

/-- No source file that is listed has a null character in its path. -/
theorem Codebase.hasNull_eq_false (codebase : Codebase project tree files) {path : List String}
    (listed : path ∈ files) : (Path.absolute path).hasNull = false := by
  have found := Project.isFile_of_mem_sourceFiles codebase.listed listed
  cases null : (Path.absolute path).hasNull with
  | false => rfl
  | true =>
    rw [FileTree.find, null] at found
    cases found

theorem mem_declared {path : List String} (listed : path ∈ files) {declarations : List Declaration}
    (read : tree.declarations (.absolute path) = .ok declarations) {declaration : Declaration}
    (member : declaration ∈ declarations) : declaration ∈ tree.declared files :=
  List.mem_flatMap.mpr ⟨path, listed, by simpa [read, Except.toOption] using member⟩

theorem Codebase.declared?_eq (codebase : Codebase project tree files) {declaration : Declaration}
    (member : declaration ∈ tree.declared files) :
    tree.declared? files (Name.key declaration.name) = some declaration := by
  cases found : tree.declared? files (Name.key declaration.name) with
  | none =>
    have other := List.find?_eq_none.mp found declaration member
    simp at other
  | some first =>
    have sameKey := List.find?_some found
    have listed := List.mem_of_find?_eq_some found
    rw [codebase.unique first listed declaration member (by simpa using sameKey)]

end Declared

namespace ClassIndex

/-- What an index knows is right. -/
structure Sound (project : Project) (tree : FileTree) (files : List (List String))
    (index : ClassIndex) : Prop where
  owner : index.project = project
  roots : ∀ roots, index.roots = some roots → Autoload.roots project tree = .ok roots
  /-- What is known of files is what they hold. -/
  read : ∀ entry ∈ index.byFile,
    entry.1 ∈ files ∧ tree.declarations (.absolute entry.1) = .ok entry.2
  distinct : (index.byFile.map (·.1)).Nodup
  /-- What is registered is declared. -/
  classes : ∀ key declaration, index.class? key = some declaration →
    tree.declared? files key = some declaration
  /-- The edges of a class are those of its declaration. -/
  edges : ∀ key, edgesFrom index.edges key = ((index.class? key).map outgoing).getD []
  names : index.Named
  /-- What is absent is not declared. -/
  absent : ∀ key ∈ index.absent, tree.declared? files key = none

/-- Whether all declarations in the files that were read are registered. -/
def Registered (index : ClassIndex) : Prop :=
  ∀ entry ∈ index.byFile, ∀ declaration ∈ entry.2,
    (index.class? (Name.key declaration.name)).isSome = true

/-- Nothing is forgotten, and without reading a file nothing is registered. -/
structure Grows (index later : ClassIndex) : Prop where
  files : index.byFile <+: later.byFile
  same : later.byFile.length = index.byFile.length →
    later.classes = index.classes ∧ later.edges = index.edges
  settled : ∀ key, index.isSettled key = true → later.isSettled key = true

theorem Grows.refl (index : ClassIndex) : index.Grows index :=
  ⟨List.prefix_rfl, fun _ => ⟨rfl, rfl⟩, fun _ known => known⟩

theorem Grows.trans {index between later : ClassIndex} (first : index.Grows between)
    (second : between.Grows later) : index.Grows later where
  files := first.files.trans second.files
  same := by
    intro unchanged
    have early := first.files.length_le
    have late := second.files.length_le
    have none := first.same (by omega)
    have noneLater := second.same (by omega)
    exact ⟨noneLater.1.trans none.1, noneLater.2.trans none.2⟩
  settled key known := second.settled key (first.settled key known)

section Add

variable {project : Project} {tree : FileTree} {files : List (List String)} {index : ClassIndex}

theorem empty_sound (project : Project) (tree : FileTree) (files : List (List String)) :
    (empty project).Sound project tree files where
  owner := rfl
  roots := by simp [empty]
  read := by simp [empty]
  distinct := by simp [empty]
  classes := by simp [empty, class?]
  edges := by simp [empty, class?, edgesFrom]
  names _ := rfl
  absent := by simp [empty]

theorem class?_add (index : ClassIndex) (declaration : Declaration) (key : String) :
    (index.add declaration).class? key =
      (index.class? key).or (if Name.key declaration.name = key then some declaration else none) := by
  rw [add]
  split
  case isTrue known =>
    split
    case isTrue same =>
      rw [same] at known
      rw [Option.or_of_isSome known]
    case isFalse => rw [Option.or_none]
  case isFalse =>
    simp only [class?, List.lookup_append, List.lookup_cons, List.lookup_nil]
    by_cases same : Name.key declaration.name = key
    · simp [same]
    · have other : (key == Name.key declaration.name) = false := beq_eq_false_iff_ne.mpr (Ne.symm same)
      simp [same, other]

/-- Registering a declaration enters its edges and no others. -/
theorem edgesFrom_add
    (edges : ∀ key, edgesFrom index.edges key = ((index.class? key).map outgoing).getD [])
    (declaration : Declaration) (key : String) :
    edgesFrom (index.add declaration).edges key =
      (((index.add declaration).class? key).map outgoing).getD [] := by
  rw [class?_add]
  by_cases known : (index.class? (Name.key declaration.name)).isSome = true
  · rw [ClassIndex.add, if_pos known, edges]
    split
    case isTrue same =>
      rw [same] at known
      rw [Option.or_of_isSome known]
    case isFalse => rw [Option.or_none]
  · have unknown : index.class? (Name.key declaration.name) = none := by simpa using known
    simp only [ClassIndex.add, unknown, Option.isSome_none, Bool.false_eq_true, if_false]
    rw [edgesFrom_foldl (fun edge entered => (source_of_mem_edgesOf entered).1), edges]
    split
    case isTrue same =>
      subst same
      simp [unknown, outgoing]
    case isFalse => simp

/-- Registering a declaration names its node and no other. -/
theorem Named.add (names : index.Named) (declaration : Declaration) :
    (index.add declaration).Named := by
  intro key
  rw [class?_add]
  by_cases known : (index.class? (Name.key declaration.name)).isSome = true
  · rw [ClassIndex.add, if_pos known, names]
    split
    case isTrue same =>
      rw [same] at known
      rw [Option.or_of_isSome known]
    case isFalse => rw [Option.or_none]
  · have unknown : index.class? (Name.key declaration.name) = none := by simpa using known
    have entered : (index.add declaration).nodeName? key =
        if Name.key declaration.name = key then some declaration.name
        else index.nodeName? key := by
      rw [ClassIndex.add, if_neg known, nodeName?, join_lookup_foldl_insertNode, lookup_insertNode]
      split <;> rfl
    rw [entered, names]
    split
    case isTrue same =>
      subst same
      simp [unknown]
    case isFalse => simp

/-- Registering a declaration of the project keeps an index right. -/
theorem Sound.add (codebase : Codebase project tree files) (sound : index.Sound project tree files)
    {declaration : Declaration} (member : declaration ∈ tree.declared files) :
    (index.add declaration).Sound project tree files := by
  have declared := codebase.declared?_eq member
  have lookup := class?_add index declaration
  have edges := edgesFrom_add sound.edges declaration
  have names := sound.names.add declaration
  by_cases known : (index.class? (Name.key declaration.name)).isSome = true
  · rwa [ClassIndex.add, if_pos known]
  have added : index.add declaration = { index with
      classes := index.classes ++ [(Name.key declaration.name, declaration)]
      absent := index.absent.filter (· != Name.key declaration.name)
      nodes := (edgesOf declaration).foldl (fun nodes edge => insertNode nodes edge.target none)
        (insertNode index.nodes (Name.key declaration.name) (some declaration.name))
      edges := (edgesOf declaration).foldl insertEdge index.edges } := by
    rw [ClassIndex.add, if_neg known]
  rw [added] at lookup edges names ⊢
  refine { sound with classes := ?_, edges := edges, names := names, absent := ?_ }
  · intro key found registered
    rw [lookup, Option.or_eq_some_iff] at registered
    rcases registered with known | ⟨_, new⟩
    · exact sound.classes key found known
    · obtain ⟨same, equal⟩ := Option.ite_none_right_eq_some.mp new
      rw [← same, ← equal]
      exact declared
  · intro key absent
    exact sound.absent key (List.mem_filter.mp absent).1

/-- Registering a declaration settles its key and unsettles none. -/
theorem isSettled_add {declaration : Declaration} {key : String}
    (settled : index.isSettled key = true) : (index.add declaration).isSettled key = true := by
  rw [isSettled, Bool.or_eq_true] at settled ⊢
  rcases settled with known | absent
  · left
    rw [class?_add, Option.isSome_or, known, Bool.true_or]
  · rw [class?_add]
    by_cases same : Name.key declaration.name = key
    · left
      simp [same]
    · right
      rw [ClassIndex.add]
      split
      · exact absent
      · simpa [Ne.symm same] using absent

theorem byFile_add (index : ClassIndex) (declaration : Declaration) :
    (index.add declaration).byFile = index.byFile := by
  rw [add]
  split <;> rfl

theorem complete_add (index : ClassIndex) (declaration : Declaration) :
    (index.add declaration).complete = index.complete := by
  rw [add]
  split <;> rfl

theorem byFile_foldl_add (index : ClassIndex) (declarations : List Declaration) :
    (declarations.foldl add index).byFile = index.byFile := by
  induction declarations generalizing index with
  | nil => rfl
  | cons declaration rest inductionHypothesis =>
    rw [List.foldl_cons, inductionHypothesis, byFile_add]

theorem complete_foldl_add (index : ClassIndex) (declarations : List Declaration) :
    (declarations.foldl add index).complete = index.complete := by
  induction declarations generalizing index with
  | nil => rfl
  | cons declaration rest inductionHypothesis =>
    rw [List.foldl_cons, inductionHypothesis, complete_add]

theorem class?_foldl_add {declarations : List Declaration} {key : String}
    (known : (index.class? key).isSome = true) :
    ((declarations.foldl add index).class? key).isSome = true := by
  induction declarations generalizing index with
  | nil => exact known
  | cons declaration rest inductionHypothesis =>
    apply inductionHypothesis
    rw [class?_add, Option.isSome_or, known, Bool.true_or]

theorem isSettled_foldl_add {declarations : List Declaration} {key : String}
    (settled : index.isSettled key = true) :
    (declarations.foldl add index).isSettled key = true := by
  induction declarations generalizing index with
  | nil => exact settled
  | cons declaration rest inductionHypothesis => exact inductionHypothesis (isSettled_add settled)

theorem Sound.foldl_add (codebase : Codebase project tree files)
    (sound : index.Sound project tree files) {declarations : List Declaration}
    (declared : ∀ declaration ∈ declarations, declaration ∈ tree.declared files) :
    (declarations.foldl ClassIndex.add index).Sound project tree files := by
  induction declarations generalizing index with
  | nil => exact sound
  | cons declaration rest inductionHypothesis =>
    rw [List.forall_mem_cons] at declared
    exact inductionHypothesis (sound.add codebase declared.1) declared.2

/-- All declarations that are registered one after the other are registered in the end. -/
theorem isSome_class?_foldl_add {declarations : List Declaration} {declaration : Declaration}
    (member : declaration ∈ declarations) :
    ((declarations.foldl add index).class? (Name.key declaration.name)).isSome = true := by
  induction declarations generalizing index with
  | nil => cases member
  | cons first rest inductionHypothesis =>
    rcases List.mem_cons.mp member with rfl | later
    · rw [List.foldl_cons]
      apply class?_foldl_add
      simp [class?_add]
    · exact inductionHypothesis later

end Add

section AddFile

variable {project : Project} {tree : FileTree} {files : List (List String)} {index : ClassIndex}
  {path : List String} {declarations : List Declaration}

@[simp] theorem byFile_addFile (index : ClassIndex) (path : List String)
    (declarations : List Declaration) :
    (index.addFile path declarations).byFile = index.byFile ++ [(path, declarations)] :=
  byFile_foldl_add _ declarations

@[simp] theorem complete_addFile (index : ClassIndex) (path : List String)
    (declarations : List Declaration) :
    (index.addFile path declarations).complete = index.complete :=
  complete_foldl_add _ declarations

/-- A file that has not been read can be entered once. -/
theorem nodup_entered (distinct : (index.byFile.map (·.1)).Nodup)
    (new : index.byFile.lookup path = none) (declarations : List Declaration) :
    ((index.byFile ++ [(path, declarations)]).map (·.1)).Nodup := by
  rw [List.map_append, List.nodup_append]
  refine ⟨distinct, by simp, ?_⟩
  intro known member last lastMember
  rw [List.map_singleton, List.mem_singleton] at lastMember
  obtain ⟨entry, entryMember, rfl⟩ := List.mem_map.mp member
  have other := List.lookup_eq_none_iff.mp new entry entryMember
  rw [lastMember]
  exact Ne.symm (bne_iff_ne.mp other)

/-- Registering the declarations of a file of the project keeps an index right. -/
theorem Sound.addFile (codebase : Codebase project tree files)
    (sound : index.Sound project tree files) (listed : path ∈ files)
    (new : index.byFile.lookup path = none)
    (read : tree.declarations (.absolute path) = .ok declarations) :
    (index.addFile path declarations).Sound project tree files := by
  -- The file is entered first; its declarations are then registered one by one.
  have entered : ({ index with byFile := index.byFile ++ [(path, declarations)] } : ClassIndex).Sound
      project tree files := by
    refine { sound with read := ?_, distinct := nodup_entered sound.distinct new declarations }
    intro entry member
    rcases List.mem_append.mp member with known | last
    · exact sound.read entry known
    · rw [List.mem_singleton.mp last]
      exact ⟨listed, read⟩
  exact entered.foldl_add codebase fun declaration member => mem_declared listed read member

theorem Registered.addFile (registered : index.Registered) :
    (index.addFile path declarations).Registered := by
  intro entry member declaration declared
  rw [byFile_addFile] at member
  rcases List.mem_append.mp member with known | last
  · exact class?_foldl_add (registered entry known declaration declared)
  · rw [List.mem_singleton.mp last] at declared
    exact isSome_class?_foldl_add declared

theorem grows_addFile (index : ClassIndex) (path : List String) (declarations : List Declaration) :
    index.Grows (index.addFile path declarations) where
  files := by simp
  same := by simp
  settled _ settled := isSettled_foldl_add settled

end AddFile

end ClassIndex

end ClassAtlas
