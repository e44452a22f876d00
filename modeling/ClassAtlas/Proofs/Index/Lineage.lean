import ClassAtlas.Proofs.Files.Reading
import ClassAtlas.Proofs.Index.Loading
import Mathlib.Data.List.Basic

/-!
What a class builds on does not depend on what was looked up before.

A walk is repeated until all classes it meets are settled. Each repetition reads a file that was not read
before, or it leaves the classes and edges as they are and the walk is over, so the bound on repetitions
is never reached. A walk over settled classes is the walk in an index that has read all files.
-/

namespace ClassAtlas

/-- Whether some class of the project builds on a name: as its parent, an interface or a trait. -/
def FileTree.IsBuiltOn (tree : FileTree) (files : List (List String)) (name : String) : Prop :=
  ∃ declaration ∈ tree.declared files, ∃ edge ∈ ClassIndex.edgesOf declaration, edge.name = name

namespace ClassIndex

/-- Reads a file, unless it has been read or cannot be. -/
def readFile (tree : FileTree) (index : ClassIndex) (path : List String) : ClassIndex :=
  match index.byFile.lookup path, tree.declarations (.absolute path) with
  | none, .ok declarations => index.addFile path declarations
  | _, _ => index

/-- The index that has read all files of a project. -/
def eager (project : Project) (tree : FileTree) (files : List (List String)) : ClassIndex :=
  files.foldl (readFile tree) (empty project)

/-- The known ancestors of a class, as far as an index knows. -/
def parents (index : ClassIndex) (key : String) : List Declaration :=
  index.knownFront (index.walk [.extension] key)

/-- The names of all interfaces of a class, as far as an index knows. -/
def interfaces (index : ClassIndex) (key : String) : List String :=
  index.interfaceTargets (index.walk [.extension, .implementation] key)

/-- The known traits of a class, as far as an index knows. -/
def traits (index : ClassIndex) (key : String) : List Declaration :=
  index.knownTargets (index.walk [.inclusion] key)

section Eager

variable {project : Project} {tree : FileTree} {files : List (List String)} {index : ClassIndex}

theorem Consistent.readFile (codebase : Codebase project tree files)
    (consistent : index.Consistent project tree files) {path : List String} (listed : path ∈ files) :
    (index.readFile tree path).Consistent project tree files ∧
      index.Grows (index.readFile tree path) ∧ (index.readFile tree path).AllRead tree [path] := by
  rw [ClassIndex.readFile]
  split
  case h_1 declarations new read =>
    have sound := consistent.addFile codebase listed new read
    have entered : (path, declarations) ∈ (index.addFile path declarations).byFile := by simp
    exact ⟨⟨sound, consistent.registered.addFile⟩, grows_addFile index path declarations,
      sound.allRead_singleton entered⟩
  case h_2 other =>
    refine ⟨consistent, Grows.refl index, ?_⟩
    cases known : index.byFile.lookup path with
    | some declarations => exact consistent.allRead_singleton (mem_byFile_of_lookup known)
    | none =>
      cases read : tree.declarations (.absolute path) with
      | ok declarations => exact absurd read (other declarations known)
      | error fault => exact allRead_singleton_of_error read

theorem Consistent.foldl_readFile (codebase : Codebase project tree files)
    (consistent : index.Consistent project tree files) {paths : List (List String)}
    (listed : ∀ path ∈ paths, path ∈ files) :
    (paths.foldl (ClassIndex.readFile tree) index).Consistent project tree files ∧
      index.Grows (paths.foldl (ClassIndex.readFile tree) index) ∧
      (paths.foldl (ClassIndex.readFile tree) index).AllRead tree paths := by
  induction paths generalizing index with
  | nil => exact ⟨consistent, Grows.refl index, fun _ impossible => by cases impossible⟩
  | cons path rest inductionHypothesis =>
    rw [List.forall_mem_cons] at listed
    obtain ⟨first, grows, read⟩ := consistent.readFile codebase listed.1
    obtain ⟨later, laterGrows, restRead⟩ := inductionHypothesis first listed.2
    exact ⟨later, grows.trans laterGrows, (read.grows laterGrows).cons restRead⟩

/-- An eager index knows every class of the project, with its edges. -/
theorem eager_spec (codebase : Codebase project tree files) :
    (eager project tree files).Sound project tree files ∧
      ∀ key, (eager project tree files).class? key = tree.declared? files key := by
  have start := (empty_healthy project tree files).toConsistent
  obtain ⟨consistent, _, allRead⟩ := start.foldl_readFile codebase fun _ => id
  exact ⟨consistent.toSound, consistent.class?_eq_of_allRead allRead⟩

end Eager

section Walk

variable {project : Project} {tree : FileTree} {files : List (List String)} {index : ClassIndex}

/-- Every edge leads to the key of a name that some class of the project builds on. -/
theorem Sound.isBuiltOn (sound : index.Sound project tree files) {edge : Edge}
    (member : edge ∈ index.edges) :
    edge.target = Name.key edge.name ∧ tree.IsBuiltOn files edge.name := by
  have own : edge ∈ edgesFrom index.edges edge.source :=
    List.mem_filter.mpr ⟨member, beq_self_eq_true edge.source⟩
  rw [sound.edges] at own
  cases known : index.class? edge.source with
  | none => simp [known] at own
  | some declaration =>
    have brought : edge ∈ edgesOf declaration :=
      mem_edgesOf_of_mem_outgoing (by simpa [known] using own)
    have declared := List.mem_of_find?_eq_some (sound.classes _ _ known)
    exact ⟨(source_of_mem_edgesOf brought).2, declaration, declared, edge, brought, rfl⟩

theorem edgesFrom_eq_of_isSettled (codebase : Codebase project tree files)
    (sound : index.Sound project tree files) {key : String} (settled : index.isSettled key = true) :
    edgesFrom index.edges key = edgesFrom (eager project tree files).edges key := by
  obtain ⟨eagerSound, eagerClass⟩ := eager_spec codebase
  rw [sound.edges, eagerSound.edges, sound.class?_eq_of_isSettled settled, eagerClass]

/-- A walk that meets settled classes only is the walk in an eager index. -/
theorem Sound.walk_eq (codebase : Codebase project tree files)
    (sound : index.Sound project tree files) {relations : List Relation} {key : String}
    (start : index.isSettled key = true)
    (met : ∀ edge ∈ index.walk relations key, index.isSettled edge.target = true) :
    index.walk relations key = (eager project tree files).walk relations key :=
  walk_congr (edgesFrom_eq_of_isSettled codebase sound start) fun edge member =>
    edgesFrom_eq_of_isSettled codebase sound (met edge member)

/-- The files that are read are files of the project. -/
theorem Sound.length_byFile_le (sound : index.Sound project tree files) :
    index.byFile.length ≤ files.length := by
  have bound := List.Nodup.length_le_of_subset sound.distinct (fun path member => by
    obtain ⟨entry, entered, rfl⟩ := List.mem_map.mp member
    exact (sound.read entry entered).1)
  rwa [List.length_map] at bound

theorem knownTargets_congr {index other : ClassIndex} {edges : List Edge}
    (agree : ∀ edge ∈ edges, index.class? edge.target = other.class? edge.target) :
    index.knownTargets edges = other.knownTargets edges :=
  List.filterMap_congr agree

theorem knownFront_congr {index other : ClassIndex} {edges : List Edge}
    (agree : ∀ edge ∈ edges, index.class? edge.target = other.class? edge.target) :
    index.knownFront edges = other.knownFront edges := by
  rw [knownFront, knownFront, List.map_congr_left agree]

theorem interfaceTargets_congr {index other : ClassIndex} {edges : List Edge}
    (names : index.Named) (otherNames : other.Named)
    (agree : ∀ edge ∈ edges, index.class? edge.target = other.class? edge.target) :
    index.interfaceTargets edges = other.interfaceTargets edges := by
  apply List.map_congr_left
  intro edge member
  rw [targetName, targetName, names, otherNames, agree edge (List.mem_filter.mp member).1]

end Walk

end ClassIndex

/-- There are at least as many syntax nodes as files. -/
theorem FileTree.length_files_le_nodeCount (tree : FileTree) :
    tree.files.length ≤ tree.nodeCount := by
  have positive : ∀ nodes : List Node, nodes.length ≤ Node.sizeOfAll nodes := by
    intro nodes
    induction nodes with
    | nil => simp
    | cons node rest inductionHypothesis =>
      obtain ⟨label, children⟩ := node
      simp only [List.length_cons, Node.sizeOfAll, Node.size]
      omega
  have nodes := positive (tree.files.map (·.2.source.root))
  rwa [List.length_map] at nodes

namespace Lookup

open ClassIndex

variable {project : Project} {tree : FileTree} {files : List (List String)} {index : ClassIndex}

/-- The targets of edges are settled when this ends. -/
theorem loadTargets_ends (codebase : Codebase project tree files)
    (healthy : index.Healthy project tree files) {edges : List Edge}
    (named : ∀ edge ∈ edges, edge.target = Name.key edge.name ∧ tree.IsBuiltOn files edge.name) :
    Ends (loadTargets tree edges) index
      (fun _ later => later.Healthy project tree files ∧ index.Grows later ∧
        ∀ edge ∈ edges, later.isSettled edge.target = true)
      (fun fault _ => Obstacle project tree (tree.IsBuiltOn files) fault) := by
  induction edges generalizing index with
  | nil => exact Ends.pure ⟨healthy, Grows.refl index, fun _ impossible => by cases impossible⟩
  | cons edge rest inductionHypothesis =>
    rw [List.forall_mem_cons] at named
    rw [loadTargets]
    refine Ends.bind (load_ends codebase healthy edge.name (tree.IsBuiltOn files) named.1.2) ?_
    rintro _ between ⟨betweenHealthy, grows, settled⟩
    refine (inductionHypothesis betweenHealthy named.2).mono ?_ fun _ _ => id
    rintro _ later ⟨laterHealthy, laterGrows, restSettled⟩
    refine ⟨laterHealthy, grows.trans laterGrows, List.forall_mem_cons.mpr ⟨?_, restSettled⟩⟩
    rw [named.1.1]
    exact laterGrows.settled _ settled

/-- A repeated walk ends with all classes it meets settled. -/
theorem settledWalk_ends (codebase : Codebase project tree files)
    (healthy : index.Healthy project tree files) (relations : List Relation) (key : String)
    {fuel : Nat}
    (enough : files.length < fuel + index.byFile.length ∨
      ∀ edge ∈ index.walk relations key, index.isSettled edge.target = true) :
    Ends (settledWalk tree relations key fuel) index
      (fun edges later => later.Healthy project tree files ∧ index.Grows later ∧
        edges = later.walk relations key ∧ ∀ edge ∈ edges, later.isSettled edge.target = true)
      (fun fault _ => Obstacle project tree (tree.IsBuiltOn files) fault) := by
  induction fuel generalizing index with
  | zero =>
    have bound := healthy.length_byFile_le
    have settled := enough.resolve_left (by omega)
    rw [settledWalk]
    refine Ends.get_bind ?_
    exact Ends.pure ⟨healthy, Grows.refl index, rfl, settled⟩
  | succ fuel inductionHypothesis =>
    rw [settledWalk]
    refine Ends.get_bind ?_
    dsimp only
    split
    case isTrue none =>
      refine Ends.pure ⟨healthy, Grows.refl index, rfl, ?_⟩
      simpa using none
    case isFalse pending =>
      have unread := enough.resolve_right (by simpa using pending)
      refine Ends.bind (loadTargets_ends codebase healthy ?_) ?_
      · intro edge member
        exact healthy.isBuiltOn (mem_edges_of_mem_walk (List.mem_filter.mp member).1)
      rintro _ between ⟨betweenHealthy, grows, loaded⟩
      -- A round that reads no file leaves the edges as they are, so that the next walk meets the same
      -- classes, and these are settled by now.
      have further : files.length < fuel + between.byFile.length ∨
          ∀ edge ∈ between.walk relations key, between.isSettled edge.target = true := by
        by_cases same : between.byFile.length = index.byFile.length
        · right
          intro edge met
          rw [walk, (grows.same same).2] at met
          by_cases settled : index.isSettled edge.target = true
          · exact grows.settled _ settled
          · exact loaded edge (List.mem_filter.mpr ⟨met, by simpa using settled⟩)
        · left
          have longer := grows.files.length_le
          omega
      refine (inductionHypothesis betweenHealthy further).mono ?_ fun _ _ => id
      rintro edges later ⟨laterHealthy, laterGrows, walked⟩
      exact ⟨laterHealthy, grows.trans laterGrows, walked⟩

theorem length_le_nodeCount (codebase : Codebase project tree files) :
    files.length ≤ tree.nodeCount := by
  obtain ⟨directory, _, found⟩ := Project.exists_directory_of_sourceFiles codebase.listed
  calc files.length
    _ = (project.counted tree directory true false).length := found.length_eq
    _ ≤ (tree.files.map (·.1)).length := List.length_filter_le _ _
    _ = tree.files.length := List.length_map _
    _ ≤ tree.nodeCount := tree.length_files_le_nodeCount

/-- A walk from a settled class ends with the edges of an eager index, between settled classes. -/
theorem reachable_ends (codebase : Codebase project tree files)
    (healthy : index.Healthy project tree files) (declaration : Declaration)
    (relations : List Relation) :
    Ends (reachable tree declaration relations) index
      (fun edges later => later.Healthy project tree files ∧ index.Grows later ∧
        (∀ edge ∈ edges, later.isSettled edge.target = true) ∧
        (index.isSettled (Name.key declaration.name) = true →
          edges = (eager project tree files).walk relations (Name.key declaration.name)))
      (fun fault _ => Obstacle project tree (tree.IsBuiltOn files) fault) := by
  rw [reachable]
  refine Ends.get_bind ?_
  have bound := length_le_nodeCount codebase
  have enough : files.length < nameBound tree index + index.byFile.length := by
    rw [nameBound]
    omega
  refine (settledWalk_ends codebase healthy relations (Name.key declaration.name) (.inl enough)).mono
    ?_ fun _ _ => id
  rintro edges later ⟨laterHealthy, grows, rfl, met⟩
  exact ⟨laterHealthy, grows, met, fun start =>
    laterHealthy.walk_eq codebase (grows.settled _ start) met⟩

/-- What is read off the edges of a walk from a settled class is what an eager index gives, if it
depends on the classes at the targets only. -/
theorem readOff_ends {β : Type} (codebase : Codebase project tree files)
    (healthy : index.Healthy project tree files) (declaration : Declaration)
    (relations : List Relation) {readOff : ClassIndex → List Edge → β}
    (atTargets : ∀ {index other : ClassIndex} {edges : List Edge}, index.Named → other.Named →
      (∀ edge ∈ edges, index.class? edge.target = other.class? edge.target) →
        readOff index edges = readOff other edges) :
    Ends
      (do
        let edges ← reachable tree declaration relations
        return readOff (← get) edges)
      index
      (fun value later => later.Healthy project tree files ∧
        (index.isSettled (Name.key declaration.name) = true →
          value = readOff (eager project tree files)
            ((eager project tree files).walk relations (Name.key declaration.name))))
      (fun fault _ => Obstacle project tree (tree.IsBuiltOn files) fault) := by
  refine Ends.bind (reachable_ends codebase healthy declaration relations) ?_
  rintro edges later ⟨laterHealthy, _, met, walked⟩
  refine Ends.get_bind ?_
  refine Ends.pure ⟨laterHealthy, fun start => ?_⟩
  rw [← walked start]
  refine atTargets laterHealthy.names (eager_spec codebase).1.names ?_
  intro edge member
  rw [laterHealthy.class?_eq_of_isSettled (met edge member), (eager_spec codebase).2]

/-- The ancestors of a settled class are those in an eager index. -/
theorem parentChain_ends (codebase : Codebase project tree files)
    (healthy : index.Healthy project tree files) (declaration : Declaration) :
    Ends (parentChain tree declaration) index
      (fun chain later => later.Healthy project tree files ∧
        (index.isSettled (Name.key declaration.name) = true →
          chain = (eager project tree files).parents (Name.key declaration.name)))
      (fun fault _ => Obstacle project tree (tree.IsBuiltOn files) fault) :=
  readOff_ends codebase healthy declaration [.extension] fun _ _ => knownFront_congr

/-- The interfaces of a settled class are those in an eager index. -/
theorem interfaceNames_ends (codebase : Codebase project tree files)
    (healthy : index.Healthy project tree files) (declaration : Declaration) :
    Ends (interfaceNames tree declaration) index
      (fun names later => later.Healthy project tree files ∧
        (index.isSettled (Name.key declaration.name) = true →
          names = (eager project tree files).interfaces (Name.key declaration.name)))
      (fun fault _ => Obstacle project tree (tree.IsBuiltOn files) fault) :=
  readOff_ends codebase healthy declaration [.extension, .implementation] interfaceTargets_congr

/-- The traits of a settled class are those in an eager index. -/
theorem traitClosure_ends (codebase : Codebase project tree files)
    (healthy : index.Healthy project tree files) (declaration : Declaration) :
    Ends (traitClosure tree declaration) index
      (fun found later => later.Healthy project tree files ∧
        (index.isSettled (Name.key declaration.name) = true →
          found = (eager project tree files).traits (Name.key declaration.name)))
      (fun fault _ => Obstacle project tree (tree.IsBuiltOn files) fault) :=
  readOff_ends codebase healthy declaration [.inclusion] fun _ _ => knownTargets_congr

end Lookup

end ClassAtlas
