import ClassAtlas.Proofs.Index.Faults
import ClassAtlas.Proofs.Index.Settled

/-!
An index that goes on from another one.

Reading files is a fold over them, and a search for a class reads files of the project. An index that has
read files from anywhere, and goes on from there, knows under a settled name what it knew in the
beginning, or else what the project declares. Its answers are those of the index that goes on by reading
all files of the project at once, whatever was asked in between.
-/

namespace ClassAtlas

namespace ClassIndex

/-- An index that has read files, be they of the project or not, and has searched for no class. -/
structure Begun (project : Project) (tree : FileTree) (files : List (List String))
    (start : ClassIndex) : Prop where
  codebase : Codebase project tree files
  orderly : start.Orderly tree
  owner : start.project = project
  roots : start.roots = none
  absent : start.absent = []
  complete : start.complete = false

/-- An index that has gone on from another one by files of the project. -/
structure Resuming (project : Project) (tree : FileTree) (files : List (List String))
    (start index : ClassIndex) : Prop extends index.Orderly tree where
  grown : start.Extends index
  own : ∀ entry ∈ index.byFile, entry ∈ start.byFile ∨ entry.1 ∈ files
  roots : ∀ roots, index.roots = some roots → Autoload.roots project tree = .ok roots
  absent : ∀ key ∈ index.absent, tree.declared? files key = none

/-- An index that has gone on from another one, between two searches. -/
structure Resumed (project : Project) (tree : FileTree) (files : List (List String))
    (start index : ClassIndex) : Prop extends Resuming project tree files start index where
  finished : index.complete = true → index.AllRead tree files

/-- The index that goes on by reading all files of a project. -/
def completion (tree : FileTree) (files : List (List String)) (start : ClassIndex) : ClassIndex :=
  files.foldl (readFile tree) start

section Reading

variable {project : Project} {tree : FileTree} {files : List (List String)}
  {start index : ClassIndex}

theorem roots_readFile (tree : FileTree) (index : ClassIndex) (path : List String) :
    (index.readFile tree path).roots = index.roots := by
  rw [readFile]
  split
  · exact roots_foldl_add _ _
  · rfl

theorem roots_foldl_readFile (tree : FileTree) (index : ClassIndex) (paths : List (List String)) :
    (paths.foldl (readFile tree) index).roots = index.roots := by
  induction paths generalizing index with
  | nil => rfl
  | cons path rest inductionHypothesis =>
    rw [List.foldl_cons, inductionHypothesis, roots_readFile]

theorem Begun.resumed (begun : start.Begun project tree files) :
    Resumed project tree files start start where
  toOrderly := begun.orderly
  grown := Extends.refl start
  own _ entered := .inl entered
  roots := by simp [begun.roots]
  absent := by simp [begun.absent]
  finished := by simp [begun.complete]

theorem Resuming.owner (resuming : Resuming project tree files start index)
    (begun : start.Begun project tree files) : index.project = project :=
  resuming.grown.project.trans begun.owner

/-- Reading a file of the project is going on. -/
theorem Resuming.readFile (resuming : Resuming project tree files start index)
    (begun : start.Begun project tree files) {path : List String} (listed : path ∈ files) :
    Resuming project tree files start (index.readFile tree path) ∧
      Lookup.Adds tree index (index.readFile tree path) ∧
      (index.readFile tree path).AllRead tree [path] := by
  have sameRoots := roots_readFile tree index path
  rw [ClassIndex.readFile] at sameRoots ⊢
  split at sameRoots
  case h_1 declarations new read =>
    have named := Project.mem_files_of_sourceFiles begun.codebase.listed path listed
    obtain ⟨orderly, grown, absent⟩ := resuming.toOrderly.addFile new named read
    refine ⟨⟨orderly, resuming.grown.trans grown, ?_, ?_, ?_⟩,
      ⟨orderly, grown, complete_addFile index path declarations, absent⟩,
      allRead_singleton_of_mem read (by simp)⟩
    · intro entry entered
      rw [byFile_addFile] at entered
      rcases List.mem_append.mp entered with known | last
      · exact resuming.own entry known
      · rw [List.mem_singleton.mp last]
        exact .inr listed
    · rw [sameRoots]
      exact resuming.roots
    · exact fun key member => resuming.absent key (absent key member)
  case h_2 other =>
    refine ⟨resuming, Lookup.Adds.refl resuming.toOrderly, ?_⟩
    cases known : index.byFile.lookup path with
    | some declarations =>
      have entered := mem_byFile_of_lookup known
      exact allRead_singleton_of_mem (resuming.read _ entered).2 entered
    | none =>
      cases read : tree.declarations (.absolute path) with
      | ok declarations => exact absurd read (other declarations known)
      | error fault => exact allRead_singleton_of_error read

theorem Resuming.foldl_readFile (resuming : Resuming project tree files start index)
    (begun : start.Begun project tree files) (paths : List (List String))
    (listed : ∀ path ∈ paths, path ∈ files) :
    Resuming project tree files start (paths.foldl (ClassIndex.readFile tree) index) ∧
      Lookup.Adds tree index (paths.foldl (ClassIndex.readFile tree) index) ∧
      (paths.foldl (ClassIndex.readFile tree) index).AllRead tree paths := by
  induction paths generalizing index with
  | nil =>
    exact ⟨resuming, Lookup.Adds.refl resuming.toOrderly, fun _ impossible => by cases impossible⟩
  | cons path rest inductionHypothesis =>
    rw [List.forall_mem_cons] at listed
    obtain ⟨first, adds, read⟩ := resuming.readFile begun listed.1
    obtain ⟨later, laterAdds, restRead⟩ := inductionHypothesis first listed.2
    exact ⟨later, adds.trans laterAdds, (read.grows laterAdds.grown.toGrows).cons restRead⟩

theorem Resumed.foldl_readFile (resumed : Resumed project tree files start index)
    (begun : start.Begun project tree files) (paths : List (List String))
    (listed : ∀ path ∈ paths, path ∈ files) :
    Resumed project tree files start (paths.foldl (ClassIndex.readFile tree) index) := by
  obtain ⟨resuming, adds, -⟩ := resumed.toResuming.foldl_readFile begun paths listed
  exact ⟨resuming, fun done => (resumed.finished (adds.complete ▸ done)).grows adds.grown.toGrows⟩

/-- What was known in the beginning counts, and else what the project declares. -/
theorem Resuming.class?_eq (resuming : Resuming project tree files start index)
    (begun : start.Begun project tree files) {key : String}
    (sought : index.class? key = none → tree.declared? files key = none) :
    index.class? key = (start.class? key).or (tree.declared? files key) := by
  cases early : start.class? key with
  | some declaration => rw [resuming.grown.classes key declaration early, Option.some_or]
  | none =>
    rw [Option.none_or]
    cases known : index.class? key with
    | none => exact (sought known).symm
    | some declaration =>
      have own := resuming.key_eq known
      rw [resuming.classes] at known
      obtain ⟨entry, entered, member⟩ := List.mem_flatMap.mp (List.mem_of_find?_eq_some known)
      rcases resuming.own entry entered with isEarly | isOwn
      · have registered := begun.orderly.registered entry isEarly declaration member
        rw [own, early] at registered
        cases registered
      · rw [← own]
        exact (begun.codebase.declared?_eq
          (mem_declared isOwn (resuming.read entry entered).2 member)).symm

theorem Resuming.class?_eq_of_isSettled (resuming : Resuming project tree files start index)
    (begun : start.Begun project tree files) {key : String} (settled : index.isSettled key = true) :
    index.class? key = (start.class? key).or (tree.declared? files key) := by
  refine resuming.class?_eq begun fun unknown => resuming.absent key ?_
  rw [isSettled, unknown] at settled
  simpa using settled

/-- The completion of an index is one that has gone on from it, and it knows everything. -/
theorem Begun.completion (begun : start.Begun project tree files) :
    Resuming project tree files start (start.completion tree files) ∧ ∀ key,
      (start.completion tree files).class? key = (start.class? key).or (tree.declared? files key) := by
  obtain ⟨resuming, -, allRead⟩ :=
    begun.resumed.toResuming.foldl_readFile begun files fun _ => id
  exact ⟨resuming, fun key => resuming.class?_eq begun fun unknown =>
    resuming.registered.declared?_eq_none allRead unknown⟩

theorem Resuming.class?_eq_completion (resuming : Resuming project tree files start index)
    (begun : start.Begun project tree files) {key : String} (settled : index.isSettled key = true) :
    index.class? key = (start.completion tree files).class? key :=
  (resuming.class?_eq_of_isSettled begun settled).trans (begun.completion.2 key).symm

/-- A walk between settled classes is the walk in the completion. -/
theorem Resuming.walk_eq (resuming : Resuming project tree files start index)
    (begun : start.Begun project tree files) {relations : List Relation} {key : String}
    (settled : index.isSettled key = true)
    (met : ∀ edge ∈ index.walk relations key, index.isSettled edge.target = true) :
    index.walk relations key = (start.completion tree files).walk relations key := by
  have agree : ∀ {key}, index.isSettled key = true →
      edgesFrom index.edges key = edgesFrom (start.completion tree files).edges key := by
    intro key settled
    rw [resuming.edges, begun.completion.1.edges, resuming.class?_eq_completion begun settled]
  exact walk_congr (agree settled) fun edge member => agree (met edge member)

end Reading

end ClassIndex

namespace Lookup

open ClassIndex

variable {project : Project} {tree : FileTree} {files : List (List String)}
  {start index : ClassIndex}

section Reading

/-- A file that is passed over when it cannot be read. A fault is no failure. -/
theorem tryFile_leaves (tree : FileTree) (index : ClassIndex) (path : List String) :
    Ends (tryCatch (indexFile tree path) skipUnreadable) index
      (fun _ later => later = index.readFile tree path) (fun fault _ => fault.isFailure = false) := by
  apply Ends.tryCatch
  rw [indexFile]
  refine Ends.get_bind ?_
  split
  case h_1 declarations known => exact Ends.pure (by simp [readFile, known])
  case h_2 new =>
    refine Ends.ofExcept_bind ?_ ?_
    · intro declarations read
      exact Ends.set_bind (Ends.pure (by simp [readFile, new, read]))
    · intro fault failed
      unfold skipUnreadable
      split
      case h_1 => exact Ends.pure (by simp [readFile, new, failed])
      case h_2 other =>
        refine Ends.throw ?_
        rw [FileTree.declarations] at failed
        split at failed
        · cases failed
          rfl
        split at failed
        · cases failed
          exact absurd rfl (other _ _)
        · cases failed

/-- Files are read one after the other. -/
theorem indexFiles_leaves (tree : FileTree) (index : ClassIndex) (paths : List (List String)) :
    Ends (indexFiles tree paths) index (fun _ later => later = paths.foldl (readFile tree) index)
      (fun fault _ => fault.isFailure = false) := by
  induction paths generalizing index with
  | nil => exact Ends.pure rfl
  | cons path rest inductionHypothesis =>
    rw [indexFiles]
    refine Ends.bind (tryFile_leaves tree index path) ?_
    rintro _ _ rfl
    refine Ends.bind (inductionHypothesis _) ?_
    rintro _ _ rfl
    exact Ends.pure rfl

theorem indexDirectory_leaves (tree : FileTree) (index : ClassIndex) (path : String)
    (recursive excludeVendor : Bool) :
    Ends (indexDirectory tree path recursive excludeVendor) index
      (fun _ later => ∃ found, index.project.sourceFiles tree path recursive excludeVendor = .ok found ∧
        later = found.foldl (readFile tree) index)
      (fun fault _ => index.project.sourceFiles tree path recursive excludeVendor = .error fault ∨
        fault.isFailure = false) := by
  rw [indexDirectory]
  refine Ends.get_bind (Ends.ofExcept_bind ?_ fun _ failed => .inl failed)
  intro found sources
  exact (indexFiles_leaves tree index found).mono (fun _ _ left => ⟨found, sources, left⟩)
    fun _ _ => .inr

/-- An index that has read a directory goes on from there, and what is listed of the directory is
settled. -/
theorem begun_of_indexDirectory (codebase : Codebase project tree files) {path : String}
    {recursive excludeVendor : Bool} {listed : List Declaration}
    (ran : outcome (indexDirectory tree path recursive excludeVendor) (.empty project) =
      (.ok listed, start)) :
    start.Begun project tree files ∧
      ∀ declaration ∈ listed, start.isSettled (Name.key declaration.name) = true := by
  obtain ⟨adds, -, lists⟩ :=
    (indexDirectory_adds (empty_orderly tree project) path recursive excludeVendor).returned ran
  obtain ⟨found, -, isFold⟩ :=
    (indexDirectory_leaves tree (.empty project) path recursive excludeVendor).returned ran
  refine ⟨⟨codebase, adds.orderly, adds.grown.project, ?_, ?_, adds.complete⟩, ?_⟩
  · rw [isFold, roots_foldl_readFile]
    rfl
  · exact List.eq_nil_iff_forall_not_mem.mpr fun key absent => by cases adds.absent key absent
  · intro declaration member
    rw [isSettled, adds.orderly.isSome_class? (lists declaration member), Bool.true_or]

end Reading

section Searching

/-- All files of the project have been read when this returns. -/
theorem indexProject_resumed (begun : start.Begun project tree files)
    (resumed : Resumed project tree files start index) :
    Ends (indexProject tree) index
      (fun _ later => Resumed project tree files start later ∧ later.AllRead tree files)
      (fun fault _ => fault.isFailure = false) := by
  rw [indexProject]
  refine Ends.get_bind ?_
  split
  case isTrue complete => exact Ends.pure ⟨resumed, resumed.finished complete⟩
  case isFalse =>
    have marked : Resuming project tree files start { index with complete := true } :=
      { resumed.toResuming with
        grown := resumed.grown.trans (extends_of_same rfl rfl rfl rfl fun _ => id) }
    have sources := begun.codebase.listed
    rw [← resumed.owner begun] at sources
    refine Ends.set_bind (Ends.bind ((indexDirectory_leaves tree _ _ true false).mono
      (fun _ _ => id) ?_) ?_)
    · rintro fault _ (failed | other)
      · rw [sources] at failed
        cases failed
      · exact other
    · rintro _ _ ⟨found, isFound, rfl⟩
      rw [sources] at isFound
      cases isFound
      obtain ⟨resuming, -, allRead⟩ := marked.foldl_readFile begun files fun _ => id
      exact Ends.pure ⟨⟨resuming, fun _ => allRead⟩, allRead⟩

theorem autoloadRoots_resumed (begun : start.Begun project tree files)
    (resumed : Resumed project tree files start index) :
    Ends (autoloadRoots tree) index
      (fun roots later => Resumed project tree files start later ∧
        Autoload.roots project tree = .ok roots)
      (fun fault _ => fault.isFailure = false) := by
  rw [autoloadRoots]
  refine Ends.get_bind ?_
  split
  case h_1 roots known => exact Ends.pure ⟨resumed, resumed.roots roots known⟩
  case h_2 =>
    rw [resumed.owner begun]
    refine Ends.ofExcept_bind ?_ fun fault failed => Autoload.noFailure_roots project tree fault failed
    intro roots read
    refine Ends.modify_bind (Ends.pure ⟨{ resumed with grown := ?_, roots := ?_ }, read⟩)
    · exact resumed.grown.trans (extends_of_same rfl rfl rfl rfl fun _ => id)
    · rintro _ ⟨⟩
      exact read

theorem tryCandidates_resumed (begun : start.Begun project tree files)
    (resumed : Resumed project tree files start index) (key : String) {paths : List Path}
    (listed : ∀ path ∈ paths, tree.resolve path ∈ files) :
    Ends (tryCandidates tree key paths) index
      (fun _ later => Resumed project tree files start later) (fun fault _ => fault.isFailure = false) := by
  induction paths generalizing index with
  | nil => exact Ends.pure resumed
  | cons path rest inductionHypothesis =>
    rw [List.forall_mem_cons] at listed
    rw [tryCandidates]
    refine Ends.bind (indexFiles_leaves tree index _) ?_
    rintro _ _ rfl
    have further := resumed.foldl_readFile begun [tree.resolve path] (by simpa using listed.1)
    refine Ends.get_bind ?_
    split
    · exact Ends.pure further
    · exact inductionHypothesis further listed.2

/-- An index that has read all files may note that a class it does not know is absent. -/
theorem Resumed.note_absent (resumed : Resumed project tree files start index)
    (allRead : index.AllRead tree files) {key : String} (unknown : index.class? key = none) :
    Resumed project tree files start { index with absent := index.absent ++ [key] } := by
  have noted : index.Extends { index with absent := index.absent ++ [key] } :=
    extends_of_same rfl rfl rfl rfl fun _ => List.mem_append_left [key]
  refine { resumed with exclusive := ?_, grown := resumed.grown.trans noted, absent := ?_ }
  · intro other member
    rcases List.mem_append.mp member with known | last
    · exact resumed.exclusive other known
    · rw [List.mem_singleton.mp last]
      exact unknown
  · intro other member
    rcases List.mem_append.mp member with known | last
    · exact resumed.absent other known
    · rw [List.mem_singleton.mp last]
      exact resumed.registered.declared?_eq_none allRead unknown

/-- A search for a class is going on. It raises no failure. -/
theorem load_resumed (begun : start.Begun project tree files)
    (resumed : Resumed project tree files start index) (name : String) :
    Ends (load tree name) index (fun _ later => Resumed project tree files start later)
      (fun fault _ => fault.isFailure = false) := by
  rw [load]
  refine Ends.get_bind ?_
  split
  case isTrue => exact Ends.pure resumed
  case isFalse =>
    refine Ends.bind (autoloadRoots_resumed begun resumed) ?_
    rintro roots between ⟨betweenResumed, read⟩
    refine Ends.ofExcept_bind ?_ fun fault failed =>
      Autoload.noFailure_candidates tree roots name fault failed
    intro paths candidates
    have listed := begun.codebase.resolve_mem_of_candidates read candidates
    refine Ends.bind (tryCandidates_resumed begun betweenResumed (Name.key name) listed) ?_
    intro found tried triedResumed
    split
    case isTrue => exact Ends.pure triedResumed
    case isFalse =>
      refine Ends.bind (indexProject_resumed begun triedResumed) ?_
      rintro _ later ⟨laterResumed, allRead⟩
      refine Ends.modify ?_
      split
      case isTrue => exact laterResumed
      case isFalse unknown =>
        exact Resumed.note_absent laterResumed allRead (Option.not_isSome_iff_eq_none.mp unknown)

end Searching

section Answers

variable {α β : Type} {declaration : Declaration}

/-- Whether a lookup goes on, and raises no failure. -/
def GoesOn (project : Project) (tree : FileTree) (files : List (List String)) (start : ClassIndex)
    (action : Lookup α) : Prop :=
  ∀ index, Resumed project tree files start index →
    Ends action index (fun _ later => Resumed project tree files start later)
      (fun fault _ => fault.isFailure = false)

theorem goesOn_compositional : Compositional (GoesOn project tree files start) where
  pure _ _ resumed := Ends.pure resumed
  bind first rest index resumed := Ends.bind (first index resumed) fun value later => rest value later

/-- Whether a lookup gives a value, if it returns, and goes on. It raises no failure. -/
def Answers (project : Project) (tree : FileTree) (files : List (List String)) (start : ClassIndex)
    (action : Lookup α) (index : ClassIndex) (value : α) : Prop :=
  Ends action index
    (fun found later => found = value ∧ Resumed project tree files start later ∧ index.Extends later)
    (fun fault _ => fault.isFailure = false)

theorem Answers.pure (resumed : Resumed project tree files start index) (value : α) :
    Answers project tree files start (pure value) index value :=
  Ends.pure ⟨rfl, resumed, Extends.refl index⟩

/-- What an index extends is extended later on. -/
theorem Answers.since {action : Lookup α} {value : α} {between : ClassIndex}
    (answers : Answers project tree files start action between value) (grown : index.Extends between) :
    Ends action between
      (fun found later => found = value ∧ Resumed project tree files start later ∧ index.Extends later)
      (fun fault _ => fault.isFailure = false) := by
  refine answers.mono ?_ fun _ _ => id
  rintro found later ⟨same, resumed, laterGrown⟩
  exact ⟨same, resumed, grown.trans laterGrown⟩

theorem Answers.bind {action : Lookup α} {next : α → Lookup β} {value : α} {result : β}
    (first : Answers project tree files start action index value)
    (rest : ∀ later, Resumed project tree files start later → index.Extends later →
      Answers project tree files start (next value) later result) :
    Answers project tree files start (action >>= next) index result := by
  refine Ends.bind first ?_
  rintro _ between ⟨rfl, resumed, grown⟩
  exact (rest between resumed grown).since grown

theorem find_answers (begun : start.Begun project tree files)
    (resumed : Resumed project tree files start index) (name : String) :
    Answers project tree files start (find tree name) index
      ((start.completion tree files).class? (Name.key name)) := by
  refine Ends.bind (((load_passes resumed.toOrderly name).and (load_resumed begun resumed name)).mono
    (fun _ _ => id) fun _ _ => And.right) ?_
  rintro _ later ⟨⟨passed, settled⟩, laterResumed⟩
  refine Ends.get_bind (Ends.pure ⟨?_, laterResumed, passed.grown⟩)
  exact laterResumed.class?_eq_completion begun settled

/-- What is read off the edges of a walk from a settled class is what the completion gives, and what the
index that is left gives, if it depends on the classes at the targets only. -/
theorem readOff_answers {readOff : ClassIndex → List Edge → β} (begun : start.Begun project tree files)
    (resumed : Resumed project tree files start index) (relations : List Relation)
    (atTargets : ∀ {index other : ClassIndex} {edges : List Edge}, index.Named → other.Named →
      (∀ edge ∈ edges, index.class? edge.target = other.class? edge.target) →
        readOff index edges = readOff other edges)
    (settled : index.isSettled (Name.key declaration.name) = true) :
    Ends
      (do
        let edges ← reachable tree declaration relations
        return readOff (← get) edges)
      index
      (fun value later =>
        (value = readOff (start.completion tree files)
            ((start.completion tree files).walk relations (Name.key declaration.name)) ∧
          Resumed project tree files start later ∧ index.Extends later) ∧
        value = readOff later (later.walk relations (Name.key declaration.name)))
      (fun fault _ => fault.isFailure = false) := by
  have goesOn : GoesOn project tree files start _ := goesOn_compositional.readOff
    (fun _ resumed => Ends.of_get resumed) (fun name _ resumed => load_resumed begun resumed name)
    declaration relations readOff
  refine ((readOff_passes resumed.toOrderly declaration relations readOff).and
    (goesOn index resumed)).mono ?_ fun _ _ => And.right
  rintro value later ⟨⟨passed, rfl, met⟩, laterResumed⟩
  refine ⟨⟨?_, laterResumed, passed.grown⟩, rfl⟩
  rw [← laterResumed.walk_eq begun (passed.grown.settled _ settled) met]
  exact atTargets laterResumed.names begun.completion.1.names fun edge member =>
    laterResumed.class?_eq_completion begun (met edge member)

/-- The ancestors of a settled class are settled when they have been listed. -/
theorem parentChain_answers (begun : start.Begun project tree files)
    (resumed : Resumed project tree files start index)
    (settled : index.isSettled (Name.key declaration.name) = true) :
    Ends (parentChain tree declaration) index
      (fun chain later => (chain = (start.completion tree files).parentsOf declaration ∧
          Resumed project tree files start later ∧ index.Extends later) ∧
        ∀ holder ∈ chain, later.isSettled (Name.key holder.name) = true)
      (fun fault _ => fault.isFailure = false) := by
  refine (readOff_answers begun resumed [.extension] (fun _ _ => knownFront_congr) settled).mono ?_
    fun _ _ => id
  rintro chain later ⟨answers, isLater⟩
  refine ⟨answers, fun holder member => ?_⟩
  rw [isLater] at member
  obtain ⟨key, known⟩ := class?_of_mem_knownFront member
  rw [answers.2.1.key_eq known, isSettled, known]
  rfl

theorem interfaceNames_answers (begun : start.Begun project tree files)
    (resumed : Resumed project tree files start index)
    (settled : index.isSettled (Name.key declaration.name) = true) :
    Answers project tree files start (interfaceNames tree declaration) index
      ((start.completion tree files).interfacesOf declaration) :=
  (readOff_answers begun resumed [.extension, .implementation] interfaceTargets_congr settled).mono
    (fun _ _ => And.left) fun _ _ => id

theorem traitClosure_answers (begun : start.Begun project tree files)
    (resumed : Resumed project tree files start index)
    (settled : index.isSettled (Name.key declaration.name) = true) :
    Answers project tree files start (traitClosure tree declaration) index
      ((start.completion tree files).traitsOf declaration) :=
  (readOff_answers begun resumed [.inclusion] (fun _ _ => knownTargets_congr) settled).mono
    (fun _ _ => And.left) fun _ _ => id

theorem methodWithTraits?_answers (begun : start.Begun project tree files)
    (resumed : Resumed project tree files start index) (name : String)
    {declarations : List Declaration}
    (settled : ∀ holder ∈ declarations, index.isSettled (Name.key holder.name) = true) :
    Answers project tree files start (methodWithTraits? tree name declarations) index
      (((start.completion tree files).withTraitsOf declarations).findSome? (·.method? name)) := by
  induction declarations generalizing index with
  | nil => exact .pure resumed none
  | cons holder rest inductionHypothesis =>
    rw [List.forall_mem_cons] at settled
    rw [methodWithTraits?, withTraitsOf, List.flatMap_cons, List.findSome?_append, List.findSome?_cons]
    cases holder.method? name with
    | some method => exact .pure resumed (some method)
    | none =>
      refine (traitClosure_answers begun resumed settled.1).bind fun later laterResumed grown => ?_
      cases ((start.completion tree files).traitsOf holder).findSome? (·.method? name) with
      | some method => exact .pure laterResumed (some method)
      | none =>
        exact inductionHypothesis laterResumed fun other member =>
          grown.settled _ (settled.2 other member)

theorem methodAmong?_answers (begun : start.Begun project tree files)
    (resumed : Resumed project tree files start index) (name : String) (names : List String) :
    Answers project tree files start (methodAmong? tree name names) index
      (((start.completion tree files).knownAmong names).findSome? (·.method? name)) := by
  induction names generalizing index with
  | nil => exact .pure resumed none
  | cons className rest inductionHypothesis =>
    rw [methodAmong?, knownAmong, List.filterMap_cons]
    refine (find_answers begun resumed className).bind fun later laterResumed _ => ?_
    cases (start.completion tree files).class? (Name.key className) with
    | none => exact inductionHypothesis laterResumed
    | some found =>
      rw [Option.bind_some, List.findSome?_cons]
      cases found.method? name with
      | some method => exact .pure laterResumed (some method)
      | none => exact inductionHypothesis laterResumed

/-- The method that is found is the first one in the lineage that the completion gives. -/
theorem findMethod?_answers (begun : start.Begun project tree files)
    (resumed : Resumed project tree files start index)
    (settled : index.isSettled (Name.key declaration.name) = true) (name : String) :
    Answers project tree files start (findMethod? tree declaration name) index
      (((start.completion tree files).lineageOf declaration).findSome? (·.method? name)) := by
  rw [findMethod?, lineageOf, List.findSome?_append]
  refine Ends.bind (parentChain_answers begun resumed settled) ?_
  rintro _ later ⟨⟨rfl, laterResumed, grown⟩, chainSettled⟩
  have holders : ∀ holder ∈ declaration :: (start.completion tree files).parentsOf declaration,
      later.isSettled (Name.key holder.name) = true :=
    List.forall_mem_cons.mpr ⟨grown.settled _ settled, chainSettled⟩
  refine Answers.since ((methodWithTraits?_answers begun laterResumed name holders).bind
    fun between betweenResumed laterGrown => ?_) grown
  cases ((start.completion tree files).withTraitsOf (declaration ::
      (start.completion tree files).parentsOf declaration)).findSome? (·.method? name) with
  | some method => exact .pure betweenResumed (some method)
  | none =>
    refine (interfaceNames_answers begun betweenResumed ?_).bind
      fun last lastResumed _ => methodAmong?_answers begun lastResumed name _
    exact (grown.trans laterGrown).settled _ settled

end Answers

end Lookup

end ClassAtlas
