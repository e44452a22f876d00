import ClassAtlas.Proofs.Index.Autoload
import ClassAtlas.Proofs.Index.Lineage
import Mathlib.Data.List.Nodup

/-!
The answers of an index do not depend on its history.

Whatever operations an index has been through, it stays healthy, and a healthy index answers as one that
has read all files of the project at once. So two indexes of one project answer alike, however they were
used before.
-/

namespace ClassAtlas

namespace Lookup

open ClassIndex

/-- Whether a property holds of a lookup whenever it holds of its steps. -/
structure Compositional (holds : ∀ {α : Type}, Lookup α → Prop) : Prop where
  pure : ∀ {α : Type} (value : α), holds (pure value)
  bind : ∀ {α β : Type} {action : Lookup α} {next : α → Lookup β}, holds action →
    (∀ value, holds (next value)) → holds (action >>= next)

namespace Compositional

variable {holds : ∀ {α : Type}, Lookup α → Prop} {tree : FileTree}

theorem methodWithTraits? (composes : Compositional holds)
    (traits : ∀ declaration, holds (traitClosure tree declaration)) (name : String)
    (declarations : List Declaration) : holds (methodWithTraits? tree name declarations) := by
  induction declarations with
  | nil => exact composes.pure none
  | cons declaration rest inductionHypothesis =>
    rw [Lookup.methodWithTraits?]
    split
    case h_1 => exact composes.pure _
    case h_2 =>
      refine composes.bind (traits declaration) ?_
      intro found
      split
      case h_1 => exact composes.pure _
      case h_2 => exact inductionHypothesis

theorem methodAmong? (composes : Compositional holds) (finds : ∀ name, holds (find tree name))
    (name : String) (classNames : List String) : holds (methodAmong? tree name classNames) := by
  induction classNames with
  | nil => exact composes.pure none
  | cons className rest inductionHypothesis =>
    rw [Lookup.methodAmong?]
    refine composes.bind (finds className) ?_
    intro found
    split
    case h_1 => exact composes.pure _
    case h_2 => exact inductionHypothesis

/-- Looking a method up takes nothing but walks and searches for classes. -/
theorem findMethod? (composes : Compositional holds) (finds : ∀ name, holds (find tree name))
    (parents : ∀ declaration, holds (parentChain tree declaration))
    (interfaces : ∀ declaration, holds (interfaceNames tree declaration))
    (traits : ∀ declaration, holds (traitClosure tree declaration)) (declaration : Declaration)
    (name : String) : holds (findMethod? tree declaration name) := by
  rw [Lookup.findMethod?]
  refine composes.bind (parents declaration) ?_
  intro chain
  refine composes.bind (composes.methodWithTraits? traits name (declaration :: chain)) ?_
  intro found
  split
  case h_1 => exact composes.pure _
  case h_2 =>
    refine composes.bind (interfaces declaration) ?_
    exact fun names => composes.methodAmong? finds name names

end Compositional

section Keeps

variable {α β : Type} {project : Project} {tree : FileTree} {files : List (List String)}

/-- Whether a lookup leaves a healthy index whenever it returns. -/
def Keeps (project : Project) (tree : FileTree) (files : List (List String)) (action : Lookup α) :
    Prop :=
  ∀ index : ClassIndex, index.Healthy project tree files →
    Ends action index (fun _ later => later.Healthy project tree files) fun _ _ => True

theorem Keeps.pure (value : α) : Keeps project tree files (pure value) :=
  fun _ healthy => Ends.pure healthy

theorem Keeps.bind {action : Lookup α} {next : α → Lookup β} (first : Keeps project tree files action)
    (rest : ∀ value, Keeps project tree files (next value)) :
    Keeps project tree files (action >>= next) :=
  fun index healthy => Ends.bind (first index healthy) fun value later kept => rest value later kept

theorem find_keeps (codebase : Codebase project tree files) (name : String) :
    Keeps project tree files (find tree name) :=
  fun _ healthy => (find_ends codebase healthy name).mono (fun _ _ kept => kept.1)
    fun _ _ _ => trivial

theorem parentChain_keeps (codebase : Codebase project tree files) (declaration : Declaration) :
    Keeps project tree files (parentChain tree declaration) :=
  fun _ healthy => (parentChain_ends codebase healthy declaration).mono (fun _ _ kept => kept.1)
    fun _ _ _ => trivial

theorem interfaceNames_keeps (codebase : Codebase project tree files) (declaration : Declaration) :
    Keeps project tree files (interfaceNames tree declaration) :=
  fun _ healthy => (interfaceNames_ends codebase healthy declaration).mono (fun _ _ kept => kept.1)
    fun _ _ _ => trivial

theorem traitClosure_keeps (codebase : Codebase project tree files) (declaration : Declaration) :
    Keeps project tree files (traitClosure tree declaration) :=
  fun _ healthy => (traitClosure_ends codebase healthy declaration).mono (fun _ _ kept => kept.1)
    fun _ _ _ => trivial

theorem indexFile_keeps (codebase : Codebase project tree files) {path : List String}
    (listed : path ∈ files) : Keeps project tree files (indexFile tree path) := by
  intro index healthy
  refine (indexFile_ends codebase healthy.toConsistent listed).mono ?_ fun _ _ _ => trivial
  rintro _ later ⟨consistent, grows, complete, _⟩
  exact healthy.of_consistent consistent grows complete

theorem indexDirectory_keeps (codebase : Codebase project tree files) {path : String}
    {recursive excludeVendor : Bool}
    (listed : ∀ found, project.sourceFiles tree path recursive excludeVendor = .ok found →
      ∀ file ∈ found, file ∈ files) :
    Keeps project tree files (indexDirectory tree path recursive excludeVendor) := by
  intro index healthy
  refine (indexDirectory_ends codebase healthy.toConsistent listed fun _ => True).mono ?_
    fun _ _ _ => trivial
  rintro _ later ⟨consistent, grows, complete, _⟩
  exact healthy.of_consistent consistent grows complete

theorem keeps_compositional : Compositional (Keeps project tree files) := ⟨.pure, .bind⟩

theorem findMethod?_keeps (codebase : Codebase project tree files) (declaration : Declaration)
    (name : String) : Keeps project tree files (findMethod? tree declaration name) :=
  keeps_compositional.findMethod? (find_keeps codebase) (parentChain_keeps codebase)
    (interfaceNames_keeps codebase) (traitClosure_keeps codebase) declaration name

end Keeps

/-- What can be asked of an index. -/
inductive Operation where
  | get (name : String)
  | indexDirectory (path : String) (recursive excludeVendor : Bool)
  | indexFile (path : Path)
  | parentChain (declaration : Declaration)
  | interfaceNames (declaration : Declaration)
  | traitClosure (declaration : Declaration)
  | hasMethod (declaration : Declaration) (name : String)

namespace Operation

/-- Takes an operation; its answer is dropped. -/
def perform (tree : FileTree) : Operation → Lookup Unit
  | .get name => do let _ ← find tree name
  | .indexDirectory path recursive excludeVendor => do
    let _ ← Lookup.indexDirectory tree path recursive excludeVendor
  | .indexFile path => do let _ ← Lookup.indexFile tree (tree.resolve path)
  | .parentChain declaration => do let _ ← Lookup.parentChain tree declaration
  | .interfaceNames declaration => do let _ ← Lookup.interfaceNames tree declaration
  | .traitClosure declaration => do let _ ← Lookup.traitClosure tree declaration
  | .hasMethod declaration name => do let _ ← findMethod? tree declaration name

/-- Takes operations one after the other. -/
def performAll (tree : FileTree) : List Operation → Lookup Unit
  | [] => return
  | operation :: rest => do
    operation.perform tree
    performAll tree rest

/-- Whether an operation that is given a path only reads files of the project. -/
def OnProject (project : Project) (tree : FileTree) (files : List (List String)) : Operation → Prop
  | .indexDirectory path recursive excludeVendor =>
    ∀ found, project.sourceFiles tree path recursive excludeVendor = .ok found →
      ∀ file ∈ found, file ∈ files
  | .indexFile path => tree.resolve path ∈ files
  | _ => True

variable {project : Project} {tree : FileTree} {files : List (List String)}

/-- A directory of the project has files of the project only, unless it lies in an excluded one. -/
theorem indexDirectory_onProject (codebase : Codebase project tree files) {path : String}
    (recursive excludeVendor : Bool) {directory below : List String}
    (root : project.directory tree (Path.absolute project.root).render = .ok directory)
    (inside : project.directory tree path = .ok (directory ++ below))
    (searched : ∀ part ∈ below, part ∉ Project.excludedDirectories) :
    (indexDirectory path recursive excludeVendor).OnProject project tree files :=
  fun _ listed => Project.sourceFiles_above searched root inside codebase.listed listed

theorem perform_keeps (codebase : Codebase project tree files) {operation : Operation}
    (onProject : operation.OnProject project tree files) :
    Keeps project tree files (operation.perform tree) := by
  cases operation with
  | get name => exact .bind (find_keeps codebase name) fun _ => .pure ()
  | indexDirectory path recursive excludeVendor =>
    exact .bind (indexDirectory_keeps codebase onProject) fun _ => .pure ()
  | indexFile path => exact .bind (indexFile_keeps codebase onProject) fun _ => .pure ()
  | parentChain declaration =>
    exact .bind (parentChain_keeps codebase declaration) fun _ => .pure ()
  | interfaceNames declaration =>
    exact .bind (interfaceNames_keeps codebase declaration) fun _ => .pure ()
  | traitClosure declaration =>
    exact .bind (traitClosure_keeps codebase declaration) fun _ => .pure ()
  | hasMethod declaration name =>
    exact .bind (findMethod?_keeps codebase declaration name) fun _ => .pure ()

/-- An index stays healthy throughout. -/
theorem performAll_keeps (codebase : Codebase project tree files) {operations : List Operation}
    (onProject : ∀ operation ∈ operations, operation.OnProject project tree files) :
    Keeps project tree files (performAll tree operations) := by
  induction operations with
  | nil => exact .pure ()
  | cons operation rest inductionHypothesis =>
    rw [List.forall_mem_cons] at onProject
    rw [performAll]
    exact .bind (perform_keeps codebase onProject.1) fun _ => inductionHypothesis onProject.2

end Operation

/-- Whether nothing keeps the lookup of names from returning: the package descriptions are well-formed, and
the file system refuses none of the paths that the autoload roots map the names to. -/
structure Unobstructed (project : Project) (tree : FileTree) (asked : String → Prop) : Prop where
  wellFormed : Autoload.WellFormed project tree
  paired : Autoload.PairsSurrogates tree (Autoload.projectFile project)
  packagesPaired : Autoload.PairsSurrogates tree (Autoload.packagesFile project)
  allowed : ∀ name, asked name → ∀ path ∈ Autoload.mappedPaths (Autoload.usableRoots project tree) name,
    (tree.find path).isRefused = false

section Answers

variable {project : Project} {tree : FileTree} {files : List (List String)}

theorem Unobstructed.not_obstacle {asked : String → Prop} (unobstructed : Unobstructed project tree asked)
    (fault : Fault) : ¬ Obstacle project tree asked fault := by
  have known := (Autoload.roots_yields project tree).returned unobstructed.wellFormed
  rintro (failed | ⟨read, asks, failed⟩)
  · rw [known] at failed
    cases failed
  case candidates roots name =>
    obtain rfl := Except.ok.inj (known.symm.trans read)
    rw [(Autoload.candidates_yields tree _ name).returned (unobstructed.allowed name asks)] at failed
    cases failed

/-- Whether an index answers about a name as one that has read all files of the project: looking the name
up returns what the project declares, and asking what this builds on returns that, too. -/
def AnswersEagerly (project : Project) (tree : FileTree) (files : List (List String)) (name : String)
    (index : ClassIndex) : Prop :=
  ∃ later, outcome (find tree name) index = (.ok (tree.declared? files (Name.key name)), later) ∧
    ∀ declaration, tree.declared? files (Name.key name) = some declaration →
      (outcome (parentChain tree declaration) later).1 =
        .ok ((eager project tree files).parents (Name.key name)) ∧
      (outcome (interfaceNames tree declaration) later).1 =
        .ok ((eager project tree files).interfaces (Name.key name)) ∧
      (outcome (traitClosure tree declaration) later).1 =
        .ok ((eager project tree files).traits (Name.key name))

/-- A lookup that nothing obstructs returns. -/
theorem Ends.returns {α : Type} {action : Lookup α} {index : ClassIndex} {asked : String → Prop}
    {expected : α} {returns : α → ClassIndex → Prop}
    (ends : Ends action index returns fun fault _ => Obstacle project tree asked fault)
    (unobstructed : Unobstructed project tree asked)
    (right : ∀ value later, returns value later → value = expected) :
    (outcome action index).1 = .ok expected := by
  obtain ⟨value, later, ran, kept⟩ :=
    (ends.mono (fun _ _ => id) fun fault _ => unobstructed.not_obstacle fault).ok
  rw [ran, right value later kept]

theorem answersEagerly_of_healthy (codebase : Codebase project tree files) {index : ClassIndex}
    (healthy : index.Healthy project tree files) {name : String}
    (unobstructed : Unobstructed project tree fun asked => asked = name ∨ tree.IsBuiltOn files asked) :
    AnswersEagerly project tree files name index := by
  have sought : Unobstructed project tree (· = name) :=
    { unobstructed with allowed := fun asked same => unobstructed.allowed asked (.inl same) }
  have walked : Unobstructed project tree (tree.IsBuiltOn files) :=
    { unobstructed with allowed := fun asked builtOn => unobstructed.allowed asked (.inr builtOn) }
  obtain ⟨found, later, ran, laterHealthy, -, declared, known⟩ :=
    ((find_ends codebase healthy name).mono (fun _ _ => id) fun fault _ => sought.not_obstacle fault).ok
  refine ⟨later, declared ▸ ran, fun declaration isDeclared => ?_⟩
  have key : Name.key declaration.name = Name.key name := by
    simpa using List.find?_some isDeclared
  -- The walks start from a settled class, since the lookup has just found it.
  have settled : later.isSettled (Name.key declaration.name) = true := by
    rw [key, isSettled, ← known, declared, isDeclared]
    rfl
  rw [← key]
  refine ⟨?_, ?_, ?_⟩
  · exact (parentChain_ends codebase laterHealthy declaration).returns walked
      fun _ _ kept => kept.2 settled
  · exact (interfaceNames_ends codebase laterHealthy declaration).returns walked
      fun _ _ kept => kept.2 settled
  · exact (traitClosure_ends codebase laterHealthy declaration).returns walked
      fun _ _ kept => kept.2 settled

/-- Two indexes that have been through any operations on one project answer alike: as an index that has
read all its files, for a name if nothing obstructs its lookup and that of the names that classes of the
project build on. -/
theorem answers_independent_of_history (codebase : Codebase project tree files)
    {first second : List Operation}
    (firstOnProject : ∀ operation ∈ first, operation.OnProject project tree files)
    (secondOnProject : ∀ operation ∈ second, operation.OnProject project tree files)
    {firstIndex secondIndex : ClassIndex}
    (firstEnds : outcome (Operation.performAll tree first) (.empty project) = (.ok (), firstIndex))
    (secondEnds : outcome (Operation.performAll tree second) (.empty project) = (.ok (), secondIndex))
    {name : String}
    (unobstructed : Unobstructed project tree fun asked => asked = name ∨ tree.IsBuiltOn files asked) :
    AnswersEagerly project tree files name firstIndex ∧
      AnswersEagerly project tree files name secondIndex := by
  have start := empty_healthy project tree files
  have firstHealthy := (Operation.performAll_keeps codebase firstOnProject _ start).returned firstEnds
  have secondHealthy := (Operation.performAll_keeps codebase secondOnProject _ start).returned secondEnds
  exact ⟨answersEagerly_of_healthy codebase firstHealthy unobstructed,
    answersEagerly_of_healthy codebase secondHealthy unobstructed⟩

end Answers

/-- A source that declares a class and its parent. -/
def familySource : Source where
  bytes := Utf8.encode "<?php class A extends B {} class B {}"
  root :=
    let name (field : String) (start : Nat) : Node := .mk ⟨"name", true, field, start, start + 1⟩ []
    .mk ⟨"program", true, "", 0, 37⟩ [
      .mk ⟨"class_declaration", true, "", 6, 26⟩ [
        name "name" 12, .mk ⟨"base_clause", true, "", 14, 23⟩ [name "" 22]],
      .mk ⟨"class_declaration", true, "", 27, 37⟩ [name "name" 33]]

/-- A project with this source in a directory. -/
def familyTree : FileTree where
  workingDirectory := ["app"]
  files := [(["app", "src", "family.php"], ⟨familySource, true⟩)]
  directories := [["app"], ["app", "src"]]

def familyProject : Project := ⟨["app"], "vendor"⟩

theorem familyTree_codebase :
    Codebase familyProject familyTree [["app", "src", "family.php"]] where
  listed := by decide +kernel
  unique := by
    have keys : ((familyTree.declared [["app", "src", "family.php"]]).map (Name.key ·.name)).Nodup := by
      decide +kernel
    exact fun first member second other same => List.inj_on_of_nodup_map keys member other same
  autoloaded := by
    have none : Autoload.roots familyProject familyTree = .ok [] := by decide +kernel
    intro roots read root member
    rw [none] at read
    cases read
    cases member

/-- The index after operations on the family tree. -/
def familyIndex (operations : List Operation) : ClassIndex :=
  (outcome (Operation.performAll familyTree operations) (.empty familyProject)).2

theorem outcome_eq_familyIndex {operations : List Operation}
    (returns : (outcome (Operation.performAll familyTree operations) (.empty familyProject)).1 = .ok ()) :
    outcome (Operation.performAll familyTree operations) (.empty familyProject) =
      (.ok (), familyIndex operations) :=
  Prod.ext returns rfl

theorem familyTree_unobstructed (asked : String → Prop) :
    Unobstructed familyProject familyTree asked := by
  have none : Autoload.roots familyProject familyTree = .ok [] := by decide +kernel
  obtain ⟨wellFormed, noRoots⟩ :=
    (Autoload.roots_yields familyProject familyTree).condition_of_eq none
  have own : Autoload.textAt? familyTree (Autoload.projectFile familyProject) = .none := by decide +kernel
  have packages : Autoload.textAt? familyTree (Autoload.packagesFile familyProject) = .none := by
    decide +kernel
  refine ⟨wellFormed, fun _ found => ?_, fun _ found => ?_, ?_⟩
  · cases own.symm.trans found
  · cases packages.symm.trans found
  · simp [noRoots, Autoload.mappedPaths]

theorem answers_independent_of_history_family :
    AnswersEagerly familyProject familyTree [["app", "src", "family.php"]] "\\a"
        (familyIndex [.get "Missing", .get "B"]) ∧
      AnswersEagerly familyProject familyTree [["app", "src", "family.php"]] "\\a"
        (familyIndex [.indexDirectory "src" true false]) := by
  have asked : ∀ operation ∈ [Operation.get "Missing", .get "B"],
      operation.OnProject familyProject familyTree [["app", "src", "family.php"]] := by
    simp [Operation.OnProject]
  have searched : ∀ operation ∈ [Operation.indexDirectory "src" true false],
      operation.OnProject familyProject familyTree [["app", "src", "family.php"]] := by
    have root : familyProject.directory familyTree (Path.absolute familyProject.root).render =
        .ok ["app"] := by decide +kernel
    have inside : familyProject.directory familyTree "src" = .ok (["app"] ++ ["src"]) := by
      decide +kernel
    intro operation member
    rw [List.mem_singleton.mp member]
    exact Operation.indexDirectory_onProject familyTree_codebase true false root inside (by decide)
  exact answers_independent_of_history familyTree_codebase asked searched
    (outcome_eq_familyIndex (by decide +kernel)) (outcome_eq_familyIndex (by decide +kernel))
    (familyTree_unobstructed _)

/-- The project with a package description that maps a stem to a number. -/
def misdescribedTree : FileTree :=
  { familyTree with
    files := (["app", "composer.json"], ⟨Autoload.numberSource, true⟩) :: familyTree.files }

theorem misdescribedTree_codebase :
    Codebase familyProject misdescribedTree [["app", "src", "family.php"]] where
  listed := by decide +kernel
  unique := by
    have keys :
        ((misdescribedTree.declared [["app", "src", "family.php"]]).map (Name.key ·.name)).Nodup := by
      decide +kernel
    exact fun first member second other same => List.inj_on_of_nodup_map keys member other same
  autoloaded := by
    have none : (Autoload.roots familyProject misdescribedTree).toOption = .none := by decide +kernel
    intro roots read
    rw [read] at none
    cases none

/-- In such a project an index that has been through the directory finds a class, and a fresh index raises
a fault in place of an answer. -/
theorem get_depends_on_history :
    Codebase familyProject misdescribedTree [["app", "src", "family.php"]] ∧
      ((outcome (do
        Operation.performAll misdescribedTree [.indexDirectory "src" true false]
        find misdescribedTree "A") (.empty familyProject)).1.toOption.bind id).isSome = true ∧
      (outcome (do
        Operation.performAll misdescribedTree []
        find misdescribedTree "A") (.empty familyProject)).1.toOption.isNone = true :=
  ⟨misdescribedTree_codebase, by decide +kernel, by decide +kernel⟩

end Lookup

end ClassAtlas
