import ClassAtlas.Detail.Listing
import ClassAtlas.Proofs.Index.Resumed
import Mathlib.Algebra.GroupWithZero.Nat

/-!
The conditions of a listing are independent of each other.

Classes are looked at one after the other, and later conditions only if the earlier ones hold, so which
files are read and which names are found missing depends on all conditions and all classes before. What a
class is found to be does not. So a listing under several conditions is what the listings under each of
them have in common, in the order of the directory, whichever page of it is asked for.
-/

namespace ClassAtlas

namespace ClassFilters

/-- Conditions that are given as texts. An empty text is no condition. -/
def wanting (trait interface method : String) : ClassFilters :=
  ⟨.str trait, .str interface, .str method⟩

end ClassFilters

namespace Listing

open ClassIndex Lookup ClassFilters

/-- Whether a class includes a trait itself, if one is wanted. -/
def includes (trait : String) (declaration : Declaration) : Bool :=
  trait.isEmpty || names trait declaration.traits

/-- Whether a class has an interface, if one is wanted. -/
def implements (index : ClassIndex) (interface : String) (declaration : Declaration) : Bool :=
  interface.isEmpty || names interface (index.interfacesOf declaration)

/-- Whether a class has a method, if one is wanted. -/
def provides (index : ClassIndex) (method : String) (declaration : Declaration) : Bool :=
  method.isEmpty || ((index.lineageOf declaration).findSome? (·.method? method)).isSome

/-- Whether a class meets all of three conditions. -/
def meets (index : ClassIndex) (trait interface method : String) (declaration : Declaration) : Bool :=
  includes trait declaration &&
    (implements index interface declaration && provides index method declaration)

@[simp] theorem includes_empty (declaration : Declaration) : includes "" declaration = true := rfl

@[simp] theorem implements_empty (index : ClassIndex) (declaration : Declaration) :
    implements index "" declaration = true := rfl

@[simp] theorem provides_empty (index : ClassIndex) (declaration : Declaration) :
    provides index "" declaration = true := rfl

section Selection

variable {project : Project} {tree : FileTree} {files : List (List String)}
  {start index : ClassIndex} {declaration : Declaration}

theorem meetsInterface_answers (begun : start.Begun project tree files)
    (resumed : Resumed project tree files start index)
    (settled : index.isSettled (Name.key declaration.name) = true) (trait interface method : String) :
    Answers project tree files start
      ((wanting trait interface method).meetsInterface tree declaration) index
      (implements (start.completion tree files) interface declaration) := by
  have asks : (wanting trait interface method).meetsInterface tree declaration =
      if interface.isEmpty then pure true
      else do return names interface (← interfaceNames tree declaration) := rfl
  rw [asks, implements]
  cases interface.isEmpty with
  | true => exact .pure resumed true
  | false =>
    exact (interfaceNames_answers begun resumed settled).bind fun _ laterResumed _ =>
      .pure laterResumed _

theorem meetsMethod_answers (begun : start.Begun project tree files)
    (resumed : Resumed project tree files start index)
    (settled : index.isSettled (Name.key declaration.name) = true) (trait interface method : String) :
    Answers project tree files start
      ((wanting trait interface method).meetsMethod tree declaration) index
      (provides (start.completion tree files) method declaration) := by
  have asks : (wanting trait interface method).meetsMethod tree declaration =
      if method.isEmpty then pure true
      else do
        let _ ← parentChain tree declaration
        return (← findMethod? tree declaration method).isSome := by
    rw [meetsMethod]
    have given : (wanting trait interface method).hasMethod.isGiven = !method.isEmpty := rfl
    rw [given, Bool.not_not]
    rfl
  rw [asks, provides]
  cases method.isEmpty with
  | true => exact .pure resumed true
  | false =>
    refine Ends.bind (parentChain_answers begun resumed settled) ?_
    rintro _ later ⟨⟨-, laterResumed, grown⟩, -⟩
    refine Answers.since ((findMethod?_answers begun laterResumed (grown.settled _ settled) method).bind
      fun _ lastResumed _ => .pure lastResumed _) grown

/-- A class is accepted if it meets each of the conditions. -/
theorem accepts_answers (begun : start.Begun project tree files)
    (resumed : Resumed project tree files start index)
    (settled : index.isSettled (Name.key declaration.name) = true) (trait interface method : String) :
    Answers project tree files start ((wanting trait interface method).accepts tree declaration) index
      (meets (start.completion tree files) trait interface method declaration) := by
  have asks : (wanting trait interface method).meetsTrait declaration =
      pure (includes trait declaration) := rfl
  rw [accepts, asks, pure_bind, meets]
  cases includes trait declaration with
  | false => exact .pure resumed false
  | true =>
    refine (meetsInterface_answers begun resumed settled trait interface method).bind
      fun later laterResumed grown => ?_
    cases implements (start.completion tree files) interface declaration with
    | false => exact .pure laterResumed false
    | true =>
      exact meetsMethod_answers begun laterResumed (grown.settled _ settled) trait interface method

theorem select_answers (begun : start.Begun project tree files)
    (resumed : Resumed project tree files start index) (trait interface method : String)
    {declarations : List Declaration}
    (settled : ∀ declaration ∈ declarations, index.isSettled (Name.key declaration.name) = true) :
    Answers project tree files start (select tree (wanting trait interface method) declarations) index
      (declarations.filter (meets (start.completion tree files) trait interface method)) := by
  induction declarations generalizing index with
  | nil => exact .pure resumed []
  | cons declaration rest inductionHypothesis =>
    rw [List.forall_mem_cons] at settled
    rw [select, List.filter_cons]
    refine (accepts_answers begun resumed settled.1 trait interface method).bind
      fun later laterResumed grown => ?_
    refine (inductionHypothesis laterResumed fun other member => grown.settled _
      (settled.2 other member)).bind fun _ lastResumed _ => .pure lastResumed _

end Selection

section Requests

/-- What a listing returns to a request with these conditions and this page, by an index that knows
nothing before. -/
def request (project : Project) (tree : FileTree) (path : String) (recursive : Bool)
    (filters : ClassFilters) (offset limit : Nat) : Except Fault (List Declaration) :=
  (outcome (discover tree (.str path)
    { filters, recursive, limit := .int limit, offset := .int offset }) (.empty project)).1

/-- The classes that are returned, none if there is a fault. -/
def shown (result : Except Fault (List Declaration)) : List Declaration := result.toOption.getD []

/-- Whether a request is answered: classes are returned, or a failure that says why not. -/
def isAnswered : Except Fault (List Declaration) → Bool
  | .ok _ => true
  | .error fault => fault.isFailure

/-- Whether a request is answered with nothing being found. -/
def isNotFound : Except Fault (List Declaration) → Bool
  | .error (.failure failure) => failure.kind == .notFound
  | _ => false

/-- The items after an offset, at most as many as the limit if there is one. -/
def sliced {α : Type} (items : List α) (offset limit : Nat) : List α :=
  if limit = 0 then items.drop offset else (items.drop offset).take limit

/-- What is returned on pages of some sizes, one after the other. -/
def pages (ask : Nat → Nat → Except Fault (List Declaration)) (offset : Nat) :
    List Nat → List Declaration
  | [] => []
  | size :: rest => shown (ask offset size) ++ pages ask (offset + size) rest

theorem page_eq_sliced {α : Type} (items : List α) (offset limit : Nat) :
    page items offset limit = sliced items offset limit := by
  rw [sliced]
  split
  case isTrue unlimited =>
    subst unlimited
    exact page_unlimited items offset
  case isFalse positive => exact page_ofNat items offset limit (by omega)

theorem plan_wanting (recursive : Bool) (trait interface method : String) (offset limit : Nat) :
    ({ filters := wanting trait interface method, recursive, limit := .int limit,
       offset := .int offset } : ListingOptions).plan =
      .ok ⟨wanting (Text.trim trait) (Text.trim interface) (Text.trim method), limit, offset⟩ := by
  have natural : ∀ count : Nat, ¬ (count : Int) < 0 := fun count => by omega
  simp only [ListingOptions.plan, Json.number, bind, Except.bind, natural, if_false]
  rfl

/-- A request lists the directory, selects the classes, and cuts the page out. -/
theorem request_eq (project : Project) (tree : FileTree) (path : String) (recursive : Bool)
    (trait interface method : String) (offset limit : Nat) :
    request project tree path recursive (wanting trait interface method) offset limit =
      match outcome (indexDirectory tree path recursive false) (.empty project) with
      | (.error fault, _) => .error fault
      | (.ok listed, start) =>
        if listed.isEmpty then .error (.failure .nothingListed)
        else match (outcome (select tree
          (wanting (Text.trim trait) (Text.trim interface) (Text.trim method)) listed) start).1 with
        | .error fault => .error fault
        | .ok kept =>
          if (sliced kept offset limit).isEmpty then .error (.failure .nothingMatches)
          else .ok (sliced kept offset limit) := by
  rw [request, discover, plan_wanting]
  have ready : ∀ {α : Type} (value : α) (index : ClassIndex),
      outcome (Lookup.ofExcept (.ok value)) index = (.ok value, index) := fun _ _ => rfl
  simp only [outcome_bind, ready, Json.pathText]
  obtain ⟨fault | listed, start⟩ := outcome (indexDirectory tree path recursive false) (.empty project)
  · rfl
  cases listed with
  | nil => rfl
  | cons first rest =>
    simp only [List.isEmpty_cons, outcome_bind, if_false, Bool.false_eq_true]
    obtain ⟨fault | kept, later⟩ := outcome (select tree
      (wanting (Text.trim trait) (Text.trim interface) (Text.trim method)) (first :: rest)) start
    · rfl
    · simp only [page_eq_sliced]
      cases (sliced kept offset limit).isEmpty <;> rfl

/-- Whether there is no such directory. -/
def Missing (project : Project) (tree : FileTree) (path : String) : Prop :=
  tree.isDirectory ((Path.absolute project.root).join (.parse path)) = .ok false

/-- How the requests for the pages of some classes are answered. -/
structure Serves (ask : Nat → Nat → Except Fault (List Declaration)) (missing : Prop)
    (listed kept : List Declaration) : Prop where
  answered : ∀ offset limit, isAnswered (ask offset limit) = true
  shows : ∀ offset limit, shown (ask offset limit) = sliced kept offset limit
  notFound : ∀ offset limit, isNotFound (ask offset limit) = true ↔
    missing ∨ listed = [] ∨ sliced kept offset limit = []
  /-- Pages that follow each other make up the whole. -/
  joins : ∀ sizes : List Nat, (∀ size ∈ sizes, 0 < size) →
    (shown (ask 0 0)).length ≤ sizes.sum → pages ask 0 sizes = shown (ask 0 0)

/-- Whether listings under one condition each show a class just if it meets the condition, by what an
index knows of it. -/
structure ShownAlone (index : ClassIndex) (trait interface method : String)
    (alone : ClassFilters → List Declaration) (info : Declaration) : Prop where
  trait : info ∈ alone (wanting trait "" "") ↔ includes (Text.trim trait) info = true
  interface : info ∈ alone (wanting "" interface "") ↔
    implements index (Text.trim interface) info = true
  method : info ∈ alone (wanting "" "" method) ↔ provides index (Text.trim method) info = true

end Requests

section Pages

variable {ask : Nat → Nat → Except Fault (List Declaration)} {missing : Prop}
  {listed kept : List Declaration}

/-- Pages that are cut out of the same classes are put together again. -/
theorem pages_eq (shows : ∀ offset limit, shown (ask offset limit) = sliced kept offset limit)
    {sizes : List Nat} (positive : ∀ size ∈ sizes, 0 < size) (offset : Nat) :
    pages ask offset sizes = (kept.drop offset).take sizes.sum := by
  induction sizes generalizing offset with
  | nil => simp [pages]
  | cons size rest inductionHypothesis =>
    rw [List.forall_mem_cons] at positive
    rw [pages, shows, sliced, if_neg (by omega), inductionHypothesis positive.2, List.sum_cons,
      List.take_add, List.drop_drop]

theorem Serves.of_shows (answered : ∀ offset limit, isAnswered (ask offset limit) = true)
    (shows : ∀ offset limit, shown (ask offset limit) = sliced kept offset limit)
    (notFound : ∀ offset limit, isNotFound (ask offset limit) = true ↔
      missing ∨ listed = [] ∨ sliced kept offset limit = []) : Serves ask missing listed kept where
  answered := answered
  shows := shows
  notFound := notFound
  joins sizes positive enough := by
    have whole : shown (ask 0 0) = kept := by rw [shows, sliced, if_pos rfl, List.drop_zero]
    rw [whole] at enough ⊢
    rw [pages_eq shows positive, List.drop_zero, List.take_of_length_le enough]

/-- If there is nothing to list, every request is answered so. -/
theorem Serves.of_nothing {failure : Failure} (isNothing : failure.kind = .notFound)
    (asked : ∀ offset limit, ask offset limit = .error (.failure failure)) :
    Serves ask missing listed [] := by
  have none : ∀ offset limit, sliced ([] : List Declaration) offset limit = [] := by simp [sliced]
  refine .of_shows (fun offset limit => ?_) (fun offset limit => ?_) fun offset limit => ?_
  · rw [asked]
    rfl
  · rw [asked, none]
    rfl
  · simp [asked, isNotFound, isNothing, none]

/-- If classes are listed, every request is answered with a slice of those that are kept. -/
theorem Serves.of_slices (present : ¬ missing) (some : listed ≠ [])
    (asked : ∀ offset limit, ask offset limit =
      if (sliced kept offset limit).isEmpty then .error (.failure .nothingMatches)
      else .ok (sliced kept offset limit)) : Serves ask missing listed kept := by
  refine .of_shows (fun offset limit => ?_) (fun offset limit => ?_) fun offset limit => ?_
  all_goals
    rw [asked]
    cases sliced kept offset limit with
    | nil => simp [isAnswered, shown, isNotFound, Fault.isFailure, Except.toOption, Failure.kind]
    | cons first rest => simp [isAnswered, shown, isNotFound, Except.toOption, present, some]

end Pages

section Independence

variable {project : Project} {tree : FileTree} {files : List (List String)} {start : ClassIndex}
  {path : String} {recursive : Bool} {listed : List Declaration}

theorem isFailure_of_isDirectory {path : Path} {fault : Fault}
    (failed : tree.isDirectory path = .error fault) : fault.isFailure = false := by
  rw [FileTree.isDirectory] at failed
  split at failed <;> cases failed <;> rfl

/-- A directory has source files, or it is missing, or it cannot be looked at. -/
theorem sourceFiles_cases (project : Project) (tree : FileTree) (path : String)
    (recursive excludeVendor : Bool) :
    (∃ found, project.sourceFiles tree path recursive excludeVendor = .ok found ∧
        ¬ Missing project tree path) ∨
      (project.sourceFiles tree path recursive excludeVendor = .error (.failure (.directoryMissing path)) ∧
        Missing project tree path) ∨
      ∃ fault, project.sourceFiles tree path recursive excludeVendor = .error fault ∧
        fault.isFailure = false := by
  have directory : project.directory tree path =
      tree.isDirectory ((Path.absolute project.root).join (.parse path)) >>= fun isThere =>
        if isThere then pure (tree.resolve ((Path.absolute project.root).join (.parse path)))
        else throw (.failure (.directoryMissing path)) := rfl
  have raised {fault : Fault} (failed : project.directory tree path = .error fault) :
      project.sourceFiles tree path recursive excludeVendor = .error fault := by
    rw [Project.sourceFiles, failed]
    rfl
  rw [Missing]
  cases asked : tree.isDirectory ((Path.absolute project.root).join (.parse path)) with
  | error fault =>
    rw [asked] at directory
    exact .inr (.inr ⟨fault, raised directory, isFailure_of_isDirectory asked⟩)
  | ok isThere =>
    rw [asked] at directory
    cases isThere with
    | false => exact .inr (.inl ⟨raised directory, rfl⟩)
    | true =>
      rw [Project.sourceFiles_eq directory]
      split
      · exact .inr (.inr ⟨_, rfl, rfl⟩)
      · exact .inl ⟨_, rfl, by simp⟩

/-- A directory that cannot be listed is missing, if the fault is an answer. -/
theorem missing_of_raised {fault : Fault} {later : ClassIndex}
    (ran : outcome (indexDirectory tree path recursive false) (.empty project) = (.error fault, later))
    (isAnswer : fault.isFailure = true) :
    Missing project tree path ∧ fault = .failure (.directoryMissing path) := by
  have raised := (indexDirectory_leaves tree (.empty project) path recursive false).raised ran
  have failed := raised.resolve_right (by simp [isAnswer])
  rcases sourceFiles_cases project tree path recursive false with
    ⟨found, sources, -⟩ | ⟨missing, isMissing⟩ | ⟨other, unreadable, noAnswer⟩
  · exact absurd (sources.symm.trans failed) nofun
  · exact ⟨isMissing, Except.error.inj (failed.symm.trans missing)⟩
  · rw [Except.error.inj (unreadable.symm.trans failed), isAnswer] at noAnswer
    cases noAnswer

theorem not_missing_of_returned
    (ran : outcome (indexDirectory tree path recursive false) (.empty project) = (.ok listed, start)) :
    ¬ Missing project tree path := by
  obtain ⟨found, sources, -⟩ :=
    (indexDirectory_leaves tree (.empty project) path recursive false).returned ran
  change project.sourceFiles tree path recursive false = .ok found at sources
  rcases sourceFiles_cases project tree path recursive false with
    ⟨-, -, present⟩ | ⟨missing, -⟩ | ⟨other, unreadable, -⟩
  · exact present
  · rw [sources] at missing
    cases missing
  · rw [sources] at unreadable
    cases unreadable

/-- The classes that are kept are those that meet the conditions in the completion of what the directory
leaves, if the first request is answered. Then all pages are. -/
theorem request_of_listed (codebase : Codebase project tree files)
    (ran : outcome (indexDirectory tree path recursive false) (.empty project) = (.ok listed, start))
    (some : listed ≠ []) {trait interface method : String}
    (answered : isAnswered
      (request project tree path recursive (wanting trait interface method) 0 0) = true)
    (offset limit : Nat) :
    let kept := listed.filter (meets (start.completion tree files) (Text.trim trait)
      (Text.trim interface) (Text.trim method))
    request project tree path recursive (wanting trait interface method) offset limit =
      if (sliced kept offset limit).isEmpty then .error (.failure .nothingMatches)
      else .ok (sliced kept offset limit) := by
  obtain ⟨begun, settled⟩ := begun_of_indexDirectory codebase ran
  have selects := select_answers begun begun.resumed (Text.trim trait) (Text.trim interface)
    (Text.trim method) settled
  have nonempty : listed.isEmpty = false := List.isEmpty_eq_false_iff.mpr some
  simp only [request_eq, ran, nonempty, Bool.false_eq_true, if_false] at answered ⊢
  cases selected : outcome (select tree
      (wanting (Text.trim trait) (Text.trim interface) (Text.trim method)) listed) start with
  | mk result later =>
    cases result with
    | ok kept => rw [(selects.returned selected).1]
    | error fault =>
      rw [selected] at answered
      rw [isAnswered, selects.raised selected] at answered
      cases answered

/-- What the first request shows is what is kept. -/
theorem shown_of_listed (codebase : Codebase project tree files)
    (ran : outcome (indexDirectory tree path recursive false) (.empty project) = (.ok listed, start))
    (some : listed ≠ []) {trait interface method : String}
    (answered : isAnswered
      (request project tree path recursive (wanting trait interface method) 0 0) = true) :
    shown (request project tree path recursive (wanting trait interface method) 0 0) =
      listed.filter (meets (start.completion tree files) (Text.trim trait) (Text.trim interface)
        (Text.trim method)) := by
  have serves : Serves _ False listed _ :=
    .of_slices id some (request_of_listed codebase ran some answered)
  rw [serves.shows, sliced, if_pos rfl, List.drop_zero]

theorem shownAlone_of_listed (codebase : Codebase project tree files)
    (ran : outcome (indexDirectory tree path recursive false) (.empty project) = (.ok listed, start))
    (some : listed ≠ []) {trait interface method : String}
    (byTrait : isAnswered (request project tree path recursive (wanting trait "" "") 0 0) = true)
    (byInterface : isAnswered (request project tree path recursive (wanting "" interface "") 0 0) = true)
    (byMethod : isAnswered (request project tree path recursive (wanting "" "" method) 0 0) = true)
    {info : Declaration} (member : info ∈ listed) :
    ShownAlone (start.completion tree files) trait interface method
      (fun filters => shown (request project tree path recursive filters 0 0)) info := by
  have blank : Text.trim "" = "" := rfl
  constructor
  · rw [shown_of_listed codebase ran some byTrait]
    simp [member, meets, blank]
  · rw [shown_of_listed codebase ran some byInterface]
    simp [member, meets, blank]
  · rw [shown_of_listed codebase ran some byMethod]
    simp [member, meets, blank]

/-- The conditions of a listing are independent of each other. In a project that declares each class at
most once, and autoloads it from its own source files, a listing under three conditions shows what the
listings under each one of them have in common, in the order of the directory, cut to the page that is
asked for. Each of these shows the classes that meet its condition in an index that has read all files.
Pages that follow each other make up the whole. Nothing is found exactly if the directory is missing, if
it lists no class, or if the page is empty. No lookup is to raise a fault; for the pages of the listing
this is known from the request for the whole. -/
theorem conditions_independent (codebase : Codebase project tree files) (path : String)
    (recursive : Bool) (trait interface method : String)
    (answered : ∀ filters ∈ [wanting trait interface method, wanting trait "" "",
      wanting "" interface "", wanting "" "" method],
      isAnswered (request project tree path recursive filters 0 0) = true) :
    let alone (filters : ClassFilters) := shown (request project tree path recursive filters 0 0)
    let listing := outcome (indexDirectory tree path recursive false) (.empty project)
    let listed := shown listing.1
    Serves (request project tree path recursive (wanting trait interface method))
        (Missing project tree path) listed
        (listed.filter fun info => info ∈ alone (wanting trait "" "") ∧
          info ∈ alone (wanting "" interface "") ∧ info ∈ alone (wanting "" "" method)) ∧
      ∀ info ∈ listed,
        ShownAlone (listing.2.completion tree files) trait interface method alone info := by
  intro alone listing listed
  simp only [List.forall_mem_cons] at answered
  obtain ⟨all, byTrait, byInterface, byMethod, -⟩ := answered
  cases ran : outcome (indexDirectory tree path recursive false) (.empty project) with
  | mk result start =>
    cases result with
    | error fault =>
      have none : listed = [] := by simp [listed, listing, ran, shown, Except.toOption]
      simp only [request_eq, ran] at all
      obtain ⟨-, rfl⟩ := missing_of_raised ran all
      rw [none]
      exact ⟨.of_nothing rfl fun offset limit => by rw [request_eq, ran], by simp⟩
    | ok found =>
      have isFound : listed = found := by simp [listed, listing, ran, shown, Except.toOption]
      have isStart : listing.2 = start := by simp [listing, ran]
      rw [isFound, isStart]
      by_cases some : found = []
      · subst some
        have asked : ∀ offset limit, request project tree path recursive
            (wanting trait interface method) offset limit = .error (.failure .nothingListed) := by
          intro offset limit
          rw [request_eq, ran]
          rfl
        exact ⟨.of_nothing rfl asked, by simp⟩
      · have each : ∀ info ∈ found,
            ShownAlone (start.completion tree files) trait interface method alone info :=
          fun info => shownAlone_of_listed codebase ran some byTrait byInterface byMethod
        have shares : found.filter (fun info => info ∈ alone (wanting trait "" "") ∧
            info ∈ alone (wanting "" interface "") ∧ info ∈ alone (wanting "" "" method)) =
            found.filter (meets (start.completion tree files) (Text.trim trait) (Text.trim interface)
              (Text.trim method)) := by
          refine List.filter_congr fun info member => ?_
          have shown := each info member
          simp only [shown.trait, shown.interface, shown.method, meets, Bool.decide_and,
            Bool.decide_eq_true]
        rw [shares]
        exact ⟨.of_slices (not_missing_of_returned ran) some
          (request_of_listed codebase ran some all), each⟩

end Independence

section Shapes

/-- A source that declares two classes with a trait, one of them with an interface. -/
def shapesSource : Source where
  bytes := Utf8.encode "<?php class A implements I \x7b use T; \x7d class B \x7b use T; \x7d"
  root :=
    let leaf (field : String) (start : Nat) : Node := .mk ⟨"name", true, field, start, start + 1⟩ []
    let included (start : Nat) : Node := .mk ⟨"declaration_list", true, "body", start, start + 10⟩ [
      .mk ⟨"use_declaration", true, "", start + 2, start + 8⟩ [leaf "" (start + 6)]]
    .mk ⟨"program", true, "", 0, 56⟩ [
      .mk ⟨"class_declaration", true, "", 6, 37⟩ [
        leaf "name" 12, .mk ⟨"class_interface_clause", true, "", 14, 26⟩ [leaf "" 25], included 27],
      .mk ⟨"class_declaration", true, "", 38, 56⟩ [leaf "name" 44, included 46]]

/-- A source that declares the trait, with a method, and the interface. -/
def basesSource : Source where
  bytes := Utf8.encode "<?php interface I \x7b\x7d trait T \x7b function m() \x7b\x7d \x7d"
  root :=
    let leaf (start : Nat) : Node := .mk ⟨"name", true, "name", start, start + 1⟩ []
    .mk ⟨"program", true, "", 0, 48⟩ [
      .mk ⟨"interface_declaration", true, "", 6, 20⟩ [leaf 16],
      .mk ⟨"trait_declaration", true, "", 21, 48⟩ [
        leaf 27, .mk ⟨"declaration_list", true, "body", 29, 48⟩ [
          .mk ⟨"method_declaration", true, "", 31, 46⟩ [leaf 40]]]]

/-- A project with the second source, and the first one in a directory outside of it, so that a listing
of the directory reads the project. -/
def shapesTree : FileTree where
  workingDirectory := ["app"]
  files := [(["app", "bases.php"], ⟨basesSource, true⟩), (["lib", "shapes.php"], ⟨shapesSource, true⟩)]
  directories := [["app"], ["lib"]]

def shapesProject : Project := ⟨["app"], "vendor"⟩

theorem shapesTree_codebase : Codebase shapesProject shapesTree [["app", "bases.php"]] where
  listed := by decide +kernel
  unique := by
    have keys : ((shapesTree.declared [["app", "bases.php"]]).map (Name.key ·.name)).Nodup := by
      decide +kernel
    exact fun first member second other same => List.inj_on_of_nodup_map keys member other same
  autoloaded := by
    have none : Autoload.roots shapesProject shapesTree = .ok [] := by decide +kernel
    intro roots read root member
    rw [none] at read
    cases read
    cases member

theorem conditions_independent_shapes :
    ∃ listed kept : List Declaration, listed.map (·.name) = ["A", "B"] ∧ kept.map (·.name) = ["A"] ∧
      Serves (request shapesProject shapesTree "/lib" true (wanting " T" "\\I" "M"))
        (Missing shapesProject shapesTree "/lib") listed kept := by
  obtain ⟨serves, -⟩ := conditions_independent shapesTree_codebase "/lib" true " T" "\\I" "M"
    (by decide +kernel)
  have whole : shown (request shapesProject shapesTree "/lib" true (wanting " T" "\\I" "M") 0 0) = _ :=
    serves.shows 0 0
  rw [sliced, if_pos rfl, List.drop_zero] at whole
  refine ⟨_, _, ?_, ?_, serves⟩
  · decide +kernel
  · rw [← whole]
    decide +kernel

end Shapes

end Listing

end ClassAtlas
