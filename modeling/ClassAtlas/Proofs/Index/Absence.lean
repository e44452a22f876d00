import ClassAtlas.Proofs.Index.History
import ClassAtlas.Proofs.Index.Search

/-!
When a name that is remembered as missing hides a class.

An index is used for anything: classes are registered by hand, lineages are listed, and all other
questions are asked. It stays candid throughout, also when faults are raised. So a class that a new index
finds is found whatever the index was used for, unless the autoload roots miss it under another spelling
of its name: letter case counts for files, but not for what is remembered.
-/

namespace ClassAtlas

namespace Lookup

open ClassIndex

variable {tree : FileTree}

namespace Compositional

variable {holds : ∀ {α : Type}, Lookup α → Prop}

theorem finds (composes : Compositional holds) (gets : holds get)
    (loads : ∀ name, holds (load tree name)) (name : String) : holds (find tree name) :=
  composes.bind (loads name) fun _ => composes.bind gets fun _ => composes.pure _

theorem loadTargets (composes : Compositional holds) (loads : ∀ name, holds (load tree name))
    (edges : List Edge) : holds (loadTargets tree edges) := by
  induction edges with
  | nil => exact composes.pure ()
  | cons edge rest inductionHypothesis =>
    exact composes.bind (loads edge.name) fun _ => inductionHypothesis

theorem settledWalk (composes : Compositional holds) (gets : holds get)
    (loads : ∀ name, holds (load tree name)) (relations : List Relation) (key : String) (fuel : Nat) :
    holds (settledWalk tree relations key fuel) := by
  induction fuel with
  | zero => exact composes.bind gets fun _ => composes.pure _
  | succ fuel inductionHypothesis =>
    rw [Lookup.settledWalk]
    refine composes.bind gets fun index => ?_
    dsimp only
    split
    · exact composes.pure _
    · exact composes.bind (composes.loadTargets loads _) fun _ => inductionHypothesis

/-- Reading something off the edges of a walk takes nothing but searches. -/
theorem readOff {β : Type} (composes : Compositional holds) (gets : holds get)
    (loads : ∀ name, holds (load tree name)) (declaration : Declaration) (relations : List Relation)
    (readOff : ClassIndex → List Edge → β) :
    holds (do
      let edges ← reachable tree declaration relations
      return readOff (← get) edges) := by
  refine composes.bind ?_ fun edges => composes.bind gets fun index => composes.pure _
  exact composes.bind gets fun index => composes.settledWalk gets loads relations _ _

theorem withTraits (composes : Compositional holds)
    (traits : ∀ declaration, holds (traitClosure tree declaration)) (declarations : List Declaration) :
    holds (withTraits tree declarations) := by
  induction declarations with
  | nil => exact composes.pure []
  | cons declaration rest inductionHypothesis =>
    refine composes.bind (traits declaration) fun _ => ?_
    exact composes.bind inductionHypothesis fun _ => composes.pure _

theorem findAll (composes : Compositional holds) (finds : ∀ name, holds (find tree name))
    (names : List String) : holds (findAll tree names) := by
  induction names with
  | nil => exact composes.pure []
  | cons name rest inductionHypothesis =>
    refine composes.bind (finds name) fun _ => ?_
    exact composes.bind inductionHypothesis fun _ => composes.pure _

/-- Listing a lineage takes nothing but walks and searches for classes. -/
theorem lineage (composes : Compositional holds) (finds : ∀ name, holds (find tree name))
    (parents : ∀ declaration, holds (parentChain tree declaration))
    (interfaces : ∀ declaration, holds (interfaceNames tree declaration))
    (traits : ∀ declaration, holds (traitClosure tree declaration)) (declaration : Declaration)
    (includeInterfaces : Bool) : holds (lineage tree declaration includeInterfaces) := by
  rw [Lookup.lineage]
  refine composes.bind (parents declaration) fun chain => ?_
  refine composes.bind (composes.withTraits traits _) fun classes => ?_
  split
  · refine composes.bind (interfaces declaration) fun names => ?_
    exact composes.bind (composes.findAll finds names) fun _ => composes.pure _
  · exact composes.pure _

end Compositional

/-- Whether a lookup maintains what holds of an index, also when it raises a fault. -/
def Maintains (holds : ClassIndex → Prop) {α : Type} (action : Lookup α) : Prop :=
  ∀ index, holds index → Ends action index (fun _ later => holds later) (fun _ later => holds later)

section Maintains

variable {holds : ClassIndex → Prop}

theorem maintains_compositional (holds : ClassIndex → Prop) : Compositional (Maintains holds) where
  pure _ _ kept := Ends.pure kept
  bind first rest index kept := Ends.bind (first index kept) fun value later => rest value later

theorem get_maintains (holds : ClassIndex → Prop) : Maintains holds get :=
  fun _ kept => Ends.of_get kept

end Maintains

/-- What an index is used for: classes are registered by hand, lineages are listed, and all else that can
be asked is asked. -/
inductive Action where
  | register (declaration : Declaration)
  | lineage (declaration : Declaration) (includeInterfaces : Bool)
  | ask (operation : Operation)

namespace Action

variable {project : Project}

/-- Takes an action; its answer is dropped. -/
def perform (tree : FileTree) : Action → Lookup Unit
  | .register declaration => modify (·.add declaration)
  | .lineage declaration includeInterfaces => do
    let _ ← Lookup.lineage tree declaration includeInterfaces
  | .ask operation => operation.perform tree

/-- The index that actions leave, whether they return or raise a fault. -/
def leave (tree : FileTree) (index : ClassIndex) (actions : List Action) : ClassIndex :=
  actions.foldl (fun index action => (outcome (action.perform tree) index).2) index

theorem load_candid (project : Project) (tree : FileTree) (name : String) :
    Maintains (Candid project tree) (load tree name) :=
  fun _ candid => (load_sought candid name).mono (fun _ _ ends => ends.1.candid)
    fun _ _ ends => ends.1.candid

/-- What holds of registering a class, of searches, and of reading files and directories holds of every
action. -/
theorem holds_perform {holds : ∀ {α : Type}, Lookup α → Prop} (composes : Compositional holds)
    (gets : holds get) (registers : ∀ declaration, holds (modify (·.add declaration)))
    (loads : ∀ name, holds (load tree name))
    (file : ∀ path, holds (indexFile tree (tree.resolve path)))
    (directory : ∀ path recursive excludeVendor,
      holds (indexDirectory tree path recursive excludeVendor))
    (action : Action) : holds (action.perform tree) := by
  have finds : ∀ name, holds (find tree name) := composes.finds gets loads
  have parents : ∀ declaration, holds (parentChain tree declaration) := fun declaration =>
    composes.readOff gets loads declaration [.extension] ClassIndex.knownFront
  have interfaces : ∀ declaration, holds (interfaceNames tree declaration) := fun declaration =>
    composes.readOff gets loads declaration [.extension, .implementation] ClassIndex.interfaceTargets
  have traits : ∀ declaration, holds (traitClosure tree declaration) := fun declaration =>
    composes.readOff gets loads declaration [.inclusion] ClassIndex.knownTargets
  cases action with
  | register declaration => exact registers declaration
  | lineage declaration includeInterfaces =>
    exact composes.bind (composes.lineage finds parents interfaces traits declaration includeInterfaces)
      fun _ => composes.pure ()
  | ask operation =>
    cases operation with
    | get name => exact composes.bind (finds name) fun _ => composes.pure ()
    | indexDirectory path recursive excludeVendor =>
      exact composes.bind (directory path recursive excludeVendor) fun _ => composes.pure ()
    | indexFile path => exact composes.bind (file path) fun _ => composes.pure ()
    | parentChain declaration => exact composes.bind (parents declaration) fun _ => composes.pure ()
    | interfaceNames declaration =>
      exact composes.bind (interfaces declaration) fun _ => composes.pure ()
    | traitClosure declaration => exact composes.bind (traits declaration) fun _ => composes.pure ()
    | hasMethod declaration name =>
      exact composes.bind (composes.findMethod? finds parents interfaces traits declaration name)
        fun _ => composes.pure ()

theorem perform_candid (project : Project) (tree : FileTree) (action : Action) :
    Maintains (Candid project tree) (action.perform tree) := by
  refine holds_perform (maintains_compositional _) (get_maintains _)
    (fun declaration _ candid => Ends.modify (candid.add declaration)) (load_candid project tree)
    (fun path index candid => ?_) (fun path recursive excludeVendor index candid => ?_) action
  · refine (indexFile_reading candid.toAccurate (tree.resolve path)).mono ?_ ?_
    · rintro _ later ⟨accurate, reading, -⟩
      exact candid.of_reading accurate reading
    · rintro _ later ⟨rfl, -⟩
      exact candid
  · refine (indexDirectory_reading candid.toAccurate path recursive excludeVendor).mono ?_ ?_
    · rintro _ later ⟨accurate, files, -, reading, -⟩
      exact candid.of_reading accurate reading
    · rintro _ later ⟨accurate, files, -, reading, -⟩
      exact candid.of_reading accurate reading

/-- What every action maintains holds after any actions. -/
theorem leave_maintains {holds : ClassIndex → Prop}
    (maintains : ∀ action : Action, Maintains holds (action.perform tree)) {index : ClassIndex}
    (kept : holds index) (actions : List Action) : holds (leave tree index actions) := by
  induction actions generalizing index with
  | nil => exact kept
  | cons action rest inductionHypothesis =>
    exact inductionHypothesis (maintains action index kept).left

/-- Whatever a new index is used for, it stays candid. -/
theorem leave_candid (project : Project) (tree : FileTree) (actions : List Action) :
    (leave tree (.empty project) actions).Candid project tree :=
  leave_maintains (perform_candid project tree) (empty_candid project tree) actions

end Action

/-- Whether a search in an index finds a class. -/
def Finds (tree : FileTree) (index : ClassIndex) (name : String) (declaration : Declaration) : Prop :=
  (outcome (find tree name) index).1 = .ok (some declaration)

section Hidden

variable {project : Project} {index : ClassIndex} {name spelling : String} {first : Declaration}

/-- A search for a settled name gives what is known and changes nothing. -/
theorem find_of_isSettled (settled : index.isSettled (Name.key name) = true) :
    Ends (find tree name) index
      (fun found later => found = index.class? (Name.key name) ∧ later = index)
      (fun _ _ => False) := by
  have loaded : Ends (load tree name) index (fun _ later => later = index) (fun _ _ => False) := by
    rw [load]
    refine Ends.get_bind ?_
    split
    · exact Ends.pure rfl
    · contradiction
  rw [find]
  refine Ends.bind loaded ?_
  rintro _ later rfl
  exact Ends.get_bind (Ends.pure ⟨rfl, rfl⟩)

/-- A class that a new index finds is not missed, and its name leads to files that can be found. -/
theorem Finds.of_empty (found : Finds tree (.empty project) name first) :
    Name.key first.name = Name.key name ∧ ¬ project.Misses tree name ∧
      ∃ files, project.Maps tree name files := by
  obtain ⟨known, sought, -, mapped⟩ :=
    (find_sought (empty_candid project tree) name).returned (Prod.ext found rfl)
  have new : ¬ (empty project).isSettled (Name.key name) = true := by simp [isSettled, empty, class?]
  refine ⟨sought.candid.named _ _ known.symm, fun misses => ?_, mapped.resolve_left new⟩
  rw [sought.unknown misses rfl] at known
  cases known

/-- A class is found if it is missed under no spelling of its name. -/
theorem exists_finds (candid : index.Candid project tree) (clean : tree.Clean)
    (mapped : ∃ files, project.Maps tree name files)
    (declared : ∀ spelling, Name.key spelling = Name.key name → ¬ project.Misses tree spelling) :
    ∃ declaration, Finds tree index name declaration ∧ Name.key declaration.name = Name.key name := by
  have ends := find_sought candid name
  cases ran : outcome (find tree name) index with
  | mk result later =>
    cases result with
    | ok found =>
      obtain ⟨rfl, sought, settled, -⟩ := ends.returned ran
      rw [isSettled, Bool.or_eq_true, List.contains_iff_mem] at settled
      rcases settled with known | absent
      · obtain ⟨declaration, isKnown⟩ := Option.isSome_iff_exists.mp known
        refine ⟨declaration, ?_, sought.candid.named _ _ isKnown⟩
        rw [Finds, ran, isKnown]
      · obtain ⟨spelling, sameKey, misses⟩ := sought.candid.missed clean _ absent
        exact absurd misses (declared spelling sameKey)
    | error fault =>
      obtain ⟨files, isMapped⟩ := mapped
      have blocked := (ends.raised ran).2 clean files isMapped
      refine absurd ⟨⟨files, isMapped, blocked.unmapped⟩, fun found sources => ?_⟩ (declared name rfl)
      exact absurd sources (blocked.unlisted found)

/-- A name that is missed is remembered as absent when it has been sought twice. The first search may
raise a fault. -/
theorem absent_of_misses (clean : tree.Clean) (misses : project.Misses tree spelling) :
    let index := Action.leave tree (.empty project) [.ask (.get spelling), .ask (.get spelling)]
    index.class? (Name.key spelling) = none ∧ index.isSettled (Name.key spelling) = true := by
  have performed : ∀ index, (outcome ((Action.ask (.get spelling)).perform tree) index).2 =
      (outcome (find tree spelling) index).2 := by
    intro index
    rw [Action.perform, Operation.perform, outcome_bind]
    generalize outcome (find tree spelling) index = ran
    obtain ⟨fault | found, later⟩ := ran <;> rfl
  rw [Action.leave, List.foldl_cons, List.foldl_cons, List.foldl_nil, performed, performed]
  have ends := find_sought (empty_candid project tree) spelling
  cases ran : outcome (find tree spelling) (.empty project) with
  | mk result between =>
    cases result with
    | ok found =>
      obtain ⟨-, sought, settled, -⟩ := ends.returned ran
      obtain ⟨_, later, again, -, rfl⟩ := (find_of_isSettled settled).ok
      rw [again]
      exact ⟨sought.unknown misses rfl, settled⟩
    | error fault =>
      obtain ⟨sought, blocked⟩ := ends.raised ran
      obtain ⟨files, mapped, -⟩ := misses.mapped
      have unknown := sought.unknown misses rfl
      have secondEnds := find_sought sought.candid spelling
      dsimp only
      cases again : outcome (find tree spelling) between with
      | mk second later =>
        cases second with
        | ok found =>
          obtain ⟨-, laterSought, settled, -⟩ := secondEnds.returned again
          exact ⟨laterSought.unknown misses unknown, settled⟩
        | error other =>
          have first := ((secondEnds.raised again).2 clean files mapped).first
          rw [(blocked clean files mapped).complete] at first
          cases first

/-- A class that a new index finds is found whatever the index was used for, if and only if its name is
missed under no other spelling. -/
theorem found_after_all_iff (clean : tree.Clean) (found : Finds tree (.empty project) name first) :
    (∀ actions, ∃ declaration, Finds tree (Action.leave tree (.empty project) actions) name declaration ∧
      Name.key declaration.name = Name.key first.name) ↔
    ∀ spelling, Name.key spelling = Name.key name → Name.normalized spelling ≠ Name.normalized name →
      ¬ project.Misses tree spelling := by
  obtain ⟨sameKey, declared, mapped⟩ := found.of_empty
  rw [sameKey]
  constructor
  · intro always spelling same _ misses
    obtain ⟨unknown, settled⟩ := absent_of_misses clean misses
    obtain ⟨declaration, finds, -⟩ := always [.ask (.get spelling), .ask (.get spelling)]
    rw [same] at unknown settled
    have none := ((find_of_isSettled settled).returned (Prod.ext finds rfl)).1
    rw [unknown] at none
    cases none
  · intro others actions
    refine exists_finds (Action.leave_candid project tree actions) clean mapped ?_
    intro spelling same misses
    by_cases normalized : Name.normalized spelling = Name.normalized name
    · exact declared (misses.congr normalized)
    · exact others spelling same normalized misses

theorem found_after_all_family :
    ∃ first, Finds familyTree (.empty familyProject) "\\a" first ∧ first.name = "A" ∧
      ∀ actions, ∃ declaration,
        Finds familyTree (Action.leave familyTree (.empty familyProject) actions) "\\a" declaration ∧
          Name.key declaration.name = Name.key first.name := by
  have clean : familyTree.Clean := by
    unfold FileTree.Clean
    decide +kernel
  have found : ∃ first ∈ (outcome (find familyTree "\\a") (.empty familyProject)).1.toOption.join,
      (outcome (find familyTree "\\a") (.empty familyProject)).1 = .ok (some first) ∧
        first.name = "A" := by decide +kernel
  obtain ⟨first, -, found, isName⟩ := found
  refine ⟨first, found, isName, (found_after_all_iff clean found).mpr fun spelling same _ misses => ?_⟩
  have declared := misses.listed [["app", "src", "family.php"]] (by decide +kernel)
  rw [same] at declared
  revert declared
  decide +kernel

end Hidden

section Elsewhere

/-- A package description that maps all names to a directory beside the project. -/
def elsewhereSource : Source where
  bytes := Utf8.encode "\x7b\"autoload\": \x7b\"psr-4\": \x7b\"\": \"../lib\"\x7d\x7d\x7d"
  root := .empty

def barSource : Source where
  bytes := Utf8.encode "<?php class Bar {}"
  root := .mk ⟨"program", true, "", 0, 18⟩ [
    .mk ⟨"class_declaration", true, "", 6, 18⟩ [.mk ⟨"name", true, "name", 12, 15⟩ []]]

/-- A class that only the autoload roots lead to. -/
def elsewhereTree : FileTree where
  workingDirectory := ["app"]
  files := [(["app", "composer.json"], ⟨elsewhereSource, true⟩), (["lib", "Bar.php"], ⟨barSource, true⟩)]
  directories := [["app"], ["lib"]]

def elsewhereProject : Project := ⟨["app"], "vendor"⟩

/-- A search for another spelling hides a class. -/
theorem not_found_after_other_spelling :
    (∃ first, Finds elsewhereTree (.empty elsewhereProject) "Bar" first) ∧
      ¬ ∃ declaration, Finds elsewhereTree
        (Action.leave elsewhereTree (.empty elsewhereProject) [.ask (.get "bar")]) "Bar" declaration := by
  have hidden : (outcome (find elsewhereTree "Bar")
      (Action.leave elsewhereTree (.empty elsewhereProject) [.ask (.get "bar")])).1 = .ok none := by
    decide +kernel
  refine ⟨?_, ?_⟩
  · have found : ∃ first ∈
        (outcome (find elsewhereTree "Bar") (.empty elsewhereProject)).1.toOption.join,
        Finds elsewhereTree (.empty elsewhereProject) "Bar" first := by
      unfold Finds
      decide +kernel
    obtain ⟨first, -, finds⟩ := found
    exact ⟨first, finds⟩
  · rintro ⟨declaration, finds⟩
    rw [Finds, hidden] at finds
    cases finds

end Elsewhere

end Lookup

end ClassAtlas
