import ClassAtlas.Index.Lookup

/-!
Failures and other faults of the autoload roots.

A failure is an answer to the caller; no other fault is. Reading the autoload roots, and looking for the
files that they map a name to, raises no failure. So whoever is told of a failure is not told of a fault
of these.
-/

namespace ClassAtlas

/-- Whether a fault is an answer to the caller. -/
def Fault.isFailure : Fault → Bool
  | .failure _ => true
  | _ => false

/-- Whether a computation raises no failure. -/
def NoFailure {α : Type} (result : Except Fault α) : Prop :=
  ∀ fault, result = .error fault → fault.isFailure = false

namespace NoFailure

variable {α β : Type} {result : Except Fault α}

theorem ok (value : α) : NoFailure (.ok value) := fun _ impossible => by cases impossible

theorem error {fault : Fault} (other : fault.isFailure = false) :
    NoFailure (.error fault : Except Fault α) := by
  rintro _ ⟨⟩
  exact other

theorem bind {next : α → Except Fault β} (first : NoFailure result)
    (rest : ∀ value, NoFailure (next value)) : NoFailure (result >>= next) := by
  cases result with
  | ok value => exact rest value
  | error fault => exact error (first fault rfl)

theorem map {change : α → β} (first : NoFailure result) : NoFailure (change <$> result) := by
  cases result with
  | ok value => exact ok (change value)
  | error fault => exact error (first fault rfl)

theorem mapM {step : α → Except Fault β} (each : ∀ item, NoFailure (step item)) (items : List α) :
    NoFailure (items.mapM step) := by
  induction items with
  | nil => exact ok []
  | cons item rest inductionHypothesis =>
    rw [List.mapM_cons]
    exact (each item).bind fun value => inductionHypothesis.bind fun others => ok (value :: others)

theorem filterAuxM {check : α → Except Fault Bool} (each : ∀ item, NoFailure (check item))
    (items kept : List α) : NoFailure (items.filterAuxM check kept) := by
  induction items generalizing kept with
  | nil => exact ok kept
  | cons item rest inductionHypothesis =>
    rw [List.filterAuxM]
    exact (each item).bind fun _ => inductionHypothesis _

end NoFailure

namespace Autoload

open NoFailure (ok error)

theorem noFailure_pathText (value : Json) : NoFailure value.pathText := by
  cases value with
  | str text => exact ok text
  | _ => exact error rfl

theorem noFailure_listed (value : Json) : NoFailure value.listed := by
  cases value with
  | list | object | str => exact ok _
  | _ => exact error rfl

theorem noFailure_directoriesOf (value : Json) : NoFailure (directoriesOf value) := by
  cases value with
  | str text => exact ok _
  | _ => exact (noFailure_listed _).bind (.mapM fun item => (noFailure_pathText item).map)

theorem noFailure_sectionRoots (base : Path) (autoload : Option Json) :
    NoFailure (sectionRoots base autoload) := by
  rw [sectionRoots]
  split
  · refine .bind (.mapM (fun entry => ?_) _) fun _ => ok _
    exact (noFailure_directoriesOf entry.2).bind fun _ => ok _
  · exact ok []

theorem noFailure_readJson (tree : FileTree) (path : Path) : NoFailure (readJson tree path) := by
  rw [readJson]
  split
  · split
    · split
      · exact ok _
      · exact error rfl
      · exact ok none
    · exact ok none
  · exact error rfl
  · exact error rfl
  · exact ok none

theorem noFailure_projectRoots (project : Project) (tree : FileTree) :
    NoFailure (projectRoots project tree) := by
  refine (noFailure_readJson tree _).bind fun description => ?_
  split
  · refine (noFailure_sectionRoots _ _).bind fun _ => ?_
    exact (noFailure_sectionRoots _ _).bind fun _ => ok _
  · exact ok []

theorem noFailure_resolved (path : Path) (directory : List String) :
    NoFailure (path.resolved directory) := by
  rw [Path.resolved]
  split
  · exact error rfl
  · exact ok _

theorem noFailure_packageDirectory (vendor list : Path) (package : List (String × Json)) :
    NoFailure (packageDirectory vendor list package) := by
  rw [packageDirectory]
  dsimp only
  split
  · refine (noFailure_pathText _).bind fun _ => ?_
    exact (noFailure_resolved _ _).bind fun _ => ok _
  split
  · exact (noFailure_pathText _).bind fun _ => ok _
  · exact ok none

theorem noFailure_installedRoots (project : Project) (tree : FileTree) :
    NoFailure (installedRoots project tree) := by
  refine (noFailure_readJson tree _).bind fun value => ?_
  refine .bind ?_ fun packages => .bind (.mapM (fun package => ?_) packages) fun _ => ok _
  · exact (noFailure_listed _).map
  · refine (noFailure_packageDirectory _ _ package).bind fun directory => ?_
    split
    · exact ok []
    · exact noFailure_sectionRoots _ _

/-- Reading the autoload roots raises no failure. -/
theorem noFailure_roots (project : Project) (tree : FileTree) : NoFailure (roots project tree) :=
  (noFailure_projectRoots project tree).bind fun _ =>
    (noFailure_installedRoots project tree).bind fun _ => ok _

/-- Nor does looking for the files that they map a name to. -/
theorem noFailure_candidates (tree : FileTree) (roots : List AutoloadRoot) (name : String) :
    NoFailure (candidates tree roots name) := by
  have each : ∀ path, NoFailure (tree.isFile path) := by
    intro path
    rw [FileTree.isFile]
    split
    · exact ok true
    · exact error rfl
    · exact error rfl
    · exact ok false
  exact (NoFailure.filterAuxM each _ []).bind fun _ => ok _

end Autoload

end ClassAtlas
