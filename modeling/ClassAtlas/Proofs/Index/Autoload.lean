import ClassAtlas.Index.Autoload

/-!
When the autoload lookup returns.

Entries of the package descriptions that are not usable are to be ignored. So what is to be found is said
of every content, without regard to faults. The lookup returns just that for well-formed descriptions, and
it raises a fault for all others: also where a value of the wrong type could have been ignored.
-/

namespace ClassAtlas

/-- Whether a computation gives a value if a condition holds, and raises a fault if it does not. -/
structure Yields {α : Type} (result : Except Fault α) (condition : Prop) (value : α) : Prop where
  returned : condition → result = .ok value
  raised : ¬ condition → ∃ fault, result = .error fault

namespace Yields

variable {α β : Type} {result : Except Fault α} {condition : Prop} {value : α}

theorem ok (holds : condition) (value : α) : Yields (.ok value) condition value where
  returned _ := rfl
  raised fails := absurd holds fails

theorem error {fault : Fault} (failed : ¬ condition) (value : α) :
    Yields (.error fault) condition value where
  returned holds := absurd holds failed
  raised _ := ⟨fault, rfl⟩

theorem congr {other : Prop} (yields : Yields result condition value) (same : condition ↔ other) :
    Yields result other value where
  returned holds := yields.returned (same.mpr holds)
  raised fails := yields.raised fun holds => fails (same.mp holds)

/-- What is said of the value may depend on the condition. -/
theorem to_value {other : α} (yields : Yields result condition value) (same : condition → value = other) :
    Yields result condition other where
  returned holds := same holds ▸ yields.returned holds
  raised := yields.raised

theorem condition_of_eq {found : α} (yields : Yields result condition value) (ran : result = .ok found) :
    condition ∧ value = found := by
  by_cases holds : condition
  · rw [yields.returned holds] at ran
    cases ran
    exact ⟨holds, rfl⟩
  · obtain ⟨fault, raised⟩ := yields.raised holds
    rw [raised] at ran
    cases ran

/-- A step and what comes after it. -/
theorem bind {next : α → Except Fault β} {rest : Prop} {after : β} (first : Yields result condition value)
    (second : condition → Yields (next value) rest after) :
    Yields (result >>= next) (condition ∧ rest) after := by
  by_cases holds : condition
  · rw [first.returned holds]
    exact (second holds).congr (and_iff_right holds).symm
  · obtain ⟨fault, raised⟩ := first.raised holds
    rw [raised]
    exact error (fun both => holds both.1) after

/-- A step after which a value is returned. -/
theorem bind_pure (change : α → β) (yields : Yields result condition value) :
    Yields (result >>= fun found => pure (change found)) condition (change value) where
  returned holds := by
    rw [yields.returned holds]
    rfl
  raised fails := by
    obtain ⟨fault, raised⟩ := yields.raised fails
    exact ⟨fault, by rw [raised]; rfl⟩

theorem map (change : α → β) (yields : Yields result condition value) :
    Yields (result.map change) condition (change value) := by
  have same : result.map change = result >>= fun found => pure (change found) := by
    cases result <;> rfl
  rw [same]
  exact yields.bind_pure change

/-- A computation for each item of a list. -/
theorem mapM {step : α → Except Fault β} {conditions : α → Prop} {values : α → β}
    (yields : ∀ item, Yields (step item) (conditions item) (values item)) (items : List α) :
    Yields (items.mapM step) (∀ item ∈ items, conditions item) (items.map values) := by
  induction items with
  | nil => exact ok (by simp) []
  | cons item rest inductionHypothesis =>
    rw [List.mapM_cons, List.forall_mem_cons, List.map_cons]
    refine (yields item).bind fun _ => ?_
    exact inductionHypothesis.bind_pure (values item :: ·)

/-- A check of each item of a list. -/
theorem filterM {check : α → Except Fault Bool} {conditions : α → Prop} {kept : α → Bool}
    (yields : ∀ item, Yields (check item) (conditions item) (kept item)) (items : List α) :
    Yields (items.filterM check) (∀ item ∈ items, conditions item) (items.filter kept) := by
  have collects : ∀ before : List α, Yields (items.filterAuxM check before)
      (∀ item ∈ items, conditions item) ((items.filter kept).reverse ++ before) := by
    induction items with
    | nil => exact fun before => ok (by simp) before
    | cons item rest inductionHypothesis =>
      intro before
      rw [List.filterAuxM, List.forall_mem_cons]
      refine (yields item).bind fun _ => ?_
      cases passes : kept item with
      | false => simpa [passes] using inductionHypothesis before
      | true => simpa [passes] using inductionHypothesis (item :: before)
  have reversed := (collects []).map List.reverse
  rw [List.append_nil, List.reverse_reverse] at reversed
  exact reversed

end Yields

namespace Autoload

variable {project : Project} {tree : FileTree}

section Sections

/-- The texts of the directories that a value lists. -/
def directoryTexts : Json → List String
  | .str text => [text]
  | .list items => items.filterMap Json.text?
  | .object members => members.map (·.1)
  | _ => []

/-- Whether a value lists directories, and nothing else. -/
inductive ListsDirectories : Json → Prop where
  | text (text : String) : ListsDirectories (.str text)
  | texts {items : List Json} (texts : ∀ item ∈ items, ∃ text, item = .str text) :
    ListsDirectories (.list items)
  | keys (members : List (String × Json)) : ListsDirectories (.object members)

/-- The members of an object; anything else has none. -/
def membersOf (value : Option Json) : List (String × Json) := (value.bind Json.members?).getD []

/-- The map of an autoload section. -/
def mapIn (autoload : Option Json) : List (String × Json) :=
  membersOf (autoload.bind (·.field? "psr-4"))

/-- The usable roots of an autoload section. -/
def usableIn (base : Path) (autoload : Option Json) : List AutoloadRoot :=
  (mapIn autoload).flatMap fun (stem, value) => (directoryTexts value).map fun text =>
    ⟨Name.unrooted stem, base.join (.parse text)⟩

/-- Whether all stems of an autoload section are mapped to directories. -/
def IsMapped (autoload : Option Json) : Prop := ∀ entry ∈ mapIn autoload, ListsDirectories entry.2

theorem isMapped_none : IsMapped none := by simp [IsMapped, mapIn, membersOf]

theorem pathText_yields (value : Json) :
    Yields value.pathText (∃ text, value = .str text) (value.text?.getD "") := by
  cases value with
  | str text => exact .ok ⟨text, rfl⟩ text
  | _ => exact .error (by simp) _

/-- The texts of a list in which there are only texts. -/
theorem map_getD_text? {items : List Json} (texts : ∀ item ∈ items, ∃ text, item = .str text) :
    items.map (fun item => Path.parse (item.text?.getD "")) =
      (items.filterMap Json.text?).map Path.parse := by
  induction items with
  | nil => rfl
  | cons item rest inductionHypothesis =>
    rw [List.forall_mem_cons] at texts
    obtain ⟨⟨text, rfl⟩, restTexts⟩ := texts
    rw [List.map_cons, inductionHypothesis restTexts]
    rfl

theorem directoriesOf_yields (value : Json) :
    Yields (directoriesOf value) (ListsDirectories value) ((directoryTexts value).map Path.parse) := by
  have each : ∀ items : List Json,
      Yields (items.mapM fun item => (Path.parse ·) <$> item.pathText)
        (∀ item ∈ items, ∃ text, item = .str text) ((items.filterMap Json.text?).map Path.parse) :=
    fun items => (Yields.mapM (fun item => (pathText_yields item).map Path.parse) items).to_value
      map_getD_text?
  cases value with
  | str text => exact .ok (.text text) [Path.parse text]
  | list items => exact (each items).congr ⟨.texts, fun (.texts texts) => texts⟩
  | object members =>
    have keys : (members.map fun (key, _) => Json.str key).filterMap Json.text? = members.map (·.1) := by
      simp [List.filterMap_map, Function.comp_def, Json.text?]
    have listed := each (members.map fun (key, _) => .str key)
    rw [keys] at listed
    refine listed.congr ⟨fun _ => .keys members, fun _ item member => ?_⟩
    obtain ⟨entry, -, rfl⟩ := List.mem_map.mp member
    exact ⟨entry.1, rfl⟩
  | _ => exact .error nofun _

theorem sectionRoots_yields (base : Path) (autoload : Option Json) :
    Yields (sectionRoots base autoload) (IsMapped autoload) (usableIn base autoload) := by
  rw [sectionRoots, IsMapped, usableIn, mapIn]
  split
  case h_1 members isMap =>
    have each : ∀ entry : String × Json, Yields
        (do
          let directories ← directoriesOf entry.2
          return directories.map fun directory =>
            (⟨Name.unrooted entry.1, base.join directory⟩ : AutoloadRoot))
        (ListsDirectories entry.2)
        ((directoryTexts entry.2).map fun text => ⟨Name.unrooted entry.1, base.join (.parse text)⟩) := by
      intro entry
      have roots := (directoriesOf_yields entry.2).bind_pure fun directories =>
        directories.map fun directory => (⟨Name.unrooted entry.1, base.join directory⟩ : AutoloadRoot)
      rwa [List.map_map] at roots
    rw [isMap]
    exact (Yields.mapM each members).bind_pure List.flatten
  case h_2 other =>
    have none : membersOf (autoload.bind (·.field? "psr-4")) = [] := by
      rw [membersOf]
      cases found : autoload.bind (·.field? "psr-4") with
      | none => rfl
      | some value =>
        cases value with
        | object members => exact absurd found (other members)
        | _ => rfl
    rw [none]
    exact .ok (by simp) []

end Sections

section Descriptions

/-- The text of a file, if there is one that can be read and decoded. -/
def textAt? (tree : FileTree) (path : Path) : Option String :=
  match tree.find path with
  | .file _ file => if file.readable then Utf8.decode? file.source.bytes else none
  | _ => none

/-- The code units of a JSON text: what its escapes stand for, and its other characters. -/
def codeUnits : List Char → List Nat
  | [] => []
  | '\\' :: 'u' :: first :: second :: third :: fourth :: rest =>
    (Json.hexUnit? first second third fourth).getD 0 :: codeUnits rest
  | '\\' :: _ :: rest => 0 :: codeUnits rest
  | char :: rest => char.toNat :: codeUnits rest

/-- Whether each surrogate is half of a pair. -/
def isPaired : List Nat → Bool
  | [] => true
  | [unit] => !(0xd800 ≤ unit && unit ≤ 0xdfff)
  | high :: low :: rest =>
    if 0xd800 ≤ high && high ≤ 0xdbff && 0xdc00 ≤ low && low ≤ 0xdfff then isPaired rest
    else !(0xd800 ≤ high && high ≤ 0xdfff) && isPaired (low :: rest)

/-- Whether the text of a description file escapes no surrogate that stands alone. Such a surrogate is
no character, so texts that escape one are read otherwise than they are here. -/
def PairsSurrogates (tree : FileTree) (path : Path) : Prop :=
  ∀ text, textAt? tree path = some text → isPaired (codeUnits text.toList) = true

/-- The JSON value that a description file holds, if it holds one. -/
def contentOf? (tree : FileTree) (path : Path) : Option Json :=
  (textAt? tree path).bind fun text => (Json.parse text).toOption

/-- Whether the path of a description file can be looked up, and no value in it is nested too deeply. -/
structure IsLegible (tree : FileTree) (path : Path) : Prop where
  found : (tree.find path).isRefused = false
  shallow : ∀ text, textAt? tree path = some text → Json.parse text ≠ .error .tooNested

theorem readJson_yields (tree : FileTree) (path : Path) :
    Yields (readJson tree path) (IsLegible tree path) (contentOf? tree path) := by
  cases found : tree.find path with
  | file place file =>
    have isText : textAt? tree path =
        if file.readable then Utf8.decode? file.source.bytes else none := by
      rw [textAt?, found]
    rw [readJson, contentOf?, found]
    dsimp only
    cases readable : file.readable with
    | false =>
      rw [readable, if_neg Bool.false_ne_true] at isText
      rw [if_neg Bool.false_ne_true, isText]
      exact .ok ⟨by simp [found, FileTree.Found.isRefused], by simp [isText]⟩ none
    | true =>
    rw [readable, if_pos rfl] at isText
    rw [if_pos rfl, isText]
    have legible (shallow : ∀ text, Utf8.decode? file.source.bytes = some text →
        Json.parse text ≠ .error .tooNested) : IsLegible tree path :=
      ⟨by simp [found, FileTree.Found.isRefused], by rwa [isText]⟩
    cases decoded : Utf8.decode? file.source.bytes with
    | none => exact .ok (legible (by simp [decoded])) none
    | some text =>
      rw [Option.map_some, Option.bind_some]
      cases parsed : Json.parse text with
      | ok value => exact .ok (legible (by simp [decoded, parsed])) (some value)
      | error fault =>
        cases fault with
        | tooNested => exact .error (fun deep => deep.shallow text (isText.trans decoded) parsed) _
        | _ => exact .ok (legible (by simp [decoded, parsed])) none
  | denied | nameTooLong =>
    have refused : ¬ IsLegible tree path := fun legible => by
      simpa [found, FileTree.Found.isRefused] using legible.found
    rw [readJson, found]
    exact .error refused _
  | _ =>
    rw [readJson, contentOf?, textAt?, found]
    exact .ok ⟨by simp [found, FileTree.Found.isRefused], by simp [textAt?, found]⟩ none

/-- The description of a project. -/
def projectFile (project : Project) : Path := (Path.absolute project.root).join (.parse "composer.json")

/-- The directory of the installed packages. -/
def vendorDirectory (project : Project) : Path :=
  (Path.absolute project.root).join (.parse project.vendorDirectory)

/-- The directory of the list of installed packages. -/
def listDirectory (project : Project) : Path := (vendorDirectory project).join (.parse "composer")

/-- The list of installed packages. -/
def packagesFile (project : Project) : Path := (listDirectory project).join (.parse "installed.json")

/-- The autoload section of a description under a key. -/
def sectionOf (tree : FileTree) (project : Project) (key : String) : Option Json :=
  (membersOf (contentOf? tree (projectFile project))).lookup key

/-- The usable roots in the description of a project. -/
def usableProjectRoots (project : Project) (tree : FileTree) : List AutoloadRoot :=
  usableIn (.absolute project.root) (sectionOf tree project "autoload") ++
    usableIn (.absolute project.root) (sectionOf tree project "autoload-dev")

theorem projectRoots_yields (project : Project) (tree : FileTree) :
    Yields (projectRoots project tree)
      (IsLegible tree (projectFile project) ∧ IsMapped (sectionOf tree project "autoload") ∧
        IsMapped (sectionOf tree project "autoload-dev"))
      (usableProjectRoots project tree) := by
  have readable := readJson_yields tree (projectFile project)
  rw [projectRoots, ← projectFile]
  unfold usableProjectRoots sectionOf
  refine readable.bind fun _ => ?_
  rw [membersOf]
  cases contentOf? tree (projectFile project) with
  | none => exact .ok ⟨isMapped_none, isMapped_none⟩ []
  | some value =>
    cases value with
    | object members =>
      have own := sectionRoots_yields (.absolute project.root) (members.lookup "autoload")
      have more := sectionRoots_yields (.absolute project.root) (members.lookup "autoload-dev")
      exact own.bind fun _ => more.bind_pure (usableIn _ (members.lookup "autoload") ++ ·)
    | _ => exact .ok ⟨isMapped_none, isMapped_none⟩ []

/-- The value that stands for the packages: an object may wrap them. -/
def packagesValue : Option Json → Json
  | some (.object members) => (members.lookup "packages").getD (.list [])
  | some (.list items) => .list items
  | _ => .list []

/-- Whether a value can be gone through. -/
inductive IsListed : Json → Prop where
  | list (items : List Json) : IsListed (.list items)
  | object (members : List (String × Json)) : IsListed (.object members)
  | text (text : String) : IsListed (.str text)

/-- The packages in the list of installed packages. -/
def packagesIn (value : Option Json) : List (List (String × Json)) :=
  ((packagesValue value).items?.getD []).filterMap Json.members?

theorem packagesOf_yields (value : Option Json) :
    Yields (packagesOf value) (IsListed (packagesValue value)) (packagesIn value) := by
  have opened : packagesOf value =
      (packagesValue value).listed.map fun items => items.filterMap Json.members? := rfl
  rw [opened, packagesIn]
  cases packagesValue value with
  | list items => exact .ok (.list items) _
  | object members =>
    have none : (members.map fun (key, _) => Json.str key).filterMap Json.members? = [] := by
      simp [List.filterMap_eq_nil_iff, Json.members?]
    exact .to_value (.ok (.object members) _) fun _ => none
  | str text =>
    have none : (text.toList.map fun char => Json.str (String.ofList [char])).filterMap Json.members? =
        [] := by
      simp [List.filterMap_eq_nil_iff, Json.members?]
    exact .to_value (.ok (.text text) _) fun _ => none
  | _ => exact .error nofun _

/-- The directory of a package, if it can be told. -/
def homeOf? (vendor list : Path) (package : List (String × Json)) : Option Path :=
  let installPath := (package.lookup "install-path").getD .null
  let name := (package.lookup "name").getD .null
  if installPath.isGiven then
    installPath.text?.map fun text => .absolute ((list.join (.parse text)).resolve [])
  else if name.isGiven then name.text?.map fun text => vendor.join (.parse text)
  else none

/-- Whether the install path of a package, or else its name, is a text if it is given. -/
def IsHoused (list : Path) (package : List (String × Json)) : Prop :=
  let installPath := (package.lookup "install-path").getD .null
  let name := (package.lookup "name").getD .null
  if installPath.isGiven then
    ∃ text, installPath = .str text ∧ (list.join (.parse text)).hasNull = false
  else if name.isGiven then ∃ text, name = .str text
  else True

theorem resolved_yields (path : Path) :
    Yields (path.resolved []) (path.hasNull = false) (path.resolve []) := by
  rw [Path.resolved]
  split
  case isTrue null => exact .error (by simp [null]) _
  case isFalse plain => exact .ok (by simpa using plain) _

theorem packageDirectory_yields (vendor list : Path) (package : List (String × Json)) :
    Yields (packageDirectory vendor list package) (IsHoused list package)
      (homeOf? vendor list package) := by
  rw [packageDirectory, IsHoused, homeOf?]
  generalize (package.lookup "install-path").getD .null = installPath
  generalize (package.lookup "name").getD .null = name
  dsimp only
  split
  case isTrue =>
    cases installPath with
    | str text =>
      have resolves := (resolved_yields (list.join (.parse text))).bind_pure fun parts =>
        some (Path.absolute parts)
      apply Yields.congr
      · exact (Yields.ok (Eq.refl text) text).bind fun _ => resolves
      · simp
    | _ => exact .error (by simp) _
  case isFalse =>
    split
    case isTrue =>
      cases name with
      | str text => exact .ok ⟨text, rfl⟩ _
      | _ => exact .error (by simp) _
    case isFalse => exact .ok trivial none

/-- The usable roots of a package. -/
def usableOf (vendor list : Path) (package : List (String × Json)) : List AutoloadRoot :=
  match homeOf? vendor list package with
  | none => []
  | some home => usableIn home (package.lookup "autoload")

/-- Whether the directory of a package can be told if it is given, and the package is mapped then. -/
def IsInstalled (vendor list : Path) (package : List (String × Json)) : Prop :=
  IsHoused list package ∧
    ((homeOf? vendor list package).isSome = true → IsMapped (package.lookup "autoload"))

theorem packageRoots_yields (vendor list : Path) (package : List (String × Json)) :
    Yields (packageRoots vendor list package) (IsInstalled vendor list package)
      (usableOf vendor list package) := by
  rw [packageRoots, usableOf]
  refine (packageDirectory_yields vendor list package).bind fun _ => ?_
  cases homeOf? vendor list package with
  | none => exact .ok (by simp) []
  | some home => exact (sectionRoots_yields home _).congr (by simp)

/-- The roots of installed packages that are usable. -/
def usablePackageRoots (project : Project) (tree : FileTree) : List AutoloadRoot :=
  ((packagesIn (contentOf? tree (packagesFile project))).map
    (usableOf (vendorDirectory project) (listDirectory project))).flatten

theorem installedRoots_yields (project : Project) (tree : FileTree) :
    Yields (installedRoots project tree)
      (IsLegible tree (packagesFile project) ∧
        IsListed (packagesValue (contentOf? tree (packagesFile project))) ∧
        ∀ package ∈ packagesIn (contentOf? tree (packagesFile project)),
          IsInstalled (vendorDirectory project) (listDirectory project) package)
      (usablePackageRoots project tree) := by
  have opened : installedRoots project tree = (do
      let packages ← packagesOf (← readJson tree (packagesFile project))
      let roots ← packages.mapM (packageRoots (vendorDirectory project) (listDirectory project))
      return roots.flatten) := rfl
  have packages := Yields.mapM (packageRoots_yields (vendorDirectory project) (listDirectory project))
    (packagesIn (contentOf? tree (packagesFile project)))
  rw [opened, usablePackageRoots]
  refine (readJson_yields tree (packagesFile project)).bind fun _ => ?_
  refine (packagesOf_yields (contentOf? tree (packagesFile project))).bind fun _ => ?_
  exact packages.bind_pure List.flatten

end Descriptions

/-- Roots in the order in which they are tried: the longest stem first. -/
def inOrder (roots : List AutoloadRoot) : List AutoloadRoot :=
  roots.mergeSort fun first second => decide (second.stem.length ≤ first.stem.length)

/-- The usable roots of a project and its packages, whatever the descriptions hold besides. -/
def usableRoots (project : Project) (tree : FileTree) : List AutoloadRoot :=
  inOrder (usableProjectRoots project tree ++ usablePackageRoots project tree)

/-- Whether the descriptions of a project and of its packages can be read, and hold values of the right
types where they are looked at. -/
structure WellFormed (project : Project) (tree : FileTree) : Prop where
  readable : IsLegible tree (projectFile project)
  mapped : IsMapped (sectionOf tree project "autoload")
  mappedInDevelopment : IsMapped (sectionOf tree project "autoload-dev")
  packages : IsLegible tree (packagesFile project)
  listed : IsListed (packagesValue (contentOf? tree (packagesFile project)))
  installed : ∀ package ∈ packagesIn (contentOf? tree (packagesFile project)),
    IsInstalled (vendorDirectory project) (listDirectory project) package

theorem roots_yields (project : Project) (tree : FileTree) :
    Yields (roots project tree) (WellFormed project tree) (usableRoots project tree) := by
  have own := projectRoots_yields project tree
  have packages := (installedRoots_yields project tree).bind_pure fun others =>
    inOrder (usableProjectRoots project tree ++ others)
  unfold inOrder at packages
  rw [roots, usableRoots, inOrder]
  apply Yields.congr
  · exact own.bind fun _ => packages
  constructor
  · intro both
    exact ⟨both.1.1, both.1.2.1, both.1.2.2, both.2.1, both.2.2.1, both.2.2.2⟩
  · intro wellFormed
    exact ⟨⟨wellFormed.readable, wellFormed.mapped, wellFormed.mappedInDevelopment⟩,
      wellFormed.packages, wellFormed.listed, wellFormed.installed⟩

/-- Whether there is a file at a path. -/
def hasFile (tree : FileTree) (path : Path) : Bool := (tree.isFile path).toOption.getD false

theorem isFile_yields (tree : FileTree) (path : Path) :
    Yields (tree.isFile path) ((tree.find path).isRefused = false) (hasFile tree path) := by
  rw [hasFile, FileTree.isFile]
  cases tree.find path with
  | denied | nameTooLong => exact .error nofun _
  | _ => exact .ok rfl _

/-- The paths that roots map a name to. -/
def mappedPaths (roots : List AutoloadRoot) (name : String) : List Path :=
  roots.filterMap fun root => fileOf? root (Name.normalized name)

theorem candidates_yields (tree : FileTree) (roots : List AutoloadRoot) (name : String) :
    Yields (candidates tree roots name)
      (∀ path ∈ mappedPaths roots name, (tree.find path).isRefused = false)
      ((mappedPaths roots name).filter (hasFile tree)) :=
  Yields.filterM (isFile_yields tree) _

section Usable

/-- A package description in which a stem is mapped to a directory. -/
def mappedSource : Source where
  bytes := Utf8.encode "\x7b\"autoload\": \x7b\"psr-4\": \x7b\"A\": \"src\"\x7d\x7d\x7d"
  root := .empty

/-- A project with this description and a class in the directory. -/
def mappedTree : FileTree where
  workingDirectory := ["app"]
  files := [(["app", "composer.json"], ⟨mappedSource, true⟩),
    (["app", "src", "B.php"], ⟨⟨[], .empty⟩, true⟩)]
  directories := [["app"], ["app", "src"]]

def mappedProject : Project := ⟨["app"], "vendor"⟩

end Usable

section Unusable

/-- A package description in which a stem is mapped to a number. -/
def numberSource : Source where
  bytes := Utf8.encode "\x7b\"autoload\": \x7b\"psr-4\": \x7b\"A\": 5\x7d\x7d\x7d"
  root := .empty

/-- A project with this description. -/
def numberTree : FileTree where
  workingDirectory := ["app"]
  files := [(["app", "composer.json"], ⟨numberSource, true⟩)]
  directories := [["app"]]

def numberProject : Project := ⟨["app"], "vendor"⟩

end Unusable

end Autoload

end ClassAtlas
