import ClassAtlas.Files.Project
import ClassAtlas.Json.Given
import ClassAtlas.Json.Reader
import ClassAtlas.Name.Basic

/-!
Where classes should be declared, by the autoload maps of a project and of its installed packages.

A root maps names that start with its stem to files below its directory. The roots of a project come
from its package description; those of packages from the list of installed packages. Longer stems come
first.
-/

namespace ClassAtlas

/-- A stem of class names and the directory that declares them. -/
structure AutoloadRoot where
  stem : String
  directory : Path
deriving DecidableEq, Repr

namespace Autoload

/-- The directories that one stem is mapped to: a text, the items of a list, or the keys of an
object. Anything else is a fault. -/
def directoriesOf (value : Json) : Except Fault (List Path) :=
  match value with
  | .str text => .ok [.parse text]
  | value => do (← value.listed).mapM fun item => (Path.parse ·) <$> item.pathText

/-- The roots of one autoload section, with directories taken from a base. A section or map that is no
object has none. -/
def sectionRoots (base : Path) (autoload : Option Json) : Except Fault (List AutoloadRoot) :=
  match autoload.bind (·.field? "psr-4") with
  | some (.object members) => do
    let roots ← members.mapM fun (stem, value) => do
      let directories ← directoriesOf value
      return directories.map fun directory =>
        (⟨Name.unrooted stem, base.join directory⟩ : AutoloadRoot)
    return roots.flatten
  | _ => .ok []

/-- The JSON value in a file. A file that is missing or cannot be read has none. -/
def readJson (tree : FileTree) (path : Path) : Except Fault (Option Json) :=
  match tree.find path with
  | .file _ file =>
    if file.readable then
      match (Utf8.decode? file.source.bytes).map Json.parse with
      | some (.ok value) => .ok (some value)
      | some (.error .tooNested) => .error .tooNested
      | _ => .ok none
    else .ok none
  | .denied | .nameTooLong => .error .refused
  | _ => .ok none

/-- The roots in the package description of a project. -/
def projectRoots (project : Project) (tree : FileTree) : Except Fault (List AutoloadRoot) := do
  let base := Path.absolute project.root
  match ← readJson tree (base.join (.parse "composer.json")) with
  | some (.object members) => do
    let roots ← sectionRoots base (members.lookup "autoload")
    let more ← sectionRoots base (members.lookup "autoload-dev")
    return roots ++ more
  | _ => return []

/-- The packages in the list of installed packages, which may be wrapped in an object. Values that
are no packages are left out. -/
def packagesOf (value : Option Json) : Except Fault (List (List (String × Json))) :=
  let packages :=
    match value with
    | some (.object members) => (members.lookup "packages").getD (.list [])
    | some (.list items) => .list items
    | _ => .list []
  packages.listed.map fun items => items.filterMap Json.members?

/-- The directory of a package: its install path from the list's own directory, or else the directory
named after it. Absent if neither is given. -/
def packageDirectory (vendor list : Path) (package : List (String × Json)) :
    Except Fault (Option Path) :=
  let installPath := (package.lookup "install-path").getD .null
  let name := (package.lookup "name").getD .null
  if installPath.isGiven then do
    let path := list.join (.parse (← installPath.pathText))
    return some (.absolute (← path.resolved []))
  else if name.isGiven then do return some (vendor.join (.parse (← name.pathText)))
  else .ok none

/-- The roots of one package. -/
def packageRoots (vendor list : Path) (package : List (String × Json)) :
    Except Fault (List AutoloadRoot) := do
  match ← packageDirectory vendor list package with
  | none => return []
  | some directory => sectionRoots directory (package.lookup "autoload")

/-- The roots of all installed packages. -/
def installedRoots (project : Project) (tree : FileTree) : Except Fault (List AutoloadRoot) := do
  let vendor := (Path.absolute project.root).join (.parse project.vendorDirectory)
  let list := vendor.join (.parse "composer")
  let packages ← packagesOf (← readJson tree (list.join (.parse "installed.json")))
  let roots ← packages.mapM (packageRoots vendor list)
  return roots.flatten

/-- All roots, the longest stem first; roots with stems of one length keep their order. -/
def roots (project : Project) (tree : FileTree) : Except Fault (List AutoloadRoot) := do
  let all := (← projectRoots project tree) ++ (← installedRoots project tree)
  return all.mergeSort fun first second => decide (second.stem.length ≤ first.stem.length)

/-- The file that a root maps a normalised name to. -/
def fileOf? (root : AutoloadRoot) (name : String) : Option Path :=
  (Text.afterStart? root.stem.toList name.toList).map fun rest =>
    let rest := rest.map fun char => if char == '\\' then '/' else char
    root.directory.join (.parse (String.ofList rest ++ ".php"))

/-- The existing files that roots map a name to, in the order of the roots. -/
def candidates (tree : FileTree) (roots : List AutoloadRoot) (name : String) :
    Except Fault (List Path) := do
  let paths := roots.filterMap fun root => fileOf? root (Name.normalized name)
  paths.filterM tree.isFile

end Autoload

end ClassAtlas
