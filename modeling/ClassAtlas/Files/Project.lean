import ClassAtlas.Files.FileTree
import ClassAtlas.Text.LetterCase

/-!
A project in a file tree: which of its files hold source code, and which of them belong to
dependencies.
-/

namespace ClassAtlas

/-- A project: its root directory and the name of the directories that hold dependencies. -/
structure Project where
  /-- Components of the root directory, without double dots. -/
  root : List String
  vendorDirectory : String
deriving DecidableEq, Repr

namespace Project

/-- Directories that are never searched. -/
def excludedDirectories : List String := [".git", ".svn", "node_modules", ".reflector_cache"]

/-- Whether a file name is that of a source file. -/
def isSourceName (name : String) : Bool := Text.lower (Path.suffix name) == ".php"

/-- Whether the components of a file have a dependency directory among them. -/
def passesVendor (project : Project) (parts : List String) : Bool :=
  parts.dropLast.contains project.vendorDirectory

/-- Whether a file with a resolved path lies in a dependency directory. Of a file inside the project
only the directories below the root count. -/
def isVendor (project : Project) (path : Path) (resolved : List String) : Bool :=
  project.passesVendor ((Path.below? project.root resolved).getD path.components)

/-- Whether a file lies in a dependency directory, also for a path that cannot be resolved. -/
def isVendorAt (project : Project) (tree : FileTree) (path : Path) : Bool :=
  match tree.resolved path with
  | .ok resolved => project.isVendor path resolved
  | .error _ => project.passesVendor path.components

/-- The path of a file in reports: from the root for a file of the project, absolute otherwise. -/
def relative (project : Project) (resolved : List String) : String :=
  match Path.below? project.root resolved with
  | some [] => "."
  | some parts => Text.join "/" parts
  | none => (Path.absolute resolved).render

/-- The path of a file in reports, given any path of it. -/
def relativeAt (project : Project) (tree : FileTree) (path : Path) : Except Fault String :=
  project.relative <$> tree.resolved path

/-- The directory that a path names, taken from the root of the project. -/
def directory (project : Project) (tree : FileTree) (path : String) :
    Except Fault (List String) := do
  let joined := (Path.absolute project.root).join (.parse path)
  if ← tree.isDirectory joined then return tree.resolve joined
  else throw (.failure (.directoryMissing path))

/-- Whether a file counts when a directory is searched: a source file, outside excluded directories,
in the directory itself unless subdirectories are searched too. -/
def accepts (project : Project) (directory : List String) (recursive excludeVendor : Bool)
    (path : List String) : Bool :=
  match Path.below? directory path with
  | none => false
  | some below =>
    match below.getLast? with
    | none => false
    | some name =>
      isSourceName name && (recursive || below.length == 1) &&
        !(below.dropLast.any excludedDirectories.contains) &&
        !(excludeVendor && project.isVendor (.absolute path) path)

/-- Whether a search of a directory stops with a fault at an entry that comes up in it: at one named like
a source file if the file system refuses to tell whether it is a file, and at a subdirectory whose path
is too long. A closed subdirectory that cannot be reached is passed over. -/
def stopsAt (tree : FileTree) (directory : List String) (recursive : Bool) (entry : List String) : Bool :=
  match Path.below? directory entry with
  | none => false
  | some below =>
    match below.getLast? with
    | none => false
    | some name =>
      (recursive || below.length == 1) && tree.lists entry &&
        match tree.find (.absolute entry) with
        | .denied => isSourceName name
        | .nameTooLong => isSourceName name || recursive && tree.hasDirectory entry
        | _ => false

/-- Whether a search of a directory stops with a fault. Every entry named like a source file is asked
about, also below the directories that are never searched. -/
def isStopped (tree : FileTree) (directory : List String) (recursive : Bool) : Bool :=
  (tree.files.map (·.1) ++ tree.directories).any (stopsAt tree directory recursive)

/-- The files that count when a directory is searched, in the order in which they are listed. -/
def counted (project : Project) (tree : FileTree) (directory : List String)
    (recursive excludeVendor : Bool) : List (List String) :=
  (tree.files.map (·.1)).filter fun place =>
    (tree.find (.absolute place)).isFile && project.accepts directory recursive excludeVendor place

/-- The source files under a directory, sorted by path. -/
def sourceFiles (project : Project) (tree : FileTree) (path : String)
    (recursive excludeVendor : Bool) : Except Fault (List (List String)) := do
  let directory ← project.directory tree path
  if isStopped tree directory recursive then throw .refused
  return (project.counted tree directory recursive excludeVendor).mergeSort Path.comesBefore

end Project

end ClassAtlas
