import ClassAtlas.Failure
import ClassAtlas.Files.Path
import ClassAtlas.Tree.Node

/-!
File trees: files with their sources, directories, and a working directory.

Paths are looked up component by component, as an operating system does: a double dot leads to the
parent of a directory that exists, nothing can be looked up below a file, and a component that is too
long is a fault of its own. A directory may be closed: its entries can be listed, but nothing can be
looked up in it. There are no symbolic links, so one place has one resolved path, and every directory can
be listed.
-/

namespace ClassAtlas

/-- A file: its content with its syntax tree, and whether its content can be read as source. -/
structure File where
  source : Source
  readable : Bool

/-- Files and directories, without symbolic links. All paths are absolute and given by their
components. -/
structure FileTree where
  workingDirectory : List String
  files : List (List String × File)
  directories : List (List String)
  /-- Directories in which nothing can be looked up, though their entries can be listed. -/
  closed : List (List String) := []

namespace FileTree

/-- What a path leads to. -/
inductive Found where
  | file (path : List String) (file : File)
  | directory (path : List String)
  | missing
  /-- The path leads through a closed directory. -/
  | denied
  /-- Something other than a directory is used as one. -/
  | notDirectory
  | nameTooLong

/-- The file at a path without double dots. -/
def file? (tree : FileTree) (path : List String) : Option File := tree.files.lookup path

/-- Whether a path without double dots is a directory. The root always is one. -/
def hasDirectory (tree : FileTree) (path : List String) : Bool :=
  path.isEmpty || tree.directories.contains path

/-- The longest component in bytes. -/
def maxNameBytes : Nat := 255

/-- Follows components from a directory. -/
def follow (tree : FileTree) (directory : List String) : List String → Found
  | [] => .directory directory
  | part :: rest =>
    if tree.closed.contains directory then .denied
    else if part == ".." then follow tree directory.dropLast rest
    else if (Utf8.encode part).length > maxNameBytes then .nameTooLong
    else
      let path := directory ++ [part]
      if tree.hasDirectory path then follow tree path rest
      else match tree.file? path with
        | none => .missing
        | some file => if rest.isEmpty then .file path file else .notDirectory

/-- A path of this many bytes or more leads nowhere. -/
def pathLimit : Nat := 4096

/-- What a path leads to from the working directory. -/
def find (tree : FileTree) (path : Path) : Found :=
  if path.hasNull then .missing
  else if path.byteLength ≥ pathLimit then .nameTooLong
  else tree.follow [] ((Path.absolute tree.workingDirectory).join path).parts

/-- Whether the file system refuses to follow a path, which is a fault wherever something is asked about
the path. -/
def Found.isRefused : Found → Bool
  | .denied | .nameTooLong => true
  | _ => false

def Found.isFile : Found → Bool
  | .file .. => true
  | _ => false

def Found.isDirectory : Found → Bool
  | .directory _ => true
  | _ => false

/-- Whether an entry comes up when the directory that holds it is listed. -/
def lists (tree : FileTree) (entry : List String) : Bool :=
  (tree.find (.absolute entry.dropLast)).isDirectory

/-- Whether a path leads to a file. -/
def isFile (tree : FileTree) (path : Path) : Except Fault Bool :=
  match tree.find path with
  | .file .. => .ok true
  | .denied | .nameTooLong => .error .refused
  | _ => .ok false

/-- Whether a path leads to a directory. -/
def isDirectory (tree : FileTree) (path : Path) : Except Fault Bool :=
  match tree.find path with
  | .directory _ => .ok true
  | .denied | .nameTooLong => .error .refused
  | _ => .ok false

/-- Whether a path leads anywhere. -/
def pathExists (tree : FileTree) (path : Path) : Except Fault Bool :=
  match tree.find path with
  | .file .. | .directory _ => .ok true
  | .denied | .nameTooLong => .error .refused
  | _ => .ok false

/-- The components of a path from the working directory, without double dots. -/
def resolve (tree : FileTree) (path : Path) : List String :=
  path.resolve tree.workingDirectory

/-- The components of a path from the working directory, without double dots; a null character in it
is a fault. -/
def resolved (tree : FileTree) (path : Path) : Except Fault (List String) :=
  path.resolved tree.workingDirectory

/-- The source at a path, if it can be read. -/
def readSource (tree : FileTree) (path : Path) : Except ReadFault Source :=
  match tree.find path with
  | .file _ file => if file.readable then .ok file.source else .error .denied
  | .directory _ => .error .isDirectory
  | .missing => .error .missing
  | .denied => .error .denied
  | .notDirectory => .error .notDirectory
  | .nameTooLong => .error .nameTooLong

/-- A directory with all directories above it, the root apart. -/
def ancestry (path : List String) : List (List String) :=
  (List.range path.length).map fun count => path.take (count + 1)

/-- Adds a directory with all directories above it. -/
def addDirectory (tree : FileTree) (path : List String) : FileTree :=
  { tree with
    directories := tree.directories ++ (ancestry path).filter (!tree.directories.contains ·) }

/-- Creates one directory. The directory above it has to exist, and nothing may be in its place. -/
def makeDirectory (tree : FileTree) (path : Path) : Except Fault FileTree :=
  let parts := ((Path.absolute tree.workingDirectory).join path).parts
  if path.hasNull then .error .nullCharacter
  else if path.byteLength ≥ pathLimit then .error .refused
  else match tree.follow [] parts.dropLast with
    | .missing => .error .fileMissing
    | .notDirectory | .file .. => .error .notDirectory
    | .denied | .nameTooLong => .error .refused
    | .directory above =>
      match parts.getLast? with
      | none | some ".." => .error .alreadyExists
      | some name =>
        match tree.follow above [name] with
        | .missing => .ok (tree.addDirectory (above ++ [name]))
        | .denied | .nameTooLong => .error .refused
        | _ => .error .alreadyExists

/-- What becomes of the fault in creating a directory: none if the directory is there all the same. -/
def toleratedFault (tree : FileTree) (path : Path) (fault : Fault) : Option Fault :=
  if fault == .nullCharacter || fault == .fileMissing then some fault
  else match tree.isDirectory path with
    | .ok true => none
    | .ok false => some fault
    | .error other => some other

/-- Creates a directory and those above it that are missing; the directory may exist. The components
are given in reverse. What was created before a fault stays. -/
def makeDirectories (tree : FileTree) (root : String) : List String → FileTree × Option Fault
  | [] =>
    match tree.makeDirectory ⟨root, []⟩ with
    | .ok tree => (tree, none)
    | .error fault => (tree, tree.toleratedFault ⟨root, []⟩ fault)
  | last :: above =>
    let path : Path := ⟨root, (last :: above).reverse⟩
    match tree.makeDirectory path with
    | .ok tree => (tree, none)
    | .error .fileMissing =>
      match makeDirectories tree root above with
      | (tree, some fault) => (tree, some fault)
      | (tree, none) =>
        match tree.makeDirectory path with
        | .ok tree => (tree, none)
        | .error fault => (tree, tree.toleratedFault path fault)
    | .error fault => (tree, tree.toleratedFault path fault)

/-- Creates a directory and those above it that are missing; the directory may exist. -/
def ensureDirectory (tree : FileTree) (path : Path) : FileTree × Option Fault :=
  tree.makeDirectories path.root path.parts.reverse

/-- Creates or replaces a file, with the directories above it. -/
def write (tree : FileTree) (path : List String) (file : File) : FileTree :=
  let tree := tree.addDirectory path.dropLast
  { tree with files := tree.files.filter (·.1 != path) ++ [(path, file)] }

/-- Removes a file; its directory stays. -/
def remove (tree : FileTree) (path : List String) : FileTree :=
  { tree with files := tree.files.filter (·.1 != path) }

/-- Number of syntax nodes in all files. -/
def nodeCount (tree : FileTree) : Nat := Node.sizeOfAll (tree.files.map (·.2.source.root))

end FileTree

end ClassAtlas
