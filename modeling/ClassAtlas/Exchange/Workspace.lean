import ClassAtlas.Exchange.Source
import ClassAtlas.Request.Workspace

/-!
The exchange form of workspaces: the files of a project with their syntax trees, and further
directories. All paths are taken from the root of the project.
-/

namespace ClassAtlas.Exchange

/-- Where the project and the program are: components of the root of the project and of the working
directory. -/
structure Location where
  root : List String
  workingDirectory : List String

/-- A path taken from the root of the project. -/
def Location.path (location : Location) (text : String) : Path :=
  (Path.absolute location.root).join (.parse text)

/-- Reads a file. One whose source has no encoding is empty. -/
def fileOf (value : Json) : File :=
  let source :=
    match sourceOf value with
    | .ok source => source
    | .error _ => ⟨[], .empty⟩
  ⟨source, !((value.field? "unreadable").getD .null).isGiven⟩

/-- The file tree with the project and the working directory and nothing else. -/
def Location.emptyTree (location : Location) : FileTree :=
  let bare : FileTree := { workingDirectory := location.workingDirectory, files := [], directories := [] }
  (bare.addDirectory location.root).addDirectory location.workingDirectory

/-- Adds files to a workspace, up to the first that cannot be written. -/
def addFiles (location : Location) (workspace : Workspace) :
    List (String × Json) → Except Fault Workspace
  | [] => .ok workspace
  | (path, file) :: rest =>
    match workspace.writeFile (location.path path) (fileOf file) with
    | (none, workspace) => addFiles location workspace rest
    | (some fault, _) => .error fault

/-- Adds directories to a file tree, up to the first that cannot be created. -/
def addDirectories (location : Location) (tree : FileTree) : List Json → Except Fault FileTree
  | [] => .ok tree
  | path :: rest => do
    match tree.ensureDirectory (location.path (← path.pathText)) with
    | (tree, none) => addDirectories location tree rest
    | (_, some fault) => throw fault

/-- Reads the variables of an environment. -/
def variablesOf (value : Json) : Except Fault (List (String × String)) :=
  (value.members?.getD []).mapM fun (name, text) => do return (name, ← text.pathText)

/-- Reads a workspace without stores or variables from the members `files` and `dirs` of an object. -/
def workspaceOf (location : Location) (now : Int) (value : Json) : Except Fault Workspace := do
  let files := ((value.field? "files").bind Json.members?).getD []
  let directories := ((value.field? "dirs").bind Json.items?).getD []
  let workspace ← addFiles location ⟨location.emptyTree, [], false, now, []⟩ files
  return { workspace with tree := ← addDirectories location workspace.tree directories }

end ClassAtlas.Exchange
