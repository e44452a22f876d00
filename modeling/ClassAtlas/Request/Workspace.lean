import ClassAtlas.Request.Serve
import ClassAtlas.Settings.Basic
import ClassAtlas.Settings.EnvFile

/-!
The surroundings of the program: files, environment, clock and the files that hold stored results.

Settings are variables of the environment. They are prepared once: the variables of a file in the
working directory are added to the environment, where they stay. A project is opened with its
settings, which also opens its store. Opening a store creates the directories above its file; a store
that was opened before is found again under its resolved path.
-/

namespace ClassAtlas

/-- The surroundings of the program. -/
structure Workspace where
  tree : FileTree
  environment : Environment
  /-- Whether the settings have been prepared. -/
  isPrepared : Bool
  /-- Seconds on the clock. -/
  now : Int
  /-- Stores by the resolved paths of their files. -/
  stores : List (List String × Store)

namespace Workspace

/-- The settings that hold now. -/
def settings (workspace : Workspace) : Settings :=
  ⟨workspace.environment, workspace.tree.workingDirectory⟩

/-- The file of variables in the working directory. -/
def environmentFile : Path := .parse ".env"

/-- Prepares the settings, unless that has been done. After a fault they are not prepared. -/
def prepare (workspace : Workspace) : Option Fault × Workspace :=
  if workspace.isPrepared then (none, workspace)
  else match workspace.tree.find environmentFile with
    | .file _ file =>
      let (environment, fault) := EnvFile.extend workspace.environment file.source.bytes
      (fault, { workspace with environment := environment, isPrepared := fault.isNone })
    | _ => (none, { workspace with isPrepared := true })

/-- Forgets that the settings have been prepared. -/
def unprepared (workspace : Workspace) : Workspace := { workspace with isPrepared := false }

/-- Replaces the variables of this program. -/
def replaceVariables (workspace : Workspace) (given : List (String × String)) :
    Option Fault × Workspace :=
  let (environment, fault) := workspace.environment.withoutOwn.setAll given
  (fault, { workspace with environment := environment, isPrepared := false })

/-- The longest path of a store file in bytes. -/
def maxStorePath : Nat := 511

/-- The file that holds a store. -/
def fileOf (store : Store) : File := ⟨⟨Utf8.encode store.fileText, .empty⟩, true⟩

/-- Keeps a store under the path of its file. -/
def keep (workspace : Workspace) (path : List String) (store : Store) : Workspace :=
  { workspace with
    tree := workspace.tree.write path (fileOf store)
    stores := (path, store) :: workspace.stores.filter (·.1 != path) }

/-- The store at a path, with the resolved path. An empty file holds an empty store. -/
def storeAt (workspace : Workspace) (path : Path) : Except Fault (Store × List String) :=
  if path.byteLength > maxStorePath then .error .storeUnavailable
  else match workspace.tree.find path with
    | .file resolved file =>
      match workspace.stores.lookup resolved with
      | some store => .ok (store, resolved)
      | none => if file.source.bytes.isEmpty then .ok (.empty 0, resolved) else .error .storeCorrupt
    | .missing => .ok (.empty 0, workspace.tree.resolve path)
    | _ => .error .storeUnavailable

/-- Opens the store in a file: the store with its resolved path, and the workspace afterwards. -/
def openStore (workspace : Workspace) (file : Path) (lifetime : Int) :
    Except Fault (Store × List String) × Workspace :=
  let (tree, fault) := workspace.tree.ensureDirectory file.parent
  let workspace := { workspace with tree := tree }
  match fault with
  | some fault => (.error fault, workspace)
  | none =>
    match workspace.storeAt file with
    | .error fault => (.error fault, workspace)
    | .ok (store, path) =>
      let store := { store with lifetime := lifetime }
      (.ok (store, path), workspace.keep path store)

/-- Writes a file, in place of a store that was there. The directories above it are created. -/
def writeFile (workspace : Workspace) (path : Path) (file : File) : Option Fault × Workspace :=
  if path.hasNull then (some .nullCharacter, workspace)
  else
    let (tree, fault) := workspace.tree.ensureDirectory path.parent
    let workspace := { workspace with tree := tree }
    let write (resolved : List String) : Option Fault × Workspace :=
      (none, { workspace with
        tree := tree.write resolved file
        stores := workspace.stores.filter (·.1 != resolved) })
    match fault, tree.find path with
    | some fault, _ => (some fault, workspace)
    | none, .file resolved _ => write resolved
    | none, .missing => write (tree.resolve path)
    | none, .directory _ => (some .fileIsDirectory, workspace)
    | none, .notDirectory => (some .notDirectory, workspace)
    | none, .denied | none, .nameTooLong => (some .refused, workspace)

/-- Removes a file or a store. -/
def removeFile (workspace : Workspace) (path : Path) : Option Fault × Workspace :=
  if path.hasNull then (some .nullCharacter, workspace)
  else match workspace.tree.find path with
    | .file resolved _ =>
      (none, { workspace with
        tree := workspace.tree.remove resolved
        stores := workspace.stores.filter (·.1 != resolved) })
    | .missing => (some .fileMissing, workspace)
    | .directory _ => (some .fileIsDirectory, workspace)
    | .notDirectory => (some .notDirectory, workspace)
    | .denied | .nameTooLong => (some .refused, workspace)

/-- Serves a request about a project with its store. Settings are prepared if they have a part in the
request. -/
def ask (workspace : Workspace) (project : Project) (store : Store) (request : Request) :
    Served × Workspace :=
  let (fault, workspace) :=
    if request.usesSettings then workspace.prepare else (none, workspace)
  match fault with
  | some fault => (⟨.error fault, store, 0⟩, workspace)
  | none =>
    let scanPath := workspace.settings.scanPath
    (request.serve scanPath project workspace.tree store workspace.now, workspace)

/-- Opens the store of the project with a root: the settings are prepared first. -/
def openProject (workspace : Workspace) (root : Option (List String)) :
    Except Fault (Project × Store × List String) × Workspace :=
  match workspace.prepare with
  | (some fault, workspace) => (.error fault, workspace)
  | (none, workspace) =>
    let settings := workspace.settings
    let root := root.getD settings.projectRoot
    match settings.cacheLifetime with
    | .error fault => (.error fault, workspace)
    | .ok lifetime =>
      match workspace.openStore (settings.cacheFile (.absolute root)) lifetime with
      | (.error fault, workspace) => (.error fault, workspace)
      | (.ok (store, path), workspace) =>
        (.ok (⟨root, settings.vendorDirectory⟩, store, path), workspace)

/-- Serves a request about the project with a root, which is the one in the settings if none is given.
The store is opened before the request is looked at, also when the request could not be read. -/
def serve (workspace : Workspace) (root : Option (List String)) (request : Except Fault Request) :
    Except Fault Served × Workspace :=
  match workspace.openProject root with
  | (.error fault, workspace) => (.error fault, workspace)
  | (.ok (project, store, path), workspace) =>
    let (served, workspace) : Served × Workspace :=
      match request with
      | .error fault => (⟨.error fault, store, 0⟩, workspace)
      | .ok request => workspace.ask project store request
    (.ok served, workspace.keep path served.store)

end Workspace

end ClassAtlas
