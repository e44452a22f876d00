import ClassAtlas.Index.Basic

/-!
Looking up classes by name.

A name not met yet is looked for in the files that the autoload roots map it to, and then in all
files of the project, which are read at most once. What was learned before a fault is kept.
-/

namespace ClassAtlas

/-- The declarations of a file, which carry its path as it is given. -/
def FileTree.declarations (tree : FileTree) (path : Path) : Except Fault (List Declaration) :=
  if path.hasNull then .error .nullCharacter
  else match tree.readSource path with
  | .error fault => .error (.failure (.fileUnreadable path.render fault))
  | .ok source => .ok (source.declarations path.render)

/-- A computation that reads and extends a class index. -/
abbrev Lookup (α : Type) : Type := ExceptT Fault (StateM ClassIndex) α

namespace Lookup

/-- Takes over the result of a computation that does not touch the index. -/
def ofExcept {α : Type} (result : Except Fault α) : Lookup α :=
  match result with
  | .ok value => pure value
  | .error fault => throw fault

/-- The declarations of a file, which are registered when the file is read for the first time. The
path is resolved. -/
def indexFile (tree : FileTree) (path : List String) : Lookup (List Declaration) := do
  let index ← get
  match index.byFile.lookup path with
  | some declarations => return declarations
  | none =>
    let declarations ← ofExcept (tree.declarations (.absolute path))
    set (index.addFile path declarations)
    return declarations

/-- Takes a file that cannot be read for an empty one. -/
def skipUnreadable (fault : Fault) : Lookup (List Declaration) :=
  match fault with
  | .failure (.fileUnreadable ..) => pure []
  | other => throw other

/-- The declarations of several files; files that cannot be read are skipped. -/
def indexFiles (tree : FileTree) : List (List String) → Lookup (List Declaration)
  | [] => return []
  | path :: rest => do
    let found ← tryCatch (indexFile tree path) skipUnreadable
    let others ← indexFiles tree rest
    return found ++ others

/-- The declarations under a directory, by file. -/
def indexDirectory (tree : FileTree) (path : String) (recursive excludeVendor : Bool) :
    Lookup (List Declaration) := do
  let index ← get
  let files ← ofExcept (index.project.sourceFiles tree path recursive excludeVendor)
  indexFiles tree files

/-- Reads all files of the project, unless that has been done. -/
def indexProject (tree : FileTree) : Lookup Unit := do
  let index ← get
  if index.complete then return
  set { index with complete := true }
  let _ ← indexDirectory tree (Path.absolute index.project.root).render true false

/-- The autoload roots, read on first use. -/
def autoloadRoots (tree : FileTree) : Lookup (List AutoloadRoot) := do
  let index ← get
  match index.roots with
  | some roots => return roots
  | none =>
    let roots ← ofExcept (Autoload.roots index.project tree)
    modify fun index => { index with roots := some roots }
    return roots

/-- Reads candidate files until a key is registered; the flag says whether it is. -/
def tryCandidates (tree : FileTree) (key : String) : List Path → Lookup Bool
  | [] => return false
  | path :: rest => do
    let _ ← indexFiles tree [tree.resolve path]
    if ((← get).class? key).isSome then return true
    tryCandidates tree key rest

/-- Settles a name: afterwards it is registered or known to be absent. -/
def load (tree : FileTree) (name : String) : Lookup Unit := do
  let key := Name.key name
  if (← get).isSettled key then return
  let roots ← autoloadRoots tree
  let candidates ← ofExcept (Autoload.candidates tree roots name)
  if ← tryCandidates tree key candidates then return
  indexProject tree
  modify fun index =>
    if (index.class? key).isSome then index else { index with absent := index.absent ++ [key] }

/-- The declaration of a class. -/
def find (tree : FileTree) (name : String) : Lookup (Option Declaration) := do
  load tree name
  return (← get).class? (Name.key name)

end Lookup

end ClassAtlas
