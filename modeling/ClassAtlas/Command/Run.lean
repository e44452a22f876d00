import ClassAtlas.Command.Basic
import ClassAtlas.Command.Display
import ClassAtlas.Request.Workspace

/-!
Running commands: what they print, how they end, and what they leave behind.
-/

namespace ClassAtlas

namespace Command

/-- How a command ended. -/
structure Outcome where
  exitCode : Nat
  lines : List String
deriving DecidableEq, Repr

/-- The command did what it was asked for. -/
def done (lines : List String) : Outcome := ⟨0, lines⟩

/-- The command failed with a complaint. -/
def failed (width : Nat) (message : String) : Except Fault Outcome := do
  return ⟨1, ← Display.failure width message⟩

/-- The command line was not a proper one. -/
def misused : Outcome := ⟨2, []⟩

/-- The version of the program. -/
def programVersion : String := "1.2.0"

/-- The complaint about a root that does not exist. -/
def missingRoot (width : Nat) (root : String) : Except Fault Outcome :=
  failed width ("Project path does not exist: " ++ root)

/-- What is shown after a request was served. -/
def served (width : Nat) (request : Request) (asJson : Bool) (result : Served) :
    Except Fault Outcome :=
  match result.answer with
  | .ok answer => do
    let lines ←
      if asJson then pure [answer.toJson.render] else Display.answerLines width request answer
    return done lines
  | .error (.failure failure) => failed width failure.message
  | .error fault => .error fault

/-- Serves a request about the project with a root. An empty root means the one in the settings. -/
def answer (workspace : Workspace) (width : Nat) (request : Request) (asJson : Bool)
    (root : Option String) : Except Fault Outcome × Workspace :=
  let found := root.mapM fun root => workspace.tree.isDirectory (.parse root)
  match found with
  | .error fault => (.error fault, workspace)
  | .ok (some false) => (missingRoot width (root.getD ""), workspace)
  | .ok _ =>
    let root := (root.filter (!·.isEmpty)).map fun root => workspace.tree.resolve (.parse root)
    match workspace.serve root (.ok request) with
    | (.error fault, workspace) => (.error fault, workspace)
    | (.ok result, workspace) => (served width request asJson result, workspace)

/-- The root of a project as its store is looked up: resolved, and checked to lead somewhere. The flag
says whether it does. -/
def storeRoot (workspace : Workspace) (root : Option String) :
    Except Fault (Option (List String × Bool)) :=
  root.mapM fun root => do
    let resolved ← workspace.tree.resolved (.parse root)
    return (resolved, ← workspace.tree.pathExists (.absolute resolved))

/-- Opens the store of the project with a root, and works on it. -/
def withStore (workspace : Workspace) (width : Nat) (root : Option String)
    (work : Store → Except Fault Outcome × Store) : Except Fault Outcome × Workspace :=
  match workspace.prepare with
  | (some fault, workspace) => (.error fault, workspace)
  | (none, workspace) =>
    match storeRoot workspace root with
    | .error fault => (.error fault, workspace)
    | .ok (some (root, false)) => (missingRoot width (Path.absolute root).render, workspace)
    | .ok found =>
      match workspace.openProject (found.map (·.1)) with
      | (.error fault, workspace) => (.error fault, workspace)
      | (.ok (_, store, path), workspace) =>
        let (outcome, store) := work store
        (outcome, workspace.keep path store)

/-- Drops all stored results. -/
def clearStore (store : Store) : Except Fault Outcome × Store :=
  let (removed, store) := store.invalidateAll
  (.ok (done ["✓ Cache cleared (" ++ Text.decimal removed ++ " entries removed)"]), store)

/-- Shows counts of the stored results. -/
def countStore (width : Nat) (now : Int) (store : Store) : Except Fault Outcome × Store :=
  ((Display.countLines width (store.counts now)).map done, store)

/-- Runs a command. -/
def run (workspace : Workspace) (width : Nat) (command : Command) :
    Except Fault Outcome × Workspace :=
  match command with
  | .ask request asJson root => answer workspace width request asJson root
  | .clearCache root => withStore workspace width root clearStore
  | .cacheStatistics root => withStore workspace width root (countStore width workspace.now)

/-- Runs a command line. The settings are prepared anew before the arguments of a command are read. -/
def runLine (workspace : Workspace) (width : Nat) (arguments : List String) :
    Except Fault Outcome × Workspace :=
  let workspace := workspace.unprepared
  match Line.parse? arguments with
  | none => (.ok misused, workspace)
  | some .version => (.ok (done ["php-reflector " ++ programVersion]), workspace)
  | some (.command verbose read rest) =>
    let (fault, workspace) := if verbose then (none, workspace) else workspace.prepare
    match fault, read rest with
    | some fault, _ => (.error fault, workspace)
    | none, none => (.ok misused, workspace)
    | none, some command => run workspace width command

/-- The output of a command: every line with a line feed. -/
def Outcome.output (outcome : Outcome) : String := Text.concat (outcome.lines.map (· ++ "\n"))

end Command

end ClassAtlas
