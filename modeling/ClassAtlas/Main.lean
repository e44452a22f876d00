import ClassAtlas.Command.Run
import ClassAtlas.Exchange.Workspace

/-!
The program: runs a command line on a workspace that is read from standard input as JSON. The members
`root` and `cwd` of the workspace say where the project and the program are.
-/

namespace ClassAtlas

/-- The path in a member of an object, without double dots. -/
def pathMember (value : Json) (key fallback : String) : List String :=
  (Path.parse (((value.field? key).bind Json.text?).getD fallback)).resolve []

/-- Columns of the terminal. -/
def terminalWidth : Nat := 80

/-- Runs a command line on the workspace that a value holds, with the variables in its member `env`. -/
def runOn (value : Json) (arguments : List String) : Except Fault Command.Outcome := do
  let location : Exchange.Location := ⟨pathMember value "root" "/", pathMember value "cwd" "/"⟩
  let workspace ← Exchange.workspaceOf location 0 value
  let given ← Exchange.variablesOf ((value.field? "env").getD .null)
  match workspace.replaceVariables given with
  | (some fault, _) => throw fault
  | (none, workspace) => (Command.runLine workspace terminalWidth arguments).1

/-- What is printed, what goes to the error stream, and the exit code. -/
def runProgram (input : String) (arguments : List String) : String × String × UInt32 :=
  match Json.parse? input with
  | none => ("", "The workspace is not JSON.\n", 2)
  | some value =>
    match runOn value arguments with
    | .ok outcome => (outcome.output, "", outcome.exitCode.toUInt32)
    | .error (.badValue message) => ("", message ++ "\n", 1)
    | .error _ => ("", "The project cannot be opened.\n", 1)

end ClassAtlas

/-- Reads the workspace, runs the command line, and prints the result. -/
def main (arguments : List String) : IO UInt32 := do
  let input ← (← IO.getStdin).readToEnd
  let (output, complaint, exitCode) := ClassAtlas.runProgram input arguments
  IO.print output
  IO.eprint complaint
  return exitCode
