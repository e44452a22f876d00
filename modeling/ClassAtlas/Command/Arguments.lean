import ClassAtlas.Text.Search

/-!
Command-line arguments: options, with or without values, and operands.

A long option takes its value from behind an equals sign or from the next argument. Short options may
be joined in one argument; the rest of the argument, or else the next one, is the value of the first
that takes one. A double dash ends the options.
-/

namespace ClassAtlas

/-- An option of a command. -/
structure OptionSpec where
  /-- The name under which the option is known to the command. -/
  name : String
  /-- How the option is written, dashes included. -/
  spellings : List String
  takesValue : Bool

namespace Arguments

/-- An option that was given, with its value. -/
structure Given where
  name : String
  value : Option String
deriving DecidableEq, Repr

/-- Arguments sorted out. -/
structure Parsed where
  options : List Given
  operands : List String
deriving DecidableEq, Repr

/-- What one argument says. -/
inductive Word where
  | operand
  /-- Options that are complete, and possibly one that needs the next argument as its value. -/
  | options (complete : List Given) (pending : Option String)
  | malformed

/-- The option with a spelling. -/
def spelled? (specs : List OptionSpec) (spelling : String) : Option OptionSpec :=
  specs.find? (·.spellings.contains spelling)

/-- Reads the characters of joined short options. -/
def readShort (specs : List OptionSpec) : List Char → Word
  | [] => .options [] none
  | char :: rest =>
    match spelled? specs (String.ofList ['-', char]) with
    | none => .malformed
    | some spec =>
      if spec.takesValue then
        if rest.isEmpty then .options [] (some spec.name)
        else .options [⟨spec.name, some (String.ofList rest)⟩] none
      else match readShort specs rest with
        | .options complete pending => .options (⟨spec.name, none⟩ :: complete) pending
        | other => other

/-- Reads an option that is written as one word. -/
def readLong (spec : OptionSpec) (value : Option String) : Word :=
  match spec.takesValue, value with
  | true, none => .options [] (some spec.name)
  | true, some value => .options [⟨spec.name, some value⟩] none
  | false, none => .options [⟨spec.name, none⟩] none
  | false, some _ => .malformed

/-- The spelling of an option and the value behind its equals sign. -/
def cutValue (argument : String) : String × Option String :=
  match Text.cutFirst? argument '=' with
  | some (spelling, value) => (spelling, some value)
  | none => (argument, none)

/-- Reads one argument. -/
def readWord (specs : List OptionSpec) (argument : String) : Word :=
  match argument.toList with
  | '-' :: '-' :: _ =>
    let (spelling, value) := cutValue argument
    match spelled? specs spelling with
    | some spec => readLong spec value
    | none => .malformed
  | '-' :: char :: rest => readShort specs (char :: rest)
  | _ => .operand

/-- Sorts out arguments; absent if they do not fit the options. Options are looked for among operands
too if `interspersed` is set, and otherwise only before the first operand. -/
def parse? (specs : List OptionSpec) (interspersed : Bool) : List String → Option Parsed
  | [] => some ⟨[], []⟩
  | argument :: rest =>
    if argument == "--" then some ⟨[], rest⟩
    else match readWord specs argument with
      | .malformed => none
      | .operand =>
        if interspersed then
          (parse? specs interspersed rest).map fun parsed =>
            { parsed with operands := argument :: parsed.operands }
        else some ⟨[], argument :: rest⟩
      | .options complete none =>
        (parse? specs interspersed rest).map fun parsed =>
          { parsed with options := complete ++ parsed.options }
      | .options complete (some name) =>
        match rest with
        | [] => none
        | value :: rest =>
          (parse? specs interspersed rest).map fun parsed =>
            { parsed with options := complete ++ ⟨name, some value⟩ :: parsed.options }

namespace Parsed

/-- Whether an option was given. -/
def has (parsed : Parsed) (name : String) : Bool := parsed.options.any (·.name == name)

/-- All values of an option. -/
def values (parsed : Parsed) (name : String) : List String :=
  parsed.options.filterMap fun given => if given.name == name then given.value else none

/-- The value of an option; of several the last counts. -/
def value? (parsed : Parsed) (name : String) : Option String := (parsed.values name).getLast?

/-- The state of a switch that one option turns on and another turns off; the last one counts. -/
def switch (parsed : Parsed) (on off : String) (fallback : Bool) : Bool :=
  match (parsed.options.filter fun given => given.name == on || given.name == off).getLast? with
  | some given => given.name == on
  | none => fallback

end Parsed

end Arguments

end ClassAtlas
