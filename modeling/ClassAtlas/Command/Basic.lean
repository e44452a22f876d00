import ClassAtlas.Command.Arguments
import ClassAtlas.Command.Number
import ClassAtlas.Request.Basic

/-!
Commands and how they are written on the command line.
-/

namespace ClassAtlas

/-- A command. -/
inductive Command where
  /-- Serve a request and show the answer, as JSON if asked for. -/
  | ask (request : Request) (asJson : Bool) (root : Option String)
  /-- Drop all stored results. -/
  | clearCache (root : Option String)
  /-- Show counts of the stored results. -/
  | cacheStatistics (root : Option String)

namespace Command

/-- An option without a value. -/
def switchSpec (name : String) : OptionSpec := ⟨name, ["--" ++ name], false⟩

/-- An option with a value. -/
def valueSpec (name : String) : OptionSpec := ⟨name, ["--" ++ name], true⟩

/-- The option for the root of the project. -/
def rootSpec : OptionSpec := ⟨"root", ["--root", "-r"], true⟩

/-- The options in front of a command. -/
def programSpecs : List OptionSpec := [⟨"verbose", ["--verbose", "-v"], false⟩, switchSpec "version"]

/-- The options of the command that finds usages. -/
def usagesSpecs : List OptionSpec := [
  ⟨"path", ["--path", "-p"], true⟩, ⟨"type", ["--type", "-t"], true⟩, switchSpec "include-vendor",
  switchSpec "flush-cache", valueSpec "limit", valueSpec "offset", switchSpec "group-by-type",
  valueSpec "sort-by", switchSpec "json", rootSpec]

/-- The options of the command that lists classes. -/
def classesSpecs : List OptionSpec := [
  valueSpec "trait", valueSpec "interface", valueSpec "method", switchSpec "recursive",
  switchSpec "no-recursive", valueSpec "limit", valueSpec "offset", switchSpec "raw-docblock",
  switchSpec "json", rootSpec]

/-- The options of the command that describes a class. -/
def detailSpecs : List OptionSpec := [
  switchSpec "constants", switchSpec "no-constants", switchSpec "properties",
  switchSpec "no-properties", switchSpec "methods", switchSpec "no-methods", switchSpec "inherited",
  switchSpec "full-docblocks", valueSpec "visibility", valueSpec "methods-offset",
  valueSpec "methods-limit", switchSpec "static-only", switchSpec "summary-mode",
  switchSpec "raw-docblock", switchSpec "json", rootSpec]

/-- The number given with an option; absent if it is no number. -/
def number? (parsed : Arguments.Parsed) (name : String) (fallback : Int) : Option Json :=
  match parsed.value? name with
  | none => some (.int fallback)
  | some text => (integer? text).map .int

/-- The text given with an option. -/
def textOr (parsed : Arguments.Parsed) (name fallback : String) : Json :=
  .str ((parsed.value? name).getD fallback)

/-- Whether an option was given. -/
def flag (parsed : Arguments.Parsed) (name : String) : Json := .bool (parsed.has name)

/-- The state of a switch that is on unless it is turned off. -/
def onSwitch (parsed : Arguments.Parsed) (name : String) : Json :=
  .bool (parsed.switch name ("no-" ++ name) true)

/-- The only operand. -/
def operand? (parsed : Arguments.Parsed) : Option String :=
  match parsed.operands with
  | [operand] => some operand
  | _ => none

/-- Reads the arguments of the command that finds usages. -/
def usages? (arguments : List String) : Option Command := do
  let parsed ← Arguments.parse? usagesSpecs true arguments
  let target ← operand? parsed
  let options : ScanOptions := {
    usageTypes := .list ((parsed.values "type").map .str)
    excludeVendor := !parsed.has "include-vendor"
    flushCache := parsed.has "flush-cache"
    sortBy := textOr parsed "sort-by" "line"
    groupByType := parsed.has "group-by-type"
    limit := ← number? parsed "limit" 100
    offset := ← number? parsed "offset" 0 }
  return .ask (.usages (.str target) (.ofText? (parsed.value? "path")) options) (parsed.has "json")
    (parsed.value? "root")

/-- Reads the arguments of the command that lists classes. -/
def classes? (arguments : List String) : Option Command := do
  let parsed ← Arguments.parse? classesSpecs true arguments
  let path ← operand? parsed
  let options : ListingOptions := {
    filters := {
      hasTrait := textOr parsed "trait" ""
      hasInterface := textOr parsed "interface" ""
      hasMethod := textOr parsed "method" "" }
    recursive := parsed.switch "recursive" "no-recursive" true
    limit := ← number? parsed "limit" 0
    offset := ← number? parsed "offset" 0 }
  return .ask (.classes (.str path) options (parsed.has "raw-docblock")) (parsed.has "json")
    (parsed.value? "root")

/-- Reads the arguments of the command that describes a class. -/
def detail? (arguments : List String) : Option Command := do
  let parsed ← Arguments.parse? detailSpecs true arguments
  let reference ← operand? parsed
  let options : DetailOptions := {
    constants := onSwitch parsed "constants"
    properties := onSwitch parsed "properties"
    methods := onSwitch parsed "methods"
    includeInherited := flag parsed "inherited"
    fullDocBlocks := flag parsed "full-docblocks"
    visibility := textOr parsed "visibility" "public"
    methodsOffset := ← number? parsed "methods-offset" 0
    methodsLimit := ← number? parsed "methods-limit" 0
    staticOnly := flag parsed "static-only"
    summaryMode := flag parsed "summary-mode"
    rawDocBlock := flag parsed "raw-docblock" }
  return .ask (.detail (.str reference) options) (parsed.has "json") (parsed.value? "root")

/-- Reads the arguments of a command that takes only the root of the project. -/
def rooted? (command : Option String → Command) (arguments : List String) : Option Command := do
  let parsed ← Arguments.parse? [rootSpec] true arguments
  if parsed.operands.isEmpty then return command (parsed.value? "root") else none

/-- Reads a command about stored results. -/
def cache? (arguments : List String) : Option Command := do
  let parsed ← Arguments.parse? [] false arguments
  match parsed.operands with
  | "clear" :: rest => rooted? .clearCache rest
  | "stats" :: rest => rooted? .cacheStatistics rest
  | _ => none

/-- The commands by name, with what reads their arguments. -/
def readers : List (String × (List String → Option Command)) := [
  ("usages", usages?),
  ("classes", classes?),
  ("detail", detail?),
  ("cache", cache?)]

/-- A command line whose first part has been read. -/
inductive Line where
  /-- Asks for the version, which comes before anything else. -/
  | version
  /-- Names a command. Its arguments are still to be read; a verbose command does without the settings
  for messages. -/
  | command (verbose : Bool) (read : List String → Option Command) (arguments : List String)

/-- Reads the first part of a command line; absent if it is not a proper one. -/
def Line.parse? (arguments : List String) : Option Line := do
  let parsed ← Arguments.parse? programSpecs false arguments
  if parsed.has "version" then return .version
  match parsed.operands with
  | name :: rest => do return .command (parsed.has "verbose") (← readers.lookup name) rest
  | [] => none

end Command

end ClassAtlas
