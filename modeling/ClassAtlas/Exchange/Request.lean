import ClassAtlas.Request.Workspace

/-!
The exchange form of requests: the name of a tool and named arguments.

A missing argument has its default, unless the tool requires it, and an argument that a tool does not
know is a fault. The options of a class detail are the exception: an unknown one is answered with a
failure.
-/

namespace ClassAtlas.Exchange

/-- Arguments by name. -/
abbrev Arguments : Type := List (String × Json)

namespace Arguments

/-- The value of an argument. -/
def value (arguments : Arguments) (name : String) (fallback : Json) : Json :=
  (arguments.lookup name).getD fallback

/-- A switch: any value that counts as given turns it on. -/
def flag (arguments : Arguments) (name : String) (fallback : Bool) : Bool :=
  (arguments.value name (.bool fallback)).isGiven

/-- Whether all of some arguments are there. -/
def hasAll (arguments : Arguments) (required : List String) : Bool :=
  required.all fun name => (arguments.lookup name).isSome

/-- Checks that required arguments are there and that no others are but optional ones. -/
def check (arguments : Arguments) (required optional : List String) : Except Fault Unit :=
  if arguments.hasAll required &&
      arguments.all fun (name, _) => required.contains name || optional.contains name
  then .ok ()
  else .error .wrongShape

end Arguments

/-- The options of a usage scan. -/
def scanOptionNames : List String := [
  "usage_types", "exclude_vendor", "flush_cache", "limit", "offset", "group_by_type", "sort_by"]

/-- The options of a usage scan in arguments that are known. -/
def scanOptionsIn (arguments : Arguments) : ScanOptions where
  usageTypes := arguments.value "usage_types" (.list [])
  excludeVendor := arguments.flag "exclude_vendor" true
  flushCache := arguments.flag "flush_cache" false
  sortBy := arguments.value "sort_by" (.str "line")
  groupByType := arguments.flag "group_by_type" false
  limit := arguments.value "limit" (.int 100)
  offset := arguments.value "offset" (.int 0)

/-- Reads the options of a usage scan. -/
def scanOptions (arguments : Arguments) : Except Fault ScanOptions := do
  arguments.check [] scanOptionNames
  return scanOptionsIn arguments

/-- The filters of a class listing. -/
def classFilterNames : List String := ["has_trait", "has_interface", "has_method"]

/-- The filters of a class listing in arguments that are known. -/
def classFiltersIn (arguments : Arguments) : ClassFilters where
  hasTrait := arguments.value "has_trait" (.str "")
  hasInterface := arguments.value "has_interface" (.str "")
  hasMethod := arguments.value "has_method" (.str "")

/-- Reads the filters of a class listing. -/
def classFilters (arguments : Arguments) : Except Fault ClassFilters := do
  arguments.check [] classFilterNames
  return classFiltersIn arguments

/-- Reads how documentation comments are shown. -/
def docOptions (arguments : Arguments) : Except Fault DocOptions := do
  arguments.check [] ["enabled", "summary_only", "include_raw"]
  return {
    enabled := arguments.flag "enabled" true
    summaryOnly := arguments.flag "summary_only" true
    includeRaw := arguments.flag "include_raw" false }

/-- A search for source files. -/
structure Search where
  path : String
  recursive : Bool
  excludeVendor : Bool

/-- Reads a search for source files. -/
def searchOf (arguments : Arguments) (excludeVendor : Bool) : Except Fault Search := do
  arguments.check ["path"] ["recursive", "exclude_vendor"]
  return {
    path := ← (arguments.value "path" .null).pathText
    recursive := arguments.flag "recursive" true
    excludeVendor := arguments.flag "exclude_vendor" excludeVendor }

/-- The options of a class detail as JSON, by name. -/
def detailMembers (options : DetailOptions) : List (String × Json) := [
  ("constants", options.constants),
  ("properties", options.properties),
  ("methods", options.methods),
  ("include_inherited", options.includeInherited),
  ("summary", options.summary),
  ("full_docblocks", options.fullDocBlocks),
  ("visibility", options.visibility),
  ("methods_offset", options.methodsOffset),
  ("methods_limit", options.methodsLimit),
  ("properties_offset", options.propertiesOffset),
  ("properties_limit", options.propertiesLimit),
  ("constants_offset", options.constantsOffset),
  ("constants_limit", options.constantsLimit),
  ("static_only", options.staticOnly),
  ("summary_mode", options.summaryMode),
  ("raw_docblock", options.rawDocBlock)]

/-- The names of the options of a class detail. -/
def detailOptionNames : List String := (detailMembers {}).map (·.1)

/-- The options of a class detail in arguments that are known. -/
def detailOptionsIn (arguments : Arguments) : DetailOptions :=
  let standard : DetailOptions := {}
  { constants := arguments.value "constants" standard.constants
    properties := arguments.value "properties" standard.properties
    methods := arguments.value "methods" standard.methods
    includeInherited := arguments.value "include_inherited" standard.includeInherited
    summary := arguments.value "summary" standard.summary
    fullDocBlocks := arguments.value "full_docblocks" standard.fullDocBlocks
    visibility := arguments.value "visibility" standard.visibility
    methodsOffset := arguments.value "methods_offset" standard.methodsOffset
    methodsLimit := arguments.value "methods_limit" standard.methodsLimit
    propertiesOffset := arguments.value "properties_offset" standard.propertiesOffset
    propertiesLimit := arguments.value "properties_limit" standard.propertiesLimit
    constantsOffset := arguments.value "constants_offset" standard.constantsOffset
    constantsLimit := arguments.value "constants_limit" standard.constantsLimit
    staticOnly := arguments.value "static_only" standard.staticOnly
    summaryMode := arguments.value "summary_mode" standard.summaryMode
    rawDocBlock := arguments.value "raw_docblock" standard.rawDocBlock }

/-- Reads the options of a class detail. -/
def detailOptions (arguments : Arguments) : Except Fault DetailOptions := do
  arguments.check [] detailOptionNames
  return detailOptionsIn arguments

/-- Reads a request for a class listing. -/
def classesRequest (arguments : Arguments) : Except Fault Request := do
  arguments.check ["path"] (classFilterNames ++ ["recursive", "limit", "offset", "raw_docblock"])
  let options : ListingOptions := {
    filters := classFiltersIn arguments
    recursive := arguments.flag "recursive" true
    limit := arguments.value "limit" (.int 0)
    offset := arguments.value "offset" (.int 0) }
  return .classes (arguments.value "path" .null) options (arguments.flag "raw_docblock" false)

/-- Reads a request for usages. Usage types that are given have to be a list of some kind. -/
def usagesRequest (arguments : Arguments) : Except Fault Request := do
  arguments.check ["target"] ("path" :: scanOptionNames)
  let options := scanOptionsIn arguments
  let usageTypes ← if options.usageTypes.isGiven then options.usageTypes.listed else pure []
  return .usages (arguments.value "target" .null) (arguments.value "path" .null)
    { options with usageTypes := .list usageTypes }

/-- Reads a request for a class detail. The first unknown option is the failure, except for the name
that is taken by the tool itself. -/
def detailRequest (arguments : Arguments) : Except Fault Request := do
  let some reference := arguments.lookup "class_" | throw .wrongShape
  let options := arguments.filter (·.1 != "class_")
  if (options.lookup "self").isSome then throw .wrongShape
  match options.find? fun (name, _) => !detailOptionNames.contains name with
  | some (name, _) => throw (.failure (.unknownOption name))
  | none => return .detail reference (detailOptionsIn options)

/-- Reads a request from the name of its tool and its arguments. -/
def requestOf (tool : String) (arguments : Arguments) : Except Fault Request :=
  match tool with
  | "class_list" => classesRequest arguments
  | "class_usages" => usagesRequest arguments
  | "class_detail" => detailRequest arguments
  | _ => .error .wrongShape

/-- The argument that a tool requires. -/
def requiredArgument (tool : String) : String :=
  match tool with
  | "class_list" => "path"
  | "class_usages" => "target"
  | _ => "class_"

/-- Serves a request to a tool about the project in the settings, which are prepared anew. Only a
request without its required argument is refused before the project is opened. -/
def serveTool (workspace : Workspace) (tool : String) (arguments : Arguments) :
    Except Fault Served × Workspace :=
  let workspace := workspace.unprepared
  if arguments.hasAll [requiredArgument tool] then
    workspace.serve none (requestOf tool arguments)
  else (.error .wrongShape, workspace)

end ClassAtlas.Exchange
