import ClassAtlas.Files.Path
import ClassAtlas.Settings.Environment
import ClassAtlas.Text.Numeral
import ClassAtlas.Text.LetterCase

/-!
The settings of the program: variables of the environment, each with a default.
-/

namespace ClassAtlas

/-- The settings in an environment and a working directory. -/
structure Settings where
  environment : Environment
  /-- Components of the directory from which relative paths are taken. -/
  workingDirectory : List String

namespace Settings

/-- The value of a variable, or its default. -/
def variableOr (settings : Settings) (name fallback : String) : String :=
  (settings.environment.lookup name).getD fallback

/-- The root of the project that is looked at. -/
def projectRoot (settings : Settings) : List String :=
  (Path.parse (settings.variableOr "REFLECTOR_PROJECT_ROOT" ".")).resolve settings.workingDirectory

/-- The name of the directories that hold dependencies. -/
def vendorDirectory (settings : Settings) : String :=
  settings.variableOr "REFLECTOR_VENDOR_DIR" "vendor"

/-- The file of stored results for a project; a relative path is taken from its root. -/
def cacheFile (settings : Settings) (root : Path) : Path :=
  root.join (.parse (settings.variableOr "REFLECTOR_CACHE_PATH" ".reflector_cache/usages.db"))

/-- How long stored results count, in seconds. -/
def cacheLifetime (settings : Settings) : Except Fault Int :=
  match settings.environment.lookup "REFLECTOR_CACHE_TTL" with
  | none => .ok 86400
  | some text =>
    match Text.int? text with
    | some seconds => .ok seconds
    | none => .error (.badValue ("REFLECTOR_CACHE_TTL must be an integer, got '" ++ text ++ "'"))

/-- The directory to scan when a request names none. -/
def scanPath (settings : Settings) : String := settings.variableOr "REFLECTOR_SCAN_PATH" "app"

/-- The name of the log level, in uppercase. -/
def logLevel (settings : Settings) : String :=
  Text.upper (settings.variableOr "REFLECTOR_LOG_LEVEL" "WARNING")

end Settings

end ClassAtlas
