import ClassAtlas.Release.Version
import ClassAtlas.Text.Replace

/-!
Writing the version of a release into the files that state it: the package description, the source
file with the version constant, and the badge of the front page.
-/

namespace ClassAtlas.Release

/-- The length of a part that opens with a text, goes on with at least one character of a class, and
then closes as a function of the characters ahead says. -/
def spanLength? (opening : String) (inside : Char → Bool) (closing : Text.Pattern) : Text.Pattern :=
  fun chars => do
    let rest ← Text.afterStart? opening.toList chars
    let span := rest.takeWhile inside
    if span.isEmpty then none
    else do
      let size ← closing (rest.drop span.length)
      return opening.length + span.length + size

/-- Matches a fixed text. -/
def fixed (text : String) : Text.Pattern :=
  fun chars => (Text.afterStart? text.toList chars).map fun _ => text.length

/-- Matches one character of a class. -/
def oneOf (accepts : Char → Bool) : Text.Pattern
  | char :: _ => if accepts char then some 1 else none
  | [] => none

/-- The version entry of a package description. -/
def packageEntry : Text.Pattern := spanLength? "version = \"" (· != '"') (fixed "\"")

/-- Whether a character is a quote of either kind. -/
def isQuote (char : Char) : Bool := char == '"' || char == Char.ofNat 39

/-- The definition of the version constant, with either kind of quotes. -/
def constantDefinition : Text.Pattern := fun chars => do
  let opening := "__version__ = "
  match ← Text.afterStart? opening.toList chars with
  | quote :: rest =>
    if isQuote quote then do
      let span := rest.takeWhile (!isQuote ·)
      if span.isEmpty then none
      else do
        let size ← oneOf isQuote (rest.drop span.length)
        return opening.length + 1 + span.length + size
    else none
  | [] => none

/-- The badge that shows the latest release. -/
def badge : Text.Pattern :=
  spanLength? "release-v" (fun char => Text.isDecimalDigit char || char == '.') (fixed "-blue")

/-- A file that states the version, with the rule that brings it up to date. -/
structure Statement where
  path : String
  /-- Whether the file may be missing. -/
  isOptional : Bool
  update : Version → String → String

/-- The files that state the version, in the order in which they are updated. -/
def statements : List Statement := [
  ⟨"pyproject.toml", false, fun version =>
    Text.replaceFirstLine packageEntry ("version = \"" ++ version.text ++ "\"")⟩,
  ⟨"src/php_reflector/config.py", false, fun version =>
    Text.replaceAll constantDefinition ("__version__ = \"" ++ version.text ++ "\"")⟩,
  ⟨"README.md", true, fun version =>
    Text.replaceAll badge ("release-v" ++ version.text ++ "-blue")⟩]

/-- Files by path. -/
abbrev Files : Type := List (String × Bytes)

/-- The bytes of a file; absent if there is none. A path with files below it is a directory, and
nothing can be below a file. -/
def bytesAt (files : Files) (path : String) : Except Fault (Option Bytes) :=
  match files.lookup path with
  | some bytes => .ok (some bytes)
  | none =>
    if files.any fun (known, _) => Text.startsWith known (path ++ "/") then .error .fileIsDirectory
    else if files.any fun (known, _) => Text.startsWith path (known ++ "/") then
      .error .notDirectory
    else .ok none

/-- The text of a file, with line feeds as line ends. -/
def readText (bytes : Bytes) : Except Fault String := Text.withLineFeeds <$> Utf8.read bytes

/-- Replaces the content of a file that exists. -/
def overwrite (files : Files) (path : String) (bytes : Bytes) : Files :=
  files.map fun (known, content) => (known, if known == path then bytes else content)

/-- Brings one file up to date. The texts are the lines that are printed. -/
def updateFile (version : Version) (files : Files) (statement : Statement) :
    Except Fault (Files × List String) := do
  match ← bytesAt files statement.path with
  | none => if statement.isOptional then return (files, []) else throw .fileMissing
  | some bytes =>
    let text ← readText bytes
    let updated := overwrite files statement.path (Utf8.encode (statement.update version text))
    return (updated, ["[OK] Updated " ++ statement.path ++ " to v" ++ version.text])

/-- Brings several files up to date, one after the other, up to the first fault. What was written before
a fault stays. -/
def updateFiles (version : Version) : Files → List Statement → Files × Except Fault (List String)
  | files, [] => (files, .ok [])
  | files, statement :: rest =>
    match updateFile version files statement with
    | .error fault => (files, .error fault)
    | .ok (updated, printed) =>
      let (last, more) := updateFiles version updated rest
      (last, more.map (printed ++ ·))

/-- The file that holds the version of the release. -/
def versionFile : String := "VERSION"

/-- The version of the release. -/
def currentVersion (files : Files) : Except Fault Version := do
  match ← bytesAt files versionFile with
  | none => throw .fileMissing
  | some bytes => Version.read bytes

/-- What is printed about a version and the files that were brought up to date with it. -/
def announcement (version : Version) (printed : List String) : String :=
  let rule := Text.repeated 60 '='
  let lines := ["Version Conductor: Synchronizing to v" ++ version.text, rule] ++ printed ++
    [rule, "[OK] All files synchronized to v" ++ version.text]
  Text.concat (lines.map (· ++ "\n"))

/-- Brings all files up to date with the version of the release. It leaves the files, and gives what is
printed unless a fault stops it. -/
def run (files : Files) : Files × Except Fault String :=
  match currentVersion files with
  | .error fault => (files, .error fault)
  | .ok version =>
    let (last, printed) := updateFiles version files statements
    (last, printed.map (announcement version))

/-- The files that a run leaves and what it prints. -/
def sync (files : Files) : Except Fault (Files × String) :=
  let (last, printed) := run files
  printed.map (last, ·)

end ClassAtlas.Release
