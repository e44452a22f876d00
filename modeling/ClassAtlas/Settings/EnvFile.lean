import ClassAtlas.Settings.Environment
import ClassAtlas.Text.Lines

/-!
Files of environment variables.

A line binds a name to a value: `NAME=value`, with an optional `export` in front. A value may be
quoted, and then it may run over several lines and hold escapes; otherwise it ends at a comment or at
the end of the line. A line that cannot be read is skipped. Values may refer to variables by
`${NAME}` or, with a fallback, by `${NAME:-fallback}`.
-/

namespace ClassAtlas

namespace EnvFile

/-- A line of a file. A comment has no name, and a name without an equals sign has no value. -/
structure Binding where
  name : Option String
  value : Option String
deriving DecidableEq, Repr

/-- The result of reading a part of a file with the characters after it, or the characters from the
place on where reading failed. -/
abbrev Reading (α : Type) : Type := Except (List Char) (α × List Char)

/-- Whether a character is blank and does not end the line. -/
def isInlineBlank (char : Char) : Bool := Text.isBlank char && char != '\n'

/-- Skips blanks on the line. -/
def skipInline (chars : List Char) : List Char := chars.dropWhile isInlineBlank

/-- Skips the word `export` if blanks follow it. -/
def skipExport (chars : List Char) : List Char :=
  match Text.afterStart? "export".toList chars with
  | some (next :: rest) => if isInlineBlank next then skipInline rest else chars
  | _ => chars

/-- Whether a character can be part of a name without quotes. -/
def isNameChar (char : Char) : Bool := char != '=' && char != '#' && !Text.isBlank char

/-- The quotes that names and values may stand in. -/
def singleQuote : Char := Char.ofNat 39

/-- Reads a name. A comment has none. -/
def readName (chars : List Char) : Reading (Option String) :=
  match chars with
  | '#' :: _ => .ok (none, chars)
  | first :: rest =>
    if first == singleQuote then
      match rest.takeWhile (· != singleQuote), rest.dropWhile (· != singleQuote) with
      | name@(_ :: _), _ :: after => .ok (some (String.ofList name), after)
      | _, _ => .error chars
    else
      match chars.takeWhile isNameChar with
      | [] => .error chars
      | name => .ok (some (String.ofList name), chars.dropWhile isNameChar)
  | [] => .error chars

/-- The characters inside quotes and those after them, given the characters after the opening quote. A
backslash takes the character after it, which may not end the line. -/
def quotedPart? (quote : Char) : List Char → Option (List Char × List Char)
  | [] => none
  | '\\' :: char :: rest =>
    if char == '\n' then none
    else (quotedPart? quote rest).map fun (inside, after) => ('\\' :: char :: inside, after)
  | char :: rest =>
    if char == quote then some ([], rest)
    else if char == '\\' then none
    else (quotedPart? quote rest).map fun (inside, after) => (char :: inside, after)

/-- What a backslash and a character stand for inside double quotes. -/
def doubleEscape? (char : Char) : Option Char :=
  if char == '\\' || char == '"' || char == singleQuote then some char
  else match char with
    | 'a' => some (Char.ofNat 7)
    | 'b' => some (Char.ofNat 8)
    | 'f' => some (Char.ofNat 12)
    | 'n' => some '\n'
    | 'r' => some (Char.ofNat 13)
    | 't' => some '\t'
    | 'v' => some (Char.ofNat 11)
    | _ => none

/-- What a backslash and a character stand for inside single quotes. -/
def singleEscape? (char : Char) : Option Char :=
  if char == '\\' || char == singleQuote then some char else none

/-- Replaces escapes by what they stand for; a backslash in front of anything else stays. -/
def unescape (escape? : Char → Option Char) : List Char → List Char
  | [] => []
  | [only] => [only]
  | '\\' :: char :: rest =>
    match escape? char with
    | some meant => meant :: unescape escape? rest
    | none => '\\' :: unescape escape? (char :: rest)
  | char :: next :: rest => char :: unescape escape? (next :: rest)

/-- The part of a line before a comment: a number sign after a blank begins one. -/
def beforeComment : List Char → List Char
  | [] => []
  | char :: rest =>
    if Text.isBlank char && (rest.dropWhile Text.isBlank).head? == some '#' then []
    else char :: beforeComment rest

/-- Reads the value after an equals sign. A comment that blanks separate from the equals sign leaves
the value empty. -/
def readValue (afterSign : List Char) : Reading String :=
  match skipInline afterSign with
  | [] => .ok ("", [])
  | first :: rest =>
    if first == singleQuote || first == '"' then
      match quotedPart? first rest with
      | none => .error (first :: rest)
      | some (inside, after) =>
        let escape? := if first == '"' then doubleEscape? else singleEscape?
        .ok (String.ofList (unescape escape? inside), after)
    else if first == '#' && rest.length + 1 < afterSign.length then .ok ("", first :: rest)
    else
      let line := beforeComment ((first :: rest).takeWhile (· != '\n'))
      .ok (Text.trimEnd (String.ofList line), (first :: rest).dropWhile (· != '\n'))

/-- Skips a comment and the end of the line; anything else there is a failure. -/
def skipLineEnd (chars : List Char) : Except (List Char) (List Char) :=
  let rest :=
    match skipInline chars with
    | '#' :: comment => comment.dropWhile (· != '\n')
    | rest => rest
  match rest with
  | [] => .ok []
  | '\n' :: after => .ok after
  | _ => .error chars

/-- Reads one line, given its characters from the first one on that is not blank. -/
def readBinding (chars : List Char) : Except (List Char) (Binding × List Char) := do
  let (name, rest) ← readName (skipExport chars)
  match skipInline rest with
  | '=' :: after => do
    let (value, rest) ← readValue after
    return (⟨name, some value⟩, ← skipLineEnd rest)
  | rest => return (⟨name, none⟩, ← skipLineEnd rest)

/-- The lines of a file that can be read. The number bounds how many lines there are. -/
def bindingsFrom : Nat → List Char → List Binding
  | 0, _ => []
  | fuel + 1, chars =>
    match chars.dropWhile Text.isBlank with
    | [] => []
    | line =>
      match readBinding line with
      | .ok (binding, rest) => binding :: bindingsFrom fuel rest
      | .error rest => bindingsFrom fuel ((rest.dropWhile (· != '\n')).drop 1)

/-- The lines of a file that can be read. All line ends count alike. -/
def bindings (text : String) : List Binding :=
  let chars := (Text.withLineFeeds text).toList
  bindingsFrom (chars.length + 1) chars

/-- A reference to a variable. -/
structure Reference where
  name : String
  fallback : String
deriving DecidableEq, Repr

/-- Reads a reference, given the characters after its opening brace, and says how many characters it
takes up from there on. -/
def readReference? (chars : List Char) : Option (Reference × Nat) :=
  let name := chars.takeWhile fun char => char != '\x7d' && char != ':'
  match chars.drop name.length with
  | '\x7d' :: _ => some (⟨String.ofList name, ""⟩, name.length + 1)
  | ':' :: '-' :: rest =>
    let fallback := rest.takeWhile (· != '\x7d')
    if fallback.length < rest.length then
      some (⟨String.ofList name, String.ofList fallback⟩, name.length + fallback.length + 3)
    else none
  | _ => none

/-- What is known of the variables of a file, in the order of their first lines: the latest value of
each name, or that the latest line with the name gives none. -/
abbrev Known : Type := List (String × Option String)

/-- The value that a reference stands for: that of the environment, that of an earlier line, or the
fallback. A name without a value stands for nothing. -/
def Reference.value (reference : Reference) (environment : Environment) (known : Known) : String :=
  match environment.lookup reference.name, known.lookup reference.name with
  | some value, _ => value
  | none, some value => value.getD ""
  | none, none => reference.fallback

/-- Replaces references by values. The number says how many characters belong to a reference that has
been replaced. -/
def expandFrom (environment : Environment) (known : Known) : Nat → List Char → List Char
  | _, [] => []
  | skip + 1, _ :: rest => expandFrom environment known skip rest
  | 0, '$' :: '\x7b' :: rest =>
    match readReference? rest with
    | some (reference, size) =>
      (reference.value environment known).toList ++
        expandFrom environment known (size + 1) ('\x7b' :: rest)
    | none => '$' :: expandFrom environment known 0 ('\x7b' :: rest)
  | 0, char :: rest => char :: expandFrom environment known 0 rest

/-- A value with all references replaced. -/
def expand (environment : Environment) (known : Known) (value : String) : String :=
  String.ofList (expandFrom environment known 0 value.toList)

/-- Enters a value under a name, which keeps its place if it is known. -/
def Known.enter (known : Known) (name : String) (value : Option String) : Known :=
  match known with
  | [] => [(name, value)]
  | (other, old) :: rest =>
    if other == name then (name, value) :: rest else (other, old) :: Known.enter rest name value

/-- Enters one line. A comment binds nothing. -/
def enterBinding (environment : Environment) (known : Known) (binding : Binding) : Known :=
  match binding.name with
  | none => known
  | some name => known.enter name (binding.value.map (expand environment known))

/-- The variables of a file. Of several lines for one name the last counts. -/
def known (environment : Environment) (text : String) : Known :=
  (bindings text).foldl (enterBinding environment) []

/-- Adds variables that are not set yet, up to the first that cannot be set. -/
def setMissing (environment : Environment) : Known → Environment × Option Fault
  | [] => (environment, none)
  | (_, none) :: rest => setMissing environment rest
  | (name, some value) :: rest =>
    if (environment.lookup name).isSome then setMissing environment rest
    else match environment.set name value with
      | .error fault => (environment, some fault)
      | .ok environment => setMissing environment rest

/-- The text of a file. One byte order mark in front of it does not count. -/
def text (bytes : Bytes) : Except Fault String :=
  Utf8.read ((Text.afterStart? [0xef, 0xbb, 0xbf] bytes).getD bytes)

/-- An environment with the variables of a file added. Variables that are set already keep their
values, and what was added before a fault stays. -/
def extend (environment : Environment) (bytes : Bytes) : Environment × Option Fault :=
  match text bytes with
  | .error fault => (environment, some fault)
  | .ok text => setMissing environment (known environment text)

end EnvFile

end ClassAtlas
