import ClassAtlas.Text.Numeral
import ClassAtlas.Text.Quoted
import ClassAtlas.Text.Search
import ClassAtlas.Text.Utf8

/-!
Failures of requests and faults of the environment.

A `Failure` is an answer: the request cannot be served, and its message says why. A `Fault` is any
way in which a computation stops; besides failures these are conditions that no request handles.
-/

namespace ClassAtlas

/-- Why the content of a file cannot be read. -/
inductive ReadFault where
  | missing
  | denied
  | isDirectory
  | notDirectory
  | nameTooLong
deriving DecidableEq, Repr

/-- The wording of a read fault at a path. -/
def ReadFault.message (fault : ReadFault) (path : String) : String :=
  let reason :=
    match fault with
    | .missing => "[Errno 2] No such file or directory: "
    | .denied => "[Errno 13] Permission denied: "
    | .isDirectory => "[Errno 21] Is a directory: "
    | .notDirectory => "[Errno 20] Not a directory: "
    | .nameTooLong => "[Errno 36] File name too long: "
  reason ++ Text.quoted path

/-- The classes of failures that callers tell apart. -/
inductive FailureKind where
  | general
  | notFound
  | malformedInput
  | invalidParameter
deriving DecidableEq, Repr

/-- The word for a class of failures in responses. -/
def FailureKind.label : FailureKind → String
  | .general => "error"
  | .notFound => "not_found"
  | .malformedInput => "malformed_input"
  | .invalidParameter => "invalid_parameter"

/-- Why a request cannot be served. -/
inductive Failure where
  /-- A usage scan without a target class. -/
  | targetRequired
  | unknownUsageType (value : String) (known : List String)
  | unknownSortKey (value : String) (known : List String)
  | negativeLimit
  | negativeOffset
  /-- A class listing with a negative limit or offset. -/
  | negativePaging
  /-- A class detail with a negative value for the named option. -/
  | negativeOption (option : String)
  | unknownOption (option : String)
  | unknownVisibility (value : String) (known : List String)
  | classRequired
  | directoryMissing (path : String)
  /-- A class listing of a directory that declares no class. -/
  | nothingListed
  /-- A class listing whose filters or page leave nothing. -/
  | nothingMatches
  | classMissing (name : String)
  /-- A file that declares no class, in a directory that declares none either. -/
  | nothingInFile (value : String)
  /-- A file that declares no class, in a directory that declares some. -/
  | classNotInFile (value : String)
  | fileUnreadable (path : String) (fault : ReadFault)
  | allUnreadable (count : Nat) (path : String)
  /-- Source text with a run of surrogates, which no encoding has a form for. -/
  | notEncodable (position : Nat) (surrogates : List Nat)
deriving DecidableEq, Repr

namespace Failure

/-- The wording for surrogates in source text. -/
def surrogateMessage (position : Nat) (surrogates : List Nat) : String :=
  let place :=
    match surrogates with
    | [code] =>
      "character '\\u" ++ String.ofList (Text.hex 4 code) ++ "' in position " ++ Text.decimal position
    | _ =>
      "characters in position " ++ Text.decimal position ++ "-" ++
        Text.decimal (position + surrogates.length - 1)
  "Source cannot be encoded as UTF-8: 'utf-8' codec can't encode " ++ place ++
    ": surrogates not allowed"

/-- The wording of a failure. -/
def message : Failure → String
  | .targetRequired => "Target class is required"
  | .unknownUsageType value known =>
    "Unknown usage type '" ++ value ++ "'. Valid types: " ++ Text.join ", " known
  | .unknownSortKey value known =>
    "Invalid sort_by '" ++ value ++ "'. Use one of: " ++ Text.join ", " known
  | .negativeLimit => "limit must be zero (unlimited) or positive"
  | .negativeOffset => "offset must not be negative"
  | .negativePaging => "limit and offset must not be negative"
  | .negativeOption option => option ++ " must not be negative"
  | .unknownOption option =>
    "Invalid option: DetailOptions.__init__() got an unexpected keyword argument '" ++ option ++ "'"
  | .unknownVisibility value known =>
    "Invalid visibility '" ++ value ++ "'. Use a comma list of: " ++ Text.join ", " known
  | .classRequired => "Class is required"
  | .directoryMissing path => "Directory not found: " ++ path
  | .nothingListed => "No classes found in the specified path."
  | .nothingMatches => "No classes match the given filters."
  | .classMissing name => "Class not found: " ++ name
  | .nothingInFile value => "No classes found in file: " ++ value
  | .classNotInFile value => "Class not found in file: " ++ value
  | .fileUnreadable path fault => "Cannot read " ++ path ++ ": " ++ fault.message path
  | .allUnreadable count path =>
    "None of the " ++ Text.decimal count ++ " PHP files under '" ++ path ++ "' could be read"
  | .notEncodable position surrogates => surrogateMessage position surrogates

/-- The class of a failure. -/
def kind : Failure → FailureKind
  | .targetRequired | .unknownUsageType .. | .unknownSortKey .. | .negativeLimit | .negativeOffset
  | .negativePaging | .negativeOption _ | .unknownOption _ | .unknownVisibility ..
  | .classRequired => .invalidParameter
  | .directoryMissing _ | .nothingListed | .nothingMatches | .classMissing _ | .nothingInFile _
  | .classNotInFile _ => .notFound
  | .fileUnreadable .. | .allUnreadable .. | .notEncodable .. => .malformedInput

end Failure

/-- Any way in which a computation stops without its result. -/
inductive Fault where
  /-- A failure to be answered to the caller. -/
  | failure (failure : Failure)
  /-- A value outside its range, with the wording of the complaint. -/
  | badValue (message : String)
  /-- Bytes that are not UTF-8, with the first broken piece. -/
  | brokenText (place : Utf8.Break)
  /-- A record without a field it must have. -/
  | missingField
  /-- A value of another type than the one required. -/
  | wrongShape
  /-- A value that is not text where text is worked on. -/
  | notText
  /-- A number beyond what the clock can count. -/
  | numberTooLarge
  /-- A value nested too deeply to be read. -/
  | tooNested
  /-- A path that the file system refuses to follow: it or one of its components is too long, or a
  directory on it may not be searched. -/
  | refused
  /-- A file where a directory is needed. -/
  | notDirectory
  /-- A file that should be created and exists. -/
  | alreadyExists
  /-- A file that should be read and does not exist. -/
  | fileMissing
  /-- A directory that should be read as a file. -/
  | fileIsDirectory
  /-- A store that cannot be opened. -/
  | storeUnavailable
  /-- A store file with foreign content. -/
  | storeCorrupt
  /-- A name for which no class is known. -/
  | unknownName
  /-- A position outside a list. -/
  | outOfRange
  /-- Markup that closes a tag which is not open. -/
  | badMarkup
deriving DecidableEq, Repr

namespace Fault

/-- The wording for bytes that are not UTF-8. -/
def brokenTextMessage (place : Utf8.Break) : String :=
  let bytes :=
    match place.piece with
    | [byte] => "byte 0x" ++ String.ofList (Text.hex 2 byte.toNat) ++ " in position " ++
        Text.decimal place.offset
    | piece => "bytes in position " ++ Text.decimal place.offset ++ "-" ++
        Text.decimal (place.offset + piece.length - 1)
  let cause :=
    match place.cause with
    | .invalidStart => "invalid start byte"
    | .invalidContinuation => "invalid continuation byte"
    | .unexpectedEnd => "unexpected end of data"
  "'utf-8' codec can't decode " ++ bytes ++ ": " ++ cause

/-- The fault for a path that is too long. -/
@[match_pattern] abbrev nameTooLong : Fault := .refused

/-- A null character where none can stand, such as in a path. -/
def nullCharacter : Fault := .badValue "embedded null byte"

/-- Whether a fault is a value that cannot be used. -/
def isBadValue : Fault → Bool
  | .badValue _ | .brokenText _ => true
  | _ => false

end Fault

/-- A computation with a result had one for its first part. -/
theorem exists_of_bind_eq_ok {α β : Type} {first : Except Fault α} {next : α → Except Fault β}
    {result : β} (made : first >>= next = .ok result) :
    ∃ value, first = .ok value ∧ next value = .ok result := by
  cases first with
  | error fault => cases made
  | ok value => exact ⟨value, rfl, made⟩

theorem eq_ok_of_toOption {α : Type} {outcome : Except Fault α} {value : α}
    (found : outcome.toOption = some value) : outcome = .ok value := by
  cases outcome with
  | error fault => cases found
  | ok other => rw [Option.some.inj found]

/-- The text of bytes that have to be UTF-8. -/
def Utf8.read (bytes : Bytes) : Except Fault String :=
  match Utf8.firstBreak? bytes with
  | some place => .error (.brokenText place)
  | none => .ok (Utf8.decode bytes)

end ClassAtlas
