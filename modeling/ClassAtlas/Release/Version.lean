import ClassAtlas.Failure
import ClassAtlas.Text.Blank
import ClassAtlas.Text.CharClass
import ClassAtlas.Text.Encoding
import ClassAtlas.Text.Lines

/-!
Version numbers: three groups of digits with dots in between, read from a file in any of several
encodings.
-/

namespace ClassAtlas

/-- Whether a text is a version number. -/
def isVersionText (text : String) : Bool :=
  let parts := Text.pieces (· == '.') text.toList
  parts.length == 3 && parts.all fun part => !part.isEmpty && part.all Text.isDecimalDigit

/-- A version number. -/
structure Version where
  text : String
  valid : isVersionText text = true

namespace Version

/-- The text of a file that holds a version: UTF-8 with or without a byte order mark, or else UTF-16,
or else one byte for each character. All line ends but those of UTF-16 count alike. -/
def fileText (bytes : Bytes) : String :=
  match Utf8.decode? bytes with
  | some text =>
    let chars := text.toList
    Text.withLineFeeds (String.ofList ((Text.afterStart? [Char.ofNat 0xfeff] chars).getD chars))
  | none =>
    match Utf16.decode? bytes with
    | some text => text
    | none => Text.withLineFeeds (Latin1.decode bytes)

/-- A text without the blanks around it, then without the null characters around it, then without the
blanks around it. -/
def cleaned (text : String) : String :=
  Text.trim (Text.dropAround (Text.trim text) fun char => char.toNat == 0)

/-- The complaint about a text that is no version number. -/
def complaint (raw : String) : String :=
  "Invalid version format detected: '" ++ cleaned raw ++ "' (raw: " ++ Text.quoted raw ++ ")\n" ++
    "Expected semantic version format: X.Y.Z (e.g., 1.2.0)"

/-- Reads the version in a file. -/
def read (bytes : Bytes) : Except Fault Version :=
  let raw := fileText bytes
  if valid : isVersionText (cleaned raw) = true then .ok ⟨cleaned raw, valid⟩
  else .error (.badValue (complaint raw))

end Version

end ClassAtlas
