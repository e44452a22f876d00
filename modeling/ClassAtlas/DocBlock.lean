import ClassAtlas.Json.Basic
import ClassAtlas.Text.Blank
import ClassAtlas.Text.Lines
import ClassAtlas.Text.Search

/-!
Documentation comments: a summary, a description and tags.

The summary is the first paragraph. It ends at an empty line, at a line that ends in a period, or at
the first tag. The description runs to the first tag, and a line after a tag continues that tag.
-/

namespace ClassAtlas

/-- A tag of a documentation comment. -/
structure DocTag where
  name : String
  body : String
deriving DecidableEq, Repr

/-- The written form of a tag. -/
def DocTag.render (tag : DocTag) : String := Text.trimEnd ("@" ++ tag.name ++ " " ++ tag.body)

/-- Whether a tag tells where code comes from and not what it does. -/
def DocTag.isProvenance (tag : DocTag) : Bool :=
  ["author", "package", "subpackage", "license"].contains tag.name

/-- A documentation comment. -/
structure DocBlock where
  summary : String
  description : String
  tags : List DocTag
  /-- The comment as written, without the blanks around it. -/
  raw : String
deriving DecidableEq, Repr

namespace DocBlock

/-- The comment without its opening and closing marks. -/
def body (raw : String) : String :=
  let text := (Text.trim raw).toList
  let text := (Text.afterStart? ['/', '*', '*'] text).getD text
  let text :=
    match Text.afterStart? ['/', '*'] text.reverse with
    | some rest => rest.reverse
    | none => text
  String.ofList text

/-- A line without its margin: leading blanks, one star and one space, and without trailing blanks. -/
def withoutMargin (line : String) : String :=
  let text := line.toList.dropWhile Text.isBlank
  let text := (Text.afterStart? ['*'] text).getD text
  let text := (Text.afterStart? [' '] text).getD text
  Text.trimEnd (String.ofList text)

/-- The lines of a comment, from the first one that is not empty on. -/
def contentLines (raw : String) : List String :=
  ((Text.lines (body raw)).map withoutMargin).dropWhile fun line => (Text.trim line).isEmpty

/-- The part of a comment being read. -/
inductive Part where
  | summary
  | description
  | tags
deriving DecidableEq, Repr

/-- A comment while it is read; all lists have the latest entry first. -/
structure Reading where
  part : Part
  summary : List String
  description : List String
  tags : List DocTag

/-- The state before the first line. -/
def Reading.start : Reading := ⟨.summary, [], [], []⟩

/-- The tag that a line without surrounding blanks begins, given the characters after its at sign. -/
def tagOf (chars : List Char) : DocTag :=
  let text := String.ofList chars
  match Text.cutFirst? text ' ' with
  | some (name, rest) => ⟨name, Text.trim rest⟩
  | none => ⟨text, ""⟩

/-- Continues the latest tag. -/
def continueTag (tags : List DocTag) (text : String) : List DocTag :=
  match tags with
  | [] => []
  | tag :: rest => { tag with body := Text.trim (tag.body ++ " " ++ text) } :: rest

/-- Reads one line. -/
def Reading.advance (reading : Reading) (line : String) : Reading :=
  let stripped := Text.trim line
  match stripped.toList with
  | '@' :: rest => { reading with part := .tags, tags := tagOf rest :: reading.tags }
  | _ =>
    match reading.part with
    | .tags =>
      if stripped.isEmpty then reading
      else { reading with tags := continueTag reading.tags stripped }
    | .summary =>
      if stripped.isEmpty then
        if reading.summary.isEmpty then reading else { reading with part := .description }
      else
        { reading with
          summary := stripped :: reading.summary
          part := if Text.endsWith stripped "." then .description else .summary }
    | .description => { reading with description := line :: reading.description }

/-- Reads a documentation comment. -/
def parse (raw : String) : DocBlock :=
  let reading := (contentLines raw).foldl Reading.advance .start
  { summary := Text.join " " reading.summary.reverse
    description := Text.trim (Text.join "\n" reading.description.reverse)
    tags := reading.tags.reverse
    raw := Text.trim raw }

/-- The comment as an object, limited to the parts asked for; absent when nothing is left. -/
def toJson? (block : DocBlock) (summaryOnly includeTags includeRaw : Bool) : Option Json :=
  let summary := if block.summary.isEmpty then [] else [("summary", Json.str block.summary)]
  let description :=
    if summaryOnly || block.description.isEmpty then []
    else [("description", Json.str block.description)]
  let shown := block.tags.filter (!·.isProvenance)
  let tags :=
    if summaryOnly || !includeTags || shown.isEmpty then []
    else [("tags", Json.list (shown.map fun tag => .str tag.render))]
  let raw := if includeRaw && !block.raw.isEmpty then [("raw", Json.str block.raw)] else []
  let members := summary ++ description ++ tags ++ raw
  if members.isEmpty then none else some (.object members)

end DocBlock

end ClassAtlas
