import ClassAtlas.Json.Given
import ClassAtlas.Json.Shown

/-!
Usage records: where and how a class is used.

Records are stored and exchanged as JSON. What comes back need not be what was found: apart from the
usage type, a field may hold any value, and it is kept as it is.
-/

namespace ClassAtlas

/-- The ways in which a class is used. -/
inductive UsageType where
  | fileImport
  | new
  | staticCall
  | extension
  | implementation
  | mixin
  | typeHint
deriving DecidableEq, Repr

namespace UsageType

/-- All usage types. -/
def all : List UsageType :=
  [.fileImport, .new, .staticCall, .extension, .implementation, .mixin, .typeHint]

/-- The word for a usage type in requests and reports. -/
def label : UsageType → String
  | .fileImport => "import"
  | .new => "new"
  | .staticCall => "static_call"
  | .extension => "extends"
  | .implementation => "implements"
  | .mixin => "trait"
  | .typeHint => "type_hint"

/-- The usage type with a label. -/
def ofLabel? (label : String) : Option UsageType := all.find? (·.label == label)

/-- The usage types with the given labels, without repetitions. -/
def ofLabels : List Json → Except Failure (List UsageType)
  | [] => .ok []
  | label :: rest =>
    match label.text?.bind ofLabel? with
    | none => .error (.unknownUsageType label.worded (all.map UsageType.label))
    | some usageType => do
      let others ← ofLabels rest
      .ok (if others.contains usageType then others else usageType :: others)

end UsageType

/-- One usage of a class. -/
structure UsageRecord where
  /-- The line, a number in every record that was found. -/
  line : Json
  usageType : UsageType
  /-- The source text of the usage. -/
  code : Json
  /-- The member named after a double colon, null for none. -/
  method : Json
  /-- The file, the empty text while it is not known. -/
  file : Json

namespace UsageRecord

/-- A record that was found, with the file not known yet. -/
def found (line : Int) (usageType : UsageType) (code : String) (method : Option String) :
    UsageRecord :=
  ⟨.int line, usageType, .str code, .ofText? method, .str ""⟩

/-- A record as JSON; a method that is not known is left out. -/
def toJson (record : UsageRecord) : Json :=
  let members := [
    ("file", record.file),
    ("line", record.line),
    ("usage_type", .str record.usageType.label),
    ("code", record.code)]
  .object (match record.method with
    | .null => members
    | method => members ++ [("method", method)])

/-- Reads the usage type of a record. -/
def usageTypeOf (value : Json) : Except Fault UsageType :=
  match value.text?.bind UsageType.ofLabel? with
  | some usageType => .ok usageType
  | none => .error (.badValue (value.shown ++ " is not a valid UsageType"))

/-- Reads a record. Line, usage type and code have to be there. -/
def ofJson (value : Json) : Except Fault UsageRecord := do
  let .object members := value | throw .wrongShape
  let some line := members.lookup "line" | throw .missingField
  let some usageType := members.lookup "usage_type" | throw .missingField
  let usageType ← usageTypeOf usageType
  let some code := members.lookup "code" | throw .missingField
  let method := (members.lookup "method").getD .null
  let file := (members.lookup "file").getD (.str "")
  return ⟨line, usageType, code, method, file⟩

end UsageRecord

end ClassAtlas
