import ClassAtlas.Cache.Store
import ClassAtlas.Request.Basic
import ClassAtlas.Terminal.Table

/-!
How answers are shown on a terminal. All results are lists of lines.
-/

namespace ClassAtlas.Display

/-- The text of a member of an object, empty if there is none. -/
def textOf (value : Json) (key : String) : String := ((value.field? key).bind Json.text?).getD ""

/-- The number of a member of an object, as text. -/
def numberOf (value : Json) (key : String) : String :=
  match (value.field? key).bind Json.int? with
  | some number => Text.decimalInt number
  | none => ""

/-- The items of a member of an object, none if there is no such list. -/
def itemsOf (value : Json) (key : String) : List Json :=
  ((value.field? key).bind Json.items?).getD []

/-- The summary in the documentation of a class. -/
def summaryOf (value : Json) : String :=
  match value.field? "docblock" with
  | some block => textOf block "summary"
  | none => ""

/-- The complaint about a failure. -/
def failure (width : Nat) (message : String) : Except Fault (List String) :=
  Markup.shownLines width ("[bold red]Error:[/bold red] " ++ Markup.escape message)

/-- Text in a cell; a value that is not text has no place in one. -/
def cellText : Json → Except Fault String
  | .str text => .ok (Markup.escape text)
  | _ => .error .wrongShape

/-- The row of a usage. A member that is named with the usage follows its code. -/
def usageRow (record : UsageRecord) : Except Fault (List String) := do
  let code ← cellText record.code
  let code ←
    if record.method.isGiven then do
      pure (code ++ "  [dim](" ++ (← cellText record.method) ++ ")[/dim]")
    else pure code
  return [← cellText record.file, record.line.worded, record.usageType.label, code]

/-- A table of usages. -/
def usageTable (width : Nat) (title : String) (records : List UsageRecord) : Except Fault (List String) := do
  let columns := [⟨"File", false⟩, ⟨"Line", true⟩, ⟨"Type", false⟩, ⟨"Code", false⟩]
  Table.lines width ⟨title, columns, ← records.mapM usageRow⟩

/-- The usages of a report: a table for each group, one table, or a note that there are none. -/
def usageLines (width : Nat) (report : UsageReport) : Except Fault (List String) :=
  match report.groups with
  | some groups => do
    let tables ← groups.mapM fun (label, records) =>
      usageTable width (label ++ " (" ++ Text.decimal records.length ++ ")") records
    return tables.flatten
  | none =>
    if report.usages.isEmpty then
      Markup.shownLines width ("[yellow]No usages of " ++ Markup.escape report.target ++ " found.[/yellow]")
    else usageTable width ("Usages of " ++ report.target) report.usages

/-- The figures of a report. -/
def figureLines (width : Nat) (report : UsageReport) : Except Fault (List String) := do
  let byType := report.statistics.byType.map fun (label, count) =>
    label.worded ++ ": " ++ Text.decimal count
  let types ←
    if byType.isEmpty then pure [] else Markup.shownLines width ("  By type: " ++ Text.join ", " byType)
  let file := report.statistics.mostUsedIn.getD .null
  let mostUsed ←
    if file.isGiven then do Markup.shownLines width ("  Most used in: " ++ (← cellText file)) else pure []
  return ["", "Summary:", "  Total usages: " ++ Text.decimal report.totalUsages,
    "  Files scanned: " ++ Text.decimal report.filesScanned ++ " (matched: " ++
      Text.decimal report.filesMatched ++ ") in 0ms"] ++ types ++ mostUsed

/-- The row of a class in a listing. -/
def classRow (description : Json) : List String :=
  let parent :=
    match description.field? "parent" with
    | some parent => textOf parent "name"
    | none => ""
  [textOf description "name", textOf description "file", parent, summaryOf description].map
    Markup.escape

/-- A listing of classes. -/
def classLines (width : Nat) (path : String) (descriptions : List Json) : Except Fault (List String) :=
  Table.lines width ⟨"Classes in " ++ Markup.escape path,
    [⟨"Class", false⟩, ⟨"File", false⟩, ⟨"Parent", false⟩, ⟨"Summary", false⟩],
    descriptions.map classRow⟩

/-- A table of members, left out when there are none. -/
def memberTable (width : Nat) (title : String) (columns : List Column) (members : List Json)
    (row : Json → List String) : Except Fault (List String) :=
  if members.isEmpty then .ok [] else Table.lines width ⟨title, columns, members.map row⟩

/-- The row of a constant. One without a value has the word for nothing in its place. -/
def constantRow (constant : Json) : List String :=
  let value := ((constant.field? "value").bind Json.text?).getD "None"
  [Markup.escape (textOf constant "constantName"), Markup.escape value]

/-- The row of a property. -/
def propertyRow (property : Json) : List String := [
  "$" ++ Markup.escape (textOf property "propertyName"),
  Markup.escape (textOf property "type"),
  Markup.escape (textOf property "defaultValue")]

/-- The row of a method. -/
def methodRow (method : Json) : List String :=
  let name := textOf method "methodName"
  let name := if ((method.field? "isStatic").getD .null).isGiven then "static " ++ name else name
  let parameters := (itemsOf method "parameters").map fun parameter => "$" ++ parameter.text?.getD ""
  [Markup.escape name, Markup.escape (Text.join ", " parameters),
    Markup.escape (textOf method "returnType"),
    numberOf method "startLine" ++ "-" ++ numberOf method "endLine"]

/-- The panel at the top of a class detail. -/
def headLines (width : Nat) (description : Json) : Except Fault (List String) :=
  let place := Markup.escape (textOf description "file") ++ ":" ++
    numberOf description "startLine" ++ "-" ++ numberOf description "endLine"
  let summary := summaryOf description
  let content := "[bold]" ++ Markup.escape (textOf description "name") ++ "[/bold]\n[dim]" ++ place ++
    "[/dim]" ++ (if summary.isEmpty then "" else "\n" ++ Markup.escape summary)
  Panel.lines width "Class" content

/-- What a class builds on, one line for each. -/
def relationLines (width : Nat) (description : Json) : Except Fault (List String) := do
  let named (word : String) (value : Json) : Except Fault (List String) :=
    Markup.shownLines width ("  " ++ word ++ " " ++ Markup.escape (textOf value "name"))
  let parents ← (description.field? "parent").toList.mapM (named "extends")
  let interfaces ← (itemsOf description "interfaces").mapM (named "implements")
  let traits ← (itemsOf description "traits").mapM (named "uses")
  return (parents ++ interfaces ++ traits).flatten

/-- A class detail. -/
def detailLines (width : Nat) (description : Json) : Except Fault (List String) := do
  let head ← headLines width description
  let relations ← relationLines width description
  let constants ← memberTable width "Constants" [⟨"Name", false⟩, ⟨"Value", false⟩]
    (itemsOf description "constants") constantRow
  let properties ← memberTable width "Properties" [⟨"Name", false⟩, ⟨"Type", false⟩, ⟨"Default", false⟩]
    (itemsOf description "properties") propertyRow
  let methods ← memberTable width "Methods"
    [⟨"Name", false⟩, ⟨"Parameters", false⟩, ⟨"Returns", false⟩, ⟨"Lines", true⟩]
    (itemsOf description "methods") methodRow
  return head ++ relations ++ constants ++ properties ++ methods

/-- Counts of stored results. -/
def countLines (width : Nat) (counts : Store.Counts) : Except Fault (List String) :=
  Table.lines width ⟨"Cache Statistics", [⟨"Metric", false⟩, ⟨"Count", true⟩], [
    ["Total Entries", Text.decimal counts.total],
    ["Live Entries", Text.decimal counts.live],
    ["Expired Entries", Text.decimal counts.expired],
    ["Tracked Keys", Text.decimal counts.tracked]]⟩

/-- The answer to a request. -/
def answerLines (width : Nat) (request : Request) (answer : Answer) : Except Fault (List String) :=
  match answer, request with
  | .usages report, _ => do return (← usageLines width report) ++ (← figureLines width report)
  | .classes descriptions, .classes path .. => classLines width path.worded descriptions
  | .classes descriptions, _ => classLines width "" descriptions
  | .detail description, _ => detailLines width description

end ClassAtlas.Display
