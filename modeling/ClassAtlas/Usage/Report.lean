import ClassAtlas.Json.Order
import ClassAtlas.Json.Printer
import ClassAtlas.Name.Basic
import ClassAtlas.Page
import ClassAtlas.Usage.Record

/-!
Usage reports: the order of the records, how many there are of each type and in each file, the page
asked for, and the page grouped by type.
-/

namespace ClassAtlas

/-- What records are ordered by. -/
inductive SortKey where
  | line
  | file
  | usageType
deriving DecidableEq, Repr

namespace SortKey

/-- All sort keys. -/
def all : List SortKey := [.line, .file, .usageType]

/-- The word for a sort key in requests. -/
def label : SortKey → String
  | .line => "line"
  | .file => "file"
  | .usageType => "type"

/-- What a record is ordered by. -/
def valueOf (key : SortKey) (record : UsageRecord) : Json :=
  match key with
  | .line => record.line
  | .file => record.file
  | .usageType => .str record.usageType.label

/-- Whether the first record may stand before the second. -/
def ordered (key : SortKey) (first second : UsageRecord) : Bool :=
  (key.valueOf second).before? (key.valueOf first) != some true

/-- The sort key that a request names. -/
def ofJson (value : Json) : Except Fault SortKey :=
  if !value.isKey then .error .wrongShape
  else match all.find? fun key => value.text? == some key.label with
    | some key => .ok key
    | none => .error (.failure (.unknownSortKey value.worded (all.map label)))

end SortKey

/-- What a usage scan is asked for, as it was given. -/
structure ScanOptions where
  /-- Labels of the wanted usage types; none means all. -/
  usageTypes : Json := .list []
  excludeVendor : Bool := true
  /-- Whether stored results are dropped first. -/
  flushCache : Bool := false
  sortBy : Json := .str "line"
  groupByType : Bool := false
  /-- Most records to return; zero means all. -/
  limit : Json := .int 100
  offset : Json := .int 0

/-- A scan request whose parameters are valid. -/
structure ScanPlan where
  /-- The class looked for, without the blanks around its name. -/
  target : String
  usageTypes : List UsageType
  sortKey : SortKey
  limit : Int
  offset : Int

/-- Checks the parameters of a scan, in a fixed order. -/
def ScanOptions.validate (options : ScanOptions) (target : Json) : Except Fault ScanPlan := do
  let target ← target.words
  if (Name.normalized target).isEmpty then throw (.failure .targetRequired)
  let sortKey ← SortKey.ofJson options.sortBy
  let limit ← options.limit.number
  if limit < 0 then throw (.failure .negativeLimit)
  let offset ← options.offset.number
  if offset < 0 then throw (.failure .negativeOffset)
  let labels ← options.usageTypes.listed
  let usageTypes ← (UsageType.ofLabels labels).mapError .failure
  return ⟨Text.trim target, usageTypes, sortKey, limit, offset⟩

/-- Counts one more occurrence of a key, which keeps its place if it is known. -/
def countKey (counts : List (Json × Nat)) (key : Json) : List (Json × Nat) :=
  match counts with
  | [] => [(key, 1)]
  | (known, count) :: rest =>
    if known.same key then (known, count + 1) :: rest else (known, count) :: countKey rest key

/-- How often each key occurs, in the order of first occurrence. -/
def tally (keys : List Json) : List (Json × Nat) := keys.foldl countKey []

/-- The first key with the largest count. -/
def mostCounted? (counts : List (Json × Nat)) : Option Json :=
  (counts.foldl (fun best entry =>
    match best with
    | some (_, most) => if entry.2 > most then some entry else best
    | none => if entry.2 > 0 then some entry else none) none).map (·.1)

/-- Adds an item to the group of its key, which keeps its place if it is known. -/
def addToGroup {α : Type} (groups : List (String × List α)) (key : String) (item : α) :
    List (String × List α) :=
  match groups with
  | [] => [(key, [item])]
  | (known, items) :: rest =>
    if known == key then (known, items ++ [item]) :: rest
    else (known, items) :: addToGroup rest key item

/-- Records in groups by type, in the order of first occurrence. -/
def groupByType (records : List UsageRecord) : List (String × List UsageRecord) :=
  records.foldl (fun groups record => addToGroup groups record.usageType.label record) []

/-- Whether every two neighbours in a list have an order. -/
def comparable : List Json → Bool
  | first :: second :: rest => (second.before? first).isSome && comparable (second :: rest)
  | _ => true

/-- Records in the order of a sort key; records that compare equal keep their order. Records without an
order are a fault. -/
def sortUsages (records : List UsageRecord) (key : SortKey) : Except Fault (List UsageRecord) :=
  let sorted := records.mergeSort key.ordered
  if comparable (sorted.map key.valueOf) then .ok sorted else .error .wrongShape

/-- How records are distributed. -/
structure UsageStatistics where
  byType : List (Json × Nat)
  byFile : List (Json × Nat)
  mostUsedIn : Option Json

/-- The distribution of records. -/
def UsageStatistics.ofRecords (records : List UsageRecord) : Except Fault UsageStatistics :=
  let files := records.map (·.file)
  if files.all Json.isKey then
    let byFile := tally files
    .ok ⟨tally (records.map fun record => .str record.usageType.label), byFile, mostCounted? byFile⟩
  else .error .wrongShape

/-- The result of a usage scan. -/
structure UsageReport where
  target : String
  filesScanned : Nat
  filesMatched : Nat
  /-- All records in order. -/
  sorted : List UsageRecord
  statistics : UsageStatistics
  /-- The page asked for. -/
  usages : List UsageRecord
  /-- The page in groups, if asked for. -/
  groups : Option (List (String × List UsageRecord))

namespace UsageReport

/-- The report on all records found. -/
def ofRecords (plan : ScanPlan) (grouped : Bool) (filesScanned filesMatched : Nat)
    (records : List UsageRecord) : Except Fault UsageReport := do
  let sorted ← sortUsages records plan.sortKey
  let statistics ← UsageStatistics.ofRecords sorted
  let usages := page sorted plan.offset plan.limit
  return {
    target := plan.target
    filesScanned := filesScanned
    filesMatched := filesMatched
    sorted := sorted
    statistics := statistics
    usages := usages
    groups := if grouped then some (groupByType usages) else none }

/-- How many usages there are. -/
def totalUsages (report : UsageReport) : Nat := report.sorted.length

/-- Counts as an object. -/
def countsJson (counts : List (Json × Nat)) : Json :=
  .object (counts.map fun (key, count) => (key.text?.getD key.render, .nat count))

/-- A report as JSON. Time is not measured and reported as zero. -/
def toJson (report : UsageReport) : Json :=
  let statistics := Json.object [
    ("by_type", countsJson report.statistics.byType),
    ("by_file", countsJson report.statistics.byFile),
    ("most_used_in", report.statistics.mostUsedIn.getD .null)]
  let usages :=
    match report.groups with
    | some groups =>
      ("usages_by_type", Json.object (groups.map fun (usageType, records) =>
        (usageType, .list (records.map UsageRecord.toJson))))
    | none => ("usages", Json.list (report.usages.map UsageRecord.toJson))
  .object [
    ("target", .str report.target),
    ("type", .str "class"),
    ("total_usages", .nat report.totalUsages),
    ("scan_stats", .object [
      ("files_scanned", .nat report.filesScanned),
      ("files_matched", .nat report.filesMatched),
      ("scan_time_ms", .int 0)]),
    ("statistics", statistics),
    usages]

end UsageReport

end ClassAtlas
