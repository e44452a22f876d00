import ClassAtlas.Cache.Key
import ClassAtlas.Cache.Store
import ClassAtlas.Files.Project
import ClassAtlas.Usage.Detector
import ClassAtlas.Usage.Report

/-!
Scanning a directory for the usages of a class.

Only files whose text holds the short name of the target are read closely. Results for dependency
files come from a store and go into it; results for files of the project are always computed. Both are
shortcuts, which a scan can also do without.
-/

namespace ClassAtlas

namespace Scan

/-- A scan in progress. -/
structure Progress where
  store : Store
  /-- Files that could not be read or analysed. -/
  unreadable : Nat
  /-- Files with at least one usage. -/
  matched : Nat
  /-- Files turned into tokens. -/
  tokenized : Nat
  /-- Records found, in file order. -/
  records : List UsageRecord

/-- The shortcuts that a scan takes. -/
structure Shortcuts where
  /-- Whether a file that does not mention the target is passed over. -/
  prefilter : Bool := true
  /-- Whether results that are stored are used. -/
  reuse : Bool := true
deriving DecidableEq, Repr

/-- The question a scan puts to each file. -/
structure Question where
  shortcuts : Shortcuts
  project : Project
  now : Int
  /-- The target without the blanks around it. -/
  target : String
  usageTypes : List UsageType

/-- A scan that starts from a store. -/
def Progress.start (store : Store) : Progress := ⟨store, 0, 0, 0, []⟩

/-- Whether the text of a source holds the short name of a target. -/
def mentions (source : Source) (target : String) : Bool :=
  Text.contains (Utf8.decode source.bytes) (Name.short target)

/-- Records as they are stored. -/
def storedValue (records : List UsageRecord) : Json := .list (records.map UsageRecord.toJson)

/-- The records that a stored value lists. -/
def storedRecords (value : Json) : Except Fault (List UsageRecord) := do
  (← value.listed).mapM UsageRecord.ofJson

/-- The value that is stored under a key, if stored results are used. -/
def stored (question : Question) (store : Store) (key : String) :
    Except Fault (Option Json) × Store :=
  if question.shortcuts.reuse then store.get question.now key else (.ok none, store)

/-- The usages in a dependency file: those stored, or else those found, which are then stored. The
flag says whether the file was turned into tokens. -/
def vendorUsages (question : Question) (store : Store) (source : Source) :
    Except Fault (List UsageRecord) × Store × Bool :=
  let key := CacheKey.make source.bytes question.target (question.usageTypes.map UsageType.label)
  match stored question store key with
  | (.error fault, store) => (.error fault, store, false)
  | (.ok (some value), store) => (storedRecords value, store, false)
  | (.ok none, store) =>
    let records := source.usages question.target question.usageTypes
    match store.put question.now key (storedValue records) none with
    | .ok store => (.ok records, store, true)
    | .error fault => (.error fault, store, true)

/-- Adds the records of one file. -/
def Progress.add (progress : Progress) (question : Question) (path : List String)
    (records : List UsageRecord) : Progress :=
  if records.isEmpty then progress
  else
    let file := question.project.relative path
    { progress with
      matched := progress.matched + 1
      records := progress.records ++ records.map fun record => { record with file := .str file } }

/-- Scans one file. A file that cannot be read, or whose result holds a bad value that cannot be stored
or read back, is counted as unreadable. -/
def Progress.file (question : Question) (tree : FileTree) (progress : Progress)
    (path : List String) : Except Fault Progress × Store :=
  match tree.readSource (.absolute path) with
  | .error _ => (.ok { progress with unreadable := progress.unreadable + 1 }, progress.store)
  | .ok source =>
    if question.shortcuts.prefilter && !mentions source question.target then (.ok progress, progress.store)
    else if question.project.isVendor (.absolute path) path then
      let (outcome, store, tokenized) := vendorUsages question progress.store source
      let progress :=
        { progress with store := store, tokenized := progress.tokenized + tokenized.toNat }
      match outcome with
      | .ok records => (.ok (progress.add question path records), store)
      | .error fault =>
        if fault.isBadValue then
          (.ok { progress with unreadable := progress.unreadable + 1 }, store)
        else (.error fault, store)
    else
      let records := source.usages question.target question.usageTypes
      let progress := { progress with tokenized := progress.tokenized + 1 }
      (.ok (progress.add question path records), progress.store)

/-- Scans files one after the other, up to the first fault. -/
def Progress.files (question : Question) (tree : FileTree) (progress : Progress) :
    List (List String) → Except Fault Progress × Progress
  | [] => (.ok progress, progress)
  | path :: rest =>
    match progress.file question tree path with
    | (.ok next, _) => next.files question tree rest
    | (.error fault, store) => (.error fault, { progress with store := store })

/-- What a scan leaves behind: its report or fault, the store, and how many files were turned into
tokens. -/
structure Outcome where
  report : Except Fault UsageReport
  store : Store
  tokenized : Nat

/-- The source files under a path as it is given. -/
def filesUnder (project : Project) (tree : FileTree) (path : Json) (excludeVendor : Bool) :
    Except Fault (List (List String)) := do
  project.sourceFiles tree (← path.pathText) true excludeVendor

/-- The report on a scan of as many files as given that has come to its end. -/
def Progress.report (progress : Progress) (plan : ScanPlan) (path : Json) (options : ScanOptions)
    (files : Nat) : Except Fault UsageReport :=
  if files != 0 && progress.unreadable == files then
    .error (.failure (.allUnreadable files path.worded))
  else UsageReport.ofRecords plan options.groupByType files progress.matched progress.records

/-- The question that a plan puts to each file. -/
def question (shortcuts : Shortcuts) (project : Project) (now : Int) (plan : ScanPlan) : Question :=
  ⟨shortcuts, project, now, plan.target, plan.usageTypes⟩

/-- The store that a scan starts from. -/
def startStore (options : ScanOptions) (store : Store) : Store :=
  if options.flushCache then store.invalidateAll.2 else store

/-- Scans a directory for the usages of a class, with the given shortcuts. Parameters are checked
before anything is read. -/
def runWith (shortcuts : Shortcuts) (project : Project) (tree : FileTree) (store : Store) (now : Int)
    (target path : Json) (options : ScanOptions) : Outcome :=
  match options.validate target with
  | .error fault => ⟨.error fault, store, 0⟩
  | .ok plan =>
    let start := startStore options store
    match filesUnder project tree path options.excludeVendor with
    | .error fault => ⟨.error fault, start, 0⟩
    | .ok files =>
      match (Progress.start start).files (question shortcuts project now plan) tree files with
      | (.error fault, last) => ⟨.error fault, last.store, last.tokenized⟩
      | (.ok progress, _) =>
        ⟨progress.report plan path options files.length, progress.store, progress.tokenized⟩

/-- Scans a directory for the usages of a class. -/
def run (project : Project) (tree : FileTree) (store : Store) (now : Int) (target path : Json)
    (options : ScanOptions) : Outcome :=
  runWith {} project tree store now target path options

end Scan

end ClassAtlas
