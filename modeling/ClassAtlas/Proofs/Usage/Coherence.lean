import ClassAtlas.Proofs.Usage.Grouping
import ClassAtlas.Proofs.Usage.Subdirectory

/-!
Coherence of the reports on usages.

All parts of a report are read off one list, the records in their stable order. The counts are the sizes
of its groups, the page is a stretch of it, and the groups shown are those of the page. A scan counts a
file when it adds records of it, so the files counted are the files of the records.
-/

namespace ClassAtlas

/-- The path in the file of a located record. -/
def UsageRecord.fileText (record : UsageRecord) : String := record.file.text?.getD ""

theorem UsageRecord.IsLocated.file_eq {record : UsageRecord} (located : record.IsLocated) :
    record.file = .str record.fileText := by
  obtain ⟨text, isText⟩ := located.file
  rw [fileText, isText]
  rfl

/-- The plan with another page. -/
def ScanPlan.onPage (plan : ScanPlan) (offset limit : Int) : ScanPlan :=
  { plan with offset := offset, limit := limit }

namespace UsageReport

/-- How often each text occurs, in the order in which they are met. -/
def occurrences (texts : List String) : List (Json × Nat) :=
  texts.eraseDups.map fun text => (.str text, texts.count text)

/-- What is known of a report on records by a plan. -/
structure IsCoherent (plan : ScanPlan) (grouped : Bool) (records : List UsageRecord)
    (report : UsageReport) : Prop where
  sorted : ∀ other, StablyOrders plan.sortKey.precedes records other ↔ other = report.sorted
  total : report.totalUsages = records.length
  byType : report.statistics.byType = occurrences (report.sorted.map (·.usageType.label))
  byFile : report.statistics.byFile = occurrences (report.sorted.map UsageRecord.fileText)
  sumByType : (report.statistics.byType.map Prod.snd).sum = report.totalUsages
  sumByFile : (report.statistics.byFile.map Prod.snd).sum = report.totalUsages
  mostUsedIn : ∃ most, FirstLargest report.statistics.byFile most ∧
    report.statistics.mostUsedIn = most.map Prod.fst
  usages : report.usages =
    if plan.limit = 0 then report.sorted.drop plan.offset.toNat
    else (report.sorted.drop plan.offset.toNat).take plan.limit.toNat
  groups : report.groups =
    if grouped then
      some ((report.usages.map (·.usageType.label)).eraseDups.map fun label =>
        (label, report.usages.filter (·.usageType.label == label)))
    else none
  regroups : ∀ groups, report.groups = some groups → (groups.flatMap Prod.snd).Perm report.usages

section Made

variable {plan : ScanPlan} {grouped : Bool} {scanned matched : Nat} {records : List UsageRecord}
  {report : UsageReport}

theorem sizes_groupsBy {α : Type} (label : α → String) (items : List α) :
    sizes (groupsBy label items) = occurrences (items.map label) := by
  rw [groupsBy_eq, sizes, occurrences, List.map_map]
  refine List.map_congr_left fun key _ => ?_
  rw [Function.comp_apply, List.count, List.countP_map, List.countP_eq_length_filter]
  rfl

/-- A report that is made holds the sorted records, and all else is made of these. -/
theorem of_ofRecords (made : ofRecords plan grouped scanned matched records = .ok report) :
    report.sorted = records.mergeSort plan.sortKey.ordered ∧
      UsageStatistics.ofRecords report.sorted = .ok report.statistics ∧
      report.usages = page report.sorted plan.offset plan.limit ∧
      report.groups = (if grouped then some (groupByType report.usages) else none) ∧
      report.filesScanned = scanned ∧ report.filesMatched = matched := by
  rw [ofRecords] at made
  cases sorts : sortUsages records plan.sortKey with
  | error fault =>
    rw [sorts] at made
    cases made
  | ok sorted =>
    cases counts : UsageStatistics.ofRecords sorted with
    | error fault =>
      simp only [sorts, bind, Except.bind, counts] at made
      cases made
    | ok statistics =>
      simp only [sorts, bind, Except.bind, counts] at made
      cases made
      rw [sortUsages] at sorts
      split at sorts
      · cases sorts
        exact ⟨rfl, counts, rfl, rfl, rfl, rfl⟩
      · cases sorts

theorem exists_ofRecords (plan : ScanPlan) (grouped : Bool) (scanned matched : Nat)
    (located : ∀ record ∈ records, record.IsLocated) :
    ∃ report, ofRecords plan grouped scanned matched records = .ok report := by
  have sortedLocated : ∀ record ∈ records.mergeSort plan.sortKey.ordered, record.IsLocated :=
    fun record member => located record (List.mem_mergeSort.mp member)
  obtain ⟨statistics, counted, -⟩ := UsageStatistics.ofRecords_eq sortedLocated
  simp only [ofRecords, sortUsages_eq plan.sortKey located, bind, Except.bind, counted]
  exact ⟨_, rfl⟩

/-- The statistics count the types and the files of the sorted records. -/
theorem statistics_eq (made : ofRecords plan grouped scanned matched records = .ok report)
    (inFiles : ∀ record ∈ records, record.file = .str record.fileText) :
    report.statistics.byType = sizes (groupsBy (·.usageType.label) report.sorted) ∧
      report.statistics.byFile = sizes (groupsBy UsageRecord.fileText report.sorted) ∧
      report.statistics.mostUsedIn = mostCounted? report.statistics.byFile := by
  obtain ⟨sorted, counted, -⟩ := of_ofRecords made
  rw [UsageStatistics.ofRecords] at counted
  split at counted
  case isFalse => cases counted
  case isTrue =>
    have files :
        report.sorted.map (·.file) = report.sorted.map fun record => .str record.fileText := by
      refine List.map_congr_left fun record member => inFiles record ?_
      rw [sorted] at member
      exact List.mem_mergeSort.mp member
    rw [← Except.ok.inj counted]
    refine ⟨tally_eq_sizes _ _, ?_, rfl⟩
    dsimp only
    rw [files, tally_eq_sizes]

/-- A report on located records, by a plan whose page begins and ends at places that a list can have, is
coherent. -/
theorem isCoherent (located : ∀ record ∈ records, record.IsLocated) (fromStart : 0 ≤ plan.offset)
    (bounded : 0 ≤ plan.limit)
    (made : ofRecords plan grouped scanned matched records = .ok report) :
    report.IsCoherent plan grouped records := by
  obtain ⟨sorted, -, usages, groups, -⟩ := of_ofRecords made
  obtain ⟨byType, byFile, mostUsedIn⟩ :=
    statistics_eq made fun record member => (located record member).file_eq
  have isSorted : StablyOrders plan.sortKey.precedes records report.sorted := by
    rw [sorted, plan.sortKey.mergeSort_ordered located]
    exact mergeSort_stablyOrders plan.sortKey.precedes_trans plan.sortKey.precedes_total records
  refine {
    sorted := fun other => ⟨isSorted.unique plan.sortKey.precedes_total, fun same => same ▸ isSorted⟩
    total := isSorted.permutes.length_eq
    byType := byType.trans (sizes_groupsBy _ _)
    byFile := byFile.trans (sizes_groupsBy _ _)
    sumByType := ?_
    sumByFile := ?_
    mostUsedIn := ?_
    usages := ?_
    groups := ?_
    regroups := ?_ }
  · rw [byType, sum_sizes_groupsBy, totalUsages]
  · rw [byFile, sum_sizes_groupsBy, totalUsages]
  · rw [mostUsedIn]
    refine mostCounted?_eq fun entry member => ?_
    rw [byFile] at member
    exact pos_of_mem_sizes_groupsBy member
  · obtain ⟨offset, isOffset⟩ := Int.eq_ofNat_of_zero_le fromStart
    obtain ⟨limit, isLimit⟩ := Int.eq_ofNat_of_zero_le bounded
    rw [usages, isOffset, isLimit, Int.toNat_natCast, Int.toNat_natCast]
    split
    case isTrue unlimited =>
      rw [unlimited]
      exact page_unlimited report.sorted offset
    case isFalse limited => exact page_ofNat report.sorted offset limit (by omega)
  · rw [groups]
    congr 1
    exact congrArg some (groupsBy_eq _ _)
  · intro shown isShown
    rw [groups] at isShown
    split at isShown
    · cases isShown
      exact flatMap_groupsBy_perm _ _
    · cases isShown

/-- What is counted depends on the sort key only. -/
theorem same_of_sortKey {other : ScanPlan} {otherGrouped : Bool} {otherReport : UsageReport}
    (sameKey : other.sortKey = plan.sortKey)
    (made : ofRecords plan grouped scanned matched records = .ok report)
    (alsoMade : ofRecords other otherGrouped scanned matched records = .ok otherReport) :
    otherReport.sorted = report.sorted ∧ otherReport.statistics = report.statistics := by
  obtain ⟨sorted, counted, -⟩ := of_ofRecords made
  obtain ⟨otherSorted, otherCounted, -⟩ := of_ofRecords alsoMade
  have same : otherReport.sorted = report.sorted := by rw [otherSorted, sorted, sameKey]
  rw [same, counted] at otherCounted
  exact ⟨same, (Except.ok.inj otherCounted).symm⟩

end Made

/-- The requests for the pages of some size, one after the other. -/
def onPages (plan : ScanPlan) (grouped : Bool) (scanned matched : Nat) (records : List UsageRecord)
    (size count : Nat) : Except Fault (List UsageReport) :=
  (List.range count).mapM fun index =>
    ofRecords (plan.onPage ↑(index * size) size) grouped scanned matched records

theorem flatMap_pages {α : Type} (items : List α) {size : Nat} (positive : 0 < size) (count : Nat) :
    ((List.range count).flatMap fun index => page items ↑(index * size) size) =
      items.take (count * size) := by
  induction count with
  | zero => simp
  | succ count inductionHypothesis =>
    rw [List.range_succ, List.flatMap_append, inductionHypothesis, List.flatMap_singleton,
      page_ofNat items _ size positive, Nat.succ_mul, List.take_add]

theorem mapM_eq_ok {α β : Type} {ask : α → Except Fault β} {answer : α → β}
    (answers : ∀ item, ask item = .ok (answer item)) (items : List α) :
    items.mapM ask = .ok (items.map answer) := by
  induction items with
  | nil => rfl
  | cons item rest inductionHypothesis =>
    rw [List.mapM_cons, answers, inductionHypothesis]
    rfl

/-- The pages of a report that reach to its end make up the page without a limit. -/
theorem onPages_eq {records : List UsageRecord} (located : ∀ record ∈ records, record.IsLocated)
    (plan : ScanPlan) (grouped : Bool) (scanned matched : Nat) {size count : Nat} (positive : 0 < size)
    (enough : records.length ≤ count * size) :
    ∃ pages whole, onPages plan grouped scanned matched records size count = .ok pages ∧
      ofRecords (plan.onPage 0 0) grouped scanned matched records = .ok whole ∧
      pages.flatMap usages = whole.usages := by
  obtain ⟨whole, wholeMade⟩ := exists_ofRecords (plan.onPage 0 0) grouped scanned matched located
  choose report made using fun index : Nat =>
    exists_ofRecords (plan.onPage ↑(index * size) size) grouped scanned matched located
  obtain ⟨sorted, -, usages, -⟩ := of_ofRecords wholeMade
  have shows : ∀ index : Nat, (report index).usages = page whole.sorted ↑(index * size) size := by
    intro index
    obtain ⟨-, -, shown, -⟩ := of_ofRecords (made index)
    have sameKey : (plan.onPage ↑(index * size) size).sortKey = (plan.onPage 0 0).sortKey := rfl
    rw [shown, (same_of_sortKey sameKey wholeMade (made index)).1]
    rfl
  have length : whole.sorted.length = records.length := by rw [sorted, List.length_mergeSort]
  refine ⟨(List.range count).map report, whole, mapM_eq_ok made _, wholeMade, ?_⟩
  rw [List.flatMap_map]
  simp only [shows]
  rw [flatMap_pages whole.sorted positive, usages, List.take_of_length_le (length ▸ enough)]
  exact (page_all whole.sorted).symm

end UsageReport

namespace Scan

variable {question : Question} {tree : FileTree} {progress : Progress} {paths : List (List String)}

/-- Whether the records of a scan are in as many files as have been counted, all of them among the given
ones. -/
def CountsFiles (question : Question) (paths : List (List String)) (progress : Progress) : Prop :=
  ∃ hits : List (List String), hits.Sublist paths ∧ progress.matched = hits.length ∧
    ∀ file, (∃ record ∈ progress.records, record.file = file) ↔
      ∃ hit ∈ hits, .str (question.project.relative hit) = file

theorem CountsFiles.congr {other : Progress} (counts : CountsFiles question paths progress)
    (matched : other.matched = progress.matched) (records : other.records = progress.records) :
    CountsFiles question paths other := by
  rw [CountsFiles, matched, records]
  exact counts

/-- A file that is passed over is not counted. -/
theorem CountsFiles.pass {next : Progress} (counts : CountsFiles question paths progress)
    (path : List String) (matched : next.matched = progress.matched)
    (records : next.records = progress.records) : CountsFiles question (paths ++ [path]) next := by
  obtain ⟨hits, among, isMatched, files⟩ := counts
  refine ⟨hits, among.trans (List.sublist_append_left paths [path]), matched.trans isMatched, ?_⟩
  rw [records]
  exact files

/-- A file with records is counted once. -/
theorem CountsFiles.add (counts : CountsFiles question paths progress) (path : List String)
    (records : List UsageRecord) :
    CountsFiles question (paths ++ [path]) (progress.add question path records) := by
  rw [Progress.add]
  split
  case isTrue => exact counts.pass path rfl rfl
  case isFalse nonempty =>
    obtain ⟨hits, among, isMatched, files⟩ := counts
    refine ⟨hits ++ [path], among.append (.refl _), by simp [isMatched], fun file => ?_⟩
    simp only [List.mem_append, or_and_right, exists_or, files, List.mem_singleton, exists_eq_left,
      List.mem_map]
    refine or_congr_right ⟨?_, ?_⟩
    · rintro ⟨_, ⟨record, -, rfl⟩, rfl⟩
      rfl
    · rintro rfl
      obtain ⟨record, member⟩ := List.exists_mem_of_ne_nil records (by simpa using nonempty)
      exact ⟨_, ⟨record, member, rfl⟩, rfl⟩

/-- One file: it is passed over or counted. -/
theorem CountsFiles.file {next : Progress} {store : Store} {path : List String}
    (counts : CountsFiles question paths progress)
    (scanned : progress.file question tree path = (.ok next, store)) :
    CountsFiles question (paths ++ [path]) next := by
  rw [Progress.file] at scanned
  split at scanned
  · cases scanned
    exact counts.pass path rfl rfl
  case h_2 source read =>
    split at scanned
    · cases scanned
      exact counts.pass path rfl rfl
    split at scanned
    · cases found : vendorUsages question progress.store source with
      | mk outcome later =>
        cases outcome with
        | ok records =>
          simp only [found] at scanned
          cases scanned
          refine CountsFiles.add ?_ path records
          exact counts.congr rfl rfl
        | error fault =>
          simp only [found] at scanned
          split at scanned
          · cases scanned
            exact counts.pass path rfl rfl
          · cases scanned
    · cases scanned
      refine CountsFiles.add ?_ path _
      exact counts.congr rfl rfl

theorem CountsFiles.files {last : Progress} {rest : List (List String)} {final : Progress}
    (counts : CountsFiles question paths progress)
    (scanned : progress.files question tree rest = (.ok final, last)) :
    CountsFiles question (paths ++ rest) final := by
  induction rest generalizing progress paths with
  | nil =>
    cases scanned
    rwa [List.append_nil]
  | cons path rest inductionHypothesis =>
    rw [Progress.files] at scanned
    split at scanned
    case h_1 next _ went =>
      rw [List.append_cons]
      exact inductionHypothesis (counts.file went) scanned
    case h_2 => cases scanned

/-- The sorted records of a scan are in as many files as have been counted, if different files are
reported under different paths. -/
theorem length_byFile (counts : CountsFiles question paths progress)
    (apart : (paths.map question.project.relative).Nodup) {plan : ScanPlan} {grouped : Bool} {scanned : Nat}
    {report : UsageReport}
    (made : UsageReport.ofRecords plan grouped scanned progress.matched progress.records = .ok report) :
    report.filesMatched = report.statistics.byFile.length := by
  obtain ⟨hits, among, isMatched, files⟩ := counts
  have inFiles : ∀ record ∈ progress.records, record.file = .str record.fileText := by
    intro record member
    obtain ⟨hit, -, isFile⟩ := (files record.file).mp ⟨record, member, rfl⟩
    rw [UsageRecord.fileText, ← isFile]
    rfl
  obtain ⟨sorted, -, -, -, -, matched⟩ := UsageReport.of_ofRecords made
  obtain ⟨-, byFile, -⟩ := UsageReport.statistics_eq made inFiles
  rw [matched, isMatched, byFile, UsageReport.sizes_groupsBy, UsageReport.occurrences, List.length_map]
  have paths : (hits.map question.project.relative).Nodup := apart.sublist (among.map _)
  have same : (hits.map question.project.relative).Perm
      (report.sorted.map UsageRecord.fileText).eraseDups := by
    refine (List.perm_ext_iff_of_nodup paths (nodup_eraseDups _)).mpr fun file => ?_
    rw [List.mem_eraseDups, List.mem_map, List.mem_map, sorted]
    constructor
    · rintro ⟨hit, member, rfl⟩
      obtain ⟨record, listed, isFile⟩ := (files _).mpr ⟨hit, member, rfl⟩
      refine ⟨record, List.mem_mergeSort.mpr listed, ?_⟩
      rw [UsageRecord.fileText, isFile]
      rfl
    · rintro ⟨record, listed, rfl⟩
      obtain ⟨hit, member, isFile⟩ := (files record.file).mp ⟨record, List.mem_mergeSort.mp listed, rfl⟩
      refine ⟨hit, member, ?_⟩
      rw [UsageRecord.fileText, ← isFile]
      rfl
  rw [← same.length_eq, List.length_map]

/-- Different files under a path are reported under different paths, as no path leads to two files. -/
theorem filesUnder_apart (regular : tree.Regular) {project : Project} {path : Json}
    {excludeVendor : Bool} (listed : filesUnder project tree path excludeVendor = .ok paths) :
    (paths.map project.relative).Nodup := by
  rw [filesUnder] at listed
  obtain ⟨text, -, sources⟩ := exists_of_bind_eq_ok listed
  obtain ⟨_, -, same⟩ := Project.exists_directory_of_sourceFiles sources
  have distinct : paths.Nodup := same.nodup_iff.mpr (regular.unique.filter _)
  have named := named_of_mem_sourceFiles regular sources
  refine distinct.map_on fun first member second other reported => ?_
  rw [← project.join_relative (named first member), reported, project.join_relative (named second other)]

/-- A scan that succeeds reports on the records it found, and has counted the files they are in, if these
are reported under different paths. -/
theorem report_eq_ofRecords {shortcuts : Shortcuts} {project : Project} {store : Store} {now : Int}
    {target path : Json} {options : ScanOptions} {report : UsageReport}
    (succeeds : (runWith shortcuts project tree store now target path options).report = .ok report) :
    ∃ plan records files, options.validate target = .ok plan ∧
      UsageReport.ofRecords plan options.groupByType report.filesScanned report.filesMatched records =
        .ok report ∧
      filesUnder project tree path options.excludeVendor = .ok files ∧
      ((files.map project.relative).Nodup → report.filesMatched = report.statistics.byFile.length) := by
  rw [runWith] at succeeds
  split at succeeds
  · cases succeeds
  case h_2 plan valid =>
    dsimp only at succeeds
    split at succeeds
    · cases succeeds
    case h_2 files listed =>
      split at succeeds
      · cases succeeds
      case h_2 final last scanned =>
        simp only [Progress.report] at succeeds
        split at succeeds
        · cases succeeds
        · have start : CountsFiles (question shortcuts project now plan) []
              (Progress.start (startStore options store)) :=
            ⟨[], .slnil, rfl, fun file => by simp [Progress.start]⟩
          have counts := start.files scanned
          obtain ⟨-, -, -, -, scannedFiles, matched⟩ := UsageReport.of_ofRecords succeeds
          refine ⟨plan, final.records, files, valid, ?_, listed,
            fun apart => length_byFile counts apart succeeds⟩
          rw [scannedFiles, matched]
          exact succeeds

end Scan

/-- The page of a valid request begins and ends at places that a list can have. -/
theorem ScanOptions.page_of_validate {options : ScanOptions} {target : Json} {plan : ScanPlan}
    (valid : options.validate target = .ok plan) : 0 ≤ plan.offset ∧ 0 ≤ plan.limit := by
  obtain ⟨text, -, valid⟩ := exists_of_bind_eq_ok valid
  split at valid
  · cases valid
  obtain ⟨sortKey, -, valid⟩ := exists_of_bind_eq_ok valid
  obtain ⟨limit, -, valid⟩ := exists_of_bind_eq_ok valid
  split at valid
  · cases valid
  case isFalse limitValid =>
    obtain ⟨offset, -, valid⟩ := exists_of_bind_eq_ok valid
    split at valid
    · cases valid
    case isFalse offsetValid =>
      obtain ⟨labels, -, valid⟩ := exists_of_bind_eq_ok valid
      obtain ⟨usageTypes, -, valid⟩ := exists_of_bind_eq_ok valid
      rw [← Except.ok.inj valid]
      exact ⟨Int.not_lt.mp offsetValid, Int.not_lt.mp limitValid⟩

/-- Records of two files, two of them on lines with the same number. -/
def sampleUsages : List UsageRecord := [
  ⟨.int 4, .new, .str "new A", .null, .str "b.php"⟩,
  ⟨.int 2, .fileImport, .str "use A", .null, .str "a.php"⟩,
  ⟨.int 4, .staticCall, .str "A::f()", .str "f", .str "a.php"⟩]

theorem sampleUsages_located : ∀ record ∈ sampleUsages, record.IsLocated := by
  intro record member
  simp only [sampleUsages, List.mem_cons, List.not_mem_nil, or_false] at member
  rcases member with rfl | rfl | rfl
  · exact ⟨⟨4, rfl⟩, "b.php", rfl⟩
  · exact ⟨⟨2, rfl⟩, "a.php", rfl⟩
  · exact ⟨⟨4, rfl⟩, "a.php", rfl⟩

end ClassAtlas
