import ClassAtlas.Proofs.Files.Readable
import ClassAtlas.Proofs.Usage.Selection

/-!
Scans that meet files which cannot be read.

Such a file is counted and passed over; of a file that can be read, nothing is lost that could be
stored. So a scan fails for want of readable files exactly if there are files and none can be read, and
in every other case it reports what it would report if the others were not there.
-/

namespace ClassAtlas

/-- Whether two reports agree on everything but the number of files scanned. -/
structure UsageReport.AgreesWith (whole rest : UsageReport) : Prop where
  usages : whole.usages = rest.usages
  groups : whole.groups = rest.groups
  statistics : whole.statistics = rest.statistics
  totalUsages : whole.totalUsages = rest.totalUsages
  filesMatched : whole.filesMatched = rest.filesMatched

/-- Located records can be reported, and of the files scanned only the number enters the report. -/
theorem UsageReport.ofRecords_agreesWith (plan : ScanPlan) (grouped : Bool) (matched : Nat)
    {records : List UsageRecord} (located : ∀ record ∈ records, record.IsLocated)
    (scanned others : Nat) :
    ∃ whole rest, ofRecords plan grouped scanned matched records = .ok whole ∧
      ofRecords plan grouped others matched records = .ok rest ∧ whole.AgreesWith rest ∧
      whole.filesScanned = scanned := by
  have sortedLocated : ∀ record ∈ records.mergeSort plan.sortKey.ordered, record.IsLocated :=
    fun record member => located record (List.mem_mergeSort.mp member)
  obtain ⟨statistics, counted, -⟩ := UsageStatistics.ofRecords_eq sortedLocated
  simp only [ofRecords, sortUsages_eq plan.sortKey located, bind, Except.bind, counted]
  exact ⟨_, _, rfl, rfl, ⟨rfl, rfl, rfl, rfl, rfl⟩, rfl⟩

namespace Scan

section Files

variable {tree : FileTree} {path : List String}

/-- A file that cannot be read contributes nothing. -/
theorem contribution_of_not_canRead (question : Question) (lifetime : Int)
    (denied : tree.canRead path = false) : contribution question lifetime tree path = .ok none := by
  obtain ⟨fault, failed⟩ := FileTree.canRead_eq_false_iff.mp denied
  rw [contribution, failed]

theorem eq_numberTooLarge_of_seconds {lifetime : Int} {fault : Fault}
    (failed : Moment.seconds lifetime = .error fault) : fault = .numberTooLarge := by
  simp only [Moment.seconds] at failed
  split at failed
  · cases failed
    rfl
  · cases failed

/-- A file that can be read contributes records, unless stored values would live too long. -/
theorem contribution_of_canRead (writable : tree.LinesWritable) (question : Question) (lifetime : Int)
    (kept : tree.canRead path = true) :
    (∃ records, contribution question lifetime tree path = .ok (some records)) ∨
      ∃ fault, Moment.seconds lifetime = .error fault ∧
        contribution question lifetime tree path = .error fault := by
  obtain ⟨source, read⟩ := FileTree.canRead_iff.mp kept
  obtain ⟨entry, known, rfl⟩ := FileTree.exists_file_of_readSource read
  rw [contribution, read]
  dsimp only
  split
  · exact .inl ⟨_, rfl⟩
  split
  · rw [storedUsages_eq (hasLongInteger_storedValue (writable entry known) _ _)]
    cases counted : Moment.seconds lifetime with
    | ok seconds => exact .inl ⟨_, rfl⟩
    | error fault =>
      obtain rfl := eq_numberTooLarge_of_seconds counted
      exact .inr ⟨.numberTooLarge, rfl, rfl⟩
  · exact .inl ⟨_, rfl⟩

theorem canRead_of_contribution_error {question : Question} {lifetime : Int} {fault : Fault}
    (failed : contribution question lifetime tree path = .error fault) :
    tree.canRead path = true := by
  by_contra denied
  rw [contribution_of_not_canRead question lifetime (Bool.not_eq_true _ ▸ denied)] at failed
  cases failed

/-- Of files that contribute, a scan skips those that cannot be read. -/
theorem skips_eq_not_canRead (writable : tree.LinesWritable) {question : Question} {lifetime : Int}
    {taken : Option (List UsageRecord)}
    (contributes : contribution question lifetime tree path = .ok taken) :
    skips question lifetime tree path = !tree.canRead path := by
  cases readable : tree.canRead path with
  | false => simp [skips, contribution_of_not_canRead question lifetime readable]
  | true =>
    obtain ⟨records, found⟩ | ⟨fault, -, failed⟩ :=
      contribution_of_canRead writable question lifetime readable
    · simp [skips, found]
    · rw [failed] at contributes
      cases contributes

/-- A file that can be read contributes the same when the others are left out, at any time. -/
theorem contribution_readableOnly (question : Question) (lifetime later : Int)
    (kept : tree.canRead path = true) :
    contribution { question with now := later } lifetime tree.readableOnly path =
      contribution question lifetime tree path := by
  obtain ⟨source, read⟩ := FileTree.canRead_iff.mp kept
  rw [contribution, contribution, read, FileTree.readSource_readableOnly read]

theorem findings_readableOnly (question : Question) (lifetime later : Int)
    (kept : tree.canRead path = true) :
    findings { question with now := later } lifetime tree.readableOnly path =
      findings question lifetime tree path := by
  rw [findings, findings, contribution_readableOnly question lifetime later kept]

theorem findings_of_not_canRead (question : Question) (lifetime : Int)
    (denied : tree.canRead path = false) : findings question lifetime tree path = [] := by
  rw [findings, contribution_of_not_canRead question lifetime denied]

/-- All that is found is found in files that can be read. -/
theorem flatMap_findings_readableOnly (question : Question) (lifetime later : Int)
    (files : List (List String)) :
    (files.filter tree.canRead).flatMap
        (findings { question with now := later } lifetime tree.readableOnly) =
      files.flatMap (findings question lifetime tree) := by
  induction files with
  | nil => simp only [List.filter_nil, List.flatMap_nil]
  | cons file rest inductionHypothesis =>
    rw [List.filter_cons, List.flatMap_cons, ← inductionHypothesis]
    cases readable : tree.canRead file with
    | true =>
      rw [if_pos rfl, List.flatMap_cons, findings_readableOnly question lifetime later readable]
    | false =>
      rw [findings_of_not_canRead question lifetime readable]
      rfl

theorem countP_hits_readableOnly (question : Question) (lifetime later : Int)
    (files : List (List String)) :
    (files.filter tree.canRead).countP
        (hits { question with now := later } lifetime tree.readableOnly) =
      files.countP (hits question lifetime tree) := by
  rw [List.countP_filter]
  refine List.countP_congr fun file _ => ?_
  cases readable : tree.canRead file with
  | true => simp [hits, findings_readableOnly question lifetime later readable]
  | false => simp [hits, findings_of_not_canRead question lifetime readable]

end Files

section Runs

variable {parse : Bytes → Node} {met : Set Inquiry} {tree : FileTree} {lifetime : Int}

/-- A scan that fails on the way has come to a file that is a fault. -/
theorem Progress.exists_of_files_error (distinct : Inquiry.Distinct met) {question : Question}
    {paths : List (List String)}
    (knows : ∀ path ∈ paths, question.KnowsAt parse met tree path) {progress : Progress}
    (trusts : question.Trusts parse met progress.store) (counted : progress.store.lifetime = lifetime)
    {fault : Fault} (ends : (progress.files question tree paths).1 = .error fault) :
    ∃ path ∈ paths, contribution question lifetime tree path = .error fault := by
  induction paths generalizing progress with
  | nil => cases ends
  | cons path rest inductionHypothesis =>
    simp only [files] at ends
    obtain ⟨other, store, contributes, failed⟩ | ⟨taken, next, store, -, scanned, trustsNext,
        countedNext, -⟩ := file_findings distinct trusts counted (knows path List.mem_cons_self)
    · rw [failed] at ends
      cases ends
      exact ⟨path, List.mem_cons_self, contributes⟩
    · rw [scanned] at ends
      obtain ⟨later, member, contributes⟩ := inductionHypothesis
        (fun path member => knows path (List.mem_cons_of_mem _ member)) trustsNext countedNext ends
      exact ⟨later, List.mem_cons_of_mem _ member, contributes⟩

variable {project : Project} {target path : Json} {options : ScanOptions} {plan : ScanPlan}
  {files : List (List String)}

theorem filesUnder_readableOnly {excludeVendor : Bool}
    (listed : filesUnder project tree path excludeVendor = .ok files) :
    filesUnder project tree.readableOnly path excludeVendor = .ok (files.filter tree.canRead) := by
  cases given : path.pathText with
  | error fault =>
    simp only [filesUnder, given, bind, Except.bind] at listed
    cases listed
  | ok text =>
    simp only [filesUnder, given, bind, Except.bind] at listed ⊢
    exact Project.sourceFiles_readableOnly listed

/-- A scan without the files that cannot be read makes no other inquiries. -/
theorem Covered.readableOnly (covered : Covered parse met {} project tree target path options)
    (listed : filesUnder project tree path options.excludeVendor = .ok files) :
    Covered parse met {} project tree.readableOnly target path options where
  parsed := fun entry member => covered.parsed entry (List.mem_of_mem_filter member)
  within := by
    intro inquiry member
    refine covered.within inquiry ?_
    cases valid : options.validate target with
    | error fault => simp [inquiries, valid] at member
    | ok plan =>
      simp only [inquiries, valid, filesUnder_readableOnly listed, List.mem_filterMap] at member
      obtain ⟨file, left, asked⟩ := member
      obtain ⟨source, read⟩ := FileTree.canRead_iff.mp (List.mem_filter.mp left).2
      rw [FileTree.readSource_readableOnly read] at asked
      simp only [inquiries, valid, listed, List.mem_filterMap]
      exact ⟨file, List.mem_of_mem_filter left, by rw [read]; exact asked⟩

/-- How a scan ends: on the way, because stored values would live too long, or with all that is found
in the files, those counted as unreadable being the ones that cannot be read. -/
theorem report_cases (distinct : Inquiry.Distinct met) {store : Store}
    (written : Written parse met lifetime store)
    (covered : Covered parse met {} project tree target path options)
    (writable : tree.LinesWritable) (now : Int) (valid : options.validate target = .ok plan)
    (listed : filesUnder project tree path options.excludeVendor = .ok files) :
    (∃ fault, Moment.seconds lifetime = .error fault ∧
      (run project tree store now target path options).report = .error fault ∧
      ∃ file ∈ files, contribution (question {} project now plan) lifetime tree file = .error fault) ∨
    ((∀ file ∈ files, ∃ taken,
        contribution (question {} project now plan) lifetime tree file = .ok taken) ∧
      (run project tree store now target path options).report =
        if files ≠ [] ∧ ∀ file ∈ files, tree.canRead file = false then
          .error (.failure (.allUnreadable files.length path.worded))
        else UsageReport.ofRecords plan options.groupByType files.length
          (files.countP (hits (question {} project now plan) lifetime tree))
          (files.flatMap (findings (question {} project now plan) lifetime tree))) := by
  obtain ⟨knows, trusts, counted⟩ := files_of_written distinct written covered now valid listed
  rw [report_of_files valid listed]
  cases ends : ((Progress.start (startStore options store)).files (question {} project now plan) tree
      files).1 with
  | error fault =>
    obtain ⟨file, member, failed⟩ :=
      Progress.exists_of_files_error distinct knows trusts counted ends
    refine .inl ⟨fault, ?_, rfl, file, member, failed⟩
    obtain ⟨records, found⟩ | ⟨other, tooLong, same⟩ := contribution_of_canRead writable
      (question {} project now plan) lifetime (canRead_of_contribution_error failed)
    · rw [found] at failed
      cases failed
    · rw [same] at failed
      cases failed
      exact tooLong
  | ok final =>
    obtain ⟨passes, records, unreadable, matched⟩ :=
      Progress.files_findings distinct knows trusts counted ends
    refine .inr ⟨passes, ?_⟩
    have skipped : files.countP (skips (question {} project now plan) lifetime tree) =
        files.countP fun file => !tree.canRead file := by
      refine List.countP_congr fun file member => ?_
      obtain ⟨taken, contributes⟩ := passes file member
      rw [skips_eq_not_canRead writable contributes]
    have allSkipped : (files.length != 0 && final.unreadable == files.length) = true ↔
        files ≠ [] ∧ ∀ file ∈ files, tree.canRead file = false := by
      have start : (Progress.start (startStore options store)).unreadable = 0 := rfl
      rw [unreadable, skipped, start, Nat.zero_add, Bool.and_eq_true, bne_iff_ne, beq_iff_eq,
        List.countP_eq_length]
      simp
    have noRecords : (Progress.start (startStore options store)).records = [] := rfl
    have noneMatched : (Progress.start (startStore options store)).matched = 0 := rfl
    rw [noRecords, List.nil_append] at records
    rw [noneMatched, Nat.zero_add] at matched
    simp only [Progress.report, allSkipped, records, matched]

/-- Of the files that are left, not all are unreadable. -/
theorem not_forall_left (tree : FileTree) (files : List (List String)) :
    ¬ (files.filter tree.canRead ≠ [] ∧
      ∀ file ∈ files.filter tree.canRead, tree.readableOnly.canRead file = false) := by
  rintro ⟨some, none⟩
  obtain ⟨file, rest, split⟩ := List.exists_cons_of_ne_nil some
  have member : file ∈ files.filter tree.canRead := split ▸ List.mem_cons_self
  have kept := FileTree.canRead_readableOnly (List.mem_filter.mp member).2
  rw [none file member] at kept
  cases kept

section Isolation

variable (distinct : Inquiry.Distinct met) (writable : tree.LinesWritable)
  (covered : Covered parse met {} project tree target path options)
  (valid : options.validate target = .ok plan)
  (listed : filesUnder project tree path options.excludeVendor = .ok files)
  {store other : Store} (written : Written parse met lifetime store)
  (otherWritten : Written parse met lifetime other) (now later : Int)

include distinct writable covered valid listed written

/-- A scan fails as malformed input exactly if there are files and none can be read. -/
theorem report_malformed_iff :
    (∃ failure, (run project tree store now target path options).report = .error (.failure failure) ∧
        failure.kind = .malformedInput) ↔
      files ≠ [] ∧ ∀ file ∈ files, tree.canRead file = false := by
  obtain ⟨fault, tooLong, failed, file, member, contributes⟩ | ⟨passes, reported⟩ :=
    report_cases distinct written covered writable now valid listed
  · obtain rfl := eq_numberTooLarge_of_seconds tooLong
    constructor
    · rintro ⟨failure, isFailure, -⟩
      rw [failed] at isFailure
      cases isFailure
    · rintro ⟨-, none⟩
      have readable := canRead_of_contribution_error contributes
      rw [none file member] at readable
      cases readable
  · split at reported
    case isTrue none => exact ⟨fun _ => none, fun _ => ⟨_, reported, rfl⟩⟩
    case isFalse some =>
      obtain ⟨whole, -, wholeReported, -⟩ :=
        UsageReport.ofRecords_agreesWith plan options.groupByType
          (files.countP (hits (question {} project now plan) lifetime tree))
          (isLocated_of_mem_flatMap (question {} project now plan) lifetime tree files) files.length 0
      refine ⟨?_, fun none => absurd none some⟩
      rintro ⟨failure, isFailure, -⟩
      rw [reported, wholeReported] at isFailure
      cases isFailure

include otherWritten

/-- If some file can be read, or there is none, a scan reports what it reports without the files that
cannot be read. -/
theorem report_readableOnly (some : ¬ (files ≠ [] ∧ ∀ file ∈ files, tree.canRead file = false)) :
    (∃ whole rest, (run project tree store now target path options).report = .ok whole ∧
      (run project tree.readableOnly other later target path options).report = .ok rest ∧
      whole.AgreesWith rest ∧ whole.filesScanned = files.length) ∨
    ∃ fault, Moment.seconds lifetime = .error fault ∧
      (run project tree store now target path options).report = .error fault ∧
      (run project tree.readableOnly other later target path options).report = .error fault := by
  have restWritable : tree.readableOnly.LinesWritable :=
    fun entry member => writable entry (List.mem_of_mem_filter member)
  -- Time is no part of what a file contributes, so the two questions differ in nothing that counts.
  have same : ∀ file, tree.canRead file = true →
      contribution (question {} project later plan) lifetime tree.readableOnly file =
        contribution (question {} project now plan) lifetime tree file :=
    fun file => contribution_readableOnly (question {} project now plan) lifetime later
  have rest := report_cases distinct otherWritten (covered.readableOnly listed) restWritable later
    valid (filesUnder_readableOnly listed)
  obtain ⟨fault, tooLong, failed, file, member, contributes⟩ | ⟨passes, reported⟩ :=
    report_cases distinct written covered writable now valid listed
  · have readable := canRead_of_contribution_error contributes
    refine .inr ⟨fault, tooLong, failed, ?_⟩
    obtain ⟨other, restTooLong, restFailed, -⟩ | ⟨restPasses, -⟩ := rest
    · rw [restFailed, eq_numberTooLarge_of_seconds restTooLong, eq_numberTooLarge_of_seconds tooLong]
    · obtain ⟨taken, taking⟩ := restPasses file (List.mem_filter.mpr ⟨member, readable⟩)
      rw [same file readable, contributes] at taking
      cases taking
  · rw [if_neg some] at reported
    obtain ⟨fault, -, -, file, member, contributes⟩ | ⟨-, restReported⟩ := rest
    · obtain ⟨listedFile, readable⟩ := List.mem_filter.mp member
      obtain ⟨taken, taking⟩ := passes file listedFile
      rw [same file readable, taking] at contributes
      cases contributes
    have found : (files.filter tree.canRead).flatMap
        (findings (question {} project later plan) lifetime tree.readableOnly) =
          files.flatMap (findings (question {} project now plan) lifetime tree) :=
      flatMap_findings_readableOnly (question {} project now plan) lifetime later files
    have matched : (files.filter tree.canRead).countP
        (hits (question {} project later plan) lifetime tree.readableOnly) =
          files.countP (hits (question {} project now plan) lifetime tree) :=
      countP_hits_readableOnly (question {} project now plan) lifetime later files
    rw [if_neg (not_forall_left tree files), found, matched] at restReported
    obtain ⟨whole, part, wholeReported, partReported, agree, scanned⟩ :=
      UsageReport.ofRecords_agreesWith plan options.groupByType
        (files.countP (hits (question {} project now plan) lifetime tree))
        (isLocated_of_mem_flatMap (question {} project now plan) lifetime tree files) files.length
        (files.filter tree.canRead).length
    exact .inl ⟨whole, part, reported.trans wholeReported, restReported.trans partReported, agree,
      scanned⟩

end Isolation

end Runs

/-- What becomes of a scan of an existing directory some of whose files cannot be read. A search that the
file system stops ends the scan with that fault. If the source files can be listed, the files that cannot
be read are isolated: with any store that scans have written, a valid request fails as malformed input if
and only if there are source files and none of them can be read. In every other case it reports what it
reports, with any other such store, when these files are removed, and counts them among the files scanned;
both requests fail only if stored values would live too long to be counted. -/
theorem unreadable_files_isolated (parse : Bytes → Node) (met : Set Inquiry)
    (distinct : Inquiry.Distinct met) (project : Project) (tree : FileTree)
    (writable : tree.LinesWritable) (target : Json) (path : String) (directory : List String)
    (located : project.directory tree path = .ok directory) (options : ScanOptions)
    (covered : Covered parse met {} project tree target (.str path) options) (plan : ScanPlan)
    (valid : options.validate target = .ok plan) (lifetime : Int) (store other : Store)
    (written : Written parse met lifetime store) (otherWritten : Written parse met lifetime other)
    (now later : Int) :
    (Project.isStopped tree directory true = true →
      (run project tree store now target (.str path) options).report = .error .refused) ∧
    (Project.isStopped tree directory true = false →
      ∃ files, project.sourceFiles tree path true options.excludeVendor = .ok files ∧
        ((∃ failure, (run project tree store now target (.str path) options).report =
              .error (.failure failure) ∧ failure.kind = .malformedInput) ↔
          files ≠ [] ∧ ∀ file ∈ files, tree.canRead file = false) ∧
        (¬ (files ≠ [] ∧ ∀ file ∈ files, tree.canRead file = false) →
          (∃ whole rest, (run project tree store now target (.str path) options).report = .ok whole ∧
            (run project tree.readableOnly other later target (.str path) options).report = .ok rest ∧
            whole.AgreesWith rest ∧ whole.filesScanned = files.length) ∨
          ∃ fault, Moment.seconds lifetime = .error fault ∧
            (run project tree store now target (.str path) options).report = .error fault ∧
            (run project tree.readableOnly other later target (.str path) options).report =
              .error fault)) := by
  have asked := filesUnder_str project tree path options.excludeVendor
  constructor
  · intro stopped
    rw [Project.sourceFiles_eq located, stopped, if_pos rfl] at asked
    simp only [run, runWith, valid, asked]
  · intro passed
    have listed : project.sourceFiles tree path true options.excludeVendor = _ :=
      Project.sourceFiles_of_located located passed
    have under := asked.trans listed
    exact ⟨_, listed, report_malformed_iff distinct writable covered valid under written now,
      report_readableOnly distinct writable covered valid under written otherWritten now later⟩

/-- The sample with a second file, which cannot be read. -/
def samplePartly : FileTree :=
  { sampleTree with
    files := sampleTree.files ++ [(["app", "vendor", "b.php"], ⟨sampleSource, false⟩)] }

section Partly

theorem samplePartly_source : ∀ entry ∈ samplePartly.files, entry.2.source = sampleSource := by
  simp [samplePartly, sampleTree]

theorem samplePartly_linesWritable : samplePartly.LinesWritable := by
  intro entry member
  rw [samplePartly_source entry member]
  exact sampleTree_linesWritable _ (List.mem_singleton_self _)

theorem directory_samplePartly : sampleProject.directory samplePartly "vendor" = .ok ["app", "vendor"] :=
  eq_ok_of_toOption (by decide +kernel)

theorem isStopped_samplePartly : Project.isStopped samplePartly ["app", "vendor"] true = false := by
  decide +kernel

theorem sourceFiles_samplePartly : sampleProject.sourceFiles samplePartly "vendor" true false =
    .ok [["app", "vendor", "a.php"], ["app", "vendor", "b.php"]] :=
  Project.sourceFiles_of_ordered directory_samplePartly isStopped_samplePartly (by decide +kernel)
    (by decide +kernel)

theorem unreadable_files_isolated_sample :
    ∃ whole rest,
      (run sampleProject samplePartly (.empty 60) 0 (.str "A") (.str "vendor")
        sampleOptions).report = .ok whole ∧
      (run sampleProject samplePartly.readableOnly (.empty 60) 5 (.str "A") (.str "vendor")
        sampleOptions).report = .ok rest ∧
      whole.AgreesWith rest ∧ whole.filesScanned = 2 := by
  have distinct : Inquiry.Distinct {sampleInquiry []} := .of_subsingleton Set.subsingleton_singleton
  have valid : sampleOptions.validate (.str "A") = .ok ⟨"A", [], .line, 100, 0⟩ := rfl
  have covered := covered_of_sources sampleProject (.str "vendor") samplePartly_source valid
    (Set.mem_singleton (sampleInquiry []))
  have isolated := unreadable_files_isolated (fun _ => sampleSource.root) _ distinct sampleProject
    samplePartly samplePartly_linesWritable (.str "A") "vendor" _ directory_samplePartly sampleOptions
    covered _ valid 60 (.empty 60) (.empty 60) .empty .empty 0 5
  obtain ⟨files, listed, -, reports⟩ := isolated.2 isStopped_samplePartly
  obtain rfl := Except.ok.inj (sourceFiles_samplePartly.symm.trans listed)
  obtain ⟨whole, rest, reported, restReported, agree, scanned⟩ | ⟨fault, tooLong, -⟩ :=
    reports (by decide +kernel)
  · exact ⟨whole, rest, reported, restReported, agree, scanned⟩
  · cases tooLong

end Partly

/-- A lifetime with more binary digits than can be counted. -/
def endlessLifetime : Int := .ofNat (1 <<< Moment.maxDigits)

/-- With such a lifetime a file that can be read, and is the only one, keeps the scan from reporting
anything. -/
theorem readable_file_not_reported :
    sampleProject.sourceFiles sampleTree "vendor" true false = .ok [["app", "vendor", "a.php"]] ∧
      sampleTree.canRead ["app", "vendor", "a.php"] = true ∧
      (run sampleProject sampleTree (.empty endlessLifetime) 0 (.str "A") (.str "vendor")
        sampleOptions).report = .error .numberTooLarge := by
  have located : sampleProject.directory sampleTree "vendor" = .ok ["app", "vendor"] :=
    eq_ok_of_toOption (by decide +kernel)
  have sourceFiles : sampleProject.sourceFiles sampleTree "vendor" true false =
      .ok [["app", "vendor", "a.php"]] :=
    Project.sourceFiles_of_ordered located (by decide +kernel) (by decide +kernel) (by decide +kernel)
  have listed := (filesUnder_str ..).trans sourceFiles
  refine ⟨sourceFiles, by decide +kernel, ?_⟩
  have sources : ∀ entry ∈ sampleTree.files, entry.2.source = sampleSource := by simp [sampleTree]
  have valid : sampleOptions.validate (.str "A") = .ok ⟨"A", [], .line, 100, 0⟩ := rfl
  have covered := covered_of_sources sampleProject (.str "vendor") sources valid
    (Set.mem_singleton (sampleInquiry []))
  obtain ⟨fault, tooLong, failed, -⟩ | ⟨passes, -⟩ :=
    report_cases (.of_subsingleton Set.subsingleton_singleton)
      (.empty : Written _ _ endlessLifetime (.empty endlessLifetime)) covered sampleTree_linesWritable 0
      valid listed
  · rw [failed, eq_numberTooLarge_of_seconds tooLong]
  · obtain ⟨taken, contributes⟩ := passes _ (List.mem_singleton_self _)
    have none : (contribution (question {} sampleProject 0 ⟨"A", [], .line, 100, 0⟩) endlessLifetime
        sampleTree ["app", "vendor", "a.php"]).toOption = none := by
      decide +kernel
    rw [contributes] at none
    cases none

end Scan

end ClassAtlas
