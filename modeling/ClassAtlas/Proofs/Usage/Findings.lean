import ClassAtlas.Proofs.Usage.Agreement
import ClassAtlas.Proofs.Usage.Order

/-!
What a scan reports, read off its files.

With a store that scans alone have written, a scan succeeds exactly when every file lets it go on and
not all of them are unreadable. Its report then lists what each file contributes, in file order and
sorted by the key of the request. Nothing else decides: not what is stored, and not the time.
-/

namespace ClassAtlas

namespace ScanOptions

/-- A request for all usages. -/
def unlimited (options : ScanOptions) : ScanOptions :=
  { options with limit := .int 0, offset := .int 0 }

theorem validate_unlimited (options : ScanOptions) (target : Json) :
    options.unlimited.validate target = (do
      let text ← target.words
      if (Name.normalized text).isEmpty then throw (.failure .targetRequired)
      let sortKey ← SortKey.ofJson options.sortBy
      let labels ← options.usageTypes.listed
      let usageTypes ← (UsageType.ofLabels labels).mapError .failure
      return ⟨Text.trim text, usageTypes, sortKey, 0, 0⟩) := rfl

/-- What makes a request for all usages valid, and the plan that it leads to. -/
theorem validate_unlimited_iff {options : ScanOptions} {target : Json} {plan : ScanPlan} :
    options.unlimited.validate target = .ok plan ↔
      ∃ text sortKey labels usageTypes, target.words = .ok text ∧
        (Name.normalized text).isEmpty = false ∧ SortKey.ofJson options.sortBy = .ok sortKey ∧
        options.usageTypes.listed = .ok labels ∧ UsageType.ofLabels labels = .ok usageTypes ∧
        plan = ⟨Text.trim text, usageTypes, sortKey, 0, 0⟩ := by
  rw [validate_unlimited]
  constructor
  · cases target.words with
    | error fault => exact fun valid => nomatch valid
    | ok text =>
      cases named : (Name.normalized text).isEmpty with
      | true =>
        simp only [bind, Except.bind, named, if_true]
        exact fun valid => nomatch valid
      | false =>
        simp only [bind, Except.bind, named, Bool.false_eq_true, if_false]
        cases SortKey.ofJson options.sortBy with
        | error fault => exact fun valid => nomatch valid
        | ok sortKey =>
          cases options.usageTypes.listed with
          | error fault => exact fun valid => nomatch valid
          | ok labels =>
            cases read : UsageType.ofLabels labels with
            | error failure =>
              simp only [read]
              exact fun valid => nomatch valid
            | ok usageTypes =>
              simp only [read]
              intro valid
              exact ⟨text, sortKey, labels, usageTypes, rfl, named, rfl, rfl, read,
                (Except.ok.inj valid).symm⟩
  · rintro ⟨text, sortKey, labels, usageTypes, given, named, sorted, listed, read, rfl⟩
    simp only [bind, Except.bind, given, named, sorted, listed, read]
    rfl

/-- The plan of a request for all usages has no limit and no offset. -/
theorem unlimited_of_validate {options : ScanOptions} {target : Json} {plan : ScanPlan}
    (valid : options.unlimited.validate target = .ok plan) : plan.limit = 0 ∧ plan.offset = 0 := by
  obtain ⟨_, _, _, _, -, -, -, -, -, rfl⟩ := validate_unlimited_iff.mp valid
  exact ⟨rfl, rfl⟩

end ScanOptions

namespace Scan

/-- The stores of a lifetime that scans leave behind, whatever else is done to them in between. -/
inductive Written (parse : Bytes → Node) (met : Set Inquiry) (lifetime : Int) : Store → Prop where
  | empty : Written parse met lifetime (.empty lifetime)
  | scan {store : Store} (written : Written parse met lifetime store) {project : Project}
      {tree : FileTree} {target path : Json} {options : ScanOptions}
      (covered : Covered parse met {} project tree target path options) (now : Int) :
      Written parse met lifetime (run project tree store now target path options).store
  | invalidate {store : Store} (written : Written parse met lifetime store) :
      Written parse met lifetime store.invalidateAll.2
  | purge {store : Store} (written : Written parse met lifetime store) (now : Int) :
      Written parse met lifetime (store.purgeExpired now).2

theorem Written.honest {parse : Bytes → Node} {met : Set Inquiry} (distinct : Inquiry.Distinct met)
    {lifetime : Int} {store : Store} (written : Written parse met lifetime store) :
    store.Honest parse met ∧ store.lifetime = lifetime := by
  induction written with
  | empty => exact ⟨Store.empty_honest parse met lifetime, rfl⟩
  | scan _ covered now inductionHypothesis =>
    obtain ⟨honest, counted⟩ := inductionHypothesis
    have kept := runWith_store distinct {} (fun _ => covered) now fun _ => honest
    exact ⟨kept.1 rfl, kept.2.trans counted⟩
  | invalidate _ inductionHypothesis =>
    exact ⟨inductionHypothesis.1.invalidateAll, inductionHypothesis.2⟩
  | purge _ now inductionHypothesis =>
    exact ⟨inductionHypothesis.1.purgeExpired now, inductionHypothesis.2⟩

section Files

variable (question : Question) (lifetime : Int) (tree : FileTree)

/-- The records that a scan takes from a file, with the path of the file in reports. -/
def findings (path : List String) : List UsageRecord :=
  match contribution question lifetime tree path with
  | .ok (some records) =>
    records.map fun record => { record with file := .str (question.project.relative path) }
  | _ => []

/-- Whether a scan finds a usage in a file. -/
def hits (path : List String) : Bool := !(findings question lifetime tree path).isEmpty

/-- Whether a scan counts a file as unreadable. -/
def skips (path : List String) : Bool :=
  match contribution question lifetime tree path with
  | .ok none => true
  | _ => false

/-- Whether files let a scan come to its end and report: none is a fault, and not all are unreadable. -/
structure Completes (files : List (List String)) : Prop where
  passes : ∀ path ∈ files, ∃ taken, contribution question lifetime tree path = .ok taken
  readable : files = [] ∨ ∃ path ∈ files, skips question lifetime tree path = false

theorem toOption_isSome_iff {outcome : Except Fault (Option (List UsageRecord))} :
    outcome.toOption.isSome = true ↔ ∃ taken, outcome = .ok taken := by
  cases outcome <;> simp [Except.toOption]

theorem completes_iff {files : List (List String)} :
    Completes question lifetime tree files ↔
      (∀ path ∈ files, (contribution question lifetime tree path).toOption.isSome = true) ∧
        (files = [] ∨ ∃ path ∈ files, skips question lifetime tree path = false) := by
  simp only [toOption_isSome_iff]
  exact ⟨fun completes => ⟨completes.passes, completes.readable⟩, fun ⟨passes, readable⟩ =>
    ⟨passes, readable⟩⟩

instance (files : List (List String)) : Decidable (Completes question lifetime tree files) :=
  decidable_of_iff _ (completes_iff question lifetime tree).symm

end Files

section Contributions

variable {question : Question} {lifetime : Int} {tree : FileTree} {path : List String}

theorem isFound_of_contribution {records : List UsageRecord}
    (contributes : contribution question lifetime tree path = .ok (some records))
    {record : UsageRecord} (member : record ∈ records) : record.IsFound := by
  rw [contribution] at contributes
  split at contributes
  · cases contributes
  case h_2 source read =>
    split at contributes
    · cases contributes
      cases member
    · simp only [storedUsages] at contributes
      split at contributes
      · split at contributes
        case h_1 kept stored =>
          split at stored
          · cases stored
          · cases stored
            cases contributes
            exact isFound_of_mem_findUsages member
        case h_2 =>
          split at contributes <;> cases contributes
      · cases contributes
        exact isFound_of_mem_findUsages member

/-- What a scan takes from a file names the file. -/
theorem file_of_mem_findings {record : UsageRecord}
    (member : record ∈ findings question lifetime tree path) :
    record.file = .str (question.project.relative path) := by
  rw [findings] at member
  split at member
  · obtain ⟨_, -, rfl⟩ := List.mem_map.mp member
    rfl
  · cases member

theorem isLocated_of_mem_findings {record : UsageRecord}
    (member : record ∈ findings question lifetime tree path) : record.IsLocated := by
  rw [findings] at member
  split at member
  case h_1 records contributes =>
    obtain ⟨_, listed, rfl⟩ := List.mem_map.mp member
    exact (isFound_of_contribution contributes listed).located _
  case h_2 => cases member

/-- Taking the contribution of a file adds its findings, and counts it as a hit or as unreadable. -/
theorem Progress.take_eq (progress : Progress) {taken : Option (List UsageRecord)}
    (contributes : contribution question lifetime tree path = .ok taken) :
    (progress.take question path taken).records =
        progress.records ++ findings question lifetime tree path ∧
      (progress.take question path taken).unreadable =
        progress.unreadable + (skips question lifetime tree path).toNat ∧
      (progress.take question path taken).matched =
        progress.matched + (hits question lifetime tree path).toNat := by
  simp only [hits, findings, skips, contributes]
  cases taken with
  | none => simp [take]
  | some records =>
    simp only [take, add]
    split
    case isTrue empty =>
      rw [List.isEmpty_iff.mp empty]
      simp
    case isFalse nonempty => simp [nonempty]

end Contributions

namespace Progress

variable {parse : Bytes → Node} {met : Set Inquiry} {question : Question} {tree : FileTree}
  {lifetime : Int} {paths : List (List String)}

/-- One file: a scan goes on exactly if the file contributes, and then has what it contributes. -/
theorem file_findings (distinct : Inquiry.Distinct met) {progress : Progress}
    (trusts : question.Trusts parse met progress.store) (counted : progress.store.lifetime = lifetime)
    {path : List String} (knows : question.KnowsAt parse met tree path) :
    (∃ fault store, contribution question lifetime tree path = .error fault ∧
        progress.file question tree path = (.error fault, store)) ∨
      ∃ taken next store, contribution question lifetime tree path = .ok taken ∧
        progress.file question tree path = (.ok next, store) ∧
        question.Trusts parse met next.store ∧ next.store.lifetime = lifetime ∧
        next.records = progress.records ++ findings question lifetime tree path ∧
        next.unreadable = progress.unreadable + (skips question lifetime tree path).toNat ∧
        next.matched = progress.matched + (hits question lifetime tree path).toNat := by
  obtain ⟨outcome, later, scanned, trustsLater, kept, result⟩ := file_eq distinct trusts knows
  rw [counted] at result kept
  cases contributes : contribution question lifetime tree path with
  | error fault =>
    rw [contributes] at result
    subst result
    exact .inl ⟨fault, later, rfl, scanned⟩
  | ok taken =>
    rw [contributes] at result
    obtain ⟨next, rfl, rfl, agree⟩ := result
    obtain ⟨records, unreadable, matched⟩ := progress.take_eq contributes
    exact .inr ⟨taken, next, next.store, rfl, scanned, trustsLater, kept,
      agree.records.trans records, agree.unreadable.trans unreadable, agree.matched.trans matched⟩

/-- A scan that comes to its end has taken what each file contributes. -/
theorem files_findings (distinct : Inquiry.Distinct met)
    (knows : ∀ path ∈ paths, question.KnowsAt parse met tree path) {progress final : Progress}
    (trusts : question.Trusts parse met progress.store) (counted : progress.store.lifetime = lifetime)
    (ends : (progress.files question tree paths).1 = .ok final) :
    (∀ path ∈ paths, ∃ taken, contribution question lifetime tree path = .ok taken) ∧
      final.records = progress.records ++ paths.flatMap (findings question lifetime tree) ∧
      final.unreadable = progress.unreadable + paths.countP (skips question lifetime tree) ∧
      final.matched = progress.matched + paths.countP (hits question lifetime tree) := by
  induction paths generalizing progress with
  | nil =>
    cases ends
    simp
  | cons path rest inductionHypothesis =>
    simp only [files] at ends
    obtain ⟨fault, store, -, failed⟩ | ⟨taken, next, store, contributes, scanned, trustsNext,
        countedNext, records, unreadable, matched⟩ :=
      file_findings distinct trusts counted (knows path List.mem_cons_self)
    · rw [failed] at ends
      cases ends
    · rw [scanned] at ends
      obtain ⟨passes, allRecords, allUnreadable, allMatched⟩ := inductionHypothesis
        (fun path member => knows path (List.mem_cons_of_mem _ member)) trustsNext countedNext ends
      refine ⟨List.forall_mem_cons.mpr ⟨⟨taken, contributes⟩, passes⟩, ?_, ?_, ?_⟩
      · rw [allRecords, records, List.flatMap_cons, List.append_assoc]
      · rw [allUnreadable, unreadable, List.countP_cons]
        cases skips question lifetime tree path <;> simp +arith
      · rw [allMatched, matched, List.countP_cons]
        cases hits question lifetime tree path <;> simp +arith

/-- A scan comes to its end if every file contributes. -/
theorem files_ends (distinct : Inquiry.Distinct met)
    (knows : ∀ path ∈ paths, question.KnowsAt parse met tree path) {progress : Progress}
    (trusts : question.Trusts parse met progress.store) (counted : progress.store.lifetime = lifetime)
    (passes : ∀ path ∈ paths, ∃ taken, contribution question lifetime tree path = .ok taken) :
    ∃ final, (progress.files question tree paths).1 = .ok final := by
  induction paths generalizing progress with
  | nil => exact ⟨progress, rfl⟩
  | cons path rest inductionHypothesis =>
    obtain ⟨fault, store, failed, -⟩ | ⟨taken, next, store, contributes, scanned, trustsNext,
        countedNext, -⟩ := file_findings distinct trusts counted (knows path List.mem_cons_self)
    · obtain ⟨taken, contributes⟩ := passes path List.mem_cons_self
      rw [failed] at contributes
      cases contributes
    · simp only [files, scanned]
      exact inductionHypothesis (fun path member => knows path (List.mem_cons_of_mem _ member))
        trustsNext countedNext fun path member => passes path (List.mem_cons_of_mem _ member)

end Progress

section Runs

/-- The records that are found in files, in the order of a sort key. -/
def foundIn (question : Question) (lifetime : Int) (tree : FileTree) (key : SortKey)
    (files : List (List String)) : List UsageRecord :=
  (files.flatMap (findings question lifetime tree)).mergeSort key.ordered

/-- What a report says on all usages that are found in files. -/
structure Summarises (question : Question) (lifetime : Int) (tree : FileTree) (key : SortKey)
    (files : List (List String)) (report : UsageReport) : Prop where
  usages : report.usages = foundIn question lifetime tree key files
  sorted : report.sorted = foundIn question lifetime tree key files
  filesScanned : report.filesScanned = files.length
  byType : report.statistics.byType =
    tally ((foundIn question lifetime tree key files).map fun record => .str record.usageType.label)

theorem isLocated_of_mem_flatMap (question : Question) (lifetime : Int) (tree : FileTree)
    (files : List (List String)) :
    ∀ record ∈ files.flatMap (findings question lifetime tree), record.IsLocated := by
  intro record member
  obtain ⟨path, -, found⟩ := List.mem_flatMap.mp member
  exact isLocated_of_mem_findings found

variable {parse : Bytes → Node} {met : Set Inquiry} {project : Project} {tree : FileTree}
  {target path : Json} {options : ScanOptions} {lifetime : Int} {store : Store} {plan : ScanPlan}
  {files : List (List String)}

/-- The scan of the files that a valid request leads to, from a written store. -/
theorem files_of_written (distinct : Inquiry.Distinct met)
    (written : Written parse met lifetime store)
    (covered : Covered parse met {} project tree target path options) (now : Int)
    (valid : options.validate target = .ok plan)
    (listed : filesUnder project tree path options.excludeVendor = .ok files) :
    (∀ path ∈ files, (question {} project now plan).KnowsAt parse met tree path) ∧
      (question {} project now plan).Trusts parse met
        (Progress.start (startStore options store)).store ∧
      (Progress.start (startStore options store)).store.lifetime = lifetime := by
  obtain ⟨honest, counted⟩ := written.honest distinct
  exact ⟨fun file member source read asked => covered.knows valid listed now member read asked,
    fun _ => startStore_honest honest options, (startStore_lifetime options store).trans counted⟩

theorem report_of_files (valid : options.validate target = .ok plan)
    (listed : filesUnder project tree path options.excludeVendor = .ok files) (now : Int) :
    (run project tree store now target path options).report =
      match ((Progress.start (startStore options store)).files (question {} project now plan) tree
        files).1 with
      | .error fault => .error fault
      | .ok final => final.report plan path options files.length := by
  simp only [run, runWith, valid, listed]
  cases ends : (Progress.start (startStore options store)).files (question {} project now plan) tree
      files with
  | mk outcome last => cases outcome <;> rfl

/-- A scan that succeeds has a valid request, and its files let it come to its end. -/
theorem completes_of_run (distinct : Inquiry.Distinct met)
    (written : Written parse met lifetime store)
    (covered : Covered parse met {} project tree target path options) {now : Int}
    {report : UsageReport}
    (succeeds : (run project tree store now target path options).report = .ok report) :
    ∃ plan files, options.validate target = .ok plan ∧
      filesUnder project tree path options.excludeVendor = .ok files ∧
      Completes (question {} project now plan) lifetime tree files := by
  cases valid : options.validate target with
  | error fault =>
    simp only [run, runWith, valid] at succeeds
    cases succeeds
  | ok plan =>
    cases listed : filesUnder project tree path options.excludeVendor with
    | error fault =>
      simp only [run, runWith, valid, listed] at succeeds
      cases succeeds
    | ok files =>
      rw [report_of_files valid listed] at succeeds
      obtain ⟨knows, trusts, counted⟩ := files_of_written distinct written covered now valid listed
      refine ⟨plan, files, rfl, rfl, ?_⟩
      split at succeeds
      · cases succeeds
      case h_2 final ends =>
        obtain ⟨passes, -, unreadable, -⟩ :=
          Progress.files_findings distinct knows trusts counted ends
        refine ⟨passes, ?_⟩
        by_contra noneReadable
        simp only [not_or, not_exists, not_and, Bool.not_eq_false] at noneReadable
        have all : files.countP (skips (question {} project now plan) lifetime tree) =
            files.length := List.countP_eq_length.mpr noneReadable.2
        have nonempty : files.length ≠ 0 := fun empty =>
          noneReadable.1 (List.eq_nil_of_length_eq_zero empty)
        have counts : final.unreadable = files.length := by
          rw [unreadable, all]
          exact Nat.zero_add _
        simp only [Progress.report, counts] at succeeds
        simp [nonempty] at succeeds

/-- A scan whose files let it come to its end succeeds, and reports a page of what is found in them. -/
theorem report_of_completes (distinct : Inquiry.Distinct met)
    (written : Written parse met lifetime store)
    (covered : Covered parse met {} project tree target path options) {now : Int}
    (valid : options.validate target = .ok plan)
    (listed : filesUnder project tree path options.excludeVendor = .ok files)
    (completes : Completes (question {} project now plan) lifetime tree files) :
    let found := foundIn (question {} project now plan) lifetime tree plan.sortKey files
    ∃ report, (run project tree store now target path options).report = .ok report ∧
      report.usages = page found plan.offset plan.limit ∧ report.sorted = found ∧
      report.filesScanned = files.length ∧
      report.statistics.byType = tally (found.map fun record => .str record.usageType.label) := by
  obtain ⟨knows, trusts, counted⟩ := files_of_written distinct written covered now valid listed
  obtain ⟨final, ends⟩ := Progress.files_ends distinct knows trusts counted completes.passes
  obtain ⟨-, records, unreadable, -⟩ := Progress.files_findings distinct knows trusts counted ends
  have someReadable : ¬ (files.length != 0 && final.unreadable == files.length) = true := by
    intro allUnreadable
    rw [Bool.and_eq_true, bne_iff_ne, beq_iff_eq, unreadable] at allUnreadable
    have all := List.countP_eq_length.mp ((Nat.zero_add _).symm.trans allUnreadable.2)
    rcases completes.readable with rfl | ⟨path, member, readable⟩
    · exact allUnreadable.1 rfl
    · rw [all path member] at readable
      cases readable
  obtain ⟨report, reported, shows⟩ :=
    UsageReport.ofRecords_eq plan options.groupByType files.length final.matched
      (isLocated_of_mem_flatMap (question {} project now plan) lifetime tree files)
  refine ⟨report, ?_, shows⟩
  have noneBefore : final.records =
      files.flatMap (findings (question {} project now plan) lifetime tree) :=
    records.trans (List.nil_append _)
  simp only [report_of_files valid listed, ends, Progress.report, someReadable, noneBefore]
  exact reported

/-- A scan for all usages whose files let it come to its end reports what is found in them. -/
theorem summarises_of_completes (distinct : Inquiry.Distinct met)
    (written : Written parse met lifetime store)
    (covered : Covered parse met {} project tree target path options) {now : Int}
    (valid : options.validate target = .ok plan) (unlimited : plan.limit = 0)
    (fromStart : plan.offset = 0)
    (listed : filesUnder project tree path options.excludeVendor = .ok files)
    (completes : Completes (question {} project now plan) lifetime tree files) :
    ∃ report, (run project tree store now target path options).report = .ok report ∧
      Summarises (question {} project now plan) lifetime tree plan.sortKey files report := by
  obtain ⟨report, reported, usages, sorted, scanned, byType⟩ :=
    report_of_completes distinct written covered valid listed completes
  rw [unlimited, fromStart, page_all] at usages
  exact ⟨report, reported, usages, sorted, scanned, byType⟩

/-- A scan for all usages that succeeds reports what is found in the files it leads to. -/
theorem summarises_of_run (distinct : Inquiry.Distinct met)
    (written : Written parse met lifetime store)
    (covered : Covered parse met {} project tree target path options)
    (unlimited : ∀ plan, options.validate target = .ok plan → plan.limit = 0 ∧ plan.offset = 0)
    {now : Int} {report : UsageReport}
    (succeeds : (run project tree store now target path options).report = .ok report) :
    ∃ plan files, options.validate target = .ok plan ∧
      filesUnder project tree path options.excludeVendor = .ok files ∧
      Completes (question {} project now plan) lifetime tree files ∧
      Summarises (question {} project now plan) lifetime tree plan.sortKey files report := by
  obtain ⟨plan, files, valid, listed, completes⟩ :=
    completes_of_run distinct written covered succeeds
  obtain ⟨noLimit, fromStart⟩ := unlimited plan valid
  obtain ⟨other, reported, summary⟩ :=
    summarises_of_completes distinct written covered valid noLimit fromStart listed completes
  obtain rfl : other = report := Except.ok.inj (reported.symm.trans succeeds)
  exact ⟨plan, files, valid, listed, completes, summary⟩

end Runs

theorem filesUnder_str (project : Project) (tree : FileTree) (path : String)
    (excludeVendor : Bool) :
    filesUnder project tree (.str path) excludeVendor =
      project.sourceFiles tree path true excludeVendor := by
  simp only [filesUnder, Json.pathText, bind, Except.bind]

theorem sampleTree_listed :
    filesUnder sampleProject sampleTree (.str "vendor") false = .ok [["app", "vendor", "a.php"]] :=
  eq_ok_of_toOption (by decide +kernel)

/-- A request that also looks into dependencies. -/
def sampleOptions : ScanOptions := { excludeVendor := false }

/-- The plan of such a request for usages of a class `A`. -/
def samplePlan (types : List UsageType) : ScanPlan := ⟨"A", types, .line, 0, 0⟩

theorem sampleTree_completes :
    Completes (question {} sampleProject 0 (samplePlan [])) 60 sampleTree
      [["app", "vendor", "a.php"]] := by
  decide +kernel

/-- The inquiry of such a request into the sample source. -/
def sampleInquiry (types : List UsageType) : Inquiry := ⟨sampleSource.bytes, "A", types⟩

/-- Scans of files that all hold the sample source make the inquiry of their plan and no other. -/
theorem covered_of_sources (project : Project) {tree : FileTree} {target : Json} (path : Json)
    {options : ScanOptions} {plan : ScanPlan} {met : Set Inquiry}
    (sources : ∀ entry ∈ tree.files, entry.2.source = sampleSource)
    (valid : options.validate target = .ok plan)
    (made : ⟨sampleSource.bytes, plan.target, plan.usageTypes⟩ ∈ met) :
    Covered (fun _ => sampleSource.root) met {} project tree target path options where
  parsed := fun entry member => by rw [sources entry member]
  within := by
    intro inquiry member
    obtain ⟨other, planned, entry, known, rfl⟩ := exists_file_of_mem_inquiries member
    obtain rfl := Except.ok.inj (valid.symm.trans planned)
    rw [sources entry known]
    exact made

end Scan

end ClassAtlas
