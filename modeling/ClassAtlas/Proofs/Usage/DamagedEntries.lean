import ClassAtlas.Proofs.Cache.Damage
import ClassAtlas.Proofs.Usage.Findings

/-!
Scans with a store whose texts have been replaced.

A scan reports as it would without the entries whose texts are discarded. Which texts these are is
known exactly: of all texts that do not list records, those that are not JSON and those that are null can
replace any stored text and no report changes. Any other such text changes the report of some scan: it
stops the scan, or its file counts as unreadable, or the usages in the file are lost.
-/

namespace ClassAtlas.Scan

variable {store other : Store}

theorem stored_readsAs (reads : store.ReadsAs other) (question : Question) (key : String) :
    (stored question store key).1 = (stored question other key).1 ∧
      (stored question store key).2.ReadsAs (stored question other key).2 := by
  rw [stored, stored]
  split
  · exact reads.get question.now key
  · exact ⟨rfl, reads⟩

/-- Stores that read alike give the same usages in a dependency file. -/
theorem vendorUsages_readsAs (reads : store.ReadsAs other) (question : Question) (source : Source) :
    ∃ outcome later otherLater tokenized,
      vendorUsages question store source = (outcome, later, tokenized) ∧
      vendorUsages question other source = (outcome, otherLater, tokenized) ∧
      later.ReadsAs otherLater := by
  obtain ⟨same, readsLater⟩ := stored_readsAs reads question
    (CacheKey.make source.bytes question.target (question.usageTypes.map UsageType.label))
  rw [vendorUsages, vendorUsages]
  revert same readsLater
  generalize stored question store _ = first
  generalize stored question other _ = second
  obtain ⟨firstResult, firstStore⟩ := first
  obtain ⟨secondResult, secondStore⟩ := second
  rintro rfl readsLater
  rcases firstResult with fault | none | value
  case error => exact ⟨_, _, _, _, rfl, rfl, readsLater⟩
  case ok.some => exact ⟨_, _, _, _, rfl, rfl, readsLater⟩
  case ok.none =>
    dsimp only
    obtain ⟨fault, failed, otherFailed⟩ | ⟨later, otherLater, put, otherPut, readsPut⟩ :=
      readsLater.put question.now
        (CacheKey.make source.bytes question.target (question.usageTypes.map UsageType.label))
        (storedValue (source.usages question.target question.usageTypes))
    · rw [failed, otherFailed]
      exact ⟨_, _, _, _, rfl, rfl, readsLater⟩
    · rw [put, otherPut]
      exact ⟨_, _, _, _, rfl, rfl, readsPut⟩

namespace Progress

/-- A scan with another store in place of its own. -/
def withStore (progress : Progress) (store : Store) : Progress := { progress with store := store }

theorem withStore_add (progress : Progress) (store : Store) (question : Question)
    (path : List String) (records : List UsageRecord) :
    (progress.withStore store).add question path records =
      (progress.add question path records).withStore store := by
  rw [add, add]
  split <;> rfl

/-- One file: stores that read alike lead to the same outcome, and read alike afterwards. -/
theorem file_readsAs {progress : Progress} (reads : progress.store.ReadsAs other)
    (question : Question) (tree : FileTree) (path : List String) :
    (∃ fault later otherLater, progress.file question tree path = (.error fault, later) ∧
      (progress.withStore other).file question tree path = (.error fault, otherLater)) ∨
    ∃ next later otherLater, progress.file question tree path = (.ok next, later) ∧
      (progress.withStore other).file question tree path =
        (.ok (next.withStore otherLater), otherLater) ∧ next.store.ReadsAs otherLater := by
  rw [file, file]
  cases tree.readSource (.absolute path) with
  | error fault => exact .inr ⟨_, _, other, rfl, rfl, reads⟩
  | ok source =>
    dsimp only
    split
    · exact .inr ⟨_, _, other, rfl, rfl, reads⟩
    split
    case isFalse =>
      refine .inr ⟨_, _, other, rfl, ?_, by rwa [add_store]⟩
      rw [← withStore_add]
      rfl
    case isTrue =>
      obtain ⟨outcome, later, otherLater, tokenized, found, otherFound, readsLater⟩ :=
        vendorUsages_readsAs reads question source
      have otherFound : vendorUsages question (progress.withStore other).store source =
        (outcome, otherLater, tokenized) := otherFound
      rw [found, otherFound]
      cases outcome with
      | ok records =>
        refine .inr ⟨_, _, otherLater, rfl, ?_, by rwa [add_store]⟩
        rw [← withStore_add]
        rfl
      | error fault =>
        dsimp only
        split
        · exact .inr ⟨_, _, otherLater, rfl, rfl, readsLater⟩
        · exact .inl ⟨fault, later, otherLater, rfl, rfl⟩

/-- A whole scan: stores that read alike lead to the same outcome. -/
theorem files_readsAs {progress : Progress} (reads : progress.store.ReadsAs other)
    (question : Question) (tree : FileTree) (paths : List (List String)) :
    ∃ last, ((progress.withStore other).files question tree paths).1 =
      (progress.files question tree paths).1.map (·.withStore last) := by
  induction paths generalizing progress other with
  | nil => exact ⟨other, rfl⟩
  | cons path rest inductionHypothesis =>
    obtain ⟨fault, later, otherLater, failed, otherFailed⟩ | ⟨next, later, otherLater, scanned,
      otherScanned, readsNext⟩ := file_readsAs reads question tree path
    · refine ⟨other, ?_⟩
      simp only [files, failed, otherFailed]
      rfl
    · simp only [files, scanned, otherScanned]
      exact inductionHypothesis readsNext

end Progress

section Reports

variable (project : Project) (tree : FileTree) (now : Int) (target path : Json)
  (options : ScanOptions)

theorem startStore_readsAs (reads : store.ReadsAs other) :
    (startStore options store).ReadsAs (startStore options other) := by
  rw [startStore, startStore]
  split
  · exact reads.invalidateAll
  · exact reads

/-- Scans with stores that read alike report the same. -/
theorem report_readsAs (reads : store.ReadsAs other) :
    (run project tree store now target path options).report =
      (run project tree other now target path options).report := by
  cases valid : options.validate target with
  | error fault => simp [run, runWith, valid]
  | ok plan =>
    cases listed : filesUnder project tree path options.excludeVendor with
    | error fault => simp [run, runWith, valid, listed]
    | ok files =>
      have startReads : (Progress.start (startStore options store)).store.ReadsAs
          (startStore options other) := startStore_readsAs options reads
      obtain ⟨last, same⟩ :=
        Progress.files_readsAs startReads (question {} project now plan) tree files
      have started : (Progress.start (startStore options store)).withStore (startStore options other) =
          .start (startStore options other) := rfl
      rw [started] at same
      rw [report_of_files valid listed, report_of_files valid listed, same]
      cases ((Progress.start (startStore options store)).files (question {} project now plan) tree
        files).1 <;> rfl

/-- What is left of a store that scans have written gives the report of an empty one. -/
theorem report_without_of_written {parse : Bytes → Node} {met : Set Inquiry}
    (distinct : Inquiry.Distinct met) {lifetime : Int} (written : Written parse met lifetime store)
    (covered : Covered parse met {} project tree target path options)
    (damage : String → Option String) :
    (run project tree (store.without damage) now target path options).report =
      (run project tree (.empty store.lifetime) now target path options).report := by
  have honest : (store.without damage).Honest parse met :=
    (written.honest distinct).1.of_subset rfl List.filter_sublist.subset
  have same : (run project tree (store.without damage) now target path options).report =
        (run project tree (.empty store.lifetime) now target path options).report ∨
      ∃ fault, (run project tree (store.without damage) now target path options).report =
        .error fault ∧ False :=
    runWith_report distinct {} {} (fun _ => covered) (fun _ => covered)
      (fun _ _ _ _ _ _ => .inl rfl) rfl (fun _ => honest) fun _ => Store.empty_honest parse met _
  rcases same with same | ⟨fault, -, impossible⟩
  · exact same
  · cases impossible

end Reports

/-- Whether a text lists records that can be decoded: each has the fields that it needs and a usage type.
What the other fields hold is not looked at. -/
def ListsRecords (text : String) : Prop :=
  ∃ items, Json.parse text = .ok (.list items) ∧
    ∀ item ∈ items, ∃ record, UsageRecord.ofJson item = .ok record

/-- Whether stored texts may be replaced by given ones without consequences: with any store that scans
have written, or all of whose texts are replaced, every scan reports what it reports with an empty
store. -/
def Harmless (texts : Set String) : Prop :=
  ∀ (project : Project) (tree : FileTree) (store : Store) (damage : String → Option String) (now : Int)
    (target path : Json) (options : ScanOptions),
    (∀ key text, damage key = some text → text ∈ texts) →
    (∀ entry ∈ store.entries, (damage entry.1).isSome = true) ∨
      (∃ parse met lifetime, Inquiry.Distinct met ∧ Written parse met lifetime store ∧
        Covered parse met {} project tree target path options) →
    (run project tree (store.damagedBy damage) now target path options).report =
      (run project tree (.empty store.lifetime) now target path options).report

theorem harmless_of_discarded {texts : Set String}
    (discarded : ∀ text ∈ texts, Store.IsDiscarded text) : Harmless texts := by
  intro project tree store damage now target path options given kept
  have givenDiscarded : ∀ key text, damage key = some text → Store.IsDiscarded text :=
    fun key text isGiven => discarded text (given key text isGiven)
  rcases kept with all | ⟨parse, met, lifetime, distinct, written, covered⟩
  · exact report_readsAs project tree now target path options
      (Store.readsAs_empty givenDiscarded all)
  · rw [report_readsAs project tree now target path options
      (Store.readsAs_without givenDiscarded)]
    exact report_without_of_written project tree now target path options distinct written covered damage

theorem mapM_ofJson_ok {items : List Json} {records : List UsageRecord}
    (read : items.mapM UsageRecord.ofJson = .ok records) :
    (items = [] → records = []) ∧ ∀ item ∈ items, ∃ record, UsageRecord.ofJson item = .ok record := by
  induction items generalizing records with
  | nil =>
    cases read
    simp
  | cons item rest inductionHypothesis =>
    rw [List.mapM_cons] at read
    cases first : UsageRecord.ofJson item with
    | error fault =>
      rw [first] at read
      cases read
    | ok record =>
      cases others : rest.mapM UsageRecord.ofJson with
      | error fault =>
        rw [first, others] at read
        cases read
      | ok more =>
        refine ⟨fun impossible => (List.cons_ne_nil _ _ impossible).elim, ?_⟩
        exact List.forall_mem_cons.mpr ⟨⟨record, first⟩, (inductionHypothesis others).2⟩

/-- A value from which records are read lists them, or gives no record at all. -/
theorem eq_nil_or_list_of_storedRecords {value : Json} {records : List UsageRecord}
    (read : storedRecords value = .ok records) :
    records = [] ∨ ∃ items, value = .list items ∧
      ∀ item ∈ items, ∃ record, UsageRecord.ofJson item = .ok record := by
  rw [storedRecords] at read
  cases listed : value.listed with
  | error fault =>
    rw [listed] at read
    cases read
  | ok items =>
    rw [listed] at read
    obtain ⟨none, each⟩ := mapM_ofJson_ok read
    -- The keys of an object and the characters of a text are texts, and no record is read from a text.
    have noTexts : (∀ item ∈ items, ∃ text, item = .str text) → items = [] := by
      intro texts
      refine List.eq_nil_iff_forall_not_mem.mpr fun item member => ?_
      obtain ⟨text, rfl⟩ := texts item member
      obtain ⟨record, impossible⟩ := each _ member
      cases impossible
    cases value with
    | list own =>
      cases listed
      exact .inr ⟨items, rfl, each⟩
    | object members =>
      cases listed
      exact .inl (none (noTexts (List.forall_mem_map.mpr fun _ _ => ⟨_, rfl⟩)))
    | str text =>
      cases listed
      exact .inl (none (noTexts (List.forall_mem_map.mpr fun _ _ => ⟨_, rfl⟩)))
    | null => cases listed
    | bool => cases listed
    | int => cases listed
    | real => cases listed

theorem Progress.length_records_add (progress : Progress) (question : Question) (path : List String)
    (records : List UsageRecord) :
    (progress.add question path records).records.length =
      progress.records.length + records.length := by
  rw [add]
  split
  case isTrue empty => simp [List.isEmpty_iff.mp empty]
  case isFalse => simp

/-- A report counts all records of the scan. -/
theorem Progress.totalUsages_of_report {progress : Progress} {plan : ScanPlan} {path : Json}
    {options : ScanOptions} {files : Nat} {report : UsageReport}
    (reported : progress.report plan path options files = .ok report) :
    report.totalUsages = progress.records.length := by
  rw [Progress.report] at reported
  split at reported
  · cases reported
  rw [UsageReport.ofRecords] at reported
  cases sorted : sortUsages progress.records plan.sortKey with
  | error fault =>
    rw [sorted] at reported
    cases reported
  | ok ordered =>
    cases counted : UsageStatistics.ofRecords ordered with
    | error fault =>
      simp only [sorted, counted, bind, Except.bind] at reported
      cases reported
    | ok statistics =>
      simp only [sorted, counted, bind, Except.bind] at reported
      cases reported
      rw [sortUsages] at sorted
      split at sorted
      · cases sorted
        exact List.length_mergeSort progress.records
      · cases sorted

/-- Usages in a dependency file for which a text is stored are read from the text, unless it is
discarded. -/
theorem isDiscarded_or_read_of_vendorUsages {question : Question} {source : Source} {text : String}
    {expiresAt : Int} {records : List UsageRecord} (reuse : question.shortcuts.reuse = true)
    (held : store.entries.lookup (CacheKey.make source.bytes question.target
      (question.usageTypes.map UsageType.label)) = some ⟨text, expiresAt⟩)
    (live : ¬ expiresAt ≤ question.now)
    (found : (vendorUsages question store source).1 = .ok records) :
    Store.IsDiscarded text ∨ ∃ value, Json.parse text = .ok value ∧ storedRecords value = .ok records := by
  simp only [vendorUsages, stored, reuse, if_true, Store.get, held, live, if_false] at found
  cases parsed : Json.parse text with
  | error cause =>
    cases cause with
    | malformed => exact .inl (.inl parsed)
    | longInteger digits =>
      simp only [parsed] at found
      cases found
    | tooNested =>
      simp only [parsed] at found
      cases found
  | ok value =>
    simp only [parsed] at found
    cases value with
    | null => exact .inl (.inr parsed)
    | _ => exact .inr ⟨_, rfl, found⟩

/-- A store with one entry, which a scan of the sample asks for. -/
def sampleStore : Store :=
  ⟨60, [((sampleInquiry []).key, ⟨"", 60⟩)], [(sampleInquiry []).key]⟩

/-- The report of a scan of the sample with a store. -/
def sampleReport (store : Store) : Except Fault UsageReport :=
  (run sampleProject sampleTree store 0 (.str "A") (.str "vendor") sampleOptions.unlimited).report

theorem sampleReport_empty :
    (sampleReport (.empty 60)).toOption.map (·.totalUsages) = some 1 := by
  have distinct : Inquiry.Distinct {sampleInquiry []} := .of_subsingleton Set.subsingleton_singleton
  have sources : ∀ entry ∈ sampleTree.files, entry.2.source = sampleSource := by
    simp [sampleTree]
  have valid : sampleOptions.unlimited.validate (.str "A") = .ok (samplePlan []) := rfl
  have covered := covered_of_sources sampleProject (.str "vendor") sources valid
    (Set.mem_singleton (sampleInquiry []))
  obtain ⟨report, reported, summary⟩ := summarises_of_completes distinct .empty covered valid rfl rfl
    sampleTree_listed sampleTree_completes
  have one : report.totalUsages = 1 := by
    rw [UsageReport.totalUsages, summary.sorted, foundIn, List.length_mergeSort]
    decide +kernel
  rw [sampleReport, reported]
  exact congrArg some one

/-- The question that a scan of the sample puts to its file. -/
def sampleQuestion : Question := question {} sampleProject 0 (samplePlan [])

/-- The report of a scan of the sample, read off the usages in its only file. -/
theorem sampleReport_eq (store : Store) :
    (∃ fault, sampleReport store = .error fault) ∨
      ∃ records, (vendorUsages sampleQuestion store sampleSource).1 = .ok records ∧
        (sampleReport store).toOption.map (·.totalUsages) = some records.length := by
  have valid : sampleOptions.unlimited.validate (.str "A") = .ok (samplePlan []) := rfl
  have read : sampleTree.readSource (.absolute ["app", "vendor", "a.php"]) = .ok sampleSource := rfl
  have mentioned : mentions sampleSource sampleQuestion.target = true := by decide +kernel
  have vendor : sampleQuestion.project.isVendor (.absolute ["app", "vendor", "a.php"])
      ["app", "vendor", "a.php"] = true := by decide +kernel
  have kept : startStore sampleOptions.unlimited store = store := rfl
  have asked : question {} sampleProject 0 (samplePlan []) = sampleQuestion := rfl
  rcases found : vendorUsages sampleQuestion store sampleSource with ⟨outcome, later, tokenized⟩
  have started : (Progress.start store).store = store := rfl
  rw [sampleReport, report_of_files valid sampleTree_listed, kept, asked]
  simp only [Progress.files, Progress.file, read, mentioned, vendor, started, found, Bool.not_true,
    Bool.and_false, Bool.false_eq_true, if_false, if_true]
  cases outcome with
  | error fault =>
    cases bad : fault.isBadValue with
    | true =>
      simp only [bad, if_true]
      exact .inl ⟨_, rfl⟩
    | false =>
      simp only [bad, Bool.false_eq_true, if_false]
      exact .inl ⟨fault, rfl⟩
  | ok records =>
    let final := Progress.add ⟨later, 0, 0, 0 + tokenized.toNat, []⟩ sampleQuestion
      ["app", "vendor", "a.php"] records
    have counted : final.records.length = records.length :=
      (Progress.length_records_add _ _ _ records).trans (Nat.zero_add _)
    cases reported : final.report (samplePlan []) (.str "vendor") sampleOptions.unlimited 1 with
    | error fault => exact .inl ⟨fault, reported⟩
    | ok report =>
      have total : report.totalUsages = records.length :=
        (Progress.totalUsages_of_report reported).trans counted
      have shown := congrArg (fun outcome => outcome.toOption.map (·.totalUsages)) reported
      exact .inr ⟨records, rfl, shown.trans (congrArg some total)⟩

/-- With a text that lists no records, the report on the sample stays the same only if the text is
discarded. -/
theorem isDiscarded_of_sampleReport {text : String} (foreign : ¬ ListsRecords text)
    (same : sampleReport (sampleStore.overwriteAll text) = sampleReport (.empty 60)) :
    Store.IsDiscarded text := by
  have fresh := sampleReport_empty
  rw [← same] at fresh
  obtain ⟨fault, failed⟩ | ⟨records, found, counted⟩ :=
    sampleReport_eq (sampleStore.overwriteAll text)
  · rw [failed] at fresh
    cases fresh
  have one : records.length = 1 := by
    rw [counted] at fresh
    exact Option.some.inj fresh
  have key : (sampleStore.overwriteAll text).entries.lookup (CacheKey.make sampleSource.bytes
      sampleQuestion.target (sampleQuestion.usageTypes.map UsageType.label)) = some ⟨text, 60⟩ :=
    List.lookup_cons_self
  have live : ¬ (60 : Int) ≤ sampleQuestion.now := by decide
  obtain discarded | ⟨value, parsed, read⟩ := isDiscarded_or_read_of_vendorUsages rfl key live found
  · exact discarded
  · obtain rfl | ⟨items, rfl, each⟩ := eq_nil_or_list_of_storedRecords read
    · cases one
    · exact absurd ⟨items, parsed, each⟩ foreign

theorem isDiscarded_of_harmless {texts : Set String} (harmless : Harmless texts) {text : String}
    (member : text ∈ texts) (foreign : ¬ ListsRecords text) : Store.IsDiscarded text := by
  have given : ∀ key other, (fun _ => some text : String → Option String) key = some other →
      other ∈ texts := by
    rintro key other same
    cases same
    exact member
  have same := harmless sampleProject sampleTree sampleStore (fun _ => some text) 0 (.str "A")
    (.str "vendor") sampleOptions.unlimited given (.inl fun _ _ => rfl)
  have lifetime : sampleStore.lifetime = 60 := rfl
  rw [← Store.overwriteAll_eq_damagedBy, lifetime] at same
  refine isDiscarded_of_sampleReport foreign ?_
  rw [sampleReport, sampleReport]
  exact same

/-- Texts that list no records may replace stored texts if and only if all of them are discarded: they
are not JSON, or they are null. -/
theorem harmless_iff_discarded (texts : Set String) (foreign : ∀ text ∈ texts, ¬ ListsRecords text) :
    Harmless texts ↔ ∀ text ∈ texts, Store.IsDiscarded text := by
  constructor
  · exact fun harmless text member => isDiscarded_of_harmless harmless member (foreign text member)
  · exact harmless_of_discarded

/-- A text that breaks off, and null. -/
def unreadableTexts : Set String := {"[1,", "null"}

theorem not_listsRecords_of_mem_unreadableTexts :
    ∀ text ∈ unreadableTexts, Store.IsDiscarded text ∧ ¬ ListsRecords text := by
  have broken : Json.parse "[1," = .error .malformed := rfl
  have null : Json.parse "null" = .ok .null := rfl
  rintro text (rfl | rfl)
  · refine ⟨.inl broken, ?_⟩
    rintro ⟨items, parsed, -⟩
    rw [broken] at parsed
    cases parsed
  · refine ⟨.inr null, ?_⟩
    rintro ⟨items, parsed, -⟩
    rw [null] at parsed
    cases parsed

theorem harmless_iff_discarded_unreadable :
    (∀ text ∈ unreadableTexts, ¬ ListsRecords text) ∧ Harmless unreadableTexts := by
  have foreign := fun text member => (not_listsRecords_of_mem_unreadableTexts text member).2
  refine ⟨foreign, (harmless_iff_discarded unreadableTexts foreign).mpr ?_⟩
  exact fun text member => (not_listsRecords_of_mem_unreadableTexts text member).1

theorem not_harmless_of_parse {text : String} {value : Json} (parsed : Json.parse text = .ok value)
    (given : value ≠ .null) (foreign : ¬ ListsRecords text) : ¬ Harmless {text} := by
  intro harmless
  rcases isDiscarded_of_harmless harmless rfl foreign with malformed | null
  · rw [parsed] at malformed
    cases malformed
  · rw [parsed] at null
    exact given (Except.ok.inj null)

/-- An object without members, and a list of one such object: the first loses the usages of its file,
and the second stops the scan. -/
theorem not_harmless_wrong_shapes :
    (¬ ListsRecords "\x7b\x7d" ∧ ¬ Harmless {"\x7b\x7d"}) ∧
      ¬ ListsRecords "[\x7b\x7d]" ∧ ¬ Harmless {"[\x7b\x7d]"} := by
  have empty : Json.parse "\x7b\x7d" = .ok (.object []) := rfl
  have noFields : Json.parse "[\x7b\x7d]" = .ok (.list [.object []]) := rfl
  constructor
  · have foreign : ¬ ListsRecords "\x7b\x7d" := by
      rintro ⟨items, parsed, -⟩
      rw [empty] at parsed
      cases parsed
    exact ⟨foreign, not_harmless_of_parse empty (fun null => nomatch null) foreign⟩
  · have foreign : ¬ ListsRecords "[\x7b\x7d]" := by
      rintro ⟨items, parsed, each⟩
      rw [noFields] at parsed
      cases parsed
      obtain ⟨record, read⟩ := each _ List.mem_cons_self
      cases read
    exact ⟨foreign, not_harmless_of_parse noFields (fun null => nomatch null) foreign⟩

end ClassAtlas.Scan
