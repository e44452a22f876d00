import ClassAtlas.Proofs.Files.Reading
import ClassAtlas.Proofs.Usage.StoredAnswers

/-!
Scans that differ in their shortcuts agree.

What a file contributes to a scan is settled by the file, the question and the lifetime of stored
values: not by what is stored, as long as the store is honest. Two scans whose files contribute the same
therefore report the same.
-/

namespace ClassAtlas.Scan

/-- The inquiry that a question makes of a source. -/
def Question.inquiry (question : Question) (source : Source) : Inquiry :=
  ⟨source.bytes, question.target, question.usageTypes⟩

theorem Question.inquiry_key (question : Question) (source : Source) :
    (question.inquiry source).key =
      CacheKey.make source.bytes question.target (question.usageTypes.map UsageType.label) := rfl

/-- Whether a scan looks for the stored result of a file: one of a dependency that is not passed
over. -/
def asks (shortcuts : Shortcuts) (project : Project) (target : String) (path : List String)
    (source : Source) : Bool :=
  (!shortcuts.prefilter || mentions source target) && project.isVendor (.absolute path) path

/-- What is known of a source whose stored result may be used: its syntax tree is that of its content,
and the inquiry is among those that digests tell apart. -/
def Question.Knows (question : Question) (parse : Bytes → Node) (inquiries : Set Inquiry)
    (source : Source) : Prop :=
  question.shortcuts.reuse = true →
    source.root = parse source.bytes ∧ question.inquiry source ∈ inquiries

/-- Whether a source is known when its stored result is looked for. -/
def Question.KnowsAt (question : Question) (parse : Bytes → Node) (inquiries : Set Inquiry)
    (tree : FileTree) (path : List String) : Prop :=
  ∀ source, tree.readSource (.absolute path) = .ok source →
    asks question.shortcuts question.project question.target path source = true →
      question.Knows parse inquiries source

/-- Whether stored results, if they are used, are right. -/
def Question.Trusts (question : Question) (parse : Bytes → Node) (inquiries : Set Inquiry)
    (store : Store) : Prop :=
  question.shortcuts.reuse = true → store.Honest parse inquiries

/-- What the usages in a dependency file come to when they are stored for a lifetime. -/
def storedUsages (lifetime : Int) (records : List UsageRecord) : Except Fault (List UsageRecord) :=
  match Store.refusal? lifetime (storedValue records) with
  | some fault => .error fault
  | none => .ok records

section Vendor

variable {parse : Bytes → Node} {inquiries : Set Inquiry} {question : Question} {store : Store}
  {source : Source}

theorem Question.Knows.answer (knows : question.Knows parse inquiries source)
    (reuse : question.shortcuts.reuse = true) :
    (question.inquiry source).answer parse = source.usages question.target question.usageTypes := by
  rw [Inquiry.answer, Question.inquiry, ← (knows reuse).1]

/-- What is stored under the key of an inquiry: nothing, or the answer, which can then be stored. -/
theorem stored_eq (distinct : Inquiry.Distinct inquiries)
    (trusts : question.Trusts parse inquiries store) (knows : question.Knows parse inquiries source) :
    ∃ later : Store, question.Trusts parse inquiries later ∧ later.lifetime = store.lifetime ∧
      (stored question store (question.inquiry source).key = (.ok none, later) ∨
        stored question store (question.inquiry source).key =
            (.ok (some (storedValue (source.usages question.target question.usageTypes))), later) ∧
          Store.refusal? store.lifetime
            (storedValue (source.usages question.target question.usageTypes)) = none) := by
  cases reuse : question.shortcuts.reuse with
  | false => exact ⟨store, trusts, rfl, .inl (by simp [stored, reuse])⟩
  | true =>
    obtain ⟨later, honest, lifetime, got⟩ :=
      (trusts reuse).get distinct (knows reuse).2 question.now
    rw [knows.answer reuse] at got
    refine ⟨later, fun _ => honest, lifetime, ?_⟩
    simpa [stored, reuse] using got

/-- The usages in a dependency file do not depend on what is stored. -/
theorem vendorUsages_eq (distinct : Inquiry.Distinct inquiries)
    (trusts : question.Trusts parse inquiries store) (knows : question.Knows parse inquiries source) :
    ∃ later tokenized, vendorUsages question store source =
        (storedUsages store.lifetime (source.usages question.target question.usageTypes), later,
          tokenized) ∧
      question.Trusts parse inquiries later ∧ later.lifetime = store.lifetime := by
  obtain ⟨between, trustsBetween, lifetime, missing | ⟨hit, storable⟩⟩ :=
    stored_eq distinct trusts knows
  · rw [Question.inquiry_key] at missing
    simp only [vendorUsages, missing]
    have shallow : (storedValue (source.usages question.target question.usageTypes)).nesting ≤
        Json.maxDepth := nesting_storedValue_le fun _ => isFound_of_mem_findUsages
    obtain ⟨fault, refused, failed⟩ | ⟨later, expiresAt, storable, accepted, kept, -⟩ :=
      between.put_eq question.now (question.inquiry source).key shallow
    · rw [lifetime] at refused
      rw [Question.inquiry_key] at failed
      refine ⟨between, true, ?_, trustsBetween, lifetime⟩
      simp only [failed, storedUsages, refused]
    · rw [lifetime] at storable
      refine ⟨later, true, ?_, ?_, kept.trans lifetime⟩
      · rw [Question.inquiry_key] at accepted
        simp only [accepted, storedUsages, storable]
      · intro reuse
        rw [← knows.answer reuse] at accepted
        exact ((trustsBetween reuse).put (knows reuse).2 accepted).1
  · rw [Question.inquiry_key] at hit
    refine ⟨between, false, ?_, trustsBetween, lifetime⟩
    simp only [vendorUsages, hit, storedRecords_storedValue, storedUsages, storable]

end Vendor

/-- What a file contributes to a scan: records, or that it cannot be read or analysed. -/
def contribution (question : Question) (lifetime : Int) (tree : FileTree) (path : List String) :
    Except Fault (Option (List UsageRecord)) :=
  match tree.readSource (.absolute path) with
  | .error _ => .ok none
  | .ok source =>
    if question.shortcuts.prefilter && !mentions source question.target then .ok (some [])
    else
      let records := source.usages question.target question.usageTypes
      if question.project.isVendor (.absolute path) path then
        match storedUsages lifetime records with
        | .ok records => .ok (some records)
        | .error fault => if fault.isBadValue then .ok none else .error fault
      else .ok (some records)

/-- A scan after the contribution of a file, which leaves the store aside. -/
def Progress.take (progress : Progress) (question : Question) (path : List String) :
    Option (List UsageRecord) → Progress
  | none => { progress with unreadable := progress.unreadable + 1 }
  | some records => progress.add question path records

/-- Whether two scans have found the same, with stores of one lifetime. -/
structure Progress.Agree (first second : Progress) : Prop where
  lifetime : first.store.lifetime = second.store.lifetime
  unreadable : first.unreadable = second.unreadable
  matched : first.matched = second.matched
  records : first.records = second.records

namespace Progress

theorem Agree.refl (progress : Progress) : progress.Agree progress := ⟨rfl, rfl, rfl, rfl⟩

theorem Agree.symm {first second : Progress} (agree : first.Agree second) : second.Agree first :=
  ⟨agree.lifetime.symm, agree.unreadable.symm, agree.matched.symm, agree.records.symm⟩

theorem Agree.trans {first second third : Progress} (agree : first.Agree second)
    (next : second.Agree third) : first.Agree third :=
  ⟨agree.lifetime.trans next.lifetime, agree.unreadable.trans next.unreadable,
    agree.matched.trans next.matched, agree.records.trans next.records⟩

@[simp] theorem add_store (progress : Progress) (question : Question) (path : List String)
    (records : List UsageRecord) : (progress.add question path records).store = progress.store := by
  rw [add]
  split <;> rfl

/-- The same contribution keeps scans in agreement; of the question only the project counts. -/
theorem Agree.take {first second : Progress} (agree : first.Agree second)
    {question other : Question} (project : question.project = other.project) (path : List String)
    (taken : Option (List UsageRecord)) :
    (first.take question path taken).Agree (second.take other path taken) := by
  cases taken with
  | none =>
    exact ⟨agree.lifetime, by simp [Progress.take, agree.unreadable], agree.matched, agree.records⟩
  | some records =>
    simp only [Progress.take, add, project]
    split
    · exact agree
    · exact ⟨agree.lifetime, agree.unreadable, by simp [agree.matched], by simp [agree.records]⟩

variable {parse : Bytes → Node} {inquiries : Set Inquiry} {question : Question} {tree : FileTree}

/-- Scanning a file takes its contribution, whatever is stored. -/
theorem file_eq (distinct : Inquiry.Distinct inquiries) {progress : Progress}
    (trusts : question.Trusts parse inquiries progress.store) {path : List String}
    (knows : question.KnowsAt parse inquiries tree path) :
    ∃ outcome later, progress.file question tree path = (outcome, later) ∧
      question.Trusts parse inquiries later ∧ later.lifetime = progress.store.lifetime ∧
      match contribution question progress.store.lifetime tree path with
      | .error fault => outcome = .error fault
      | .ok taken => ∃ next, outcome = .ok next ∧ next.store = later ∧
          next.Agree (progress.take question path taken) := by
  rw [Progress.file, contribution]
  cases read : tree.readSource (.absolute path) with
  | error fault => exact ⟨_, _, rfl, trusts, rfl, _, rfl, rfl, Agree.refl _⟩
  | ok source =>
    simp only
    split
    case isTrue => exact ⟨_, _, rfl, trusts, rfl, _, rfl, rfl, Agree.refl _⟩
    case isFalse close =>
      split
      case isFalse =>
        refine ⟨_, _, rfl, trusts, rfl, _, rfl, by simp, ?_⟩
        have moved : Agree { progress with tokenized := progress.tokenized + 1 } progress :=
          ⟨rfl, rfl, rfl, rfl⟩
        exact moved.take rfl path (some _)
      case isTrue vendor =>
        have asked : asks question.shortcuts question.project question.target path source = true := by
          rw [asks, vendor]
          revert close
          cases question.shortcuts.prefilter <;> cases mentions source question.target <;> decide
        obtain ⟨later, tokenized, found, trustsLater, lifetime⟩ :=
          vendorUsages_eq distinct trusts (knows source read asked)
        have moved : Agree { progress with
            store := later, tokenized := progress.tokenized + tokenized.toNat } progress :=
          ⟨lifetime, rfl, rfl, rfl⟩
        simp only [found]
        cases storedUsages progress.store.lifetime
            (source.usages question.target question.usageTypes) with
        | ok records =>
          exact ⟨_, _, rfl, trustsLater, lifetime, _, rfl, by simp, moved.take rfl path (some records)⟩
        | error fault =>
          simp only
          split
          · have taken := moved.take (rfl : question.project = question.project) path none
            exact ⟨_, _, rfl, trustsLater, lifetime, _, rfl, rfl, taken⟩
          · exact ⟨_, _, rfl, trustsLater, lifetime, rfl⟩

/-- Two outcomes of scans agree, or the first is a fault that is excused. -/
def Matches (excused : Fault → Prop) :
    Except Fault Progress → Except Fault Progress → Prop
  | .ok first, .ok second => first.Agree second
  | .error fault, .error other => fault = other ∨ excused fault
  | .error fault, .ok _ => excused fault
  | .ok _, .error _ => False

theorem matches_excused {excused : Fault → Prop} {fault : Fault} (excuse : excused fault)
    (outcome : Except Fault Progress) : Matches excused (.error fault) outcome := by
  cases outcome with
  | ok progress => exact excuse
  | error other => exact .inr excuse

/-- Scans of the same files take the same contributions, up to a fault that is excused. -/
theorem files_match (distinct : Inquiry.Distinct inquiries) {other : Question}
    (project : question.project = other.project) {lifetime : Int} {excused : Fault → Prop}
    {paths : List (List String)}
    (knows : ∀ path ∈ paths, question.KnowsAt parse inquiries tree path)
    (otherKnows : ∀ path ∈ paths, other.KnowsAt parse inquiries tree path)
    (contributions : ∀ path ∈ paths,
      contribution question lifetime tree path = contribution other lifetime tree path ∨
        ∃ fault, contribution question lifetime tree path = .error fault ∧ excused fault)
    {first second : Progress} (agree : first.Agree second) (counted : first.store.lifetime = lifetime)
    (trusts : question.Trusts parse inquiries first.store)
    (otherTrusts : other.Trusts parse inquiries second.store) :
    Matches excused (first.files question tree paths).1 (second.files other tree paths).1 := by
  induction paths generalizing first second with
  | nil => exact agree
  | cons path rest inductionHypothesis =>
    obtain ⟨outcome, later, scanned, trustsLater, kept, result⟩ :=
      file_eq distinct trusts (knows path List.mem_cons_self)
    obtain ⟨otherOutcome, otherLater, otherScanned, otherTrustsLater, otherKept, otherResult⟩ :=
      file_eq distinct otherTrusts (otherKnows path List.mem_cons_self)
    rw [counted] at result kept
    rw [← agree.lifetime, counted] at otherResult otherKept
    simp only [files, scanned, otherScanned]
    -- Both scans go on only if the file adds the same to both; an excused fault ends the first.
    rcases contributions path List.mem_cons_self with same | ⟨fault, failed, excuse⟩
    · rw [same] at result
      cases taken : contribution other lifetime tree path with
      | error fault =>
        rw [taken] at result otherResult
        subst result otherResult
        exact .inl rfl
      | ok taken' =>
        rw [taken] at result otherResult
        obtain ⟨next, rfl, rfl, nextAgree⟩ := result
        obtain ⟨otherNext, rfl, rfl, otherAgree⟩ := otherResult
        exact inductionHypothesis (fun path member => knows path (List.mem_cons_of_mem _ member))
          (fun path member => otherKnows path (List.mem_cons_of_mem _ member))
          (fun path member => contributions path (List.mem_cons_of_mem _ member))
          (nextAgree.trans ((agree.take project path taken').trans otherAgree.symm)) kept trustsLater
          otherTrustsLater
    · rw [failed] at result
      subst result
      exact matches_excused excuse _

/-- A scan leaves a store of the same lifetime that can be trusted. -/
theorem files_trusts (distinct : Inquiry.Distinct inquiries) {paths : List (List String)}
    (knows : ∀ path ∈ paths, question.KnowsAt parse inquiries tree path)
    {progress : Progress} (trusts : question.Trusts parse inquiries progress.store) :
    question.Trusts parse inquiries (progress.files question tree paths).2.store ∧
      (progress.files question tree paths).2.store.lifetime = progress.store.lifetime := by
  induction paths generalizing progress with
  | nil => exact ⟨trusts, rfl⟩
  | cons path rest inductionHypothesis =>
    obtain ⟨outcome, later, scanned, trustsLater, kept, result⟩ :=
      file_eq distinct trusts (knows path List.mem_cons_self)
    simp only [files, scanned]
    cases outcome with
    | error fault => exact ⟨trustsLater, kept⟩
    | ok next =>
      split at result
      · cases result
      · obtain ⟨_, same, rfl, -⟩ := result
        cases same
        have tail := inductionHypothesis
          (fun path member => knows path (List.mem_cons_of_mem _ member)) trustsLater
        exact ⟨tail.1, tail.2.trans kept⟩

theorem files_ok {progress final : Progress} {paths : List (List String)}
    (ends : (progress.files question tree paths).1 = .ok final) :
    (progress.files question tree paths).2 = final := by
  induction paths generalizing progress with
  | nil => exact Except.ok.inj ends
  | cons path rest inductionHypothesis =>
    simp only [files] at ends ⊢
    split at ends
    · exact inductionHypothesis ends
    · cases ends

theorem Agree.report {first second : Progress} (agree : first.Agree second) (plan : ScanPlan)
    (path : Json) (options : ScanOptions) (files : Nat) :
    first.report plan path options files = second.report plan path options files := by
  simp only [Progress.report, agree.unreadable, agree.matched, agree.records]

end Progress

/-- The inquiries of a scan: those of the files whose stored results it looks for. -/
def inquiries (shortcuts : Shortcuts) (project : Project) (tree : FileTree) (target path : Json)
    (options : ScanOptions) : List Inquiry :=
  match options.validate target, filesUnder project tree path options.excludeVendor with
  | .ok plan, .ok files => files.filterMap fun file =>
      match tree.readSource (.absolute file) with
      | .ok source =>
        if asks shortcuts project plan.target file source then
          some ⟨source.bytes, plan.target, plan.usageTypes⟩
        else none
      | .error _ => none
  | _, _ => []

/-- The inquiries of a scan are about the contents of files, with the target and types of its plan. -/
theorem exists_file_of_mem_inquiries {shortcuts : Shortcuts} {project : Project} {tree : FileTree}
    {target path : Json} {options : ScanOptions} {inquiry : Inquiry}
    (member : inquiry ∈ inquiries shortcuts project tree target path options) :
    ∃ plan, options.validate target = .ok plan ∧ ∃ entry ∈ tree.files,
      inquiry = ⟨entry.2.source.bytes, plan.target, plan.usageTypes⟩ := by
  rw [inquiries] at member
  split at member
  case h_2 => cases member
  case h_1 plan files valid listed =>
    obtain ⟨file, -, equal⟩ := List.mem_filterMap.mp member
    split at equal
    case h_2 => cases equal
    case h_1 source read =>
      obtain ⟨entry, known, rfl⟩ := FileTree.exists_file_of_readSource read
      split at equal
      · cases equal
        exact ⟨plan, valid, entry, known, rfl⟩
      · cases equal

section Runs

variable {parse : Bytes → Node} {met : Set Inquiry} {project : Project} {tree : FileTree}
  {target path : Json} {options : ScanOptions} {shortcuts : Shortcuts}

/-- What is known of a scan that may use stored results: the files hold the syntax trees of their
contents, and all its inquiries are among those met. -/
structure Covered (parse : Bytes → Node) (met : Set Inquiry) (shortcuts : Shortcuts)
    (project : Project) (tree : FileTree) (target path : Json) (options : ScanOptions) : Prop where
  parsed : tree.ParsedBy parse
  within : ∀ inquiry ∈ inquiries shortcuts project tree target path options, inquiry ∈ met

theorem Covered.knows (covered : Covered parse met shortcuts project tree target path options)
    {plan : ScanPlan} {files : List (List String)} (valid : options.validate target = .ok plan)
    (listed : filesUnder project tree path options.excludeVendor = .ok files) (now : Int)
    {file : List String} (member : file ∈ files) {source : Source}
    (read : tree.readSource (.absolute file) = .ok source)
    (asked : asks shortcuts project plan.target file source = true) :
    (question shortcuts project now plan).Knows parse met source := by
  intro _
  refine ⟨covered.parsed.of_readSource read, covered.within _ ?_⟩
  simp only [inquiries, valid, listed, List.mem_filterMap]
  exact ⟨file, member, by simp [read, asked, Question.inquiry, question]⟩

theorem startStore_honest {store : Store} (honest : store.Honest parse met) (options : ScanOptions) :
    (startStore options store).Honest parse met := by
  rw [startStore]
  split
  · exact honest.invalidateAll
  · exact honest

theorem startStore_lifetime (options : ScanOptions) (store : Store) :
    (startStore options store).lifetime = store.lifetime := by
  rw [startStore]
  split <;> rfl

/-- Scans with different shortcuts report the same, up to a fault that is excused. -/
theorem runWith_report (distinct : Inquiry.Distinct met) (shortcuts others : Shortcuts)
    (covered : shortcuts.reuse = true →
      Covered parse met shortcuts project tree target path options)
    (otherCovered : others.reuse = true →
      Covered parse met others project tree target path options)
    {now : Int} {store other : Store} {excused : Fault → Prop}
    (contributions : ∀ plan files, options.validate target = .ok plan →
      filesUnder project tree path options.excludeVendor = .ok files → ∀ file ∈ files,
        contribution (question shortcuts project now plan) store.lifetime tree file =
            contribution (question others project now plan) store.lifetime tree file ∨
          ∃ fault, contribution (question shortcuts project now plan) store.lifetime tree file =
            .error fault ∧ excused fault)
    (lifetime : store.lifetime = other.lifetime)
    (honest : shortcuts.reuse = true → store.Honest parse met)
    (otherHonest : others.reuse = true → other.Honest parse met) :
    (runWith shortcuts project tree store now target path options).report =
        (runWith others project tree other now target path options).report ∨
      ∃ fault, (runWith shortcuts project tree store now target path options).report = .error fault ∧
        excused fault := by
  cases valid : options.validate target with
  | error fault => exact .inl (by simp [runWith, valid])
  | ok plan =>
    cases listed : filesUnder project tree path options.excludeVendor with
    | error fault => exact .inl (by simp [runWith, valid, listed])
    | ok files =>
      have trusts : (question shortcuts project now plan).Trusts parse met (startStore options store) :=
        fun reuse => startStore_honest (honest reuse) options
      have otherTrusts : (question others project now plan).Trusts parse met
          (startStore options other) :=
        fun reuse => startStore_honest (otherHonest reuse) options
      have agree : (Progress.start (startStore options store)).Agree
          (Progress.start (startStore options other)) :=
        ⟨by simp [Progress.start, startStore_lifetime, lifetime], rfl, rfl, rfl⟩
      have sameProject : (question shortcuts project now plan).project =
          (question others project now plan).project := rfl
      have ends := Progress.files_match distinct sameProject
        (fun file member source read asked reuse =>
          (covered reuse).knows valid listed now member read asked reuse)
        (fun file member source read asked reuse =>
          (otherCovered reuse).knows valid listed now member read asked reuse)
        (contributions plan files valid listed) agree (startStore_lifetime options store) trusts
        otherTrusts
      simp only [runWith, valid, listed]
      revert ends
      generalize Progress.files (question shortcuts project now plan) tree _ files = first
      generalize Progress.files (question others project now plan) tree _ files = second
      obtain ⟨first | first, firstLast⟩ := first <;> obtain ⟨second | second, secondLast⟩ := second
      · rintro (rfl | excuse)
        · exact .inl rfl
        · exact .inr ⟨_, rfl, excuse⟩
      · exact fun excuse => .inr ⟨_, rfl, excuse⟩
      · exact False.elim
      · exact fun agree => .inl (agree.report plan path options files.length)

/-- A scan leaves a store of the same lifetime that is as honest as before. -/
theorem runWith_store (distinct : Inquiry.Distinct met) (shortcuts : Shortcuts)
    (covered : shortcuts.reuse = true →
      Covered parse met shortcuts project tree target path options)
    (now : Int) {store : Store} (honest : shortcuts.reuse = true → store.Honest parse met) :
    (shortcuts.reuse = true →
        (runWith shortcuts project tree store now target path options).store.Honest parse met) ∧
      (runWith shortcuts project tree store now target path options).store.lifetime =
        store.lifetime := by
  cases valid : options.validate target with
  | error fault => simpa [runWith, valid] using honest
  | ok plan =>
    have trusts : (question shortcuts project now plan).Trusts parse met (startStore options store) :=
      fun reuse => startStore_honest (honest reuse) options
    cases listed : filesUnder project tree path options.excludeVendor with
    | error fault =>
      simp only [runWith, valid, listed]
      exact ⟨trusts, startStore_lifetime options store⟩
    | ok files =>
      have kept := Progress.files_trusts distinct
        (fun file member source read asked reuse =>
          (covered reuse).knows valid listed now member read asked reuse)
        (show (question shortcuts project now plan).Trusts parse met
          (Progress.start (startStore options store)).store from trusts)
      simp only [runWith, valid, listed]
      cases ends : (Progress.start (startStore options store)).files
          (question shortcuts project now plan) tree files with
      | mk outcome last =>
        rw [ends] at kept
        have counted := kept.2.trans (startStore_lifetime options store)
        cases outcome with
        | error fault => exact ⟨kept.1, counted⟩
        | ok final =>
          have same : last = final := by
            simpa only [ends] using Progress.files_ok (congrArg Prod.fst ends)
          subst same
          exact ⟨kept.1, counted⟩

end Runs

/-- A source that makes an object of a class `A`. -/
def sampleSource : Source where
  bytes := Utf8.encode "<?php new A;"
  root :=
    let leaf (kind : String) (named : Bool) (start stop : Nat) : Node :=
      .mk ⟨kind, named, "", start, stop⟩ []
    .mk ⟨"program", true, "", 0, 12⟩ [leaf "php_tag" true 0 5,
      .mk ⟨"expression_statement", true, "", 6, 12⟩ [
        .mk ⟨"object_creation_expression", true, "", 6, 11⟩ [
          leaf "new" false 6 9, leaf "name" true 10 11],
        leaf ";" false 11 12]]

/-- A project without sources of its own. -/
def sampleProject : Project := ⟨["app"], "vendor"⟩

/-- A file tree in which the sample is the only file, and belongs to a dependency. -/
def sampleTree : FileTree where
  workingDirectory := ["app"]
  files := [(["app", "vendor", "a.php"], ⟨sampleSource, true⟩)]
  directories := [["app"], ["app", "vendor"]]

theorem sampleTree_parsedBy : sampleTree.ParsedBy fun _ => sampleSource.root := by
  intro entry member
  rw [List.mem_singleton.mp member]

/-- Scans of the sample tree for one target and with one set of options make one inquiry. -/
theorem eq_of_mem_inquiries_sampleTree {shortcuts : Shortcuts} {target path : Json}
    {options : ScanOptions} {first second : Inquiry}
    (member : first ∈ inquiries shortcuts sampleProject sampleTree target path options)
    (other : second ∈ inquiries shortcuts sampleProject sampleTree target path options) :
    first = second := by
  obtain ⟨plan, valid, entry, known, rfl⟩ := exists_file_of_mem_inquiries member
  obtain ⟨otherPlan, otherValid, otherEntry, otherKnown, rfl⟩ := exists_file_of_mem_inquiries other
  rw [List.mem_singleton.mp known, List.mem_singleton.mp otherKnown]
  rw [valid] at otherValid
  cases otherValid
  rfl

end ClassAtlas.Scan
