import ClassAtlas.Proofs.Token.Lines
import ClassAtlas.Proofs.Usage.Correspondence
import ClassAtlas.Proofs.Usage.Findings

/-!
Selecting usage types.

Every detector reports usages of one type, its own. So to look for some types only is to leave the
other usages out: of one file, where the detectors are chosen, and of a scan, where the choice is also
part of what results are stored under and the report is sorted and counted afterwards.
-/

namespace ClassAtlas

section Detectors

variable {view : View} {place : Place} {sighting : Sighting}

namespace Place

theorem usageType_of_mem_parametersFrom {index : Nat} {tokens : List Token}
    (found : sighting ∈ parametersFrom view index tokens) : sighting.usageType = .typeHint := by
  fun_induction parametersFrom view index tokens with
  | case1 => cases found
  | case2 index token rest starts type size others parameter inductionHypothesis =>
    rcases List.mem_append.mp found with here | later
    · simp only [parameter, Option.mem_toList, Option.bind_eq_bind, Option.bind_eq_some_iff] at here
      obtain ⟨_, -, _, -, equal⟩ := here
      cases equal
      rfl
    · exact inductionHypothesis later
  | case3 index token rest _ inductionHypothesis => exact inductionHypothesis found

theorem usageType_of_mem_typeHintSightings (found : sighting ∈ typeHintSightings view place) :
    sighting.usageType = .typeHint := by
  rw [typeHintSightings] at found
  split at found
  · rw [parameterSightings] at found
    split at found
    · cases found
    · exact usageType_of_mem_parametersFrom found
  · simp only [propertySightings] at found
    repeat' split at found
    all_goals first | cases found; done | (rw [List.mem_singleton.mp found])

theorem usageType_of_mem_returnTypeSightings (found : sighting ∈ returnTypeSightings view place) :
    sighting.usageType = .typeHint := by
  rw [returnTypeSightings_eq, Option.mem_toList] at found
  obtain ⟨_, -, found⟩ := Option.bind_eq_some_iff.mp found
  obtain ⟨_, -, found⟩ := Option.bind_eq_some_iff.mp found
  obtain ⟨ahead, -, found⟩ := Option.bind_eq_some_iff.mp found
  cases ahead with
  | nil => cases found
  | cons colon rest =>
    simp only [resultType?] at found
    split at found
    case isFalse => cases found
    case isTrue =>
      obtain ⟨_, -, found⟩ := Option.bind_eq_some_iff.mp found
      split at found
      case isFalse => cases found
      case isTrue =>
        obtain ⟨_, -, found⟩ := Option.bind_eq_some_iff.mp found
        cases found
        rfl

end Place

/-- A detector reports usages of its own type. -/
theorem Detector.usageType_of_mem_sightings {detector : Detector} (listed : detector ∈ all)
    (found : sighting ∈ detector.sightings view place) : sighting.usageType = detector.usageType := by
  simp only [all, List.mem_cons, List.not_mem_nil, or_false] at listed
  rcases listed with rfl | rfl | rfl | rfl | rfl | rfl | rfl | rfl
  · simp only [Place.importSightings, List.mem_ite_nil_right, List.mem_singleton] at found
    rw [found.2.2]
  · simp only [Place.keywordSightings, List.mem_ite_nil_right, List.mem_singleton] at found
    rw [found.2]
  · simp only [Place.staticSightings, List.mem_ite_nil_right, List.mem_singleton] at found
    rw [found.2]
  · simp only [Place.keywordSightings, List.mem_ite_nil_right, List.mem_singleton] at found
    rw [found.2]
  · simp only [Place.implementsSightings, List.mem_ite_nil_right, List.mem_singleton] at found
    rw [found.2]
  · simp only [Place.mixinSightings, List.mem_ite_nil_right, List.mem_singleton] at found
    rw [found.2.2]
  · exact Place.usageType_of_mem_typeHintSightings found
  · exact Place.usageType_of_mem_returnTypeSightings found

theorem Detector.usageType_of_mem_run {detector : Detector} (listed : detector ∈ all)
    (found : sighting ∈ detector.run view) : sighting.usageType = detector.usageType := by
  obtain ⟨place, -, found⟩ := List.mem_flatMap.mp found
  rw [List.mem_ite_nil_right] at found
  exact usageType_of_mem_sightings listed found.2

/-- To run some detectors is to leave out what the others report. -/
theorem Detector.flatMap_run_filter (wanted : List UsageType) {detectors : List Detector}
    (listed : ∀ detector ∈ detectors, detector ∈ all) :
    (detectors.filter fun detector => wanted.contains detector.usageType).flatMap (·.run view) =
      (detectors.flatMap (·.run view)).filter fun sighting => wanted.contains sighting.usageType := by
  induction detectors with
  | nil => rfl
  | cons detector rest inductionHypothesis =>
    obtain ⟨here, later⟩ := List.forall_mem_cons.mp listed
    have own : ∀ sighting ∈ detector.run view,
        wanted.contains sighting.usageType = wanted.contains detector.usageType :=
      fun sighting found => by rw [usageType_of_mem_run here found]
    rw [List.flatMap_cons, List.filter_append, ← inductionHypothesis later, List.filter_cons]
    split
    case isTrue isWanted =>
      rw [List.flatMap_cons, List.filter_eq_self.mpr fun sighting found =>
        (own sighting found).trans isWanted]
    case isFalse notWanted =>
      have leftOut : (detector.run view).filter
          (fun sighting => wanted.contains sighting.usageType) = [] :=
        List.filter_eq_nil_iff.mpr fun sighting found => by rwa [own sighting found]
      rw [leftOut, List.nil_append]

/-- The sightings of some types are those among all. -/
theorem View.sightings_eq_filter (view : View) {wanted : List UsageType} (nonempty : wanted ≠ []) :
    view.sightings wanted =
      (view.sightings []).filter fun sighting => wanted.contains sighting.usageType := by
  have someWanted : wanted.isEmpty = false := by simpa using nonempty
  rw [View.sightings, View.sightings, Detector.select, Detector.select, someWanted]
  exact Detector.flatMap_run_filter wanted fun detector listed => listed

theorem findUsages_eq_filter (tokens : List Token) (target : String) {wanted : List UsageType}
    (nonempty : wanted ≠ []) :
    findUsages tokens target wanted =
      (findUsages tokens target []).filter fun record => wanted.contains record.usageType := by
  rw [findUsages, findUsages, View.sightings_eq_filter _ nonempty, List.filter_map]
  rfl

end Detectors

section Requests

theorem UsageType.ofLabels_labels (types : List UsageType) :
    ∃ kept, ofLabels (types.map fun usageType => .str usageType.label) = .ok kept ∧
      ∀ usageType, usageType ∈ kept ↔ usageType ∈ types := by
  induction types with
  | nil => exact ⟨[], rfl, fun _ => Iff.rfl⟩
  | cons first rest inductionHypothesis =>
    obtain ⟨kept, read, same⟩ := inductionHypothesis
    refine ⟨if kept.contains first then kept else first :: kept, ?_, fun usageType => ?_⟩
    · simp only [List.map_cons, ofLabels, Json.text?, Option.bind_some, ofLabel?_label, read]
      rfl
    · split
      case isTrue known =>
        rw [List.contains_iff_mem] at known
        rw [same, List.mem_cons]
        constructor
        · exact .inr
        · rintro (rfl | listed)
          · exact (same _).mp known
          · exact listed
      case isFalse => rw [List.mem_cons, List.mem_cons, same]

namespace ScanOptions

/-- A request for usages of the given types only, or of any type if none is given. -/
def selecting (options : ScanOptions) (types : List UsageType) : ScanOptions :=
  { options with usageTypes := .list (types.map fun usageType => .str usageType.label) }

/-- The types are checked last, so a request that is valid without them is valid with them. -/
theorem validate_selecting {options : ScanOptions} {target : Json} {plan : ScanPlan}
    (valid : (options.selecting []).unlimited.validate target = .ok plan) (types : List UsageType) :
    plan.usageTypes = [] ∧ plan.limit = 0 ∧ plan.offset = 0 ∧
      ∃ kept, (∀ usageType, usageType ∈ kept ↔ usageType ∈ types) ∧
        (options.selecting types).unlimited.validate target =
          .ok { plan with usageTypes := kept } := by
  obtain ⟨kept, read, same⟩ := UsageType.ofLabels_labels types
  obtain ⟨text, sortKey, labels, usageTypes, given, named, sorted, listed, none, rfl⟩ :=
    validate_unlimited_iff.mp valid
  cases listed
  cases none
  refine ⟨rfl, rfl, rfl, kept, same, validate_unlimited_iff.mpr ?_⟩
  exact ⟨text, sortKey, _, kept, given, named, sorted, rfl, read, rfl⟩

end ScanOptions

end Requests

/-- Whether the number of every line can be written, as of every file that fits into memory. -/
def FileTree.LinesWritable (tree : FileTree) : Prop :=
  ∀ entry ∈ tree.files, entry.2.source.bytes.length + 1 < 10 ^ Text.maxNumeralDigits

namespace Scan

section Files

variable {source : Source} {tree : FileTree} {wanted : List UsageType}

/-- Usages on lines whose numbers can be written can be stored. -/
theorem hasLongInteger_storedValue (writable : source.bytes.length + 1 < 10 ^ Text.maxNumeralDigits)
    (target : String) (wanted : List UsageType) :
    (storedValue (source.usages target wanted)).hasLongInteger = false := by
  refine Json.anyLongInteger_eq_false.mpr fun item member => ?_
  obtain ⟨record, found, rfl⟩ := List.mem_map.mp member
  obtain ⟨sighting, -, rfl⟩ := List.mem_map.mp found
  have short : (Nat.toDigits 10
      (((source.tokens[sighting.anchor]?).map Token.line).getD 0).natAbs).length ≤
        Text.maxNumeralDigits := by
    rw [Nat.length_toDigits_le_iff (by decide) (by decide)]
    cases stands : source.tokens[sighting.anchor]? with
    | none => exact Nat.lt_of_le_of_lt (Nat.zero_le _) writable
    | some token =>
      obtain ⟨line, isLine, within⟩ := Source.onLine_of_mem_tokens (List.mem_of_getElem? stands)
      rw [Option.map_some, Option.getD_some, isLine, Int.natAbs_natCast]
      exact Nat.lt_of_le_of_lt within writable
  cases method : sighting.method <;>
    simpa [Sighting.record, UsageRecord.toJson, UsageRecord.found, Json.ofText?, Json.hasLongInteger,
      Json.anyLongMember, method] using short

/-- What can be written is refused, if at all, for the lifetime of the store alone. -/
theorem storedUsages_eq {records : List UsageRecord}
    (short : (storedValue records).hasLongInteger = false) (lifetime : Int) :
    storedUsages lifetime records = (Moment.seconds lifetime).map fun _ => records := by
  simp only [storedUsages, Store.refusal?, short]
  cases Moment.seconds lifetime <;> rfl

/-- With some types wanted, a file contributes the usages of these types among all. -/
theorem contribution_selecting (writable : tree.LinesWritable) (nonempty : wanted ≠ [])
    {question : Question} (unrestricted : question.usageTypes = []) (later lifetime : Int)
    (path : List String) :
    contribution { question with usageTypes := wanted, now := later } lifetime tree path =
      (contribution question lifetime tree path).map
        (Option.map (List.filter fun record => wanted.contains record.usageType)) := by
  rw [contribution, contribution]
  cases read : tree.readSource (.absolute path) with
  | error fault => rfl
  | ok source =>
    obtain ⟨entry, known, rfl⟩ := FileTree.exists_file_of_readSource read
    simp only [unrestricted]
    split
    · rfl
    · have selects := findUsages_eq_filter entry.2.source.tokens question.target nonempty
      split
      · rw [storedUsages_eq (hasLongInteger_storedValue (writable entry known) _ _),
          storedUsages_eq (hasLongInteger_storedValue (writable entry known) _ _), Source.usages,
          selects]
        cases Moment.seconds lifetime with
        | ok seconds => rfl
        | error fault =>
          simp only [Except.map]
          split <;> rfl
      · rw [Source.usages, selects]
        rfl

theorem findings_selecting (writable : tree.LinesWritable) (nonempty : wanted ≠ [])
    {question : Question} (unrestricted : question.usageTypes = []) (later lifetime : Int)
    (path : List String) :
    findings { question with usageTypes := wanted, now := later } lifetime tree path =
      (findings question lifetime tree path).filter fun record =>
        wanted.contains record.usageType := by
  rw [findings, findings, contribution_selecting writable nonempty unrestricted]
  cases contribution question lifetime tree path with
  | error fault => rfl
  | ok taken =>
    cases taken with
    | none => rfl
    | some records =>
      simp only [Except.map, Option.map_some]
      rw [List.filter_map]
      rfl

theorem skips_selecting (writable : tree.LinesWritable) (nonempty : wanted ≠ [])
    {question : Question} (unrestricted : question.usageTypes = []) (later lifetime : Int)
    (path : List String) :
    skips { question with usageTypes := wanted, now := later } lifetime tree path =
      skips question lifetime tree path := by
  rw [skips, skips, contribution_selecting writable nonempty unrestricted]
  cases contribution question lifetime tree path with
  | error fault => rfl
  | ok taken => cases taken <;> rfl

variable {question : Question} {lifetime : Int} {files : List (List String)}

/-- A scan for some types comes to its end where a scan for all does. -/
theorem Completes.selecting (completes : Completes question lifetime tree files)
    (writable : tree.LinesWritable) (nonempty : wanted ≠ [])
    (unrestricted : question.usageTypes = []) (later : Int) :
    Completes { question with usageTypes := wanted, now := later } lifetime tree files where
  passes := by
    intro path member
    obtain ⟨taken, contributes⟩ := completes.passes path member
    rw [contribution_selecting writable nonempty unrestricted, contributes]
    exact ⟨_, rfl⟩
  readable := by
    simp only [skips_selecting writable nonempty unrestricted]
    exact completes.readable

/-- The records found for some types are those among all, in the same order. -/
theorem foundIn_selecting (writable : tree.LinesWritable) (nonempty : wanted ≠ [])
    (unrestricted : question.usageTypes = []) (later lifetime : Int) (key : SortKey)
    (files : List (List String)) :
    foundIn { question with usageTypes := wanted, now := later } lifetime tree key files =
      (foundIn question lifetime tree key files).filter fun record =>
        wanted.contains record.usageType := by
  have each := funext (findings_selecting writable nonempty unrestricted later lifetime)
  rw [foundIn, foundIn, each, key.filter_mergeSort_ordered
    (isLocated_of_mem_flatMap question lifetime tree files), List.filter_flatMap]

end Files

/-- Whether a key of counts is the label of one of the given types. -/
def labelsOne (types : List UsageType) (key : Json) : Bool :=
  types.any fun usageType => key.text? == some usageType.label

theorem labelsOne_label (types : List UsageType) (usageType : UsageType) :
    labelsOne types (.str usageType.label) = types.contains usageType := by
  rw [Bool.eq_iff_iff, labelsOne, List.any_eq_true, List.contains_iff_mem]
  constructor
  · rintro ⟨other, member, equal⟩
    have labels : usageType.label = other.label := by simpa [Json.text?] using equal
    have same := congrArg UsageType.ofLabel? labels
    rw [UsageType.ofLabel?_label, UsageType.ofLabel?_label] at same
    cases same
    exact member
  · exact fun member => ⟨usageType, member, by simp [Json.text?]⟩

/-- The counts of records of some types are those among the counts of all records. -/
theorem tally_labels_filter (types : List UsageType) (records : List UsageRecord) :
    tally ((records.filter fun record => types.contains record.usageType).map fun record =>
        .str record.usageType.label) =
      (tally (records.map fun record => .str record.usageType.label)).filter fun entry =>
        labelsOne types entry.1 := by
  have respects : ∀ first second : Json, first.same second = true →
      labelsOne types first = labelsOne types second := by
    intro first second same
    rw [labelsOne, labelsOne, Json.text?_eq_of_same same]
  have labels : (labelsOne types ∘ fun record : UsageRecord => .str record.usageType.label) =
      fun record => types.contains record.usageType :=
    funext fun record => labelsOne_label types record.usageType
  rw [filter_tally respects, List.filter_map, labels]

/-- Selecting usage types is filtering. In one file, the detectors of some types report the usages of
these types among all. In a scan, with any store that scans have written, a request for all usages that
succeeds also succeeds for some types; its report then lists and counts the usages of these types among
all, in the same order, and scans as many files. -/
theorem selecting_types_filters (selected : List UsageType) (nonempty : selected ≠ [])
    (view : View) (parse : Bytes → Node) (met : Set Inquiry) (distinct : Inquiry.Distinct met)
    (project : Project) (tree : FileTree) (writable : tree.LinesWritable) (target path : Json)
    (options : ScanOptions)
    (covered : Covered parse met {} project tree target path (options.selecting []).unlimited)
    (selectedCovered :
      Covered parse met {} project tree target path (options.selecting selected).unlimited)
    (lifetime : Int) (store other : Store) (written : Written parse met lifetime store)
    (otherWritten : Written parse met lifetime other) (now later : Int) (whole : UsageReport)
    (succeeds : (run project tree store now target path (options.selecting []).unlimited).report =
      .ok whole) :
    (view.sightings selected).map (Sighting.record view.tokens) =
        ((view.sightings []).map (Sighting.record view.tokens)).filter
          (fun record => selected.contains record.usageType) ∧
      ∃ part,
        (run project tree other later target path (options.selecting selected).unlimited).report =
            .ok part ∧
          part.usages =
            whole.usages.filter (fun record => selected.contains record.usageType) ∧
          part.totalUsages =
            whole.usages.countP (fun record => selected.contains record.usageType) ∧
          part.statistics.byType =
            whole.statistics.byType.filter (fun entry => labelsOne selected entry.1) ∧
          part.filesScanned = whole.filesScanned := by
  constructor
  · rw [view.sightings_eq_filter nonempty, List.filter_map]
    rfl
  · obtain ⟨plan, files, valid, listed, completes, summary⟩ :=
      summarises_of_run distinct written covered (fun _ => ScanOptions.unlimited_of_validate) succeeds
    obtain ⟨unrestricted, unlimited, fromStart, kept, same, selectedValid⟩ :=
      ScanOptions.validate_selecting valid selected
    have keptSome : kept ≠ [] := by
      obtain ⟨first, rest, rfl⟩ := List.exists_cons_of_ne_nil nonempty
      exact List.ne_nil_of_mem ((same first).mpr List.mem_cons_self)
    have keptContains : ∀ usageType, kept.contains usageType = selected.contains usageType := by
      intro usageType
      rw [Bool.eq_iff_iff, List.contains_iff_mem, List.contains_iff_mem, same]
    have restricts : (question {} project now plan).usageTypes = [] := unrestricted
    have selectedCompletes :
        Completes (question {} project later { plan with usageTypes := kept }) lifetime tree files :=
      completes.selecting writable keptSome restricts later
    obtain ⟨part, partReported, partSummary⟩ :=
      summarises_of_completes distinct otherWritten selectedCovered selectedValid unlimited fromStart
        listed selectedCompletes
    have found : foundIn (question {} project later { plan with usageTypes := kept }) lifetime tree
        plan.sortKey files =
          whole.usages.filter fun record => selected.contains record.usageType := by
      simp only [← keptContains, summary.usages]
      exact foundIn_selecting writable keptSome restricts later lifetime plan.sortKey files
    refine ⟨part, partReported, partSummary.usages.trans found, ?_, ?_, ?_⟩
    · rw [UsageReport.totalUsages, partSummary.sorted, found, List.countP_eq_length_filter]
    · rw [partSummary.byType, found, tally_labels_filter, summary.byType, ← summary.usages]
    · rw [partSummary.filesScanned, summary.filesScanned]

/-- A scan of the sample for usages of a class `A`. -/
def sampleScan (store : Store) (types : List UsageType) : Outcome :=
  run sampleProject sampleTree store 0 (.str "A") (.str "vendor")
    (sampleOptions.selecting types).unlimited

/-- The inquiries of a scan for all usages and of one for subclasses. -/
def sampleInquiries : Set Inquiry := {sampleInquiry [], sampleInquiry [.extension]}

theorem sampleInquiries_distinct : Inquiry.Distinct sampleInquiries where
  contents := by
    rw [sampleInquiries, Set.image_pair]
    exact Set.injOn_pair.mpr fun _ => rfl
  materials := by
    rw [sampleInquiries, Set.image_pair]
    refine Set.injOn_pair.mpr fun same => absurd same ?_
    decide +kernel

theorem sampleTree_linesWritable : sampleTree.LinesWritable := by
  intro entry member
  rw [List.mem_singleton.mp member]
  decide +kernel

/-- A scan of the sample for subclasses, which starts from what a scan for all usages has stored. -/
theorem selecting_types_filters_sample :
    ∃ whole part, (sampleScan (.empty 60) []).report = .ok whole ∧
      (sampleScan (sampleScan (.empty 60) []).store [.extension]).report = .ok part ∧
      part.usages = whole.usages.filter (fun record => [.extension].contains record.usageType) ∧
      whole.usages.length = 1 ∧ part.usages = [] := by
  have valid : (sampleOptions.selecting []).unlimited.validate (.str "A") = .ok (samplePlan []) := rfl
  have selectedValid : (sampleOptions.selecting [.extension]).unlimited.validate (.str "A") =
      .ok (samplePlan [.extension]) := rfl
  have sources : ∀ entry ∈ sampleTree.files, entry.2.source = sampleSource := by
    intro entry member
    rw [List.mem_singleton.mp member]
  have made : sampleInquiry [] ∈ sampleInquiries := .inl rfl
  have selectedMade : sampleInquiry [.extension] ∈ sampleInquiries := .inr rfl
  have covered := covered_of_sources sampleProject (.str "vendor") sources valid made
  have selectedCovered :=
    covered_of_sources sampleProject (.str "vendor") sources selectedValid selectedMade
  obtain ⟨whole, succeeds, summary⟩ := summarises_of_completes sampleInquiries_distinct .empty
    covered valid rfl rfl sampleTree_listed sampleTree_completes
  obtain ⟨-, part, reported, usages, -⟩ := selecting_types_filters [.extension] (by decide)
    (View.ofTokens [] "A") (fun _ => sampleSource.root) _ sampleInquiries_distinct sampleProject
    sampleTree sampleTree_linesWritable (.str "A") (.str "vendor") sampleOptions covered
    selectedCovered 60 (.empty 60) _ .empty (.scan .empty covered 0) 0 0 whole succeeds
  refine ⟨whole, part, succeeds, reported, usages, ?_, ?_⟩
  · rw [summary.usages, foundIn, List.length_mergeSort]
    decide +kernel
  · rw [usages, ← List.isEmpty_iff, summary.usages]
    decide +kernel

end Scan

end ClassAtlas
