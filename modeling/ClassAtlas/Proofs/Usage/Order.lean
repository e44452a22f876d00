import ClassAtlas.Proofs.Usage.Record
import Mathlib.Data.String.Basic

/-!
Reports on records that were found.

The records of a scan have a number for a line and a text for a file, so any two of them have an order
under every sort key, and a report on them never fails. Sorting is stable and counting keeps the order
of first occurrence; both commute with leaving records out.
-/

namespace ClassAtlas

section Sorting

variable {α : Type} {before : α → α → Bool}

/-- Where a stable sort puts one more item in front: before those that may not stand before it. -/
theorem mergeSort_cons_eq (trans : ∀ first second third, before first second → before second third →
      before first third) (total : ∀ first second, before first second || before second first)
    (item : α) (items : List α) :
    (item :: items).mergeSort before =
      (items.mergeSort before).filter (fun other => !before item other) ++
        item :: (items.mergeSort before).filter (before item) := by
  obtain ⟨front, back, sorted, rest, early⟩ := List.mergeSort_cons trans total item items
  have ordered := List.pairwise_mergeSort trans total (item :: items)
  rw [sorted] at ordered
  have late : ∀ other ∈ back, before item other = true :=
    (List.pairwise_cons.mp (List.pairwise_append.mp ordered).2.1).1
  have frontKept : front.filter (fun other => !before item other) = front :=
    List.filter_eq_self.mpr early
  have backKept : back.filter (before item) = back := List.filter_eq_self.mpr late
  have frontLeft : front.filter (before item) = [] :=
    List.filter_eq_nil_iff.mpr fun other member => by simpa using early other member
  have backLeft : back.filter (fun other => !before item other) = [] :=
    List.filter_eq_nil_iff.mpr fun other member => by simp [late other member]
  rw [sorted, rest, List.filter_append, List.filter_append, frontKept, backKept, frontLeft, backLeft,
    List.append_nil, List.nil_append]

/-- A stable sort commutes with leaving items out. -/
theorem filter_mergeSort (trans : ∀ first second third, before first second → before second third →
      before first third) (total : ∀ first second, before first second || before second first)
    (keeps : α → Bool) (items : List α) :
    (items.mergeSort before).filter keeps = (items.filter keeps).mergeSort before := by
  induction items with
  | nil => rw [List.filter_nil, List.mergeSort_nil, List.filter_nil]
  | cons item rest inductionHypothesis =>
    rw [List.filter_cons]
    split
    case isTrue kept =>
      rw [mergeSort_cons_eq trans total, mergeSort_cons_eq trans total, ← inductionHypothesis,
        List.filter_append, List.filter_cons_of_pos kept]
      simp only [List.filter_filter, Bool.and_comm]
    case isFalse left =>
      obtain ⟨front, back, sorted, others, -⟩ := List.mergeSort_cons trans total item rest
      rw [← inductionHypothesis, sorted, others, List.filter_append, List.filter_append,
        List.filter_cons_of_neg left]

/-- A sort looks at the order of the items in the list only. -/
theorem mergeSort_congr {other : α → α → Bool} {items : List α}
    (same : ∀ first ∈ items, ∀ second ∈ items, before first second = other first second) :
    items.mergeSort before = items.mergeSort other := by
  have mapped := List.map_mergeSort (f := id) same
  rwa [List.map_id, List.map_id] at mapped

end Sorting

namespace UsageRecord

/-- Whether the line of a record is a number and its file a text, as in all records of a scan. -/
structure IsLocated (record : UsageRecord) : Prop where
  line : ∃ number, record.line = .int number
  file : ∃ text, record.file = .str text

theorem IsFound.located {record : UsageRecord} (isFound : record.IsFound) (file : String) :
    IsLocated { record with file := .str file } := by
  obtain ⟨line, usageType, code, method, rfl⟩ := isFound
  exact ⟨⟨line, rfl⟩, file, rfl⟩

end UsageRecord

namespace SortKey

/-- The order of located records: the number of the line, the text of the file, or the label of the
type decides. -/
def precedes (key : SortKey) (first second : UsageRecord) : Bool :=
  match key with
  | .line => decide (first.line.int?.getD 0 ≤ second.line.int?.getD 0)
  | .file => decide (first.file.text?.getD "" ≤ second.file.text?.getD "")
  | .usageType => decide (first.usageType.label ≤ second.usageType.label)

theorem precedes_trans (key : SortKey) (first second third : UsageRecord)
    (ordered : key.precedes first second = true) (next : key.precedes second third = true) :
    key.precedes first third = true := by
  cases key <;> simp only [precedes, decide_eq_true_eq] at ordered next ⊢ <;>
    exact le_trans ordered next

theorem precedes_total (key : SortKey) (first second : UsageRecord) :
    (key.precedes first second || key.precedes second first) = true := by
  cases key <;> simp only [precedes, Bool.or_eq_true, decide_eq_true_eq] <;> exact le_total _ _

variable {first second : UsageRecord}

theorem before?_valueOf (key : SortKey) (located : first.IsLocated) (other : second.IsLocated) :
    (key.valueOf second).before? (key.valueOf first) = some (!key.precedes first second) := by
  obtain ⟨⟨line, isLine⟩, file, isFile⟩ := located
  obtain ⟨⟨otherLine, otherIsLine⟩, otherFile, otherIsFile⟩ := other
  have flipped : ∀ {α : Type} [LinearOrder α] (low high : α),
      decide (high < low) = !decide (low ≤ high) := by
    intro α _ low high
    rw [← decide_not, decide_eq_decide, not_le]
  cases key with
  | line =>
    simp only [valueOf, precedes, isLine, otherIsLine, Json.int?, Option.getD_some, ← flipped]
    rfl
  | file =>
    simp only [valueOf, precedes, isFile, otherIsFile, Json.text?, Option.getD_some, ← flipped]
    rfl
  | usageType =>
    simp only [valueOf, precedes, ← flipped]
    rfl

theorem ordered_eq_precedes (key : SortKey) (located : first.IsLocated) (other : second.IsLocated) :
    key.ordered first second = key.precedes first second := by
  rw [ordered, before?_valueOf key located other]
  cases key.precedes first second <;> rfl

variable {records : List UsageRecord}

theorem mergeSort_ordered (key : SortKey) (located : ∀ record ∈ records, record.IsLocated) :
    records.mergeSort key.ordered = records.mergeSort key.precedes :=
  mergeSort_congr fun first member second other =>
    key.ordered_eq_precedes (located first member) (located second other)

/-- Sorted records without some of them are the others, sorted. -/
theorem filter_mergeSort_ordered (key : SortKey) (located : ∀ record ∈ records, record.IsLocated)
    (keeps : UsageRecord → Bool) :
    (records.mergeSort key.ordered).filter keeps = (records.filter keeps).mergeSort key.ordered := by
  rw [key.mergeSort_ordered located,
    key.mergeSort_ordered fun record member => located record (List.mem_of_mem_filter member)]
  exact filter_mergeSort key.precedes_trans key.precedes_total keeps records

end SortKey

section Reports

variable {records : List UsageRecord}

theorem comparable_of_forall {values : List Json}
    (ordered : ∀ first ∈ values, ∀ second ∈ values, (second.before? first).isSome = true) :
    comparable values = true := by
  fun_induction comparable values with
  | case1 first second rest inductionHypothesis =>
    rw [Bool.and_eq_true]
    refine ⟨ordered first List.mem_cons_self second (List.mem_cons_of_mem _ List.mem_cons_self), ?_⟩
    exact inductionHypothesis fun first member second other =>
      ordered first (List.mem_cons_of_mem _ member) second (List.mem_cons_of_mem _ other)
  | case2 => rfl

/-- Located records can be sorted. -/
theorem sortUsages_eq (key : SortKey) (located : ∀ record ∈ records, record.IsLocated) :
    sortUsages records key = .ok (records.mergeSort key.ordered) := by
  have ordered : comparable ((records.mergeSort key.ordered).map key.valueOf) = true := by
    refine comparable_of_forall ?_
    simp only [List.forall_mem_map, List.mem_mergeSort]
    intro first member second other
    rw [key.before?_valueOf (located first member) (located second other)]
    rfl
  simp only [sortUsages, ordered, if_true]

theorem UsageStatistics.ofRecords_eq (located : ∀ record ∈ records, record.IsLocated) :
    ∃ statistics, ofRecords records = .ok statistics ∧
      statistics.byType = tally (records.map fun record => .str record.usageType.label) := by
  have keys : (records.map (·.file)).all Json.isKey = true := by
    rw [List.all_map, List.all_eq_true]
    intro record member
    obtain ⟨file, isFile⟩ := (located record member).file
    simp [isFile, Json.isKey]
  exact ⟨_, by simp only [ofRecords, keys, if_true]; rfl, rfl⟩

theorem page_all {α : Type} (items : List α) : page items 0 0 = items := by
  simp [page, placeIn]

/-- A report on located records lists a page of them in order and counts their types. -/
theorem UsageReport.ofRecords_eq (plan : ScanPlan) (grouped : Bool) (scanned matched : Nat)
    (located : ∀ record ∈ records, record.IsLocated) :
    ∃ report, ofRecords plan grouped scanned matched records = .ok report ∧
      report.usages = page (records.mergeSort plan.sortKey.ordered) plan.offset plan.limit ∧
      report.sorted = records.mergeSort plan.sortKey.ordered ∧
      report.filesScanned = scanned ∧
      report.statistics.byType =
        tally ((records.mergeSort plan.sortKey.ordered).map fun record =>
          .str record.usageType.label) := by
  have sortedLocated : ∀ record ∈ records.mergeSort plan.sortKey.ordered, record.IsLocated :=
    fun record member => located record (List.mem_mergeSort.mp member)
  obtain ⟨statistics, counted, byType⟩ := UsageStatistics.ofRecords_eq sortedLocated
  simp only [ofRecords, sortUsages_eq plan.sortKey located, bind, Except.bind, counted]
  exact ⟨_, rfl, rfl, rfl, rfl, byType⟩

end Reports

section Counting

theorem Json.text?_eq_of_same {first second : Json} (same : first.same second = true) :
    first.text? = second.text? := by
  cases first <;> cases second <;> simp_all [Json.same, Json.asNumber?, Json.text?]

variable {keeps : Json → Bool}

/-- Counts without some keys are not changed by one more occurrence of such a key. -/
theorem filter_countKey
    (respects : ∀ first second : Json, first.same second = true → keeps first = keeps second)
    (counts : List (Json × Nat)) (key : Json) :
    (countKey counts key).filter (fun entry => keeps entry.1) =
      if keeps key then countKey (counts.filter fun entry => keeps entry.1) key
      else counts.filter fun entry => keeps entry.1 := by
  induction counts with
  | nil => cases kept : keeps key <;> simp [countKey, kept]
  | cons entry rest inductionHypothesis =>
    obtain ⟨known, count⟩ := entry
    rw [countKey]
    split
    case isTrue same =>
      have agree := respects known key same
      cases kept : keeps key <;> simp [agree, kept, countKey, same]
    case isFalse other =>
      cases kept : keeps key <;> cases knownKept : keeps known <;>
        simp_all [countKey]

/-- Counts without some keys are the counts of the other keys. -/
theorem filter_tally
    (respects : ∀ first second : Json, first.same second = true → keeps first = keeps second)
    (keys : List Json) :
    (tally keys).filter (fun entry => keeps entry.1) = tally (keys.filter keeps) := by
  have counted : ∀ counts : List (Json × Nat),
      (keys.foldl countKey counts).filter (fun entry => keeps entry.1) =
        (keys.filter keeps).foldl countKey (counts.filter fun entry => keeps entry.1) := by
    induction keys with
    | nil => exact fun counts => rfl
    | cons key rest inductionHypothesis =>
      intro counts
      rw [List.foldl_cons, inductionHypothesis, filter_countKey respects, List.filter_cons]
      split <;> rfl
  exact counted []

end Counting

end ClassAtlas
