import ClassAtlas.Proofs.Json.RoundTrip
import ClassAtlas.Usage.Scan

/-!
Records that are stored come back.

A record is read from its own JSON, and the JSON of records that were found is read from its written
form unless a line number is too long to be written, in which case nothing is stored.
-/

namespace ClassAtlas

theorem UsageType.ofLabel?_label (usageType : UsageType) :
    ofLabel? usageType.label = some usageType := by
  cases usageType <;> rfl

namespace UsageRecord

/-- A record is read back from its JSON. -/
theorem ofJson_toJson (record : UsageRecord) : ofJson record.toJson = .ok record := by
  obtain ⟨line, usageType, code, method, file⟩ := record
  have known : usageTypeOf (.str usageType.label) = .ok usageType := by
    simp [usageTypeOf, Json.text?, UsageType.ofLabel?_label]
  cases method <;> simp [toJson, ofJson, List.lookup_cons, known, Functor.map, Except.map]

/-- Whether a record was found in a file, and not read from elsewhere. -/
def IsFound (record : UsageRecord) : Prop :=
  ∃ line usageType code method, record = found line usageType code method

/-- The JSON of a record that was found can be written and read, unless its line number is too long. -/
theorem IsFound.readsBack {record : UsageRecord} (isFound : record.IsFound)
    (short : record.toJson.hasLongInteger = false) (depth : Nat) :
    Json.ReadsBack (depth + 1) record.toJson := by
  obtain ⟨line, usageType, code, method, rfl⟩ := isFound
  have lineShort : (Nat.toDigits 10 line.natAbs).length ≤ Text.maxNumeralDigits := by
    cases method <;>
      simpa [toJson, found, Json.ofText?, Json.hasLongInteger, Json.anyLongMember] using short
  have lineBack : Json.ReadsBack depth (.int line) := .int depth lineShort
  cases method with
  | none =>
    refine .object (by simp [found, Json.ofText?]) ?_
    simp only [found, Json.ofText?, List.forall_mem_cons]
    exact ⟨.str depth _, lineBack, .str depth _, .str depth _, by simp⟩
  | some name =>
    refine .object (by simp [found, Json.ofText?]) ?_
    simp only [found, Json.ofText?, List.cons_append, List.nil_append, List.forall_mem_cons]
    exact ⟨.str depth _, lineBack, .str depth _, .str depth _, .str depth _, by simp⟩

theorem IsFound.nesting_toJson {record : UsageRecord} (isFound : record.IsFound) :
    record.toJson.nesting = 1 := by
  obtain ⟨line, usageType, code, method, rfl⟩ := isFound
  cases method <;> rfl

end UsageRecord

namespace Scan

/-- Stored records are the records. -/
theorem storedRecords_storedValue (records : List UsageRecord) :
    storedRecords (storedValue records) = .ok records := by
  have each : (records.map UsageRecord.toJson).mapM UsageRecord.ofJson = .ok records := by
    induction records with
    | nil => rfl
    | cons record rest inductionHypothesis =>
      rw [List.map_cons, List.mapM_cons, UsageRecord.ofJson_toJson, inductionHypothesis]
      rfl
  exact each

theorem readsBack_storedValue {records : List UsageRecord} (found : ∀ record ∈ records, record.IsFound)
    (short : (storedValue records).hasLongInteger = false) :
    Json.ReadsBack Json.maxDepth (storedValue records) := by
  refine Json.ReadsBack.list ?_
  intro item member
  have itemShort := Json.anyLongInteger_eq_false.mp short item member
  obtain ⟨record, listed, rfl⟩ := List.mem_map.mp member
  exact (found record listed).readsBack itemShort _

theorem nesting_storedValue_le {records : List UsageRecord}
    (found : ∀ record ∈ records, record.IsFound) : (storedValue records).nesting ≤ Json.maxDepth := by
  refine Nat.succ_le_succ (Json.itemNesting_le.mpr fun item member => ?_)
  obtain ⟨record, listed, rfl⟩ := List.mem_map.mp member
  rw [(found record listed).nesting_toJson]
  decide

/-- The records of a scan were found. -/
theorem isFound_of_mem_findUsages {tokens : List Token} {target : String} {wanted : List UsageType}
    {record : UsageRecord} (member : record ∈ findUsages tokens target wanted) : record.IsFound := by
  obtain ⟨sighting, -, rfl⟩ := List.mem_map.mp member
  exact ⟨_, _, _, _, rfl⟩

end Scan

end ClassAtlas
