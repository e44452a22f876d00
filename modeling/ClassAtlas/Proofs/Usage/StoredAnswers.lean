import ClassAtlas.Proofs.Cache.Key
import ClassAtlas.Proofs.Usage.Record
import Mathlib.Data.Set.Function

/-!
What a store answers.

A store is honest if each of its entries answers the inquiry that its key was made for. As long as no
two inquiries are confused by their digests, an honest store answers every inquiry with what would be
found, or not at all. All that a scan does to a store keeps it honest.
-/

namespace ClassAtlas

/-- What a stored result answers: which usages of a target a content holds. -/
structure Inquiry where
  content : Bytes
  target : String
  usageTypes : List UsageType

namespace Inquiry

/-- What is hashed for the key of an inquiry. -/
def material (inquiry : Inquiry) : Bytes :=
  Utf8.encode (CacheKey.material inquiry.content inquiry.target
    (inquiry.usageTypes.map UsageType.label))

/-- The key of an inquiry. -/
def key (inquiry : Inquiry) : String :=
  CacheKey.make inquiry.content inquiry.target (inquiry.usageTypes.map UsageType.label)

/-- The usages that are found in the content, given the syntax tree of each content. -/
def answer (parse : Bytes → Node) (inquiry : Inquiry) : List UsageRecord :=
  Source.usages ⟨inquiry.content, parse inquiry.content⟩ inquiry.target inquiry.usageTypes

/-- Whether digests tell inquiries apart: no two contents have one digest, and no two of the texts that
keys are made of. -/
structure Distinct (inquiries : Set Inquiry) : Prop where
  contents : Set.InjOn Sha256.hexDigest (content '' inquiries)
  materials : Set.InjOn Sha256.hexDigest (material '' inquiries)

theorem Distinct.of_subsingleton {inquiries : Set Inquiry} (single : inquiries.Subsingleton) :
    Distinct inquiries where
  contents := (single.image content).injOn Sha256.hexDigest
  materials := (single.image material).injOn Sha256.hexDigest

end Inquiry

theorem Detector.select_perm {wanted others : List UsageType} (same : wanted.Perm others) :
    select wanted = select others := by
  have containsSame : ∀ usageType, wanted.contains usageType = others.contains usageType :=
    fun usageType => same.contains_eq
  simp only [select, same.isEmpty_eq, containsSame]

namespace Inquiry

variable {inquiries : Set Inquiry}

/-- Inquiries with one key have one answer. -/
theorem Distinct.answer_eq (distinct : Distinct inquiries) {first second : Inquiry}
    (firstMet : first ∈ inquiries) (secondMet : second ∈ inquiries) (sameKey : first.key = second.key)
    (parse : Bytes → Node) : first.answer parse = second.answer parse := by
  obtain ⟨contents, targets, types⟩ := CacheKey.same_of_make_eq
    (distinct.contents ⟨first, firstMet, rfl⟩ ⟨second, secondMet, rfl⟩)
    (distinct.materials ⟨first, firstMet, rfl⟩ ⟨second, secondMet, rfl⟩) sameKey
  simp only [answer, Source.usages, findUsages, View.sightings, View.ofTokens, contents, targets,
    Detector.select_perm types]

theorem isFound_of_mem_answer {parse : Bytes → Node} {inquiry : Inquiry} {record : UsageRecord}
    (member : record ∈ inquiry.answer parse) : record.IsFound :=
  Scan.isFound_of_mem_findUsages member

end Inquiry

namespace Store

/-- Why a value cannot be stored for a lifetime, if it cannot. -/
def refusal? (lifetime : Int) (value : Json) : Option Fault :=
  if value.hasLongInteger then some (.badValue longNumeralMessage)
  else match Moment.seconds lifetime with
    | .ok _ => none
    | .error fault => some fault

/-- What storing a value that is not nested too deep comes to. -/
theorem put_eq (store : Store) (now : Int) (key : String) {value : Json}
    (shallow : value.nesting ≤ Json.maxDepth) :
    (∃ fault, refusal? store.lifetime value = some fault ∧
      store.put now key value none = .error fault) ∨
    (∃ later expiresAt, refusal? store.lifetime value = none ∧
      store.put now key value none = .ok later ∧ later.lifetime = store.lifetime ∧
      later.entries =
        store.entries.filter (·.1 != key) ++ [(key, ⟨value.renderAscii, expiresAt⟩)]) := by
  have fits : ¬ Json.maxDepth < value.nesting := Nat.not_lt.mpr shallow
  cases long : value.hasLongInteger with
  | true =>
    refine .inl ⟨.badValue longNumeralMessage, by simp [refusal?, long], ?_⟩
    simp only [put, long, if_true]
    rfl
  | false =>
    cases counted : Moment.seconds store.lifetime with
    | error fault =>
      refine .inl ⟨fault, by simp [refusal?, long, counted], ?_⟩
      simp only [put, long, fits, if_false, Option.getD_none, Moment.after, counted]
      rfl
    | ok seconds =>
      have accepted : store.put now key value none = .ok { store with
          entries := store.entries.filter (·.1 != key) ++
            [(key, ⟨value.renderAscii, Moment.nearest (now + seconds)⟩)]
          tracked :=
            if store.tracked.contains key then store.tracked else store.tracked ++ [key] } := by
        simp only [put, long, fits, if_false, Option.getD_none, Moment.after, counted]
        rfl
      exact .inr ⟨_, _, by simp [refusal?, long, counted], accepted, rfl, rfl⟩

/-- An entry that answers an inquiry. -/
structure Answers (parse : Bytes → Node) (inquiry : Inquiry) (lifetime : Int)
    (entry : String × StoredEntry) : Prop where
  key : entry.1 = inquiry.key
  payload : entry.2.payload = (Scan.storedValue (inquiry.answer parse)).renderAscii
  storable : refusal? lifetime (Scan.storedValue (inquiry.answer parse)) = none

/-- Whether each entry of a store answers an inquiry among those given. -/
def Honest (parse : Bytes → Node) (inquiries : Set Inquiry) (store : Store) : Prop :=
  ∀ entry ∈ store.entries, ∃ inquiry ∈ inquiries, Answers parse inquiry store.lifetime entry

section Honesty

variable {parse : Bytes → Node} {inquiries : Set Inquiry} {store : Store}

theorem empty_honest (parse : Bytes → Node) (inquiries : Set Inquiry) (lifetime : Int) :
    (Store.empty lifetime).Honest parse inquiries := by
  intro entry member
  cases member

/-- A store with fewer entries and the same lifetime is as honest. -/
theorem Honest.of_subset {smaller : Store} (honest : store.Honest parse inquiries)
    (lifetime : smaller.lifetime = store.lifetime) (fewer : smaller.entries ⊆ store.entries) :
    smaller.Honest parse inquiries := by
  intro entry member
  rw [lifetime]
  exact honest entry (fewer member)

theorem Honest.forget (honest : store.Honest parse inquiries) (key : String) :
    (store.forget key).Honest parse inquiries :=
  honest.of_subset rfl List.filter_sublist.subset

theorem Honest.invalidateAll (honest : store.Honest parse inquiries) :
    store.invalidateAll.2.Honest parse inquiries :=
  honest.of_subset rfl List.filter_sublist.subset

theorem Honest.purgeExpired (honest : store.Honest parse inquiries) (now : Int) :
    (store.purgeExpired now).2.Honest parse inquiries :=
  honest.of_subset rfl List.filter_sublist.subset

/-- Storing the answer to an inquiry keeps a store honest. -/
theorem Honest.put (honest : store.Honest parse inquiries) {inquiry : Inquiry}
    (met : inquiry ∈ inquiries) {now : Int} {later : Store}
    (stored : store.put now inquiry.key (Scan.storedValue (inquiry.answer parse)) none = .ok later) :
    later.Honest parse inquiries ∧ later.lifetime = store.lifetime := by
  have shallow : (Scan.storedValue (inquiry.answer parse)).nesting ≤ Json.maxDepth :=
    Scan.nesting_storedValue_le fun _ => Inquiry.isFound_of_mem_answer
  obtain ⟨fault, -, refused⟩ | ⟨next, expiresAt, storable, accepted, lifetime, entries⟩ :=
    store.put_eq now inquiry.key shallow
  · rw [refused] at stored
    cases stored
  · rw [accepted] at stored
    cases stored
    refine ⟨?_, lifetime⟩
    intro entry member
    rw [lifetime]
    rw [entries] at member
    rcases List.mem_append.mp member with earlier | new
    · exact honest entry (List.filter_sublist.subset earlier)
    · rw [List.mem_singleton.mp new]
      exact ⟨inquiry, met, rfl, rfl, storable⟩

/-- What an honest store gives for an inquiry: nothing, or the answer, which can then be stored. -/
theorem Honest.get (distinct : Inquiry.Distinct inquiries) (honest : store.Honest parse inquiries)
    {inquiry : Inquiry} (met : inquiry ∈ inquiries) (now : Int) :
    ∃ later : Store, later.Honest parse inquiries ∧ later.lifetime = store.lifetime ∧
      (store.get now inquiry.key = (.ok none, later) ∨
        store.get now inquiry.key = (.ok (some (Scan.storedValue (inquiry.answer parse))), later) ∧
          refusal? store.lifetime (Scan.storedValue (inquiry.answer parse)) = none) := by
  rw [Store.get]
  cases found : store.entries.lookup inquiry.key with
  | none => exact ⟨store, honest, rfl, .inl rfl⟩
  | some entry =>
    obtain ⟨front, back, split, _⟩ := List.lookup_eq_some_iff.mp found
    obtain ⟨answered, answeredMet, answers⟩ := honest (inquiry.key, entry) (by simp [split])
    have sameAnswer := distinct.answer_eq met answeredMet answers.key parse
    have storable := answers.storable
    have payload := answers.payload
    rw [← sameAnswer] at storable payload
    have short : (Scan.storedValue (inquiry.answer parse)).hasLongInteger = false := by
      rw [refusal?] at storable
      split at storable
      · cases storable
      · simp_all
    have read : Json.parse entry.payload = .ok (Scan.storedValue (inquiry.answer parse)) := by
      rw [payload]
      exact Json.parse_renderAscii
        (Scan.readsBack_storedValue (fun _ => Inquiry.isFound_of_mem_answer) short)
    by_cases expired : entry.expiresAt ≤ now
    · exact ⟨store.forget inquiry.key, honest.forget _, rfl, .inl (by simp [expired])⟩
    · refine ⟨store, honest, rfl, .inr ⟨?_, storable⟩⟩
      simp only [expired, if_false, read]
      rfl

end Honesty

end Store

end ClassAtlas
