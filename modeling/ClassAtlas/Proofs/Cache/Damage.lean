import ClassAtlas.Cache.Store
import ClassAtlas.Proofs.Entries

/-!
Entries whose text has been replaced.

A text that is not JSON, or that is null, counts as no value: where it stands in an entry, the store
answers as if the entry were not there. Two stores that differ in such entries alone answer alike, and
still do so after whatever is done to both.
-/

namespace ClassAtlas.Store

/-- Whether a text counts as no value: it is not JSON, or it is null. -/
def IsDiscarded (text : String) : Prop :=
  Json.parse text = .error .malformed ∨ Json.parse text = .ok .null

/-- Replaces the texts of the entries for whose keys another text is given. -/
def damagedBy (damage : String → Option String) (store : Store) : Store :=
  { store with entries := store.entries.map fun (key, entry) =>
      (key, { entry with payload := (damage key).getD entry.payload }) }

theorem overwrite_eq_damagedBy (store : Store) (key payload : String) :
    store.overwrite key payload =
      store.damagedBy fun known => if known == key then some payload else none := by
  simp only [overwrite, damagedBy]
  congr 2
  funext ⟨known, entry⟩
  by_cases same : known == key <;> simp [same]

theorem overwriteAll_eq_damagedBy (store : Store) (payload : String) :
    store.overwriteAll payload = store.damagedBy fun _ => some payload := rfl

/-- Leaves out the entries for whose keys another text is given. -/
def without (damage : String → Option String) (store : Store) : Store :=
  { store with entries := store.entries.filter fun entry => (damage entry.1).isNone }

/-- Whether a store reads as another one that lacks some of its entries: those that it lacks are
discarded, and all others are the same. -/
structure ReadsAs (store other : Store) : Prop where
  lifetime : store.lifetime = other.lifetime
  entries : ∀ key, store.entries.lookup key = other.entries.lookup key ∨
    other.entries.lookup key = none ∧
      ∃ entry, store.entries.lookup key = some entry ∧ IsDiscarded entry.payload
  tracked : ∀ key, (other.entries.lookup key).isSome = true →
    store.tracked.contains key = other.tracked.contains key

section Damage

variable {store : Store} {damage : String → Option String}

theorem lookup_damagedBy (key : String) :
    (store.damagedBy damage).entries.lookup key =
      (store.entries.lookup key).map fun entry =>
        { entry with payload := (damage key).getD entry.payload } :=
  Entries.lookup_map store.entries key fun key entry =>
    (⟨(damage key).getD entry.payload, entry.expiresAt⟩ : StoredEntry)

theorem lookup_without (key : String) :
    (store.without damage).entries.lookup key =
      if (damage key).isNone then store.entries.lookup key else none :=
  Entries.lookup_filter store.entries key fun key => (damage key).isNone

/-- A store with discarded texts reads as the store without their entries. -/
theorem readsAs_without (discarded : ∀ key text, damage key = some text → IsDiscarded text) :
    (store.damagedBy damage).ReadsAs (store.without damage) where
  lifetime := rfl
  entries := by
    intro key
    rw [lookup_damagedBy, lookup_without]
    cases given : damage key with
    | none => exact .inl (by simp)
    | some text =>
      cases found : store.entries.lookup key with
      | none => exact .inl (by simp)
      | some entry => exact .inr ⟨by simp, _, rfl, discarded key text given⟩
  tracked _ _ := rfl

/-- A store all of whose texts are discarded reads as an empty one. -/
theorem readsAs_empty (discarded : ∀ key text, damage key = some text → IsDiscarded text)
    (all : ∀ entry ∈ store.entries, (damage entry.1).isSome = true) :
    (store.damagedBy damage).ReadsAs (.empty store.lifetime) where
  lifetime := rfl
  entries := by
    intro key
    rw [lookup_damagedBy]
    cases found : store.entries.lookup key with
    | none => exact .inl rfl
    | some entry =>
      obtain ⟨front, back, split, -⟩ := List.lookup_eq_some_iff.mp found
      obtain ⟨text, given⟩ := Option.isSome_iff_exists.mp (all (key, entry) (by simp [split]))
      exact .inr ⟨rfl, _, rfl, by simpa [given] using discarded key text given⟩
  tracked _ held := by cases held

end Damage

namespace ReadsAs

variable {store other : Store}

theorem forget (reads : store.ReadsAs other) (key : String) :
    (store.forget key).ReadsAs (other.forget key) where
  lifetime := reads.lifetime
  entries := by
    intro known
    simp only [Store.forget]
    rw [Entries.lookup_filter _ known (· != key), Entries.lookup_filter _ known (· != key)]
    split
    · exact reads.entries known
    · exact .inl rfl
  tracked := by
    intro known held
    simp only [Store.forget] at held ⊢
    rw [Entries.lookup_filter _ known (· != key)] at held
    split at held
    case isTrue kept => simpa [kept] using reads.tracked known held
    case isFalse => cases held

/-- An entry that the other store lacks may be removed. -/
theorem forget_left (reads : store.ReadsAs other) {key : String}
    (lacks : other.entries.lookup key = none) : (store.forget key).ReadsAs other where
  lifetime := reads.lifetime
  entries := by
    intro known
    simp only [Store.forget]
    rw [Entries.lookup_filter _ known (· != key)]
    split
    case isTrue => exact reads.entries known
    case isFalse same =>
      have same : known = key := by simpa using same
      exact .inl (by rw [same, lacks])
  tracked := by
    intro known held
    have apart : known ≠ key := by
      rintro rfl
      rw [lacks] at held
      cases held
    rw [← reads.tracked known held]
    simp [Store.forget, apart]

theorem invalidateAll (reads : store.ReadsAs other) :
    store.invalidateAll.2.ReadsAs other.invalidateAll.2 where
  lifetime := reads.lifetime
  entries := by
    intro key
    simp only [Store.invalidateAll]
    rw [Entries.lookup_filter _ key (!store.tracked.contains ·),
      Entries.lookup_filter _ key (!other.tracked.contains ·)]
    rcases reads.entries key with same | ⟨lacks, entry, found, discarded⟩
    · rw [same]
      cases held : other.entries.lookup key with
      | none => exact .inl (by simp)
      | some entry =>
        rw [reads.tracked key (by rw [held]; rfl)]
        exact .inl rfl
    · rw [lacks, found, ite_self]
      split
      · exact .inr ⟨rfl, entry, rfl, discarded⟩
      · exact .inl rfl
  tracked _ _ := rfl

/-- Both stores give the same for a key, and go on to read alike. -/
theorem get (reads : store.ReadsAs other) (now : Int) (key : String) :
    (store.get now key).1 = (other.get now key).1 ∧
      (store.get now key).2.ReadsAs (other.get now key).2 := by
  rcases reads.entries key with same | ⟨lacks, entry, found, discarded⟩
  · rw [Store.get, Store.get, same]
    cases other.entries.lookup key with
    | none => exact ⟨rfl, reads⟩
    | some entry =>
      dsimp only
      split
      · exact ⟨rfl, reads.forget key⟩
      · split
        case h_3 => exact ⟨rfl, reads.forget key⟩
        all_goals exact ⟨rfl, reads⟩
  · rw [Store.get, Store.get, found, lacks]
    dsimp only
    split
    · exact ⟨rfl, reads.forget_left lacks⟩
    · rcases discarded with malformed | null
      · rw [malformed]
        exact ⟨rfl, reads.forget_left lacks⟩
      · rw [null]
        exact ⟨rfl, reads⟩

theorem contains_tracking (tracked : List String) (key known : String) :
    (if tracked.contains key then tracked else tracked ++ [key]).contains known =
      (tracked.contains known || known == key) := by
  split
  case isTrue held =>
    by_cases same : known = key
    · rw [same, held, Bool.true_or]
    · rw [beq_eq_false_iff_ne.mpr same, Bool.or_false]
  case isFalse => rw [List.contains_append, List.contains_cons, List.contains_nil, Bool.or_false]

/-- A value can be stored in both or in neither, and afterwards both read alike. -/
theorem put (reads : store.ReadsAs other) (now : Int) (key : String) (value : Json) :
    (∃ fault, store.put now key value none = .error fault ∧
      other.put now key value none = .error fault) ∨
    ∃ later otherLater, store.put now key value none = .ok later ∧
      other.put now key value none = .ok otherLater ∧ later.ReadsAs otherLater := by
  simp only [Store.put, reads.lifetime, Option.getD_none]
  by_cases long : value.hasLongInteger = true
  · exact .inl ⟨.badValue longNumeralMessage, by simp only [long]; rfl, by simp only [long]; rfl⟩
  by_cases deep : Json.maxDepth < value.nesting
  · exact .inl ⟨.tooNested, by simp only [long, deep]; rfl, by simp only [long, deep]; rfl⟩
  · simp only [long, deep]
    cases Moment.after now other.lifetime with
    | error fault => exact .inl ⟨fault, rfl, rfl⟩
    | ok expiresAt =>
      refine .inr ⟨_, _, rfl, rfl, rfl, ?_, ?_⟩
      · intro known
        rw [List.lookup_append, List.lookup_append, Entries.lookup_filter _ known (· != key),
          Entries.lookup_filter _ known (· != key)]
        split
        case isTrue apart =>
          have apart : (known == key) = false := by simpa using apart
          simpa [List.lookup_cons, apart] using reads.entries known
        case isFalse => exact .inl rfl
      · intro known held
        rw [List.lookup_append, Entries.lookup_filter _ known (· != key)] at held
        by_cases same : known = key
        · subst same
          rw [contains_tracking, contains_tracking, beq_self_eq_true, Bool.or_true, Bool.or_true]
        · have apart : (known == key) = false := beq_eq_false_iff_ne.mpr same
          rw [contains_tracking, contains_tracking, apart, Bool.or_false, Bool.or_false]
          refine reads.tracked known ?_
          rwa [if_pos (by simpa using same), List.lookup_cons, apart, List.lookup_nil,
            Option.or_none] at held

end ReadsAs

end ClassAtlas.Store
