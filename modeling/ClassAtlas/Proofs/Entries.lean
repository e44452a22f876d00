import Mathlib.Data.List.Nodup
import Mathlib.Data.List.Perm.Basic

/-!
Lists of entries, looked up by their keys.

The first entry with a key counts. Where keys differ, an entry is what is found under its key, so the
order of the entries is of no importance.
-/

namespace ClassAtlas.Entries

variable {α β : Type} [BEq α] [LawfulBEq α]

/-- Leaving out entries by their keys leaves the entries of other keys. -/
theorem lookup_filter (entries : List (α × β)) (key : α) (keeps : α → Bool) :
    (entries.filter fun entry => keeps entry.1).lookup key =
      if keeps key then entries.lookup key else none := by
  induction entries with
  | nil => simp
  | cons entry rest inductionHypothesis =>
    obtain ⟨known, value⟩ := entry
    rw [List.filter_cons, List.lookup_cons]
    by_cases same : key = known
    · subst same
      cases kept : keeps key <;> simp [kept, inductionHypothesis]
    · have other : (key == known) = false := beq_eq_false_iff_ne.mpr same
      cases kept : keeps known <;> simp [other, inductionHypothesis, List.lookup_cons]

theorem lookup_map {γ : Type} (entries : List (α × β)) (key : α) (change : α → β → γ) :
    (entries.map fun (known, value) => (known, change known value)).lookup key =
      (entries.lookup key).map (change key) := by
  induction entries with
  | nil => rfl
  | cons entry rest inductionHypothesis =>
    obtain ⟨known, value⟩ := entry
    rw [List.map_cons, List.lookup_cons, List.lookup_cons, inductionHypothesis]
    by_cases same : key = known
    · simp [same]
    · simp [beq_eq_false_iff_ne.mpr same]

/-- With distinct keys an entry is what is found under its key. -/
theorem lookup_eq_some_iff_mem {entries : List (α × β)} (distinct : (entries.map (·.1)).Nodup)
    {key : α} {value : β} : entries.lookup key = some value ↔ (key, value) ∈ entries := by
  induction entries with
  | nil => simp
  | cons first rest inductionHypothesis =>
    obtain ⟨known, other⟩ := first
    rw [List.map_cons, List.nodup_cons] at distinct
    rw [List.lookup_cons, List.mem_cons]
    by_cases same : key = known
    · subst same
      have absent : (key, value) ∉ rest := fun member => distinct.1 (List.mem_map.mpr ⟨_, member, rfl⟩)
      simp [absent, eq_comm]
    · simp [beq_eq_false_iff_ne.mpr same, same, inductionHypothesis distinct.2]

/-- What is found under a key does not depend on the order of entries whose keys differ. -/
theorem lookup_eq_of_perm {entries others : List (α × β)} (same : entries.Perm others)
    (distinct : (entries.map (·.1)).Nodup) (key : α) : entries.lookup key = others.lookup key := by
  have othersDistinct : (others.map (·.1)).Nodup := (same.map _).nodup_iff.mp distinct
  refine Option.ext fun value => ?_
  rw [lookup_eq_some_iff_mem distinct, lookup_eq_some_iff_mem othersDistinct, same.mem_iff]

end ClassAtlas.Entries
