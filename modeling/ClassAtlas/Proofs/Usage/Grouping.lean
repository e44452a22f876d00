import ClassAtlas.Proofs.Usage.Order
import Mathlib.Algebra.GroupWithZero.Nat
import Mathlib.Data.List.Induction
import Mathlib.Data.List.Nodup

/-!
Stable orders, groups and counts.

A stable order is determined by the items and the relation. Grouping items by a label and counting labels
both keep the order in which labels are met, so that the counts are the sizes of the groups and the groups
are the sublists by label.
-/

namespace ClassAtlas

section Order

variable {α : Type} {before : α → α → Bool} {items sorted other : List α}

/-- Whether a list holds items in order, with those that have the same place in the order left as they
stood. -/
structure StablyOrders (before : α → α → Bool) (items sorted : List α) : Prop where
  permutes : sorted.Perm items
  ordered : sorted.Pairwise fun first second => before first second = true
  stable : ∀ item, sorted.filter (fun other => before item other && before other item) =
    items.filter fun other => before item other && before other item

theorem mergeSort_stablyOrders
    (trans : ∀ first second third, before first second → before second third → before first third)
    (total : ∀ first second, before first second || before second first) (items : List α) :
    StablyOrders before items (items.mergeSort before) where
  permutes := List.mergeSort_perm items before
  ordered := List.pairwise_mergeSort trans total items
  stable := by
    intro item
    rw [filter_mergeSort trans total]
    refine List.mergeSort_of_pairwise (List.pairwise_iff_forall_sublist.mpr fun {first second} pair => ?_)
    have member : ∀ other ∈ [first, second], before item other = true ∧ before other item = true := by
      intro other among
      have kept := (List.mem_filter.mp (pair.subset among)).2
      rwa [Bool.and_eq_true] at kept
    exact trans first item second (member first (by simp)).2 (member second (by simp)).1

/-- Lists in order whose items with the same place in the order are the same are equal. -/
theorem eq_of_same_ties (total : ∀ first second, before first second || before second first)
    (ordered : sorted.Pairwise fun first second => before first second = true)
    (alsoOrdered : other.Pairwise fun first second => before first second = true)
    (permutes : sorted.Perm other)
    (ties : ∀ item, sorted.filter (fun next => before item next && before next item) =
      other.filter fun next => before item next && before next item) : sorted = other := by
  induction sorted generalizing other with
  | nil => exact permutes.nil_eq
  | cons first rest inductionHypothesis =>
    cases other with
    | nil => exact permutes.eq_nil
    | cons start others =>
      have refl : ∀ item, before item item = true := fun item => by simpa using total item item
      have least : ∀ {head : α} {tail : List α}, (head :: tail).Pairwise (before · · = true) →
          ∀ item ∈ head :: tail, before head item = true := by
        intro head tail inOrder item member
        rcases List.mem_cons.mp member with rfl | further
        · exact refl item
        · exact List.rel_of_pairwise_cons inOrder further
      have low := least ordered start (permutes.mem_iff.mpr List.mem_cons_self)
      have high := least alsoOrdered first (permutes.mem_iff.mp List.mem_cons_self)
      -- Each list begins with an item that no other comes before, so the two tie, and they are the first
      -- of those that tie with them.
      have same := ties first
      rw [List.filter_cons_of_pos (by simp [refl]), List.filter_cons_of_pos (by simp [low, high]),
        List.cons.injEq] at same
      obtain ⟨rfl, -⟩ := same
      congr 1
      refine inductionHypothesis ordered.of_cons alsoOrdered.of_cons permutes.cons_inv fun item => ?_
      have whole := ties item
      rw [List.filter_cons, List.filter_cons] at whole
      split at whole
      case isTrue => exact (List.cons.inj whole).2
      case isFalse => exact whole

/-- There is one stable order only. -/
theorem StablyOrders.unique (total : ∀ first second, before first second || before second first)
    (orders : StablyOrders before items sorted) (alsoOrders : StablyOrders before items other) :
    other = sorted :=
  eq_of_same_ties total alsoOrders.ordered orders.ordered
    (alsoOrders.permutes.trans orders.permutes.symm)
    fun item => (alsoOrders.stable item).trans (orders.stable item).symm

end Order

section Groups

theorem eraseDups_concat (keys : List String) (key : String) :
    (keys ++ [key]).eraseDups =
      if key ∈ keys then keys.eraseDups else keys.eraseDups ++ [key] := by
  rw [List.eraseDups_append]
  split
  case isTrue known => simp [List.removeAll, known]
  case isFalse new => simp [List.removeAll, new, List.eraseDups_cons]

theorem nodup_eraseDups (keys : List String) : keys.eraseDups.Nodup := by
  induction keys using List.reverseRecOn with
  | nil => simp
  | append_singleton keys key inductionHypothesis =>
    rw [eraseDups_concat]
    split
    case isTrue => exact inductionHypothesis
    case isFalse new =>
      refine List.Nodup.append inductionHypothesis (List.nodup_singleton key) ?_
      simpa [List.disjoint_singleton] using new

variable {α : Type}

/-- Items in groups by a label, in the order in which the labels are met. -/
def groupsBy (label : α → String) (items : List α) : List (String × List α) :=
  items.foldl (fun groups item => addToGroup groups (label item) item) []

theorem groupsBy_concat (label : α → String) (items : List α) (item : α) :
    groupsBy label (items ++ [item]) = addToGroup (groupsBy label items) (label item) item := by
  rw [groupsBy, List.foldl_append]
  rfl

/-- An item joins the group of its label, or begins one at the end. -/
theorem addToGroup_map {keys : List String} (distinct : keys.Nodup) (members : String → List α)
    (key : String) (item : α) :
    addToGroup (keys.map fun known => (known, members known)) key item =
      if key ∈ keys then
        keys.map fun known => (known, members known ++ if key == known then [item] else [])
      else (keys.map fun known => (known, members known)) ++ [(key, [item])] := by
  induction keys with
  | nil => rfl
  | cons known rest inductionHypothesis =>
    rw [List.nodup_cons] at distinct
    rw [List.map_cons, addToGroup]
    by_cases same : known = key
    · subst same
      have others : ∀ other ∈ rest, (known == other) = false :=
        fun other member => beq_eq_false_iff_ne.mpr fun equal => distinct.1 (equal ▸ member)
      simp only [beq_self_eq_true, if_true, List.mem_cons_self, List.map_cons, List.cons.injEq, true_and]
      refine List.map_congr_left fun other member => ?_
      simp [others other member]
    · rw [if_neg (by simpa using same), inductionHypothesis distinct.2]
      by_cases further : key ∈ rest <;> simp [further, Ne.symm same]

/-- The groups of items are their sublists by label, in the order in which the labels are met. -/
theorem groupsBy_eq (label : α → String) (items : List α) :
    groupsBy label items =
      (items.map label).eraseDups.map fun key => (key, items.filter (label · == key)) := by
  induction items using List.reverseRecOn with
  | nil => rfl
  | append_singleton items item inductionHypothesis =>
    rw [groupsBy_concat, inductionHypothesis, addToGroup_map (nodup_eraseDups _), List.map_append,
      List.map_singleton, eraseDups_concat]
    simp only [List.mem_eraseDups]
    split
    case isTrue known =>
      refine List.map_congr_left fun key _ => ?_
      rw [List.filter_append, List.filter_singleton, Bool.cond_eq_ite]
    case isFalse new =>
      have absent : items.filter (label · == label item) = [] := by
        refine List.filter_eq_nil_iff.mpr fun other member => ?_
        rw [beq_iff_eq]
        exact fun same => new (same ▸ List.mem_map_of_mem member)
      rw [List.map_append, List.map_singleton, List.filter_append, absent]
      congr 1
      · refine List.map_congr_left fun key member => ?_
        have differs : label item ≠ key := fun same => new (same ▸ List.mem_eraseDups.mp member)
        simp [List.filter_append, differs]
      · simp

/-- Groups hold the items they are made of. -/
theorem flatMap_groupsBy_perm (label : α → String) (items : List α) :
    ((groupsBy label items).flatMap Prod.snd).Perm items := by
  have added : ∀ (groups : List (String × List α)) (key : String) (item : α),
      ((addToGroup groups key item).flatMap Prod.snd).Perm (groups.flatMap Prod.snd ++ [item]) := by
    intro groups key item
    induction groups with
    | nil => exact .refl _
    | cons group rest inductionHypothesis =>
      rw [addToGroup]
      split
      · simp only [List.flatMap_cons, List.append_assoc]
        exact List.perm_append_comm.append_left group.2
      · simp only [List.flatMap_cons, List.append_assoc]
        exact inductionHypothesis.append_left group.2
  induction items using List.reverseRecOn with
  | nil => exact .refl _
  | append_singleton items item inductionHypothesis =>
    rw [groupsBy_concat]
    exact (added _ _ _).trans (inductionHypothesis.append_right [item])

/-- The sizes of groups. -/
def sizes (groups : List (String × List α)) : List (Json × Nat) :=
  groups.map fun group => (.str group.1, group.2.length)

/-- Counting labels is counting what is in their groups. -/
theorem tally_eq_sizes (label : α → String) (items : List α) :
    tally (items.map fun item => .str (label item)) = sizes (groupsBy label items) := by
  have counted : ∀ (groups : List (String × List α)) (key : String) (item : α),
      countKey (sizes groups) (.str key) = sizes (addToGroup groups key item) := by
    intro groups key item
    induction groups with
    | nil => rfl
    | cons group rest inductionHypothesis =>
      have same : (Json.str group.1).same (.str key) = (group.1 == key) := rfl
      rw [sizes] at inductionHypothesis
      rw [sizes, List.map_cons, countKey, addToGroup, same, inductionHypothesis]
      split <;> simp [sizes]
  induction items using List.reverseRecOn with
  | nil => rfl
  | append_singleton items item inductionHypothesis =>
    rw [List.map_append, List.map_singleton, tally, List.foldl_append, groupsBy_concat, ← counted,
      ← inductionHypothesis]
    rfl

theorem sum_sizes_groupsBy (label : α → String) (items : List α) :
    ((sizes (groupsBy label items)).map Prod.snd).sum = items.length := by
  have whole := (flatMap_groupsBy_perm label items).length_eq
  rw [List.length_flatMap] at whole
  rw [← whole, sizes, List.map_map]
  rfl

theorem pos_of_mem_sizes_groupsBy {label : α → String} {items : List α} {entry : Json × Nat}
    (member : entry ∈ sizes (groupsBy label items)) : 0 < entry.2 := by
  rw [groupsBy_eq, sizes, List.map_map] at member
  obtain ⟨key, known, rfl⟩ := List.mem_map.mp member
  obtain ⟨item, among, rfl⟩ := List.mem_map.mp (List.mem_eraseDups.mp known)
  exact List.length_pos_of_mem (List.mem_filter.mpr ⟨among, beq_self_eq_true _⟩)

end Groups

section Largest

/-- Whether an entry is the first with the largest count, or no entry if nothing is counted. -/
inductive FirstLargest (counts : List (Json × Nat)) : Option (Json × Nat) → Prop where
  | absent (empty : counts = []) : FirstLargest counts none
  | found {front back : List (Json × Nat)} {entry : Json × Nat} (split : counts = front ++ entry :: back)
      (before : ∀ other ∈ front, other.2 < entry.2) (after : ∀ other ∈ back, other.2 ≤ entry.2) :
      FirstLargest counts (some entry)

/-- The larger one of what is largest so far and one more entry. -/
def largerOf (best : Option (Json × Nat)) (entry : Json × Nat) : Option (Json × Nat) :=
  match best with
  | some (_, most) => if entry.2 > most then some entry else best
  | none => if entry.2 > 0 then some entry else none

theorem foldl_largerOf {counts : List (Json × Nat)} (positive : ∀ entry ∈ counts, 0 < entry.2) :
    FirstLargest counts (counts.foldl largerOf none) := by
  induction counts using List.reverseRecOn with
  | nil => exact .absent rfl
  | append_singleton counts entry inductionHypothesis =>
    rw [List.forall_mem_append, List.forall_mem_singleton] at positive
    rw [List.foldl_append]
    have largest := inductionHypothesis positive.1
    cases best : counts.foldl largerOf none with
    | none =>
      rw [best] at largest
      cases largest with
      | absent empty =>
        subst empty
        simp only [List.foldl_cons, List.foldl_nil, largerOf, positive.2, if_true]
        exact .found (show _ = [] ++ entry :: [] from rfl) (by simp) (by simp)
    | some most =>
      rw [best] at largest
      cases largest with
      | found split before after =>
        subst split
        simp only [List.foldl_cons, List.foldl_nil, largerOf]
        split
        case isTrue larger =>
          refine .found rfl (List.forall_mem_append.mpr ⟨fun other member => ?_, ?_⟩) (by simp)
          · exact (before other member).trans larger
          · exact List.forall_mem_cons.mpr ⟨larger, fun other member => (after other member).trans_lt larger⟩
        case isFalse smaller =>
          refine .found (List.append_assoc ..) before (List.forall_mem_append.mpr ⟨after, ?_⟩)
          simpa using smaller

theorem mostCounted?_eq {counts : List (Json × Nat)} (positive : ∀ entry ∈ counts, 0 < entry.2) :
    ∃ most, FirstLargest counts most ∧ mostCounted? counts = most.map Prod.fst :=
  ⟨_, foldl_largerOf positive, rfl⟩

end Largest

end ClassAtlas
