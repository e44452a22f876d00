import ClassAtlas.Proofs.Index.Graph
import Mathlib.Data.List.Nodup
import Mathlib.Data.List.Pairwise

/-!
What a walk meets.

A walk meets every node that can be reached, and each of them once: from the first of the nodes met
before it that lead to it. Nodes are left in the order in which they are met, along their edges as they
stand in the graph. Nearer nodes therefore come before those farther away.
-/

namespace ClassAtlas.ClassIndex

/-- Whether a node is reached from another one in a number of steps. -/
inductive Reaches (edges : List Edge) (key : String) : Nat → String → Prop where
  | start : Reaches edges key 0 key
  | step {edge : Edge} {steps : Nat} (reached : Reaches edges key steps edge.source)
      (member : edge ∈ edges) : Reaches edges key (steps + 1) edge.target

/-- Whether the edges from each node lead to different nodes. -/
def Simple (edges : List Edge) : Prop :=
  ∀ node, ((edgesFrom edges node).map (·.target)).Nodup

theorem Simple.sublist {edges others : List Edge} (simple : Simple edges)
    (fewer : others.Sublist edges) : Simple others :=
  fun node => (simple node).sublist ((fewer.filter _).map _)

/-- What a walk has met in the end, if it has left some nodes already and is still to leave others. -/
structure Tour (edges : List Edge) (left queue : List String) (met : List Edge)
    (order : List String) : Prop where
  isOrder : order = left ++ queue ++ met.map (·.target)
  within : ∀ edge ∈ met, edge ∈ edges
  distinct : order.Nodup
  /-- Nothing is left out. -/
  closed : ∀ edge ∈ edges, edge.source ∈ order → edge.target ∈ order
  fromQueue : ∀ edge ∈ met, edge.source ∈ queue ++ met.map (·.target)
  /-- Nodes are left in the order in which they are met. -/
  queued : met.Pairwise fun first second => order.idxOf first.source ≤ order.idxOf second.source
  /-- A node is met from the first of those that lead to it. -/
  earliest : ∀ edge ∈ met, ∀ other ∈ edges, other.target = edge.target →
    order.idxOf edge.source ≤ order.idxOf other.source
  /-- The edges of a node are taken as they stand. -/
  adjacent : ∀ node, (edgesFrom met node).Sublist (edgesFrom edges node)

section Walks

variable {edges : List Edge} {left queue order : List String} {node : String} {met : List Edge}

theorem Tour.rest (isClosed : ∀ edge ∈ edges, edge.source ∈ left → edge.target ∈ left)
    (distinct : left.Nodup) : Tour edges left [] [] left where
  isOrder := by simp
  within := by simp
  distinct := distinct
  closed := isClosed
  fromQueue := by simp
  queued := .nil
  earliest := by simp
  adjacent := by simp [edgesFrom]

/-- The edges along which a node is left. -/
def newFrom (edges : List Edge) (node : String) (seen : List String) : List Edge :=
  edges.filter fun edge => edge.source == node && !seen.contains edge.target

theorem mem_newFrom {seen : List String} {edge : Edge} :
    edge ∈ newFrom edges node seen ↔ edge ∈ edges ∧ edge.source = node ∧ edge.target ∉ seen := by
  simp [newFrom]

theorem newFrom_sublist (edges : List Edge) (node : String) (seen : List String) :
    (newFrom edges node seen).Sublist (edgesFrom edges node) := by
  rw [newFrom, edgesFrom]
  exact List.monotone_filter_right edges fun edge new => (Bool.and_eq_true_iff.mp new).1

theorem length_le_idxOf {left rest : List String} {other : String} (new : other ∉ left) :
    left.length ≤ (left ++ rest).idxOf other := by
  rw [List.idxOf_append_of_notMem new]
  exact Nat.le_add_right _ _

theorem idxOf_append_cons {left rest : List String} {node : String} (new : node ∉ left) :
    (left ++ node :: rest).idxOf node = left.length := by
  rw [List.idxOf_append_of_notMem new, List.idxOf_cons_self, Nat.add_zero]

/-- What is met after a node has been left is met from other nodes, which were not left before. -/
theorem Tour.source_new (tour : Tour edges (left ++ [node]) queue met order) {edge : Edge}
    (member : edge ∈ met) : edge.source ∉ left ∧ edge.source ≠ node := by
  have distinct := tour.distinct
  rw [tour.isOrder, List.append_assoc, List.nodup_append] at distinct
  have apart : ∀ old ∈ left ++ [node], old ≠ edge.source := fun old before =>
    distinct.2.2 old before edge.source (tour.fromQueue edge member)
  exact ⟨fun old => apart _ (List.mem_append_left _ old) rfl,
    fun same => apart node (by simp) same.symm⟩

/-- The edges along which a node is left come before the edges of all other nodes. -/
theorem adjacent_visit {seen : List String}
    (adjacent : ∀ other, (edgesFrom met other).Sublist (edgesFrom edges other))
    (apart : ∀ edge ∈ met, edge.source ≠ node) (other : String) :
    (edgesFrom (newFrom edges node seen ++ met) other).Sublist (edgesFrom edges other) := by
  rw [edgesFrom, List.filter_append]
  by_cases own : other = node
  · subst own
    have none : met.filter (·.source == other) = [] :=
      List.filter_eq_nil_iff.mpr fun edge member => by simpa using apart edge member
    rw [none, List.append_nil]
    exact List.filter_sublist.filter _
  · have none : (newFrom edges node seen).filter (·.source == other) = [] := by
      refine List.filter_eq_nil_iff.mpr fun edge member => ?_
      rw [(mem_newFrom.mp member).2.1]
      simpa using Ne.symm own
    rw [none, List.nil_append]
    exact adjacent other

/-- Leaving one more node first. -/
theorem Tour.visit (closed : ∀ edge ∈ edges, edge.source ∈ left → edge.target ∈ left ++ node :: queue)
    (tour : Tour edges (left ++ [node])
      (queue ++ (newFrom edges node (left ++ node :: queue)).map (·.target)) met order) :
    Tour edges left (node :: queue) (newFrom edges node (left ++ node :: queue) ++ met) order := by
  have isOrder : order = left ++ node :: (queue ++
      (newFrom edges node (left ++ node :: queue)).map (·.target) ++ met.map (·.target)) := by
    rw [tour.isOrder]
    simp
  have distinct := tour.distinct
  rw [isOrder, List.nodup_append] at distinct
  have new : node ∉ left := fun old => distinct.2.2 node old node List.mem_cons_self rfl
  have place : order.idxOf node = left.length := by rw [isOrder, idxOf_append_cons new]
  have notBefore : ∀ other, other ∉ left → order.idxOf node ≤ order.idxOf other := by
    intro other unseen
    rw [place, isOrder]
    exact length_le_idxOf unseen
  refine ⟨?_, ?_, tour.distinct, tour.closed, ?_, ?_, ?_,
    adjacent_visit tour.adjacent fun edge member => (tour.source_new member).2⟩
  · rw [isOrder]
    simp
  · intro edge member
    rcases List.mem_append.mp member with here | later
    · exact (mem_newFrom.mp here).1
    · exact tour.within edge later
  · intro edge member
    rcases List.mem_append.mp member with here | later
    · rw [(mem_newFrom.mp here).2.1]
      exact List.mem_cons_self
    · have listed := tour.fromQueue edge later
      simp only [List.map_append, List.cons_append, ← List.append_assoc]
      exact List.mem_cons_of_mem _ listed
  · refine List.pairwise_append.mpr ⟨?_, tour.queued, ?_⟩
    · refine List.pairwise_of_forall_mem_list fun first member second other => ?_
      exact Nat.le_of_eq (by rw [(mem_newFrom.mp member).2.1, (mem_newFrom.mp other).2.1])
    · intro first member second later
      rw [(mem_newFrom.mp member).2.1]
      exact notBefore _ (tour.source_new later).1
  · intro edge member other listed same
    rcases List.mem_append.mp member with here | later
    · obtain ⟨-, own, unseen⟩ := mem_newFrom.mp here
      rw [own]
      exact notBefore _ fun old => unseen (same ▸ closed other listed old)
    · exact tour.earliest edge later other listed same

/-- What a node leads to has been met when the node has been left. -/
theorem closed_visit {seen : List String} (met : ∀ edge ∈ edges, edge.source ∈ left → edge.target ∈ seen) :
    ∀ edge ∈ edges, edge.source ∈ left ++ [node] →
      edge.target ∈ seen ++ (newFrom edges node seen).map (·.target) := by
  intro edge member old
  rw [List.mem_append]
  rcases List.mem_append.mp old with before | now
  · exact .inl (met edge member before)
  · by_cases known : edge.target ∈ seen
    · exact .inl known
    · rw [List.mem_singleton] at now
      exact .inr (List.mem_map_of_mem (mem_newFrom.mpr ⟨member, now, known⟩))

/-- No node is met twice. -/
theorem nodup_visit (simple : Simple edges) {seen : List String} (distinct : seen.Nodup)
    (node : String) : (seen ++ (newFrom edges node seen).map (·.target)).Nodup := by
  rw [List.nodup_append]
  refine ⟨distinct, (simple node).sublist ((newFrom_sublist edges node _).map _), ?_⟩
  rintro old known _ new rfl
  obtain ⟨edge, listed, rfl⟩ := List.mem_map.mp new
  exact (mem_newFrom.mp listed).2.2 known

/-- A walk with enough fuel leaves all nodes that it meets. -/
theorem walkFrom_tour (simple : Simple edges) {fuel : Nat}
    (closed : ∀ edge ∈ edges, edge.source ∈ left → edge.target ∈ left ++ queue)
    (distinct : (left ++ queue).Nodup) (enough : remaining edges queue (left ++ queue) ≤ fuel) :
    ∃ order, Tour edges left queue (walkFrom edges fuel queue (left ++ queue)) order := by
  induction fuel generalizing left queue with
  | zero =>
    cases queue with
    | nil =>
      simp only [List.append_nil] at closed distinct
      exact ⟨left, Tour.rest closed distinct⟩
    | cons node queue => simp [remaining] at enough
  | succ fuel inductionHypothesis =>
    cases queue with
    | nil =>
      simp only [List.append_nil] at closed distinct
      exact ⟨left, Tour.rest closed distinct⟩
    | cons node queue =>
      have step := remaining_step edges node queue (left ++ node :: queue)
      have seen : left ++ node :: queue ++
          (newFrom edges node (left ++ node :: queue)).map (·.target) =
            left ++ [node] ++ (queue ++
              (newFrom edges node (left ++ node :: queue)).map (·.target)) := by simp
      have next := @inductionHypothesis (left ++ [node])
        (queue ++ (newFrom edges node (left ++ node :: queue)).map (·.target))
        (seen ▸ closed_visit closed) (seen ▸ nodup_visit simple distinct node)
        (seen ▸ Nat.le_of_lt_succ (Nat.lt_of_lt_of_le step enough))
      obtain ⟨order, tour⟩ := next
      have unfolded : walkFrom edges (fuel + 1) (node :: queue) (left ++ node :: queue) =
          newFrom edges node (left ++ node :: queue) ++ walkFrom edges fuel
            (queue ++ (newFrom edges node (left ++ node :: queue)).map (·.target))
            (left ++ node :: queue ++
              (newFrom edges node (left ++ node :: queue)).map (·.target)) := rfl
      rw [unfolded, seen]
      exact ⟨order, tour.visit closed⟩

theorem walkFrom_reaches {key : String} {fuel : Nat} {seen : List String}
    (start : ∀ node ∈ queue, ∃ steps, Reaches edges key steps node) :
    ∀ edge ∈ walkFrom edges fuel queue seen, ∃ steps, Reaches edges key steps edge.target := by
  induction fuel generalizing queue seen with
  | zero => simp [walkFrom]
  | succ fuel inductionHypothesis =>
    cases queue with
    | nil => simp [walkFrom]
    | cons node queue =>
      rw [List.forall_mem_cons] at start
      have new : ∀ edge ∈ newFrom edges node seen, ∃ steps, Reaches edges key steps edge.target := by
        intro edge member
        obtain ⟨listed, rfl, -⟩ := mem_newFrom.mp member
        obtain ⟨steps, reached⟩ := start.1
        exact ⟨steps + 1, reached.step listed⟩
      intro edge member
      rcases List.mem_append.mp member with here | later
      · exact new edge here
      · refine inductionHypothesis ?_ edge later
        intro other queued
        rcases List.mem_append.mp queued with waiting | added
        · exact start.2 other waiting
        · obtain ⟨found, listed, rfl⟩ := List.mem_map.mp added
          exact new found listed

end Walks

/-- What a breadth-first search over edges meets, starting from a key. -/
structure BreadthFirst (edges : List Edge) (key : String) (met : List Edge) : Prop where
  within : ∀ edge ∈ met, edge ∈ edges
  /-- No node is met twice, and the key is not met again. -/
  distinct : (key :: met.map (·.target)).Nodup
  /-- Exactly what can be reached is met. -/
  complete : ∀ node, node ∈ key :: met.map (·.target) ↔ ∃ steps, Reaches edges key steps node
  /-- Nodes are left in the order in which they are met. -/
  queued : met.Pairwise fun first second =>
    (key :: met.map (·.target)).idxOf first.source ≤ (key :: met.map (·.target)).idxOf second.source
  /-- A node is met from the first of those that lead to it. -/
  earliest : ∀ edge ∈ met, ∀ other ∈ edges, other.target = edge.target →
    (key :: met.map (·.target)).idxOf edge.source ≤ (key :: met.map (·.target)).idxOf other.source
  /-- The edges of a node are taken as they stand. -/
  adjacent : ∀ node, (edgesFrom met node).Sublist (edgesFrom edges node)
  /-- What is met earlier is no farther away. -/
  nearest : met.Pairwise fun first second => ∀ steps, Reaches edges key steps second.target →
    ∃ fewer ≤ steps, Reaches edges key fewer first.target

section Order

variable {edges met : List Edge} {key : String} {order : List String}

theorem Tour.mem_of_reaches (tour : Tour edges [] [key] met order) {steps : Nat} {node : String}
    (reached : Reaches edges key steps node) : node ∈ order := by
  induction reached with
  | start => simp [tour.isOrder]
  | step _ listed inductionHypothesis => exact tour.closed _ listed inductionHypothesis

theorem Tour.idxOf_target (tour : Tour edges [] [key] met order) {place : Nat} {edge : Edge}
    (isEdge : met[place]? = some edge) : order.idxOf edge.target = place + 1 := by
  have isTarget : order[place + 1]? = some edge.target := by
    simp [tour.isOrder, isEdge]
  obtain ⟨within, same⟩ := List.getElem?_eq_some_iff.mp isTarget
  rw [← same]
  exact tour.distinct.idxOf_getElem (place + 1) within

/-- A node is the key, at the first place, or the target of an edge, one place after the edge. -/
theorem Tour.eq_or_exists (tour : Tour edges [] [key] met order) {node : String}
    (member : node ∈ order) :
    node = key ∨ ∃ place edge, met[place]? = some edge ∧ edge.target = node ∧
      order.idxOf node = place + 1 := by
  have isOrder : order = key :: met.map (·.target) := tour.isOrder
  rw [isOrder, List.mem_cons, List.mem_map] at member
  rcases member with isKey | ⟨edge, listed, rfl⟩
  · exact .inl isKey
  · obtain ⟨place, isEdge⟩ := List.mem_iff_getElem?.mp listed
    exact .inr ⟨place, edge, isEdge, rfl, tour.idxOf_target isEdge⟩

/-- Nodes that are met earlier are no farther away. -/
theorem Tour.exists_reaches_of_le (tour : Tour edges [] [key] met order) {steps : Nat}
    {node other : String} (before : order.idxOf node ≤ order.idxOf other)
    (reached : Reaches edges key steps other) : ∃ fewer ≤ steps, Reaches edges key fewer node := by
  have first : order.idxOf key = 0 := by
    rw [tour.isOrder]
    exact List.idxOf_cons_self
  induction steps generalizing node other with
  | zero =>
    cases reached
    have known : node ∈ order := List.idxOf_lt_length_iff.mp
      (Nat.lt_of_le_of_lt before (List.idxOf_lt_length_of_mem (tour.mem_of_reaches .start)))
    obtain rfl | ⟨place, -, -, -, isPlace⟩ := tour.eq_or_exists known
    · exact ⟨0, Nat.le_refl _, .start⟩
    · omega
  | succ steps inductionHypothesis =>
    have later := tour.mem_of_reaches reached
    have known : node ∈ order := List.idxOf_lt_length_iff.mp
      (Nat.lt_of_le_of_lt before (List.idxOf_lt_length_of_mem later))
    obtain rfl | ⟨place, edge, isEdge, rfl, isPlace⟩ := tour.eq_or_exists known
    · exact ⟨0, Nat.zero_le _, .start⟩
    obtain rfl | ⟨otherPlace, otherEdge, isOther, isTarget, isOtherPlace⟩ := tour.eq_or_exists later
    · omega
    -- The sources of the two edges come in the same order, and the second comes first of all that lead
    -- to its target, so the source on the shortest way there is met no earlier than both.
    have sources : order.idxOf edge.source ≤ order.idxOf otherEdge.source := by
      obtain ⟨within, rfl⟩ := List.getElem?_eq_some_iff.mp isEdge
      obtain ⟨otherWithin, rfl⟩ := List.getElem?_eq_some_iff.mp isOther
      rcases Nat.lt_or_eq_of_le (show place ≤ otherPlace by omega) with earlier | same
      · exact List.pairwise_iff_getElem.mp tour.queued place otherPlace within otherWithin earlier
      · simp [same]
    cases reached with
    | @step through _ reached listed =>
      have isEarliest := tour.earliest otherEdge (List.mem_of_getElem? isOther) through listed
        isTarget.symm
      obtain ⟨fewer, bound, reachedSource⟩ :=
        inductionHypothesis (Nat.le_trans sources isEarliest) reached
      exact ⟨fewer + 1, Nat.succ_le_succ bound,
        reachedSource.step (tour.within edge (List.mem_of_getElem? isEdge))⟩

theorem Tour.breadthFirst (tour : Tour edges [] [key] met order)
    (reached : ∀ edge ∈ met, ∃ steps, Reaches edges key steps edge.target) :
    BreadthFirst edges key met := by
  have isOrder : order = key :: met.map (·.target) := tour.isOrder
  subst isOrder
  refine ⟨tour.within, tour.distinct, fun node => ⟨?_, ?_⟩, tour.queued, tour.earliest, tour.adjacent, ?_⟩
  · intro member
    rcases List.mem_cons.mp member with rfl | later
    · exact ⟨0, .start⟩
    · obtain ⟨edge, listed, rfl⟩ := List.mem_map.mp later
      exact reached edge listed
  · rintro ⟨steps, reached⟩
    exact tour.mem_of_reaches reached
  · rw [List.pairwise_iff_getElem]
    intro place later isPlace isLater before steps second
    refine tour.exists_reaches_of_le ?_ second
    rw [tour.idxOf_target (List.getElem?_eq_getElem isPlace),
      tour.idxOf_target (List.getElem?_eq_getElem isLater)]
    omega

end Order

section Start

variable {edges met : List Edge} {key : String} {edge : Edge}

/-- Only the key itself comes no later than the key. -/
theorem eq_of_idxOf_le {rest : List String} {node : String}
    (first : (key :: rest).idxOf node ≤ (key :: rest).idxOf key) : node = key := by
  by_contra other
  rw [List.idxOf_cons_self, List.idxOf_cons_ne _ (Ne.symm other)] at first
  exact Nat.not_succ_le_zero _ first

/-- The edges of the key are taken, apart from one that leads back to it. -/
theorem BreadthFirst.mem_of_source (search : BreadthFirst edges key met) (simple : Simple edges)
    (member : edge ∈ edges) (own : edge.source = key) (other : edge.target ≠ key) : edge ∈ met := by
  have reached : Reaches edges key 1 edge.target := .step (own ▸ .start) member
  rcases List.mem_cons.mp ((search.complete edge.target).mpr ⟨1, reached⟩) with back | listed
  · exact absurd back other
  obtain ⟨found, isMet, same⟩ := List.mem_map.mp listed
  have foundOwn : found.source = key :=
    eq_of_idxOf_le (own ▸ search.earliest found isMet edge member same.symm)
  have equal : found = edge := by
    refine List.inj_on_of_nodup_map (simple key) ?_ ?_ same
    · exact List.mem_filter.mpr ⟨search.within found isMet, beq_iff_eq.mpr foundOwn⟩
    · exact List.mem_filter.mpr ⟨member, beq_iff_eq.mpr own⟩
  rwa [← equal]

/-- If the key has one edge only, the search starts with it. -/
theorem BreadthFirst.head?_eq (search : BreadthFirst edges key met) (isMet : edge ∈ met)
    (own : edge.source = key) (only : ∀ other ∈ edges, other.source = key → other = edge) :
    met.head? = some edge := by
  cases met with
  | nil => cases isMet
  | cons first rest =>
    rcases List.mem_cons.mp isMet with rfl | later
    · rfl
    have firstOwn : first.source = key :=
      eq_of_idxOf_le (own ▸ List.rel_of_pairwise_cons search.queued later)
    rw [only first (search.within first List.mem_cons_self) firstOwn]
    rfl

end Start

/-- A walk is a breadth-first search over the edges of its relations. -/
theorem walk_breadthFirst {index : ClassIndex} (simple : Simple index.edges)
    (relations : List Relation) (key : String) :
    BreadthFirst (index.edges.filter (relations.contains ·.relation)) key
      (index.walk relations key) := by
  have chosen := simple.sublist (index.edges.filter_sublist (p := (relations.contains ·.relation)))
  rw [walk]
  generalize index.edges.filter (relations.contains ·.relation) = edges at chosen ⊢
  have enough : remaining edges [key] ([] ++ [key]) ≤ edges.length + 1 := by
    have fewer := edges.length_filter_le fun edge => !([key].contains edge.target)
    simp only [remaining, List.length_singleton, List.nil_append]
    omega
  obtain ⟨order, tour⟩ := walkFrom_tour chosen (by simp) (by simp) enough
  refine tour.breadthFirst (walkFrom_reaches ?_)
  intro node member
  rw [List.mem_singleton.mp member]
  exact ⟨0, .start⟩

end ClassAtlas.ClassIndex
