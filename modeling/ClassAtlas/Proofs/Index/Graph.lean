import ClassAtlas.Index.Basic

/-!
Edges and walks.

The edges of one class stand in an order that its declaration alone determines, wherever they stand
among those of other classes. A walk only looks at the edges of the classes it meets, one class at a
time, so it is the same in two indexes that agree on the edges of these classes.
-/

namespace ClassAtlas.ClassIndex

/-- The edges of one source. -/
def edgesFrom (edges : List Edge) (key : String) : List Edge := edges.filter (·.source == key)

/-- Entering an edge concerns the edges of its source only. -/
theorem edgesFrom_insertEdge (edges : List Edge) (edge : Edge) (key : String) :
    edgesFrom (insertEdge edges edge) key =
      if edge.source = key then insertEdge (edgesFrom edges key) edge else edgesFrom edges key := by
  induction edges with
  | nil =>
    by_cases own : edge.source = key <;> simp [insertEdge, edgesFrom, own]
  | cons known rest inductionHypothesis =>
    simp only [edgesFrom] at inductionHypothesis ⊢
    rw [insertEdge]
    split
    case isTrue same =>
      simp only [Bool.and_eq_true, beq_iff_eq] at same
      by_cases own : edge.source = key
      · simp [insertEdge, own, same]
      · simp [own, same]
    case isFalse other =>
      by_cases own : edge.source = key <;> by_cases knownOwn : known.source = key <;>
        simp_all [insertEdge]

theorem mem_insertEdge {edges : List Edge} {edge entered : Edge}
    (member : edge ∈ insertEdge edges entered) : edge ∈ edges ∨ edge = entered := by
  induction edges with
  | nil => exact .inr (List.mem_singleton.mp member)
  | cons known rest inductionHypothesis =>
    rw [insertEdge] at member
    split at member
    · rcases List.mem_cons.mp member with rfl | later
      · exact .inr rfl
      · exact .inl (List.mem_cons_of_mem known later)
    · rcases List.mem_cons.mp member with rfl | later
      · exact .inl List.mem_cons_self
      · exact (inductionHypothesis later).imp_left (List.mem_cons_of_mem known)

/-- The edges of a declaration, one for each class that it builds on. -/
def outgoing (declaration : Declaration) : List Edge := (edgesOf declaration).foldl insertEdge []

theorem source_of_mem_edgesOf {declaration : Declaration} {edge : Edge}
    (member : edge ∈ edgesOf declaration) :
    edge.source = Name.key declaration.name ∧ edge.target = Name.key edge.name := by
  simp only [edgesOf, List.mem_append, List.mem_map] at member
  rcases member with (⟨name, _, rfl⟩ | ⟨name, _, rfl⟩) | ⟨name, _, rfl⟩ <;> exact ⟨rfl, rfl⟩

theorem mem_foldl_insertEdge {entered edges : List Edge} {edge : Edge}
    (member : edge ∈ entered.foldl insertEdge edges) : edge ∈ edges ∨ edge ∈ entered := by
  induction entered generalizing edges with
  | nil => exact .inl member
  | cons first rest inductionHypothesis =>
    rcases inductionHypothesis member with early | late
    · rcases mem_insertEdge early with known | rfl
      · exact .inl known
      · exact .inr List.mem_cons_self
    · exact .inr (List.mem_cons_of_mem first late)

theorem mem_edgesOf_of_mem_outgoing {declaration : Declaration} {edge : Edge}
    (member : edge ∈ outgoing declaration) : edge ∈ edgesOf declaration := by
  rcases mem_foldl_insertEdge member with impossible | entered
  · cases impossible
  · exact entered

theorem edgesFrom_foldl {entered : List Edge} {key : String}
    (own : ∀ edge ∈ entered, edge.source = key) (edges : List Edge) (other : String) :
    edgesFrom (entered.foldl insertEdge edges) other =
      if key = other then entered.foldl insertEdge (edgesFrom edges other)
      else edgesFrom edges other := by
  induction entered generalizing edges with
  | nil => simp
  | cons first rest inductionHypothesis =>
    rw [List.forall_mem_cons] at own
    rw [List.foldl_cons, inductionHypothesis own.2, edgesFrom_insertEdge, own.1]
    split <;> rfl

theorem lookup_insertNode (nodes : List (String × Option String)) (key other : String)
    (name : Option String) :
    (insertNode nodes key name).lookup other =
      if key = other then some (name.or (nodes.lookup other).join) else nodes.lookup other := by
  induction nodes with
  | nil =>
    rw [insertNode, List.lookup_cons, List.lookup_nil]
    by_cases same : key = other
    · simp [same]
    · simp [same, beq_eq_false_iff_ne.mpr (Ne.symm same)]
  | cons known rest inductionHypothesis =>
    obtain ⟨place, carried⟩ := known
    rw [insertNode]
    by_cases here : place = key
    · subst here
      by_cases same : place = other
      · simp [same]
      · simp [same, List.lookup_cons, beq_eq_false_iff_ne.mpr (Ne.symm same)]
    · rw [if_neg (by simpa using here), List.lookup_cons, List.lookup_cons, inductionHypothesis]
      by_cases same : other = place
      · simp [same, Ne.symm here]
      · simp [beq_eq_false_iff_ne.mpr same]

/-- Nodes that are only built on take no name from another. -/
theorem join_lookup_foldl_insertNode (nodes : List (String × Option String)) (edges : List Edge)
    (other : String) :
    ((edges.foldl (fun nodes edge => insertNode nodes edge.target none) nodes).lookup other).join =
      (nodes.lookup other).join := by
  induction edges generalizing nodes with
  | nil => rfl
  | cons edge rest inductionHypothesis =>
    rw [List.foldl_cons, inductionHypothesis, lookup_insertNode]
    split
    · rw [Option.join_some, Option.none_or]
    · rfl

/-- Whether every node carries the name of the class with its key. -/
def Named (index : ClassIndex) : Prop :=
  ∀ key, index.nodeName? key = (index.class? key).map (·.name)

/-- A walk has fuel left as long as it has nodes to visit and edges that lead to new ones. -/
def remaining (edges : List Edge) (queue seen : List String) : Nat :=
  queue.length + (edges.filter fun edge => !seen.contains edge.target).length

/-- The edges that lead from a node to new ones lead to no new ones afterwards. -/
theorem length_found_add_le {node : String} {seen targets : List String} {edges : List Edge}
    (reached : ∀ edge ∈ edges, edge.source = node → edge.target ∉ seen → edge.target ∈ targets) :
    (edges.filter fun edge => edge.source == node && !seen.contains edge.target).length +
        (edges.filter fun edge => !(seen ++ targets).contains edge.target).length ≤
      (edges.filter fun edge => !seen.contains edge.target).length := by
  induction edges with
  | nil => simp
  | cons edge rest inductionHypothesis =>
    rw [List.forall_mem_cons] at reached
    have later := inductionHypothesis reached.2
    by_cases old : edge.target ∈ seen
    · simpa [old] using later
    by_cases own : edge.source = node
    · have target := reached.1 own old
      simp [own, old, target] at later ⊢
      omega
    · by_cases target : edge.target ∈ targets
      · simp [own, old, target] at later ⊢
        omega
      · simp [own, old, target] at later ⊢
        omega

/-- Each node that is visited uses up more than it adds. -/
theorem remaining_step (edges : List Edge) (node : String) (queue seen : List String) :
    let found := edges.filter fun edge => edge.source == node && !seen.contains edge.target
    let targets := found.map (·.target)
    remaining edges (queue ++ targets) (seen ++ targets) < remaining edges (node :: queue) seen := by
  intro found targets
  have reached : ∀ edge ∈ edges, edge.source = node → edge.target ∉ seen → edge.target ∈ targets :=
    fun edge member own new =>
      List.mem_map.mpr ⟨edge, List.mem_filter.mpr ⟨member, by simp [own, new]⟩, rfl⟩
  have bound := length_found_add_le reached
  simp only [remaining, List.length_append, List.length_cons, targets, List.length_map, found] at bound ⊢
  omega

/-- More fuel than needed makes no difference. -/
theorem walkFrom_add {edges : List Edge} {fuel : Nat} {queue seen : List String}
    (enough : remaining edges queue seen ≤ fuel) (more : Nat) :
    walkFrom edges (fuel + more) queue seen = walkFrom edges fuel queue seen := by
  induction fuel generalizing queue seen with
  | zero =>
    cases queue with
    | nil => cases more <;> simp [walkFrom]
    | cons node queue => simp [remaining] at enough
  | succ fuel inductionHypothesis =>
    rw [Nat.add_right_comm]
    cases queue with
    | nil => simp [walkFrom]
    | cons node queue =>
      have step := remaining_step edges node queue seen
      simp only [walkFrom]
      rw [inductionHypothesis (by omega)]

/-- A walk depends on the edges of the nodes it meets only. -/
theorem walkFrom_congr {edges others : List Edge} {fuel : Nat} {queue seen : List String}
    (start : ∀ node ∈ queue, edgesFrom edges node = edgesFrom others node)
    (met : ∀ edge ∈ walkFrom edges fuel queue seen,
      edgesFrom edges edge.target = edgesFrom others edge.target) :
    walkFrom edges fuel queue seen = walkFrom others fuel queue seen := by
  induction fuel generalizing queue seen with
  | zero => rfl
  | succ fuel inductionHypothesis =>
    cases queue with
    | nil => rfl
    | cons node queue =>
      rw [List.forall_mem_cons] at start
      have found : ∀ edges : List Edge,
          (edges.filter fun edge => edge.source == node && !seen.contains edge.target) =
            (edgesFrom edges node).filter fun edge => !seen.contains edge.target := by
        intro edges
        rw [edgesFrom, List.filter_filter]
        congr 1
        funext edge
        exact Bool.and_comm _ _
      simp only [walkFrom, found, start.1] at met ⊢
      congr 1
      apply inductionHypothesis
      · intro next member
        rcases List.mem_append.mp member with queued | new
        · exact start.2 next queued
        · obtain ⟨edge, listed, rfl⟩ := List.mem_map.mp new
          exact met edge (List.mem_append_left _ listed)
      · exact fun edge member => met edge (List.mem_append_right _ member)

theorem mem_of_mem_walkFrom {edges : List Edge} {fuel : Nat} {queue seen : List String} {edge : Edge}
    (met : edge ∈ walkFrom edges fuel queue seen) : edge ∈ edges := by
  induction fuel generalizing queue seen with
  | zero => cases met
  | succ fuel inductionHypothesis =>
    cases queue with
    | nil => cases met
    | cons node queue =>
      rcases List.mem_append.mp met with found | later
      · exact (List.mem_filter.mp found).1
      · exact inductionHypothesis later

theorem mem_edges_of_mem_walk {index : ClassIndex} {relations : List Relation} {key : String}
    {edge : Edge} (met : edge ∈ index.walk relations key) : edge ∈ index.edges :=
  (List.mem_filter.mp (mem_of_mem_walkFrom met)).1

/-- Two indexes that agree on the edges of the classes which a walk meets give the same walk. -/
theorem walk_congr {index other : ClassIndex} {relations : List Relation} {key : String}
    (start : edgesFrom index.edges key = edgesFrom other.edges key)
    (met : ∀ edge ∈ index.walk relations key,
      edgesFrom index.edges edge.target = edgesFrom other.edges edge.target) :
    index.walk relations key = other.walk relations key := by
  have chosen : ∀ (edges : List Edge) (key : String),
      edgesFrom (edges.filter (relations.contains ·.relation)) key =
        (edgesFrom edges key).filter (relations.contains ·.relation) := by
    intro edges key
    rw [edgesFrom, edgesFrom, List.filter_filter, List.filter_filter]
    congr 1
    funext edge
    exact Bool.and_comm _ _
  have fuel : ∀ (edges : List Edge) (more : Nat),
      walkFrom edges (edges.length + 1 + more) [key] [key] =
        walkFrom edges (edges.length + 1) [key] [key] := by
    intro edges more
    apply walkFrom_add
    have bound := List.length_filter_le (fun edge => !([key].contains edge.target)) edges
    simp only [remaining, List.length_singleton]
    omega
  simp only [walk] at met ⊢
  generalize equal : index.edges.filter (relations.contains ·.relation) = edges at met ⊢
  generalize otherEqual : other.edges.filter (relations.contains ·.relation) = others at met ⊢
  have agree : ∀ node, edgesFrom index.edges node = edgesFrom other.edges node →
      edgesFrom edges node = edgesFrom others node := by
    intro node same
    rw [← equal, ← otherEqual, chosen, chosen, same]
  -- The bounds of the two walks differ, so both walks are first taken with the sum of them.
  calc walkFrom edges (edges.length + 1) [key] [key]
      = walkFrom edges (edges.length + 1 + others.length) [key] [key] := (fuel edges _).symm
    _ = walkFrom others (edges.length + 1 + others.length) [key] [key] := by
      apply walkFrom_congr
      · simpa using agree key start
      · intro edge member
        rw [fuel edges] at member
        exact agree edge.target (met edge member)
    _ = walkFrom others (others.length + 1 + edges.length) [key] [key] := by
      congr 1
      omega
    _ = walkFrom others (others.length + 1) [key] [key] := fuel others _

end ClassAtlas.ClassIndex
