import ClassAtlas.Proofs.Index.Rounds

/-!
A class is described by its first declaration.

A class may be declared more than once, and a listing holds all of its declarations. Whichever of them
is asked about, the answers start from what the one that was read first builds on. A class that it
builds on in several ways counts in the last of these ways only, and it never builds on itself.
-/

namespace ClassAtlas

/-- Whether a declaration builds on the class with a key in a certain way. A class named in several ways
counts as a trait before it counts as an interface, and as an interface before it counts as the parent.
A parent without a name is none, not even where a class with a blank name is known. -/
def Declaration.BuildsOn (declaration : Declaration) (key : String) : Relation → Prop
  | .inclusion => key ∈ declaration.traits.map Name.key
  | .implementation =>
    key ∈ declaration.interfaces.map Name.key ∧ key ∉ declaration.traits.map Name.key
  | .extension =>
    (∃ name, declaration.parent = some name ∧ name.isEmpty = false ∧ Name.key name = key) ∧
      key ∉ declaration.interfaces.map Name.key ∧ key ∉ declaration.traits.map Name.key

namespace ClassIndex

/-- The first declaration of a class in the files that have been read. -/
def first? (index : ClassIndex) (name : String) : Option Declaration :=
  index.declarations.find? (Name.key ·.name == Name.key name)

theorem Orderly.class?_eq_first? {tree : FileTree} {index : ClassIndex} (orderly : index.Orderly tree)
    (name : String) : index.class? (Name.key name) = index.first? name :=
  orderly.classes (Name.key name)

section Outgoing

variable {edges entered : List Edge} {declaration : Declaration} {key source : String}

/-- Of edges from one source, an edge that is entered replaces the one to its target. -/
theorem find?_insertEdge {edge : Edge} (own : ∀ known ∈ edges, known.source = edge.source) :
    (insertEdge edges edge).find? (·.target == key) =
      if edge.target = key then some edge else edges.find? (·.target == key) := by
  induction edges with
  | nil => by_cases same : edge.target = key <;> simp [insertEdge, same]
  | cons known rest inductionHypothesis =>
    rw [List.forall_mem_cons] at own
    rw [insertEdge]
    split
    case isTrue same =>
      rw [Bool.and_eq_true, beq_iff_eq, beq_iff_eq] at same
      by_cases isTarget : edge.target = key <;> simp [same.2, isTarget]
    case isFalse other =>
      have apart : known.target ≠ edge.target := fun same => other (by simp [own.1, same])
      rw [List.find?_cons, inductionHypothesis own.2, List.find?_cons]
      by_cases isTarget : edge.target = key
      · simp [isTarget, beq_eq_false_iff_ne.mpr (isTarget ▸ apart)]
      · simp [isTarget]

/-- Of the edges that are entered for a target, the last one stays. -/
theorem find?_foldl_insertEdge (own : ∀ edge ∈ entered, edge.source = source)
    (known : ∀ edge ∈ edges, edge.source = source) :
    (entered.foldl insertEdge edges).find? (·.target == key) =
      (entered.reverse.find? (·.target == key)).or (edges.find? (·.target == key)) := by
  induction entered generalizing edges with
  | nil => simp
  | cons edge rest inductionHypothesis =>
    rw [List.forall_mem_cons] at own
    have same : ∀ other ∈ edges, other.source = edge.source := fun other member =>
      (known other member).trans own.1.symm
    rw [List.foldl_cons, inductionHypothesis own.2 (source_of_mem_insertEdge own.1 known),
      find?_insertEdge same, List.reverse_cons, List.find?_append, Option.or_assoc]
    by_cases isTarget : edge.target = key <;> simp [isTarget]

theorem mem_outgoing_of_find? {edge : Edge}
    (found : (edgesOf declaration).reverse.find? (·.target == key) = some edge) :
    edge ∈ outgoing declaration := by
  have own : ∀ edge ∈ edgesOf declaration, edge.source = Name.key declaration.name := fun edge entered =>
    (source_of_mem_edgesOf entered).1
  have kept : (outgoing declaration).find? (·.target == key) = some edge := by
    rw [outgoing, find?_foldl_insertEdge own (by simp), found, Option.some_or]
  exact List.mem_of_find?_eq_some kept

/-- Among the edges of one kind to names, the last one to a class. -/
theorem find?_reverse_map (names : List String) (source key : String) (relation : Relation) :
    ((names.map fun name => (⟨source, Name.key name, relation, name⟩ : Edge)).reverse.find?
      (·.target == key)).map (·.relation) =
        if key ∈ names.map Name.key then some relation else none := by
  rw [← List.map_reverse, List.find?_map, Option.map_map]
  split
  case isTrue named =>
    have found : (names.reverse.find? (Name.key · == key)).isSome = true := by
      simpa [List.find?_isSome] using named
    obtain ⟨name, isName⟩ := Option.isSome_iff_exists.mp found
    exact Option.map_eq_some_iff.mpr ⟨name, isName, rfl⟩
  case isFalse unnamed =>
    refine Option.map_eq_none_iff.mpr (List.find?_eq_none.mpr fun name member same => unnamed ?_)
    exact List.mem_map.mpr ⟨name, List.mem_reverse.mp member, beq_iff_eq.mp same⟩

/-- A declaration has an edge to each class that it builds on, in the way that counts. -/
theorem exists_mem_outgoing {relation : Relation} (buildsOn : declaration.BuildsOn key relation) :
    ∃ edge ∈ outgoing declaration, edge.target = key ∧ edge.relation = relation := by
  have found : ((edgesOf declaration).reverse.find? (·.target == key)).map (·.relation) =
      some relation := by
    simp only [edgesOf, List.reverse_append, List.find?_append, Option.map_or, find?_reverse_map]
    cases relation with
    | inclusion =>
      have isTrait : key ∈ declaration.traits.map Name.key := buildsOn
      rw [if_pos isTrait, Option.some_or]
    | implementation =>
      rw [if_neg buildsOn.2, if_pos buildsOn.1]
      rfl
    | extension =>
      obtain ⟨⟨name, isParent, given, isKey⟩, notInterface, notTrait⟩ := buildsOn
      rw [if_neg notTrait, if_neg notInterface, if_pos]
      · rfl
      · simp [isParent, given, isKey]
  obtain ⟨edge, isEdge, isRelation⟩ := Option.map_eq_some_iff.mp found
  exact ⟨edge, mem_outgoing_of_find? isEdge, by simpa using List.find?_some isEdge, isRelation⟩

/-- A declaration has one parent at most. -/
theorem eq_of_extension {edge other : Edge} (first : edge ∈ edgesOf declaration)
    (second : other ∈ edgesOf declaration) (extends₁ : edge.relation = .extension)
    (extends₂ : other.relation = .extension) : edge = other := by
  have isParent : ∀ edge ∈ edgesOf declaration, edge.relation = .extension →
      ∃ name, declaration.parent = some name ∧
        edge = ⟨Name.key declaration.name, Name.key name, .extension, name⟩ := by
    intro edge member isExtension
    simp only [edgesOf, List.mem_append, List.mem_map] at member
    rcases member with (⟨name, isName, rfl⟩ | ⟨name, _, rfl⟩) | ⟨name, _, rfl⟩
    · exact ⟨name, by simpa using (List.mem_filter.mp isName).1, rfl⟩
    all_goals cases isExtension
  obtain ⟨name, isName, rfl⟩ := isParent edge first extends₁
  obtain ⟨otherName, isOther, rfl⟩ := isParent other second extends₂
  rw [isName] at isOther
  cases isOther
  rfl

end Outgoing

section Walks

variable {tree : FileTree} {index : ClassIndex} {declaration : Declaration} {key target : String}
  {relations : List Relation} {relation : Relation}

/-- The edges of a class, in a graph of some relations. -/
theorem Coherent.mem_filter_edges (coherent : index.Coherent) (known : index.class? key = some declaration)
    {edge : Edge} :
    edge ∈ index.edges.filter (relations.contains ·.relation) ∧ edge.source = key ↔
      edge ∈ outgoing declaration ∧ edge.relation ∈ relations := by
  have own : edgesFrom index.edges key = outgoing declaration := by
    rw [coherent.edges, known]
    rfl
  rw [← own, edgesFrom, List.mem_filter, List.mem_filter, beq_iff_eq, List.contains_iff_mem]
  exact and_right_comm

/-- A walk meets the classes that its start builds on, apart from the start itself. -/
theorem Coherent.exists_met (coherent : index.Coherent) (relations : List Relation)
    (known : index.class? key = some declaration) (other : target ≠ key)
    (buildsOn : declaration.BuildsOn target relation) (asked : relation ∈ relations) :
    ∃ edge ∈ outgoing declaration, edge.target = target ∧ edge.relation = relation ∧
      edge.source = key ∧ edge ∈ index.walk relations key := by
  obtain ⟨edge, isEdge, rfl, rfl⟩ := exists_mem_outgoing buildsOn
  obtain ⟨member, own⟩ := (coherent.mem_filter_edges known).mpr ⟨isEdge, asked⟩
  have simple := coherent.simple.sublist
    (index.edges.filter_sublist (p := (relations.contains ·.relation)))
  have search := walk_breadthFirst coherent.simple relations key
  exact ⟨edge, isEdge, rfl, rfl, own, search.mem_of_source simple member own other⟩

/-- The interfaces that a class builds on are among those reported, each by the name of its edge. -/
theorem Coherent.exists_interface (coherent : index.Coherent)
    (known : index.class? key = some declaration) (other : target ≠ key)
    (buildsOn : declaration.BuildsOn target .implementation) :
    ∃ edge ∈ outgoing declaration, edge.target = target ∧ edge.relation = .implementation ∧
      edge ∈ index.edges ∧ index.targetName edge ∈
        index.interfaceTargets (index.walk [.extension, .implementation] key) := by
  obtain ⟨edge, isEdge, isTarget, isInterface, -, met⟩ :=
    coherent.exists_met [.extension, .implementation] known other buildsOn (by simp)
  refine ⟨edge, isEdge, isTarget, isInterface, mem_edges_of_mem_walk met, ?_⟩
  exact List.mem_map_of_mem (List.mem_filter.mpr ⟨met, beq_iff_eq.mpr isInterface⟩)

end Walks

end ClassIndex

namespace Lookup

open ClassIndex

/-- What is said of a class is said of its first declaration: the interfaces, traits and parent that are
reported include those of this declaration. -/
structure DescribedBy (tree : FileTree) (index : ClassIndex) (asked first : Declaration) : Prop where
  interfaces : Ends (interfaceNames tree asked) index
    (fun names _ => ∀ key, key ≠ Name.key asked.name → first.BuildsOn key .implementation →
      key ∈ names.map Name.key)
    (fun _ _ => True)
  traits : Ends (traitClosure tree asked) index
    (fun traits later => ∀ key, key ≠ Name.key asked.name → first.BuildsOn key .inclusion →
      ∀ known, later.class? key = some known → known ∈ traits)
    (fun _ _ => True)
  parent : Ends (parentChain tree asked) index
    (fun chain later => ∀ key, key ≠ Name.key asked.name → first.BuildsOn key .extension →
      ∀ known, later.class? key = some known → chain.head? = some known)
    (fun _ _ => True)

section Described

variable {tree : FileTree} {index : ClassIndex} {asked first : Declaration}

theorem describedBy (orderly : index.Orderly tree)
    (known : index.class? (Name.key asked.name) = some first) : DescribedBy tree index asked first where
  interfaces := by
    refine (readOff_passes orderly asked _ ClassIndex.interfaceTargets).mono ?_ fun _ _ _ => trivial
    rintro names later ⟨passed, rfl, -⟩ key other buildsOn
    obtain ⟨edge, -, rfl, -, member, reported⟩ :=
      passed.orderly.exists_interface (passed.grown.classes _ _ known) other buildsOn
    exact List.mem_map.mpr ⟨later.targetName edge, reported,
      passed.orderly.key_targetName (fun _ _ => passed.orderly.key_eq) member⟩
  traits := by
    refine (readOff_passes orderly asked _ ClassIndex.knownTargets).mono ?_ fun _ _ _ => trivial
    rintro traits later ⟨passed, rfl, -⟩ key other buildsOn trait isTrait
    obtain ⟨edge, -, rfl, -, -, met⟩ :=
      passed.orderly.exists_met [.inclusion] (passed.grown.classes _ _ known) other buildsOn (by simp)
    exact List.mem_filterMap.mpr ⟨edge, met, isTrait⟩
  parent := by
    refine (readOff_passes orderly asked _ ClassIndex.knownFront).mono ?_ fun _ _ _ => trivial
    rintro chain later ⟨passed, rfl, -⟩ key other buildsOn parent isParent
    have stillKnown := passed.grown.classes _ _ known
    obtain ⟨edge, isEdge, rfl, isExtension, own, met⟩ :=
      passed.orderly.exists_met [.extension] stillKnown other buildsOn (by simp)
    have search := walk_breadthFirst passed.orderly.simple [.extension] (Name.key asked.name)
    -- A class has one edge to a parent, so the walk along parents starts with it.
    have only : ∀ another ∈ later.edges.filter ([Relation.extension].contains ·.relation),
        another.source = Name.key asked.name → another = edge := by
      intro another member anotherOwn
      obtain ⟨isOther, asParent⟩ :=
        (passed.orderly.mem_filter_edges stillKnown).mp ⟨member, anotherOwn⟩
      exact eq_of_extension (mem_edgesOf_of_mem_outgoing isOther) (mem_edgesOf_of_mem_outgoing isEdge)
        (List.mem_singleton.mp asParent) isExtension
    obtain ⟨rest, isWalk⟩ := List.head?_eq_some_iff.mp (search.head?_eq met own only)
    rw [isWalk, knownFront]
    simp [isParent]

end Described

namespace Operation

/-- Whether an operation lists a declaration. -/
def Lists (tree : FileTree) (index : ClassIndex) (declaration : Declaration) : Operation → Prop
  | .indexDirectory path recursive excludeVendor => ∃ listed later,
    outcome (Lookup.indexDirectory tree path recursive excludeVendor) index = (.ok listed, later) ∧
      declaration ∈ listed
  | .indexFile path => ∃ listed later,
    outcome (Lookup.indexFile tree (tree.resolve path)) index = (.ok listed, later) ∧
      declaration ∈ listed
  | _ => False

variable {tree : FileTree} {index : ClassIndex} {operation : Operation} {declaration : Declaration}

/-- What is listed has been read. -/
theorem Lists.mem_declarations (lists : operation.Lists tree index declaration)
    (orderly : index.Orderly tree) : declaration ∈ (leave tree index [operation]).declarations := by
  cases operation with
  | indexDirectory path recursive excludeVendor =>
    obtain ⟨listed, later, ran, member⟩ := lists
    have left : leave tree index [.indexDirectory path recursive excludeVendor] = later := by
      rw [leave, List.foldl_cons, List.foldl_nil, perform, outcome_bind, ran]
      rfl
    rw [left]
    exact ((indexDirectory_adds orderly path recursive excludeVendor).returned ran).2.2 _ member
  | indexFile path =>
    obtain ⟨listed, later, ran, member⟩ := lists
    have left : leave tree index [.indexFile path] = later := by
      rw [leave, List.foldl_cons, List.foldl_nil, perform, outcome_bind, ran]
      rfl
    obtain ⟨-, entered⟩ := (indexFile_adds orderly (tree.names_resolve path)).returned ran
    rw [left]
    exact List.mem_flatMap.mpr ⟨_, entered, member⟩
  | _ => cases lists

/-- What an index lists is described by its first declaration from then on. -/
theorem Lists.describedBy {project : Project} {before : List Operation}
    (lists : operation.Lists tree (leave tree (.empty project) before) declaration) :
    ∃ first, (leave tree (.empty project) (before ++ [operation])).first? declaration.name = some first ∧
      ∀ after, DescribedBy tree (leave tree (.empty project) (before ++ operation :: after))
        declaration first := by
  have orderly := leave_orderly project tree (before ++ [operation])
  have read := lists.mem_declarations (leave_orderly project tree before)
  rw [← leave_append] at read
  obtain ⟨first, isFirst⟩ := Option.isSome_iff_exists.mp (orderly.isSome_class? read)
  refine ⟨first, (orderly.class?_eq_first? _).symm.trans isFirst, fun after => ?_⟩
  have passed := leave_passes orderly after
  rw [List.append_cons, leave_append]
  exact Lookup.describedBy passed.orderly (passed.grown.classes _ _ isFirst)

end Operation

end Lookup

end ClassAtlas
