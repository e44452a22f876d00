import ClassAtlas.Proofs.Index.Description
import ClassAtlas.Proofs.Index.Settled
import ClassAtlas.Proofs.Index.Unmet

/-!
The chain of parents is the iterated parent.

Whoever wants the ancestors of a class may look up the parent that it names, then the parent that this
one names, and so on, until a class names no parent, a parent is not declared, or a class comes back. The
chain of parents is read off repeated walks over the graph instead. It comes to the same, with the same
fault and the same index in the end, unless a class on the way names its parent as an interface or a
trait as well: there is no edge to it as to a parent then.
-/

namespace ClassAtlas

/-- The parent that a class names. A parent without a name is none. -/
def Declaration.parentName? (declaration : Declaration) : Option String :=
  declaration.parent.filter (!·.isEmpty)

/-- Whether a class names its parent as one of its interfaces or traits, too. -/
def Declaration.NamesParentTwice (declaration : Declaration) : Prop :=
  ∃ name ∈ declaration.parentName?,
    Name.key name ∈ (declaration.interfaces ++ declaration.traits).map Name.key

instance (declaration : Declaration) : Decidable declaration.NamesParentTwice :=
  inferInstanceAs (Decidable (∃ name ∈ declaration.parentName?,
    Name.key name ∈ (declaration.interfaces ++ declaration.traits).map Name.key))

/-- Whether no source file of a project declares a class. Nothing is said of file trees with null
characters in paths. -/
def Project.Lacks (project : Project) (tree : FileTree) (name : String) : Prop :=
  tree.Clean → ∀ files,
    project.sourceFiles tree (Path.absolute project.root).render true false = .ok files →
      tree.declared? files (Name.key name) = none

namespace Lookup

open ClassIndex

/-- How the parents of a class are looked up one after the other: the chain of those found, whether a
fault ends it, and the index that is left. It ends at a class without parent, at a parent that is not
declared, before a class that has been met, or with the fault of a lookup. -/
inductive Climbs (tree : FileTree) : List String → Declaration → ClassIndex → List Declaration →
    Except Fault Unit × ClassIndex → Prop where
  | top {met : List String} {declaration : Declaration} {index : ClassIndex}
      (none : declaration.parentName? = none) : Climbs tree met declaration index [] (.ok (), index)
  | undeclared {met : List String} {declaration : Declaration} {index later : ClassIndex} {name : String}
      (named : declaration.parentName? = some name)
      (sought : outcome (find tree name) index = (.ok none, later))
      (lacking : later.project.Lacks tree name) : Climbs tree met declaration index [] (.ok (), later)
  | again {met : List String} {declaration parent : Declaration} {index later : ClassIndex}
      {name : String} (named : declaration.parentName? = some name)
      (sought : outcome (find tree name) index = (.ok (some parent), later))
      (old : Name.key parent.name ∈ met) : Climbs tree met declaration index [] (.ok (), later)
  | raised {met : List String} {declaration : Declaration} {index later : ClassIndex} {name : String}
      {fault : Fault} (named : declaration.parentName? = some name)
      (sought : outcome (find tree name) index = (.error fault, later)) :
      Climbs tree met declaration index [] (.error fault, later)
  | step {met : List String} {declaration parent : Declaration} {index between : ClassIndex}
      {name : String} {chain : List Declaration} {ending : Except Fault Unit × ClassIndex}
      (named : declaration.parentName? = some name)
      (sought : outcome (find tree name) index = (.ok (some parent), between))
      (new : Name.key parent.name ∉ met)
      (rest : Climbs tree (met ++ [Name.key parent.name]) parent between chain ending) :
      Climbs tree met declaration index (parent :: chain) ending

end Lookup

namespace ClassIndex

variable {tree : FileTree} {index later : ClassIndex} {start declaration parent : Declaration}
  {key name : String} {seen : List String} {edges : List Edge} {passed : List Declaration}

/-- The edges from classes to their parents. -/
def extensions (index : ClassIndex) : List Edge :=
  index.edges.filter ([Relation.extension].contains ·.relation)

/-- The edge from a class to the parent that it names. -/
def parentEdge (declaration : Declaration) (name : String) : Edge :=
  ⟨Name.key declaration.name, Name.key name, .extension, name⟩

section Edges

theorem exists_parentName? {edge : Edge} (member : edge ∈ edgesOf declaration)
    (isExtension : edge.relation = .extension) :
    ∃ name, declaration.parentName? = some name ∧ edge = parentEdge declaration name := by
  simp only [edgesOf, List.mem_append, List.mem_map] at member
  rcases member with (⟨name, isName, rfl⟩ | ⟨name, _, rfl⟩) | ⟨name, _, rfl⟩
  · refine ⟨name, ?_, rfl⟩
    simpa [Declaration.parentName?, Option.filter_eq_some_iff] using isName
  all_goals cases isExtension

theorem parentEdge_mem_outgoing (named : declaration.parentName? = some name)
    (once : ¬ declaration.NamesParentTwice) : parentEdge declaration name ∈ outgoing declaration := by
  obtain ⟨isParent, given⟩ := Option.filter_eq_some_iff.mp named
  have apart : Name.key name ∉ (declaration.interfaces ++ declaration.traits).map Name.key :=
    fun twice => once ⟨name, named, twice⟩
  rw [List.map_append, List.mem_append, not_or] at apart
  have buildsOn : declaration.BuildsOn (Name.key name) .extension :=
    ⟨⟨name, isParent, by simpa using given, rfl⟩, apart⟩
  obtain ⟨edge, isEdge, -, isExtension⟩ := exists_mem_outgoing buildsOn
  obtain ⟨other, sameParent, rfl⟩ :=
    exists_parentName? (mem_edgesOf_of_mem_outgoing isEdge) isExtension
  rw [named] at sameParent
  cases sameParent
  exact isEdge

/-- A class is left towards the parent that it names, if this one is new. -/
theorem Coherent.mem_newFrom_iff (coherent : index.Coherent)
    (known : index.class? (Name.key declaration.name) = some declaration)
    (once : ¬ declaration.NamesParentTwice) {edge : Edge} :
    edge ∈ newFrom index.extensions (Name.key declaration.name) seen ↔
      ∃ name, declaration.parentName? = some name ∧ Name.key name ∉ seen ∧
        edge = parentEdge declaration name := by
  rw [mem_newFrom, ← and_assoc, extensions, coherent.mem_filter_edges known, List.mem_singleton]
  constructor
  · rintro ⟨⟨isEdge, isExtension⟩, new⟩
    obtain ⟨name, named, rfl⟩ := exists_parentName? (mem_edgesOf_of_mem_outgoing isEdge) isExtension
    exact ⟨name, named, new, rfl⟩
  · rintro ⟨name, named, new, rfl⟩
    exact ⟨⟨parentEdge_mem_outgoing named once, rfl⟩, new⟩

theorem Coherent.newFrom_eq_singleton (coherent : index.Coherent)
    (known : index.class? (Name.key declaration.name) = some declaration)
    (once : ¬ declaration.NamesParentTwice) (named : declaration.parentName? = some name)
    (new : Name.key name ∉ seen) :
    newFrom index.extensions (Name.key declaration.name) seen = [parentEdge declaration name] := by
  have simple : Simple index.extensions := coherent.simple.sublist List.filter_sublist
  have distinct : (newFrom index.extensions (Name.key declaration.name) seen).Nodup :=
    .of_map _ ((simple _).sublist ((newFrom_sublist _ _ seen).map _))
  refine List.perm_singleton.mp ((List.perm_ext_iff_of_nodup distinct (List.nodup_singleton _)).mpr ?_)
  intro edge
  rw [coherent.mem_newFrom_iff known once, List.mem_singleton]
  constructor
  · rintro ⟨other, sameParent, -, rfl⟩
    rw [named] at sameParent
    cases sameParent
    rfl
  · rintro rfl
    exact ⟨name, named, new, rfl⟩

/-- A class is not left if all parents that it names have been met. -/
theorem Coherent.newFrom_eq_nil (coherent : index.Coherent)
    (known : index.class? (Name.key declaration.name) = some declaration)
    (once : ¬ declaration.NamesParentTwice)
    (old : ∀ name, declaration.parentName? = some name → Name.key name ∈ seen) :
    newFrom index.extensions (Name.key declaration.name) seen = [] := by
  refine List.eq_nil_iff_forall_not_mem.mpr fun edge member => ?_
  obtain ⟨name, named, new, -⟩ := (coherent.mem_newFrom_iff known once).mp member
  exact new (old name named)

/-- A class that is not known is not left. -/
theorem Coherent.newFrom_unknown (coherent : index.Coherent) (unknown : index.class? key = none)
    (seen : List String) : newFrom index.extensions key seen = [] := by
  have none : edgesFrom index.edges key = [] := by
    rw [coherent.edges, unknown]
    rfl
  refine List.eq_nil_iff_forall_not_mem.mpr fun edge member => ?_
  obtain ⟨listed, own, -⟩ := mem_newFrom.mp member
  have left : edge ∈ edgesFrom index.edges key :=
    List.mem_filter.mpr ⟨(List.mem_filter.mp listed).1, beq_iff_eq.mpr own⟩
  rw [none] at left
  cases left

/-- A walk with enough fuel leaves the first node that waits, and has enough left for the others. -/
theorem exists_walkFrom_eq {node : String} {queue : List String} {fuel : Nat}
    (enough : remaining edges (node :: queue) seen ≤ fuel) :
    ∃ rest, remaining edges (queue ++ (newFrom edges node seen).map (·.target))
        (seen ++ (newFrom edges node seen).map (·.target)) ≤ rest ∧
      walkFrom edges fuel (node :: queue) seen = newFrom edges node seen ++
        walkFrom edges rest (queue ++ (newFrom edges node seen).map (·.target))
          (seen ++ (newFrom edges node seen).map (·.target)) := by
  cases fuel with
  | zero => simp [remaining] at enough
  | succ rest => exact ⟨rest, Nat.le_of_lt_succ (Nat.lt_of_lt_of_le (remaining_step ..) enough), rfl⟩

/-- A walk is over if the only node that waits is not left. -/
theorem walkFrom_eq_nil {node : String} (none : newFrom edges node seen = []) (fuel : Nat) :
    walkFrom edges fuel [node] seen = [] := by
  cases fuel with
  | zero => rfl
  | succ rest =>
    have unfolded : walkFrom edges (rest + 1) [node] seen = newFrom edges node seen ++
        walkFrom edges rest ((newFrom edges node seen).map (·.target))
          (seen ++ (newFrom edges node seen).map (·.target)) := rfl
    rw [unfolded, none]
    cases rest <;> rfl

end Edges

/-- The way from a class up to one of its ancestors, over edges to classes that are known. No class is
met twice, and none names its parent twice. -/
inductive Ascent (index : ClassIndex) (start : Declaration) :
    List Edge → List Declaration → Declaration → Prop where
  | start : Ascent index start [] [] start
  | rise {edges : List Edge} {passed : List Declaration} {declaration parent : Declaration}
      {name : String} (ascent : Ascent index start edges passed declaration)
      (once : ¬ declaration.NamesParentTwice) (named : declaration.parentName? = some name)
      (known : index.class? (Name.key name) = some parent)
      (new : Name.key name ∉ (start :: passed).map (Name.key ·.name)) :
      Ascent index start (edges ++ [parentEdge declaration name]) (passed ++ [parent]) parent

namespace Ascent

theorem grows (ascent : Ascent index start edges passed declaration) (grown : index.Extends later) :
    Ascent later start edges passed declaration := by
  induction ascent with
  | start => exact .start
  | rise _ once named known new inductionHypothesis =>
    exact inductionHypothesis.rise once named (grown.classes _ _ known) new

/-- What the edges lead to are the classes that are passed. -/
theorem targets (ascent : Ascent index start edges passed declaration) :
    edges.map (fun edge => index.class? edge.target) = passed.map some := by
  induction ascent with
  | start => rfl
  | rise _ _ _ known _ inductionHypothesis =>
    rw [List.map_append, List.map_append, inductionHypothesis, List.map_singleton, List.map_singleton]
    rw [show index.class? (parentEdge _ _).target = _ from known]

theorem isSome_target (ascent : Ascent index start edges passed declaration) :
    ∀ edge ∈ edges, (index.class? edge.target).isSome = true := by
  intro edge member
  have listed : index.class? edge.target ∈ passed.map some :=
    ascent.targets ▸ List.mem_map_of_mem member
  obtain ⟨found, -, isFound⟩ := List.mem_map.mp listed
  rw [← isFound]
  rfl

section Known

variable (orderly : index.Orderly tree)
  (startKnown : index.class? (Name.key start.name) = some start)
include orderly startKnown

theorem known (ascent : Ascent index start edges passed declaration) :
    index.class? (Name.key declaration.name) = some declaration := by
  cases ascent with
  | start => exact startKnown
  | rise _ _ _ known _ => rwa [orderly.key_eq known]

/-- All classes that are met are known. -/
theorem isSome_met (ascent : Ascent index start edges passed declaration) :
    ∀ key ∈ (start :: passed).map (Name.key ·.name), (index.class? key).isSome = true := by
  induction ascent with
  | start => simp [startKnown]
  | rise _ _ _ known _ inductionHypothesis =>
    intro key member
    rw [← List.cons_append, List.map_append, List.mem_append] at member
    rcases member with early | last
    · exact inductionHypothesis key early
    · have isLast : key = Name.key _ := List.mem_singleton.mp last
      rw [isLast, orderly.key_eq known, known]
      rfl

/-- A walk from the class at the bottom goes up first, and on from the class at the top. -/
theorem exists_walk_eq (ascent : Ascent index start edges passed declaration) :
    ∃ rest, remaining index.extensions [Name.key declaration.name]
        ((start :: passed).map (Name.key ·.name)) ≤ rest ∧
      index.walk [.extension] (Name.key start.name) = edges ++
        walkFrom index.extensions rest [Name.key declaration.name]
          ((start :: passed).map (Name.key ·.name)) := by
  induction ascent with
  | start =>
    refine ⟨index.extensions.length + 1, ?_, rfl⟩
    rw [remaining, List.length_singleton, Nat.add_comm]
    exact Nat.succ_le_succ (List.length_filter_le _ _)
  | rise ascent once named known new inductionHypothesis =>
    obtain ⟨fuel, enough, isWalk⟩ := inductionHypothesis
    obtain ⟨rest, left, unfolded⟩ := exists_walkFrom_eq enough
    rw [orderly.newFrom_eq_singleton (ascent.known orderly startKnown) once named new] at left unfolded
    refine ⟨rest, ?_, ?_⟩
    · simpa [parentEdge, orderly.key_eq known] using left
    · rw [isWalk, unfolded]
      simp [parentEdge, orderly.key_eq known]

/-- The walk ends where the last class is not left. -/
theorem walk_eq (ascent : Ascent index start edges passed declaration)
    (once : ¬ declaration.NamesParentTwice)
    (old : ∀ name, declaration.parentName? = some name →
      Name.key name ∈ (start :: passed).map (Name.key ·.name)) :
    index.walk [.extension] (Name.key start.name) = edges := by
  obtain ⟨fuel, -, isWalk⟩ := ascent.exists_walk_eq orderly startKnown
  have none := orderly.newFrom_eq_nil (ascent.known orderly startKnown) once old
  rw [isWalk, walkFrom_eq_nil none, List.append_nil]

/-- The walk ends with the edge to a parent that is not known. -/
theorem walk_eq_of_unknown (ascent : Ascent index start edges passed declaration)
    (once : ¬ declaration.NamesParentTwice) (named : declaration.parentName? = some name)
    (unknown : index.class? (Name.key name) = none) :
    index.walk [.extension] (Name.key start.name) = edges ++ [parentEdge declaration name] := by
  have new : Name.key name ∉ (start :: passed).map (Name.key ·.name) := by
    intro member
    have known := ascent.isSome_met orderly startKnown _ member
    rw [unknown] at known
    cases known
  obtain ⟨fuel, enough, isWalk⟩ := ascent.exists_walk_eq orderly startKnown
  obtain ⟨rest, left, unfolded⟩ := exists_walkFrom_eq enough
  rw [orderly.newFrom_eq_singleton (ascent.known orderly startKnown) once named new] at left unfolded
  have none := orderly.newFrom_unknown unknown
    ((start :: passed).map (Name.key ·.name) ++ [parentEdge declaration name].map (·.target))
  rw [isWalk, unfolded]
  exact congrArg (edges ++ parentEdge declaration name :: ·) (walkFrom_eq_nil none rest)

end Known

end Ascent

end ClassIndex

namespace Lookup

open ClassIndex

variable {project : Project} {tree : FileTree} {index between later : ClassIndex}
  {start declaration parent : Declaration} {name : String} {edges : List Edge}
  {passed chain : List Declaration} {result : Except Fault (List Edge) × ClassIndex}
  {ending : Except Fault Unit × ClassIndex}

theorem outcome_loadTargets_singleton (tree : FileTree) (edge : Edge) (index : ClassIndex) :
    outcome (loadTargets tree [edge]) index =
      ((outcome (find tree edge.name) index).1.map fun _ => (),
        (outcome (find tree edge.name) index).2) := by
  rw [loadTargets, find, outcome_bind, outcome_bind]
  generalize outcome (load tree edge.name) index = ran
  obtain ⟨fault | _, later⟩ := ran <;> rfl

section Rounds

variable (orderly : index.Orderly tree)
  (startKnown : index.class? (Name.key start.name) = some start)
include orderly startKnown

/-- Before a walk meets more than the way up to a class, the parent of the class is looked up. -/
theorem Rounds.seek (rounds : Rounds tree [.extension] (Name.key start.name) index result)
    (ascent : Ascent index start edges passed declaration) (once : ¬ declaration.NamesParentTwice)
    (named : declaration.parentName? = some name) :
    Ends (find tree name) index
      (fun _ later => Rounds tree [.extension] (Name.key start.name) later result)
      (fun fault later => result = (.error fault, later)) := by
  by_cases settled : index.isSettled (Name.key name) = true
  · refine (find_of_isSettled settled).mono ?_ fun _ _ => False.elim
    rintro _ _ ⟨-, rfl⟩
    exact rounds
  have unsettled : index.isSettled (Name.key name) = false := Bool.not_eq_true _ ▸ settled
  have unknown : index.class? (Name.key name) = none := by
    rw [isSettled, Bool.or_eq_false_iff] at unsettled
    exact Option.not_isSome_iff_eq_none.mp (Bool.not_eq_true _ ▸ unsettled.1)
  -- Only the parent is pending, since all others on the way are known.
  have pending : index.pending [.extension] (Name.key start.name) = [parentEdge declaration name] := by
    have others : edges.filter (fun edge => !index.isSettled edge.target) = [] := by
      refine List.filter_eq_nil_iff.mpr fun edge member => ?_
      simp [isSettled, ascent.isSome_target edge member]
    rw [pending, ascent.walk_eq_of_unknown orderly startKnown once named unknown, List.filter_append,
      others]
    simp [parentEdge, unsettled]
  have loads : outcome (loadTargets tree [parentEdge declaration name]) index =
      ((outcome (find tree name) index).1.map fun _ => (), (outcome (find tree name) index).2) :=
    outcome_loadTargets_singleton tree (parentEdge declaration name) index
  cases rounds with
  | settled none =>
    rw [pending] at none
    cases none
  | raised some failed =>
    rw [pending, loads] at failed
    constructor
    · intro found later ran
      rw [ran] at failed
      cases failed
    · intro fault later ran
      rw [ran] at failed
      cases failed
      rfl
  | redo some loaded rest =>
    rw [pending, loads] at loaded
    constructor
    · intro found later ran
      rw [ran] at loaded
      cases loaded
      exact rest
    · intro fault later ran
      rw [ran] at loaded
      cases loaded

end Rounds

/-- A walk is not repeated if all that it meets is settled. -/
theorem Rounds.finished {relations : List Relation} {key : String}
    (rounds : Rounds tree relations key index result) (isWalk : index.walk relations key = edges)
    (settled : ∀ edge ∈ edges, index.isSettled edge.target = true) :
    result = (.ok edges, index) := by
  have none : index.pending relations key = [] := pending_eq_nil_iff.mpr (isWalk.symm ▸ settled)
  cases rounds with
  | settled => rw [isWalk]
  | raised some => exact absurd none some
  | redo some => exact absurd none some

/-- What is read off a walk begins with the classes that are passed on the way up. -/
theorem knownFront_append (ascent : Ascent index start edges passed declaration) (others : List Edge) :
    index.knownFront (edges ++ others) = passed ++ index.knownFront others := by
  rw [knownFront, List.map_append, ascent.targets, List.takeWhile_append_of_pos (by simp),
    List.filterMap_append, List.filterMap_map]
  simp [knownFront]

/-- A walk that is over where the way up ends gives the classes that are passed. -/
theorem Rounds.readOff_eq {others : List Edge}
    (rounds : Rounds tree [.extension] (Name.key start.name) index result)
    (ascent : Ascent index start edges passed declaration)
    (isWalk : index.walk [.extension] (Name.key start.name) = edges ++ others)
    (settled : ∀ edge ∈ others, index.isSettled edge.target = true)
    (unknown : index.knownFront others = []) :
    (result.1.map result.2.knownFront, result.2) = (.ok passed, index) := by
  have isOver : result = (.ok (edges ++ others), index) := by
    refine rounds.finished isWalk fun edge member => ?_
    rcases List.mem_append.mp member with early | last
    · simp [isSettled, ascent.isSome_target edge early]
    · exact settled edge last
  rw [isOver, Except.map, knownFront_append ascent, unknown, List.append_nil]

/-- Reading the known classes off a repeated walk gives what climbing on from a class on the way
gives. -/
theorem Climbs.readOff_eq {met : List String} (climbs : Climbs tree met declaration index chain ending)
    (isMet : met = (start :: passed).map (Name.key ·.name)) (orderly : index.Orderly tree)
    (startKnown : index.class? (Name.key start.name) = some start)
    (ascent : Ascent index start edges passed declaration)
    (once : ∀ climbed ∈ declaration :: chain, ¬ climbed.NamesParentTwice)
    (rounds : Rounds tree [.extension] (Name.key start.name) index result) :
    (result.1.map result.2.knownFront, result.2) =
      (ending.1.map fun _ => passed ++ chain, ending.2) := by
  induction climbs generalizing edges passed with
  | top none =>
    rw [List.forall_mem_singleton] at once
    have isWalk := ascent.walk_eq orderly startKnown once (by simp [none])
    rw [rounds.readOff_eq ascent (isWalk.trans (List.append_nil _).symm) (by simp) rfl]
    simp [Except.map]
  | undeclared named sought =>
    rw [List.forall_mem_singleton] at once
    obtain ⟨onward, settled, unknown⟩ := (find_passes orderly _).returned sought
    have left := (rounds.seek orderly startKnown ascent once named).returned sought
    have stillAscent := ascent.grows onward.grown
    have stillKnown := onward.grown.classes _ _ startKnown
    have isWalk := stillAscent.walk_eq_of_unknown onward.orderly stillKnown once named unknown.symm
    rw [left.readOff_eq stillAscent isWalk]
    · simp [Except.map]
    · exact List.forall_mem_singleton.mpr settled
    · simp [knownFront, parentEdge, ← unknown]
  | again named sought old =>
    rw [List.forall_mem_singleton] at once
    obtain ⟨onward, settled, known⟩ := (find_passes orderly _).returned sought
    rw [onward.orderly.key_eq known.symm, isMet] at old
    have isKnown := ascent.isSome_met orderly startKnown _ old
    obtain ⟨-, rfl⟩ := (find_of_isSettled (by rw [isSettled, isKnown, Bool.true_or])).returned sought
    have isWalk := ascent.walk_eq orderly startKnown once fun other same => by
      rw [named] at same
      cases same
      exact old
    rw [rounds.readOff_eq ascent (isWalk.trans (List.append_nil _).symm) (by simp) rfl]
    simp [Except.map]
  | raised named sought =>
    rw [List.forall_mem_singleton] at once
    rw [(rounds.seek orderly startKnown ascent once named).raised sought]
    rfl
  | step named sought new rest inductionHypothesis =>
    rw [List.forall_mem_cons] at once
    obtain ⟨onward, settled, known⟩ := (find_passes orderly _).returned sought
    have left := (rounds.seek orderly startKnown ascent once.1 named).returned sought
    rw [isMet, onward.orderly.key_eq known.symm] at new
    have higher := (ascent.grows onward.grown).rise once.1 named known.symm new
    have read := inductionHypothesis (by simp [isMet]) onward.orderly
      (onward.grown.classes _ _ startKnown) higher once.2 left
    simpa using read

/-- Looking up the parents of a class one after the other comes to an end. -/
theorem exists_climbs (orderly : index.Orderly tree) (thorough : tree.Clean → index.Thorough tree)
    (met : List String) (declaration : Declaration) :
    ∃ chain ending, Climbs tree met declaration index chain ending := by
  induction bound : (tree.unmet met).length using Nat.strongRecOn
    generalizing index met declaration with
  | ind _ inductionHypothesis =>
  subst bound
  cases named : declaration.parentName? with
  | none => exact ⟨[], _, .top named⟩
  | some name =>
  cases sought : outcome (find tree name) index with
  | mk found later =>
  cases found with
  | error fault => exact ⟨[], _, .raised named sought⟩
  | ok found =>
  obtain ⟨onward, settled, isFound⟩ := (find_passes orderly name).returned sought
  have laterThorough := fun clean => onward.thorough clean (thorough clean)
  cases found with
  | none =>
    refine ⟨[], _, .undeclared named sought fun clean files sources => ?_⟩
    have absent : Name.key name ∈ later.absent := by
      simpa [isSettled, ← isFound] using settled
    exact (laterThorough clean).absent files sources _ absent
  | some parent =>
    by_cases old : Name.key parent.name ∈ met
    · exact ⟨[], _, .again named sought old⟩
    · have declared : Name.key parent.name ∈ tree.keys := by
        rw [onward.orderly.key_eq isFound.symm]
        exact onward.orderly.mem_keys isFound.symm
      have fewer := FileTree.length_unmet_lt declared old
        (List.subset_append_left met [Name.key parent.name]) (by simp)
      obtain ⟨chain, ending, rest⟩ :=
        inductionHypothesis _ fewer onward.orderly laterThorough _ parent rfl
      exact ⟨parent :: chain, ending, .step named sought old rest⟩

/-- The parent chain of a registered class is the iterated parent. Whatever operations an index has been
through, looking up the parents of the class one after the other comes to an end, and the chain is what
this gives, with the same fault if one is raised and the same index in the end, provided that no class on
the way names its parent as an interface or a trait as well. -/
theorem parentChain_eq_climb (project : Project) (tree : FileTree) (operations : List Operation)
    (declaration : Declaration)
    (registered : (Operation.leave tree (.empty project) operations).class?
      (Name.key declaration.name) = some declaration) :
    (∃ chain ending, Climbs tree [Name.key declaration.name] declaration
      (Operation.leave tree (.empty project) operations) chain ending) ∧
    ∀ chain ending, Climbs tree [Name.key declaration.name] declaration
        (Operation.leave tree (.empty project) operations) chain ending →
      (∀ climbed ∈ declaration :: chain, ¬ climbed.NamesParentTwice) →
        outcome (parentChain tree declaration) (Operation.leave tree (.empty project) operations) =
          (ending.1.map fun _ => chain, ending.2) := by
  have passes := Operation.leave_passes (empty_orderly tree project) operations
  refine ⟨exists_climbs passes.orderly (fun clean => ?_) _ declaration, ?_⟩
  · exact passes.thorough clean (empty_thorough tree project)
  intro chain ending climbs once
  have rounds := reachable_rounds passes.orderly declaration [.extension]
  have read := climbs.readOff_eq rfl passes.orderly registered .start once rounds
  rw [parentChain, outcome_bind]
  rw [List.nil_append] at read
  rw [← read]
  generalize outcome (reachable tree declaration [.extension]) _ = ran
  obtain ⟨fault | edges, later⟩ := ran <;> rfl

/-- A source that declares two classes, each of which extends the other. -/
def cycleSource : Source where
  bytes := Utf8.encode "<?php class A extends B {} class B extends a {}"
  root :=
    let name (field : String) (start : Nat) : Node := .mk ⟨"name", true, field, start, start + 1⟩ []
    .mk ⟨"program", true, "", 0, 47⟩ [
      .mk ⟨"class_declaration", true, "", 6, 26⟩ [
        name "name" 12, .mk ⟨"base_clause", true, "", 14, 23⟩ [name "" 22]],
      .mk ⟨"class_declaration", true, "", 27, 47⟩ [
        name "name" 33, .mk ⟨"base_clause", true, "", 35, 44⟩ [name "" 43]]]

def cycleTree : FileTree where
  workingDirectory := ["app"]
  files := [(["app", "src", "cycle.php"], ⟨cycleSource, true⟩)]
  directories := [["app"], ["app", "src"]]

/-- The chain of a class that is its own grandparent ends with its parent. -/
theorem parentChain_eq_climb_cycle :
    let index := Operation.leave cycleTree (.empty familyProject) [.get "A"]
    ∃ first parent, index.class? (Name.key first.name) = some first ∧ first.name = "A" ∧
      parent.name = "B" ∧
      Climbs cycleTree [Name.key first.name] first index [parent] (.ok (), index) ∧
      outcome (parentChain cycleTree first) index = (.ok [parent], index) := by
  intro index
  have known : ∃ first ∈ index.class? (Name.key "A"), ∃ parent ∈ index.class? (Name.key "B"),
      first.name = "A" ∧ parent.name = "B" ∧ first.parentName? = some "B" ∧
        parent.parentName? = some "a" ∧ ¬ first.NamesParentTwice ∧ ¬ parent.NamesParentTwice := by
    decide +kernel
  obtain ⟨first, isFirst, parent, isParent, firstName, parentName, firstParent, parentParent, once,
    parentOnce⟩ := known
  have sameKey : Name.key "a" = Name.key "A" := by decide
  have registered : index.class? (Name.key first.name) = some first := by
    rw [firstName]
    exact isFirst
  have up : Gives (find cycleTree "B") index (some parent) := by
    rw [← Option.mem_def.mp isParent]
    exact find_gives (by simp [isSettled, Option.mem_def.mp isParent])
  have back : Gives (find cycleTree "a") index (some first) := by
    rw [← sameKey] at isFirst
    rw [← Option.mem_def.mp isFirst]
    exact find_gives (by simp [isSettled, Option.mem_def.mp isFirst])
  have climbs : Climbs cycleTree [Name.key first.name] first index [parent] (.ok (), index) :=
    .step firstParent up (by rw [firstName, parentName]; decide)
      (.again parentParent back (by simp))
  refine ⟨first, parent, registered, firstName, parentName, climbs, ?_⟩
  exact (parentChain_eq_climb familyProject cycleTree [.get "A"] first registered).2 _ _ climbs
    (by simp [once, parentOnce])

end Lookup

end ClassAtlas
