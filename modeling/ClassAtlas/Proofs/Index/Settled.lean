import ClassAtlas.Proofs.Index.Absence

/-!
Questions about a class whose lineage is settled.

If every class that a lineage leads to is known or absent, then nothing is read to list the lineage or to
look a method up, and nothing is learned. The answers can be read off the index. If there is nothing left
to read at all, then no lookup raises a fault.
-/

namespace ClassAtlas

namespace ClassIndex

/-- The classes that a class includes, directly or not. -/
def traitsOf (index : ClassIndex) (declaration : Declaration) : List Declaration :=
  index.knownTargets (index.walk [.inclusion] (Name.key declaration.name))

/-- The known ancestors of a class. -/
def parentsOf (index : ClassIndex) (declaration : Declaration) : List Declaration :=
  index.knownFront (index.walk [.extension] (Name.key declaration.name))

/-- The names of the interfaces of a class. -/
def interfacesOf (index : ClassIndex) (declaration : Declaration) : List String :=
  index.interfaceTargets (index.walk [.extension, .implementation] (Name.key declaration.name))

/-- Declarations, each with its traits. -/
def withTraitsOf (index : ClassIndex) (declarations : List Declaration) : List Declaration :=
  declarations.flatMap fun declaration => declaration :: index.traitsOf declaration

/-- The classes under names, as far as they are known. -/
def knownAmong (index : ClassIndex) (names : List String) : List Declaration :=
  names.filterMap fun name => index.class? (Name.key name)

/-- The lineage of a class, as far as it is known. -/
def lineageOf (index : ClassIndex) (declaration : Declaration) : List Declaration :=
  index.withTraitsOf (declaration :: index.parentsOf declaration) ++
    index.knownAmong (index.interfacesOf declaration)

/-- Whether all that a walk meets is settled. -/
def WalkSettled (index : ClassIndex) (relations : List Relation) (declaration : Declaration) : Prop :=
  ∀ edge ∈ index.walk relations (Name.key declaration.name), index.isSettled edge.target = true

/-- Whether every class that the lineage of a class leads to is known or absent. -/
structure LineageSettled (index : ClassIndex) (declaration : Declaration) : Prop where
  parents : index.WalkSettled [.extension] declaration
  interfaces : index.WalkSettled [.extension, .implementation] declaration
  traits : ∀ holder ∈ declaration :: index.parentsOf declaration, index.WalkSettled [.inclusion] holder

instance (index : ClassIndex) (relations : List Relation) (declaration : Declaration) :
    Decidable (index.WalkSettled relations declaration) :=
  inferInstanceAs (Decidable (∀ edge ∈ index.walk relations (Name.key declaration.name),
    index.isSettled edge.target = true))

instance (index : ClassIndex) (declaration : Declaration) :
    Decidable (index.LineageSettled declaration) :=
  decidable_of_iff
    (index.WalkSettled [.extension] declaration ∧
      index.WalkSettled [.extension, .implementation] declaration ∧
      ∀ holder ∈ declaration :: index.parentsOf declaration, index.WalkSettled [.inclusion] holder)
    ⟨fun ⟨parents, interfaces, traits⟩ => ⟨parents, interfaces, traits⟩,
      fun settled => ⟨settled.parents, settled.interfaces, settled.traits⟩⟩

theorem Accurate.isSettled_of_mem_interfacesOf {project : Project} {tree : FileTree}
    {index : ClassIndex} {declaration : Declaration} (accurate : index.Accurate project tree)
    (settled : index.WalkSettled [.extension, .implementation] declaration) :
    ∀ name ∈ index.interfacesOf declaration, index.isSettled (Name.key name) = true := by
  intro name member
  obtain ⟨edge, isInterface, rfl⟩ := List.mem_map.mp member
  have met := (List.mem_filter.mp isInterface).1
  rw [accurate.key_targetName accurate.named (mem_edges_of_mem_walk met)]
  exact settled edge met

theorem class?_of_mem_knownTargets {index : ClassIndex} {edges : List Edge} {found : Declaration}
    (member : found ∈ index.knownTargets edges) : ∃ key, index.class? key = some found := by
  obtain ⟨edge, -, known⟩ := List.mem_filterMap.mp member
  exact ⟨edge.target, known⟩

theorem class?_of_mem_knownFront {index : ClassIndex} {edges : List Edge} {found : Declaration}
    (member : found ∈ index.knownFront edges) : ∃ key, index.class? key = some found := by
  obtain ⟨known, front, isKnown⟩ := List.mem_filterMap.mp member
  obtain ⟨edge, -, isTarget⟩ := List.mem_map.mp ((List.takeWhile_prefix _).subset front)
  exact ⟨edge.target, isTarget.trans isKnown⟩

theorem class?_of_mem_knownAmong {index : ClassIndex} {names : List String} {found : Declaration}
    (member : found ∈ index.knownAmong names) : ∃ key, index.class? key = some found := by
  obtain ⟨name, -, known⟩ := List.mem_filterMap.mp member
  exact ⟨Name.key name, known⟩

/-- Whatever stands in the lineage of a registered class is registered. -/
theorem exists_class?_of_mem_lineageOf {index : ClassIndex} {declaration : Declaration}
    (registered : index.class? (Name.key declaration.name) = some declaration) :
    ∀ member ∈ index.lineageOf declaration, ∃ key, index.class? key = some member := by
  intro member listed
  rcases List.mem_append.mp listed with holds | isInterface
  · obtain ⟨holder, isHolder, below⟩ := List.mem_flatMap.mp holds
    rcases List.mem_cons.mp below with rfl | isTrait
    · rcases List.mem_cons.mp isHolder with rfl | isParent
      · exact ⟨_, registered⟩
      · exact class?_of_mem_knownFront isParent
    · exact class?_of_mem_knownTargets isTrait
  · exact class?_of_mem_knownAmong isInterface

end ClassIndex

namespace Lookup

open ClassIndex

variable {α β : Type} {project : Project} {tree : FileTree} {index : ClassIndex}
  {declaration : Declaration} {relations : List Relation}

/-- Whether a lookup gives a value and leaves the index as it is. -/
def Gives (action : Lookup α) (index : ClassIndex) (value : α) : Prop :=
  outcome action index = (.ok value, index)

theorem Gives.pure (value : α) : Gives (pure value) index value := rfl

theorem Gives.bind {action : Lookup α} {next : α → Lookup β} {value : α} {result : β}
    (first : Gives action index value) (rest : Gives (next value) index result) :
    Gives (action >>= next) index result := by
  rw [Gives, outcome_bind, first]
  exact rest

theorem Gives.get_bind {next : ClassIndex → Lookup α} {value : α}
    (rest : Gives (next index) index value) : Gives (get >>= next) index value := rest

theorem Gives.of_ends {action : Lookup α} {value : α}
    (ends : Ends action index (fun found later => found = value ∧ later = index) fun _ _ => False) :
    Gives action index value := by
  obtain ⟨_, _, ran, rfl, rfl⟩ := ends.ok
  exact ran

theorem find_gives {name : String} (settled : index.isSettled (Name.key name) = true) :
    Gives (find tree name) index (index.class? (Name.key name)) :=
  .of_ends (find_of_isSettled settled)

theorem reachable_gives (settled : index.WalkSettled relations declaration) :
    Gives (reachable tree declaration relations) index
      (index.walk relations (Name.key declaration.name)) := by
  have none : index.pending relations (Name.key declaration.name) = [] := pending_eq_nil_iff.mpr settled
  refine Gives.get_bind ?_
  rw [Gives, nameBound, outcome_settledWalk_succ, if_pos none]

theorem parentChain_gives (settled : index.WalkSettled [.extension] declaration) :
    Gives (parentChain tree declaration) index (index.parentsOf declaration) :=
  (reachable_gives settled).bind rfl

theorem interfaceNames_gives (settled : index.WalkSettled [.extension, .implementation] declaration) :
    Gives (interfaceNames tree declaration) index (index.interfacesOf declaration) :=
  (reachable_gives settled).bind rfl

theorem traitClosure_gives (settled : index.WalkSettled [.inclusion] declaration) :
    Gives (traitClosure tree declaration) index (index.traitsOf declaration) :=
  (reachable_gives settled).bind rfl

theorem withTraits_gives {declarations : List Declaration}
    (settled : ∀ holder ∈ declarations, index.WalkSettled [.inclusion] holder) :
    Gives (withTraits tree declarations) index (index.withTraitsOf declarations) := by
  induction declarations with
  | nil => exact .pure []
  | cons holder rest inductionHypothesis =>
    rw [List.forall_mem_cons] at settled
    exact (traitClosure_gives settled.1).bind ((inductionHypothesis settled.2).bind (.pure _))

theorem findAll_gives {names : List String}
    (settled : ∀ name ∈ names, index.isSettled (Name.key name) = true) :
    Gives (findAll tree names) index (index.knownAmong names) := by
  induction names with
  | nil => exact .pure []
  | cons name rest inductionHypothesis =>
    rw [List.forall_mem_cons] at settled
    have split : index.knownAmong (name :: rest) =
        (index.class? (Name.key name)).toList ++ index.knownAmong rest := by
      rw [knownAmong, List.filterMap_cons]
      cases index.class? (Name.key name) <;> rfl
    rw [findAll, split]
    exact (find_gives settled.1).bind ((inductionHypothesis settled.2).bind (.pure _))

/-- The lineage of a class whose lineage is settled. -/
theorem lineage_gives (accurate : index.Accurate project tree)
    (settled : index.LineageSettled declaration) :
    Gives (lineage tree declaration true) index (index.lineageOf declaration) := by
  refine (parentChain_gives settled.parents).bind ?_
  refine (withTraits_gives settled.traits).bind ?_
  refine (interfaceNames_gives settled.interfaces).bind ?_
  exact (findAll_gives (accurate.isSettled_of_mem_interfacesOf settled.interfaces)).bind (.pure _)

theorem methodWithTraits?_gives {declarations : List Declaration}
    (settled : ∀ holder ∈ declarations, index.WalkSettled [.inclusion] holder) (name : String) :
    Gives (methodWithTraits? tree name declarations) index
      ((index.withTraitsOf declarations).findSome? (·.method? name)) := by
  induction declarations with
  | nil => exact .pure none
  | cons holder rest inductionHypothesis =>
    rw [List.forall_mem_cons] at settled
    rw [methodWithTraits?, withTraitsOf, List.flatMap_cons, List.findSome?_append, List.findSome?_cons]
    cases holder.method? name with
    | some method => exact .pure (some method)
    | none =>
      refine (traitClosure_gives settled.1).bind ?_
      cases (index.traitsOf holder).findSome? (·.method? name) with
      | some method => exact .pure (some method)
      | none => exact inductionHypothesis settled.2

theorem methodAmong?_gives {names : List String}
    (settled : ∀ className ∈ names, index.isSettled (Name.key className) = true) (name : String) :
    Gives (methodAmong? tree name names) index
      ((index.knownAmong names).findSome? (·.method? name)) := by
  induction names with
  | nil => exact .pure none
  | cons className rest inductionHypothesis =>
    rw [List.forall_mem_cons] at settled
    rw [methodAmong?, knownAmong, List.filterMap_cons]
    refine (find_gives settled.1).bind ?_
    cases index.class? (Name.key className) with
    | none => exact inductionHypothesis settled.2
    | some found =>
      rw [Option.bind_some, List.findSome?_cons]
      cases found.method? name with
      | some method => exact .pure (some method)
      | none => exact inductionHypothesis settled.2

/-- The method that is found is the first one in the lineage. -/
theorem findMethod?_gives (accurate : index.Accurate project tree)
    (settled : index.LineageSettled declaration) (name : String) :
    Gives (findMethod? tree declaration name) index
      ((index.lineageOf declaration).findSome? (·.method? name)) := by
  rw [findMethod?, lineageOf, List.findSome?_append]
  refine (parentChain_gives settled.parents).bind ?_
  refine (methodWithTraits?_gives settled.traits name).bind ?_
  cases (index.withTraitsOf (declaration :: index.parentsOf declaration)).findSome?
      (·.method? name) with
  | some method => exact .pure (some method)
  | none =>
    refine (interfaceNames_gives settled.interfaces).bind ?_
    exact methodAmong?_gives (accurate.isSettled_of_mem_interfacesOf settled.interfaces) name

section Exhausted

/-- Whether an index has nothing left to read: all files of the project have been read, and no autoload
roots lead elsewhere. -/
structure IsExhausted (index : ClassIndex) : Prop where
  complete : index.complete = true
  roots : index.roots = some []

/-- Whether a lookup raises no fault on an index that has nothing left to read. -/
def Returns {α : Type} (action : Lookup α) : Prop :=
  ∀ index, IsExhausted index → Ends action index (fun _ later => IsExhausted later) (fun _ _ => False)

theorem returns_compositional : Compositional Returns where
  pure _ _ exhausted := Ends.pure exhausted
  bind first rest index exhausted := Ends.bind (first index exhausted) fun value later => rest value later

theorem get_returns : Returns get := fun _ exhausted => Ends.of_get exhausted

/-- Any name is then settled without a fault. -/
theorem load_returns (tree : FileTree) (name : String) : Returns (load tree name) := by
  intro index exhausted
  have roots : Ends (autoloadRoots tree) index
      (fun roots later => IsExhausted later ∧ roots = []) (fun _ _ => False) := by
    rw [autoloadRoots]
    refine Ends.get_bind ?_
    rw [exhausted.roots]
    exact Ends.pure ⟨exhausted, rfl⟩
  rw [load]
  refine Ends.get_bind ?_
  split
  · exact Ends.pure exhausted
  refine Ends.bind roots ?_
  rintro _ later ⟨still, rfl⟩
  refine Ends.ofExcept_bind ?_ fun _ failed => by cases failed
  rintro _ ⟨⟩
  have noCandidates : Ends (tryCandidates tree (Name.key name) []) later
      (fun found left => found = false ∧ IsExhausted left) (fun _ _ => False) :=
    Ends.pure ⟨rfl, still⟩
  refine Ends.bind noCandidates ?_
  rintro _ left ⟨rfl, leftStill⟩
  have reads : Ends (indexProject tree) left (fun _ later => IsExhausted later) (fun _ _ => False) := by
    rw [indexProject]
    refine Ends.get_bind ?_
    rw [if_pos leftStill.complete]
    exact Ends.pure leftStill
  refine Ends.bind reads fun _ read readStill => Ends.modify ?_
  split
  · exact readStill
  · exact ⟨readStill.complete, readStill.roots⟩

end Exhausted

end Lookup

end ClassAtlas
