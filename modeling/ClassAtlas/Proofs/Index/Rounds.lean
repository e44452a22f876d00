import ClassAtlas.Proofs.Index.Advance
import ClassAtlas.Proofs.Index.History

/-!
Repeated walks end, and meet exactly what can be reached.

A walk is repeated for as long as it meets a class that is not settled. Each time, either a file is read
that was not read before, or the walk meets no other classes the next time; and there are finitely many
files. The edges in the end are a breadth-first search over the graph that the repeated walk leaves.
Nothing is assumed of the project or of what was asked of the index before.
-/

namespace ClassAtlas

namespace ClassIndex

/-- The edges of a walk that lead to classes which are not settled. -/
def pending (index : ClassIndex) (relations : List Relation) (key : String) : List Edge :=
  (index.walk relations key).filter fun edge => !index.isSettled edge.target

theorem pending_eq_nil_iff {index : ClassIndex} {relations : List Relation} {key : String} :
    index.pending relations key = [] ↔
      ∀ edge ∈ index.walk relations key, index.isSettled edge.target = true := by
  simp [pending]

/-- The edges are those of the declarations that are registered. -/
theorem Coherent.mem_edges_iff {index : ClassIndex} (coherent : index.Coherent) {edge : Edge} :
    edge ∈ index.edges ↔
      ∃ declaration, index.class? edge.source = some declaration ∧ edge ∈ outgoing declaration := by
  have own : edge ∈ index.edges ↔ edge ∈ edgesFrom index.edges edge.source := by
    simp [edgesFrom]
  rw [own, coherent.edges]
  cases index.class? edge.source with
  | none => simp
  | some declaration => simp

/-- Every edge leads to the key of its name. -/
theorem Coherent.target_eq {index : ClassIndex} (coherent : index.Coherent) {edge : Edge}
    (member : edge ∈ index.edges) : edge.target = Name.key edge.name := by
  obtain ⟨declaration, -, own⟩ := coherent.mem_edges_iff.mp member
  exact (source_of_mem_edgesOf (mem_edgesOf_of_mem_outgoing own)).2

/-- The target of an edge has one key under both of its names. -/
theorem Coherent.key_targetName {index : ClassIndex} (coherent : index.Coherent)
    (named : ∀ key declaration, index.class? key = some declaration → Name.key declaration.name = key)
    {edge : Edge} (member : edge ∈ index.edges) : Name.key (index.targetName edge) = edge.target := by
  rw [targetName, coherent.names]
  cases known : index.class? edge.target with
  | some declaration => exact named _ _ known
  | none => exact (coherent.target_eq member).symm

end ClassIndex

namespace Lookup

open ClassIndex

variable {tree : FileTree} {index between later : ClassIndex} {relations : List Relation}
  {key : String}

/-- The targets of edges are settled when this returns. -/
theorem loadTargets_passes (orderly : index.Orderly tree) {edges : List Edge}
    (named : ∀ edge ∈ edges, edge.target = Name.key edge.name) :
    Ends (loadTargets tree edges) index
      (fun _ later => Passes tree index later ∧
        ∀ edge ∈ edges, later.isSettled edge.target = true)
      (fun _ later => Passes tree index later) := by
  induction edges generalizing index with
  | nil =>
    exact Ends.pure ⟨Passes.refl orderly, fun _ impossible => absurd impossible List.not_mem_nil⟩
  | cons edge rest inductionHypothesis =>
    rw [List.forall_mem_cons] at named
    rw [loadTargets]
    refine Ends.bind (load_passes orderly edge.name) ?_
    rintro _ between ⟨passed, settled⟩
    refine (inductionHypothesis passed.orderly named.2).mono ?_ fun _ _ => passed.trans
    rintro _ later ⟨laterPassed, restSettled⟩
    refine ⟨passed.trans laterPassed, List.forall_mem_cons.mpr ⟨?_, restSettled⟩⟩
    rw [named.1]
    exact laterPassed.grown.settled _ settled

/-- What a walk has left unsettled is settled when this returns. -/
theorem loadPending_passes (orderly : index.Orderly tree) (relations : List Relation)
    (key : String) :
    Ends (loadTargets tree (index.pending relations key)) index
      (fun _ later => Passes tree index later ∧
        ∀ edge ∈ index.pending relations key, later.isSettled edge.target = true)
      (fun _ later => Passes tree index later) :=
  loadTargets_passes orderly fun _ member =>
    orderly.target_eq (mem_edges_of_mem_walk (List.mem_filter.mp member).1)

/-- How a walk is repeated, without any bound: it is over when all that it meets is settled, or when
looking up the rest raises a fault, and else it begins again. -/
inductive Rounds (tree : FileTree) (relations : List Relation) (key : String) :
    ClassIndex → Except Fault (List Edge) × ClassIndex → Prop where
  | settled {index : ClassIndex} (none : index.pending relations key = []) :
      Rounds tree relations key index (.ok (index.walk relations key), index)
  | raised {index later : ClassIndex} {fault : Fault} (some : index.pending relations key ≠ [])
      (failed : outcome (loadTargets tree (index.pending relations key)) index =
        (.error fault, later)) :
      Rounds tree relations key index (.error fault, later)
  | redo {index between : ClassIndex} {result : Except Fault (List Edge) × ClassIndex}
      (some : index.pending relations key ≠ [])
      (loaded : outcome (loadTargets tree (index.pending relations key)) index = (.ok (), between))
      (rest : Rounds tree relations key between result) :
      Rounds tree relations key index result

theorem outcome_settledWalk_succ (tree : FileTree) (relations : List Relation) (key : String)
    (fuel : Nat) (index : ClassIndex) :
    outcome (settledWalk tree relations key (fuel + 1)) index =
      if index.pending relations key = [] then (.ok (index.walk relations key), index)
      else match outcome (loadTargets tree (index.pending relations key)) index with
        | (.ok _, later) => outcome (settledWalk tree relations key fuel) later
        | (.error fault, later) => (.error fault, later) := by
  have started : outcome (settledWalk tree relations key (fuel + 1)) index =
      outcome (if (index.pending relations key).isEmpty then
        (Pure.pure (index.walk relations key) : Lookup (List Edge))
        else do
          loadTargets tree (index.pending relations key)
          settledWalk tree relations key fuel) index := by
    rw [settledWalk]
    rfl
  rw [started]
  by_cases none : index.pending relations key = []
  · simp only [none, List.isEmpty_nil, if_true]
    rfl
  · simp only [none, List.isEmpty_eq_false_iff.mpr none, if_false, Bool.false_eq_true]
    rw [outcome_bind]
    generalize outcome (loadTargets tree (index.pending relations key)) index = ran
    obtain ⟨fault | _, later⟩ := ran <;> rfl

/-- One more round meets no other classes, unless it reads a file. -/
theorem enough_of_loaded {fuel : Nat} (unread : tree.files.length < fuel + 1 + index.byFile.length)
    (passed : Passes tree index between)
    (loaded : ∀ edge ∈ index.pending relations key, between.isSettled edge.target = true) :
    tree.files.length < fuel + between.byFile.length ∨ between.pending relations key = [] := by
  by_cases same : between.byFile.length = index.byFile.length
  · right
    refine pending_eq_nil_iff.mpr fun edge met => ?_
    rw [walk, (passed.grown.same same).2] at met
    by_cases settled : index.isSettled edge.target = true
    · exact passed.grown.settled _ settled
    · exact loaded edge (List.mem_filter.mpr ⟨met, by simpa using settled⟩)
  · left
    have longer := passed.grown.files.length_le
    omega

/-- With fuel for every file that is still to be read, a repeated walk ends by itself. -/
theorem settledWalk_rounds {fuel : Nat} (orderly : index.Orderly tree)
    (enough : tree.files.length < fuel + index.byFile.length ∨ index.pending relations key = []) :
    Rounds tree relations key index (outcome (settledWalk tree relations key fuel) index) := by
  induction fuel generalizing index with
  | zero =>
    have bound := orderly.length_byFile_le
    exact .settled (enough.resolve_left (by omega))
  | succ fuel inductionHypothesis =>
    rw [outcome_settledWalk_succ]
    split
    case isTrue none => exact .settled none
    case isFalse some =>
      have loads := loadPending_passes orderly relations key
      cases ran : outcome (loadTargets tree (index.pending relations key)) index with
      | mk result later =>
        cases result with
        | error fault => exact .raised some ran
        | ok =>
          obtain ⟨passed, settled⟩ := loads.returned ran
          refine .redo some ran (inductionHypothesis passed.orderly ?_)
          exact enough_of_loaded (enough.resolve_right some) passed settled

/-- What a repeated walk leaves: if it returns, the walk over the index that it leaves. -/
theorem Rounds.passes {result : Except Fault (List Edge) × ClassIndex}
    (rounds : Rounds tree relations key index result) (orderly : index.Orderly tree) :
    Passes tree index result.2 ∧ ∀ edges, result.1 = .ok edges →
      edges = result.2.walk relations key ∧
        ∀ edge ∈ edges, result.2.isSettled edge.target = true := by
  induction rounds with
  | settled none =>
    refine ⟨Passes.refl orderly, ?_⟩
    rintro edges ⟨⟩
    exact ⟨rfl, pending_eq_nil_iff.mp none⟩
  | raised some failed =>
    refine ⟨(loadPending_passes orderly relations key).raised failed, ?_⟩
    rintro edges ⟨⟩
  | redo some loaded rest inductionHypothesis =>
    obtain ⟨passed, -⟩ := (loadPending_passes orderly relations key).returned loaded
    obtain ⟨laterPassed, returns⟩ := inductionHypothesis passed.orderly
    exact ⟨passed.trans laterPassed, returns⟩

/-- Walking from a class ends, with a breadth-first search over the graph that is left. -/
theorem reachable_rounds (orderly : index.Orderly tree) (declaration : Declaration)
    (relations : List Relation) :
    Rounds tree relations (Name.key declaration.name) index
      (outcome (reachable tree declaration relations) index) := by
  have started : outcome (reachable tree declaration relations) index =
      outcome (settledWalk tree relations (Name.key declaration.name) (nameBound tree index)) index :=
    rfl
  have bound := tree.length_files_le_nodeCount
  rw [started]
  refine settledWalk_rounds orderly (.inl ?_)
  rw [nameBound]
  omega

theorem reachable_passes (orderly : index.Orderly tree) (declaration : Declaration)
    (relations : List Relation) :
    Ends (reachable tree declaration relations) index
      (fun edges later => Passes tree index later ∧
        edges = later.walk relations (Name.key declaration.name) ∧
        ∀ edge ∈ edges, later.isSettled edge.target = true)
      (fun _ later => Passes tree index later) where
  returned ran := by
    obtain ⟨passed, returns⟩ := (reachable_rounds orderly declaration relations).passes orderly
    rw [ran] at passed returns
    exact ⟨passed, returns _ rfl⟩
  raised ran := by
    obtain ⟨passed, -⟩ := (reachable_rounds orderly declaration relations).passes orderly
    rw [ran] at passed
    exact passed

/-- What is read off the edges of a walk is read off the walk over the index that is left. -/
theorem readOff_passes {β : Type} (orderly : index.Orderly tree) (declaration : Declaration)
    (relations : List Relation) (readOff : ClassIndex → List Edge → β) :
    Ends
      (do
        let edges ← reachable tree declaration relations
        return readOff (← get) edges)
      index
      (fun value later => Passes tree index later ∧
        value = readOff later (later.walk relations (Name.key declaration.name)) ∧
        ∀ edge ∈ later.walk relations (Name.key declaration.name),
          later.isSettled edge.target = true)
      (fun _ later => Passes tree index later) := by
  refine Ends.bind (reachable_passes orderly declaration relations) ?_
  rintro edges later ⟨passed, rfl, settled⟩
  exact Ends.get_bind (Ends.pure ⟨passed, rfl, settled⟩)

section Advances

variable {α : Type}

/-- Whether a lookup leaves orderly indexes that extend the one before, and keeps them thorough. -/
def Advances (tree : FileTree) (action : Lookup α) : Prop :=
  ∀ index : ClassIndex, index.Orderly tree →
    Ends action index (fun _ later => Passes tree index later) (fun _ later => Passes tree index later)

theorem advances_compositional (tree : FileTree) : Compositional (Advances tree) where
  pure _ index orderly := Ends.pure (Passes.refl orderly)
  bind first rest index orderly := by
    refine Ends.bind (first index orderly) ?_
    intro value between passed
    exact (rest value between passed.orderly).mono (fun _ _ => passed.trans) fun _ _ => passed.trans

theorem find_advances (tree : FileTree) (name : String) : Advances tree (find tree name) := by
  intro index orderly
  rw [find]
  refine Ends.bind (load_passes orderly name) ?_
  rintro _ later ⟨passed, -⟩
  exact Ends.get_bind (Ends.pure passed)

theorem readOff_advances {β : Type} (tree : FileTree) (declaration : Declaration)
    (relations : List Relation) (readOff : ClassIndex → List Edge → β) :
    Advances tree (do
      let edges ← reachable tree declaration relations
      return readOff (← get) edges) :=
  fun _ orderly => (readOff_passes orderly declaration relations readOff).mono
    (fun _ _ => And.left) fun _ _ => id

theorem parentChain_advances (tree : FileTree) (declaration : Declaration) :
    Advances tree (parentChain tree declaration) :=
  readOff_advances tree declaration [.extension] ClassIndex.knownFront

theorem interfaceNames_advances (tree : FileTree) (declaration : Declaration) :
    Advances tree (interfaceNames tree declaration) :=
  readOff_advances tree declaration [.extension, .implementation] ClassIndex.interfaceTargets

theorem traitClosure_advances (tree : FileTree) (declaration : Declaration) :
    Advances tree (traitClosure tree declaration) :=
  readOff_advances tree declaration [.inclusion] ClassIndex.knownTargets

theorem findMethod?_advances (tree : FileTree) (declaration : Declaration) (name : String) :
    Advances tree (findMethod? tree declaration name) :=
  (advances_compositional tree).findMethod? (find_advances tree) (parentChain_advances tree)
    (interfaceNames_advances tree) (traitClosure_advances tree) declaration name

theorem indexFile_advances (tree : FileTree) (path : Path) :
    Advances tree (indexFile tree (tree.resolve path)) := by
  intro index orderly
  refine (indexFile_adds orderly (tree.names_resolve path)).mono ?_ ?_
  · exact fun _ later added => added.1.passes
  · rintro _ later ⟨rfl, -⟩
    exact Passes.refl orderly

theorem indexDirectory_advances (tree : FileTree) (path : String) (recursive excludeVendor : Bool) :
    Advances tree (indexDirectory tree path recursive excludeVendor) :=
  fun _ orderly => (indexDirectory_adds orderly path recursive excludeVendor).mono
    (fun _ _ added => added.1.passes) fun _ _ added => added.1.passes

end Advances

namespace Operation

/-- The index that operations leave, whether they return or raise a fault. -/
def leave (tree : FileTree) (index : ClassIndex) (operations : List Operation) : ClassIndex :=
  operations.foldl (fun index operation => (outcome (operation.perform tree) index).2) index

theorem perform_advances (tree : FileTree) (operation : Operation) :
    Advances tree (operation.perform tree) := by
  have composes := advances_compositional tree
  cases operation with
  | get name => exact composes.bind (find_advances tree name) fun _ => composes.pure ()
  | indexDirectory path recursive excludeVendor =>
    exact composes.bind (indexDirectory_advances tree path recursive excludeVendor) fun _ =>
      composes.pure ()
  | indexFile path => exact composes.bind (indexFile_advances tree path) fun _ => composes.pure ()
  | parentChain declaration =>
    exact composes.bind (parentChain_advances tree declaration) fun _ => composes.pure ()
  | interfaceNames declaration =>
    exact composes.bind (interfaceNames_advances tree declaration) fun _ => composes.pure ()
  | traitClosure declaration =>
    exact composes.bind (traitClosure_advances tree declaration) fun _ => composes.pure ()
  | hasMethod declaration name =>
    exact composes.bind (findMethod?_advances tree declaration name) fun _ => composes.pure ()

/-- Each operation leaves an orderly index that extends the one before. -/
theorem perform_passes (orderly : index.Orderly tree) (operation : Operation) :
    Passes tree index (outcome (operation.perform tree) index).2 :=
  (perform_advances tree operation index orderly).left

/-- So do operations one after the other. -/
theorem leave_passes (orderly : index.Orderly tree) (operations : List Operation) :
    Passes tree index (leave tree index operations) := by
  induction operations generalizing index with
  | nil => exact Passes.refl orderly
  | cons operation rest inductionHypothesis =>
    have passed := perform_passes orderly operation
    exact passed.trans (inductionHypothesis passed.orderly)

theorem leave_append (tree : FileTree) (index : ClassIndex) (first second : List Operation) :
    leave tree index (first ++ second) = leave tree (leave tree index first) second :=
  List.foldl_append

theorem leave_orderly (project : Project) (tree : FileTree) (operations : List Operation) :
    (leave tree (.empty project) operations).Orderly tree :=
  (leave_passes (empty_orderly tree project) operations).orderly

end Operation

/-- Walks from a class end and are exact. Whatever operations an index has been through, the repeated
walk comes to an end without any bound. If no lookup raises a fault, its edges are a breadth-first
search, over the relations, of the graph that it leaves: it meets every class that can be reached once,
and not the class itself. Each class that it meets is either known or absent. -/
theorem walks_end_exactly (project : Project) (tree : FileTree) (operations : List Operation)
    (declaration : Declaration) (relations : List Relation) :
    Rounds tree relations (Name.key declaration.name)
        (Operation.leave tree (.empty project) operations)
        (outcome (reachable tree declaration relations)
          (Operation.leave tree (.empty project) operations)) ∧
      Ends (reachable tree declaration relations) (Operation.leave tree (.empty project) operations)
        (fun edges later =>
          BreadthFirst (later.edges.filter (relations.contains ·.relation))
            (Name.key declaration.name) edges ∧
          ∀ edge ∈ edges, Xor ((later.class? edge.target).isSome = true) (edge.target ∈ later.absent))
        (fun _ _ => True) := by
  have orderly := Operation.leave_orderly project tree operations
  refine ⟨reachable_rounds orderly declaration relations, ?_⟩
  refine (reachable_passes orderly declaration relations).mono ?_ fun _ _ _ => trivial
  rintro edges later ⟨passed, rfl, settled⟩
  refine ⟨walk_breadthFirst passed.orderly.simple relations (Name.key declaration.name), ?_⟩
  exact fun edge member => passed.orderly.xor_of_isSettled (settled edge member)

end Lookup

end ClassAtlas
