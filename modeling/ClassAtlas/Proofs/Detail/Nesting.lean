import ClassAtlas.Detail.Description
import ClassAtlas.Proofs.Index.Absence
import ClassAtlas.Proofs.Index.Unmet

/-!
Descriptions end, and none holds a class inside itself.

The interfaces and traits of a class are described in turn, in walks over a graph that grows meanwhile. A
class that is being described is only named, and every class that is described in full below another one
is declared in a file. So along a branch there are fewer and fewer classes left, and the bound on the
depth of a description is never reached: it comes to an end by itself.
-/

namespace ClassAtlas

namespace Description

open ClassIndex Lookup

/-- A description as a tree. A class is only named, or described in full: by its key, the members up to
its interfaces, its interfaces and its traits. -/
inductive Outline where
  | named (name : String)
  | full (key : String) (head : List (String × Json)) (interfaces traits : List Outline)

namespace Outline

mutual

/-- The members of the object for a description. -/
def members : Outline → List (String × Json)
  | .named name => [("file", .null), ("name", .str (Name.unrooted name))]
  | .full _ head interfaces traits =>
    head ++ listMember "interfaces" (objects interfaces) ++ listMember "traits" (objects traits)

/-- The objects for several descriptions. -/
def objects : List Outline → List Json
  | [] => []
  | outline :: rest => .object outline.members :: objects rest

end

/-- The keys of the classes that are described in full on a way down a description. -/
inductive Branch : Outline → List String → Prop where
  | top {key : String} {head : List (String × Json)} {interfaces traits : List Outline} :
      Branch (.full key head interfaces traits) [key]
  | interface {key : String} {head : List (String × Json)} {interfaces traits : List Outline}
      {inner : Outline} {keys : List String} (listed : inner ∈ interfaces) (below : Branch inner keys) :
      Branch (.full key head interfaces traits) (key :: keys)
  | trait {key : String} {head : List (String × Json)} {interfaces traits : List Outline}
      {inner : Outline} {keys : List String} (listed : inner ∈ traits) (below : Branch inner keys) :
      Branch (.full key head interfaces traits) (key :: keys)

end Outline

/-- The members of a description up to the interfaces. -/
def head (tree : FileTree) (docs : DocOptions) (detailed : Bool) (index : ClassIndex)
    (declaration : Declaration) (parent : List (String × Json)) : List (String × Json) :=
  [("file", fileJson tree index declaration), ("name", .str declaration.name)] ++
    lineMembers declaration detailed ++ docs.members declaration.docBlock detailed ++ parent ++
    flagMembers declaration

/-- What is looked up of a class before others are described: its parent, and unless it is a trait the
names of its interfaces, in a walk that is repeated without any bound. -/
inductive Begins (tree : FileTree) (docs : DocOptions) (detailed : Bool) (declaration : Declaration) :
    ClassIndex → List (String × Json) → List String → ClassIndex → Prop where
  | trait {index later : ClassIndex} {parent : List (String × Json)}
      (sought : outcome (parentMembers tree docs detailed declaration) index = (.ok parent, later))
      (isTrait : declaration.isTrait = true) :
      Begins tree docs detailed declaration index (head tree docs detailed index declaration parent) []
        later
  | other {index between later : ClassIndex} {parent : List (String × Json)} {edges : List Edge}
      (sought : outcome (parentMembers tree docs detailed declaration) index = (.ok parent, between))
      (noTrait : declaration.isTrait = false)
      (rounds : Rounds tree [.extension, .implementation] (Name.key declaration.name) between
        (.ok edges, later)) :
      Begins tree docs detailed declaration index (head tree docs detailed index declaration parent)
        (later.interfaceTargets edges) later

/-- How related classes are described without any bound on the depth. One that is unknown or being
described is only named. -/
inductive Relates (tree : FileTree) (docs : DocOptions) :
    List String → List String → ClassIndex → List Outline → ClassIndex → Prop where
  | nil {seen : List String} {index : ClassIndex} : Relates tree docs seen [] index [] index
  | named {seen names : List String} {name : String} {index between later : ClassIndex}
      {found : Option Declaration} {outlines : List Outline}
      (sought : outcome (find tree name) index = (.ok found, between))
      (old : found = none ∨ Name.key name ∈ seen)
      (rest : Relates tree docs seen names between outlines later) :
      Relates tree docs seen (name :: names) index (.named name :: outlines) later
  | full {seen names interfaceNames : List String} {name : String} {declaration : Declaration}
      {index found begun between after later : ClassIndex} {head : List (String × Json)}
      {interfaces traits outlines : List Outline}
      (sought : outcome (find tree name) index = (.ok (some declaration), found))
      (new : Name.key name ∉ seen)
      (begins : Begins tree docs false declaration found head interfaceNames begun)
      (implemented : Relates tree docs (Name.key declaration.name :: seen) interfaceNames begun interfaces
        between)
      (used : Relates tree docs (Name.key declaration.name :: seen) declaration.traits between traits
        after)
      (rest : Relates tree docs seen names after outlines later) :
      Relates tree docs seen (name :: names) index
        (.full (Name.key declaration.name) head interfaces traits :: outlines) later

/-- How a class is described without any bound on the depth. -/
inductive Describes (tree : FileTree) (docs : DocOptions) (detailed : Bool) (seen : List String)
    (declaration : Declaration) : ClassIndex → Outline → ClassIndex → Prop where
  | full {index begun between later : ClassIndex} {head : List (String × Json)}
      {interfaceNames : List String} {interfaces traits : List Outline}
      (begins : Begins tree docs detailed declaration index head interfaceNames begun)
      (implemented : Relates tree docs (Name.key declaration.name :: seen) interfaceNames begun interfaces
        between)
      (used : Relates tree docs (Name.key declaration.name :: seen) declaration.traits between traits
        later) :
      Describes tree docs detailed seen declaration index
        (.full (Name.key declaration.name) head interfaces traits) later

variable {tree : FileTree} {docs : DocOptions} {index later : ClassIndex} {declaration : Declaration}
  {seen names : List String} {outlines : List Outline} {detailed : Bool}

section Passing

/-- Describing the parent of a class takes nothing but a search for it. -/
theorem parentMembers_composed {holds : ∀ {α : Type}, Lookup α → Prop} (composes : Compositional holds)
    (gets : holds get) (finds : ∀ name, holds (find tree name)) (docs : DocOptions) (detailed : Bool)
    (declaration : Declaration) : holds (parentMembers tree docs detailed declaration) := by
  rw [parentMembers]
  split
  · exact composes.pure []
  split
  · exact composes.pure []
  refine composes.bind (finds _) fun found => ?_
  split
  · exact composes.bind gets fun _ => composes.pure _
  · exact composes.pure _

theorem parentMembers_advances (tree : FileTree) (docs : DocOptions) (detailed : Bool)
    (declaration : Declaration) : Advances tree (parentMembers tree docs detailed declaration) :=
  parentMembers_composed (advances_compositional tree)
    (fun _ orderly => Ends.of_get (Passes.refl orderly)) (find_advances tree) docs detailed declaration

theorem Begins.passes {members : List (String × Json)}
    (begins : Begins tree docs detailed declaration index members names later)
    (orderly : index.Orderly tree) : Passes tree index later := by
  cases begins with
  | trait sought => exact (parentMembers_advances tree docs detailed declaration _ orderly).returned sought
  | other sought _ rounds =>
    have passed := (parentMembers_advances tree docs detailed declaration _ orderly).returned sought
    exact passed.trans (rounds.passes passed.orderly).1

theorem Relates.passes (relates : Relates tree docs seen names index outlines later)
    (orderly : index.Orderly tree) : Passes tree index later := by
  induction relates with
  | nil => exact Passes.refl orderly
  | named sought _ _ inductionHypothesis =>
    obtain ⟨passed, -⟩ := (find_passes orderly _).returned sought
    exact passed.trans (inductionHypothesis passed.orderly)
  | full sought _ begins _ _ _ interfacesPass traitsPass restPasses =>
    obtain ⟨passed, -⟩ := (find_passes orderly _).returned sought
    have begun := passed.trans (begins.passes passed.orderly)
    have between := begun.trans (interfacesPass begun.orderly)
    have after := between.trans (traitsPass between.orderly)
    exact after.trans (restPasses after.orderly)

end Passing

section Branches

/-- Whether the classes that are described in full along each branch of a description are different
ones, known, and not among those that are being described. -/
def Outline.Fresh (outline : Outline) (seen : List String) (index : ClassIndex) : Prop :=
  ∀ keys, outline.Branch keys →
    keys.Nodup ∧ ∀ key ∈ keys, key ∉ seen ∧ (index.class? key).isSome = true

theorem Outline.Fresh.grows {outline : Outline} (fresh : outline.Fresh seen index)
    (grown : index.Extends later) : outline.Fresh seen later := by
  intro keys branch
  obtain ⟨distinct, new⟩ := fresh keys branch
  refine ⟨distinct, fun key member => ⟨(new key member).1, ?_⟩⟩
  obtain ⟨found, isFound⟩ := Option.isSome_iff_exists.mp (new key member).2
  rw [grown.classes key found isFound]
  rfl

/-- A branch of a class goes down into one of the related classes, where the class does not come up
again. -/
theorem Outline.Branch.cases {key : String} {head : List (String × Json)}
    {interfaces traits : List Outline} {keys : List String}
    (branch : (Outline.full key head interfaces traits).Branch keys)
    (fresh : ∀ outline ∈ interfaces ++ traits, outline.Fresh (key :: seen) index) :
    ∃ below, keys = key :: below ∧ keys.Nodup ∧
      ∀ other ∈ below, other ∉ seen ∧ (index.class? other).isSome = true := by
  have extend : ∀ {inner : Outline} {below : List String}, inner ∈ interfaces ++ traits →
      inner.Branch below → (key :: below).Nodup ∧
        ∀ other ∈ below, other ∉ seen ∧ (index.class? other).isSome = true := by
    intro inner below listed branch
    obtain ⟨distinct, new⟩ := fresh inner listed below branch
    refine ⟨List.nodup_cons.mpr ⟨fun again => (new key again).1 List.mem_cons_self, distinct⟩, ?_⟩
    exact fun other member => ⟨fun old => (new other member).1 (List.mem_cons_of_mem key old),
      (new other member).2⟩
  cases branch with
  | top => exact ⟨[], rfl, List.nodup_singleton key, by simp⟩
  | interface listed below => exact ⟨_, rfl, extend (List.mem_append_left _ listed) below⟩
  | trait listed below => exact ⟨_, rfl, extend (List.mem_append_right _ listed) below⟩

/-- What is described below classes that are being described is fresh. -/
theorem Relates.fresh (relates : Relates tree docs seen names index outlines later)
    (orderly : index.Orderly tree) : ∀ outline ∈ outlines, outline.Fresh seen later := by
  induction relates with
  | nil => simp
  | named sought _ rest inductionHypothesis =>
    obtain ⟨passed, -⟩ := (find_passes orderly _).returned sought
    refine List.forall_mem_cons.mpr ⟨?_, inductionHypothesis passed.orderly⟩
    intro keys branch
    cases branch
  | full sought new begins implemented used rest interfacesFresh traitsFresh restFresh =>
    obtain ⟨passed, -, known⟩ := (find_passes orderly _).returned sought
    have begun := begins.passes passed.orderly
    have between := implemented.passes begun.orderly
    have after := used.passes between.orderly
    have last := rest.passes after.orderly
    refine List.forall_mem_cons.mpr ⟨fun keys branch => ?_, restFresh after.orderly⟩
    have interfacesStay := fun outline listed =>
      (interfacesFresh begun.orderly outline listed).grows (after.grown.trans last.grown)
    have traitsStay := fun outline listed =>
      (traitsFresh between.orderly outline listed).grows last.grown
    obtain ⟨inner, rfl, distinct, innerNew⟩ :=
      branch.cases (List.forall_mem_append.mpr ⟨interfacesStay, traitsStay⟩)
    refine ⟨distinct, List.forall_mem_cons.mpr ⟨⟨?_, ?_⟩, innerNew⟩⟩
    · rwa [passed.orderly.key_eq known.symm]
    · have onward := begun.trans (between.trans (after.trans last))
      rw [passed.orderly.key_eq known.symm, onward.grown.classes _ _ known.symm]
      rfl

/-- Along a branch of a description no class is described twice, and all but the first are known. -/
theorem Describes.branch {outline : Outline} {keys : List String}
    (describes : Describes tree docs detailed [] declaration index outline later)
    (orderly : index.Orderly tree) (branch : outline.Branch keys) :
    ∃ below, keys = Name.key declaration.name :: below ∧ keys.Nodup ∧
      ∀ key ∈ below, (later.class? key).isSome = true := by
  cases describes with
  | full begins implemented used =>
    have begun := begins.passes orderly
    have between := implemented.passes begun.orderly
    have last := used.passes between.orderly
    have interfacesStay := fun outline listed =>
      (implemented.fresh begun.orderly outline listed).grows last.grown
    obtain ⟨below, isBranch, distinct, known⟩ := branch.cases
      (List.forall_mem_append.mpr ⟨interfacesStay, used.fresh between.orderly⟩)
    exact ⟨below, isBranch, distinct, fun key member => (known key member).2⟩

/-- There are at most as many different known keys as classes. -/
theorem length_le_of_known {keys : List String} (distinct : keys.Nodup)
    (known : ∀ key ∈ keys, (index.class? key).isSome = true) : keys.length ≤ index.classes.length := by
  have listed : keys ⊆ index.classes.map (·.1) := by
    intro key member
    obtain ⟨declaration, isKnown⟩ := Option.isSome_iff_exists.mp (known key member)
    obtain ⟨front, back, entries, -⟩ := List.lookup_eq_some_iff.mp isKnown
    simp [entries]
  have bound := List.Nodup.length_le_of_subset distinct listed
  rwa [List.length_map] at bound

end Branches

section Depth

/-- Describing related classes ends by itself if the bound allows for all classes that are left. -/
def RelatesWithin (tree : FileTree) (docs : DocOptions) (fuel : Nat) : Prop :=
  ∀ (index : ClassIndex) (seen names : List String), index.Orderly tree →
    2 * (tree.unmet seen).length + 1 ≤ fuel →
      Ends (related tree docs fuel seen names) index
        (fun items later => ∃ outlines, Relates tree docs seen names index outlines later ∧
          items = Outline.objects outlines)
        (fun _ _ => True)

theorem interfaceNames_rounds (orderly : index.Orderly tree) (declaration : Declaration) :
    Ends (interfaceNames tree declaration) index
      (fun names later => ∃ edges, Rounds tree [.extension, .implementation]
        (Name.key declaration.name) index (.ok edges, later) ∧ names = later.interfaceTargets edges)
      (fun _ _ => True) := by
  have rounds := reachable_rounds orderly declaration [.extension, .implementation]
  have walks : Ends (reachable tree declaration [.extension, .implementation]) index
      (fun edges later => Rounds tree [.extension, .implementation] (Name.key declaration.name) index
        (.ok edges, later)) (fun _ _ => True) :=
    ⟨fun ran => ran ▸ rounds, fun _ => trivial⟩
  exact Ends.bind walks fun edges later rounds => Ends.get_bind (Ends.pure ⟨edges, rounds, rfl⟩)

/-- So does describing a class, if the bound allows for all classes that are left below it. -/
theorem members_describes {fuel : Nat} (within : RelatesWithin tree docs fuel)
    (orderly : index.Orderly tree)
    (enough : 2 * (tree.unmet (Name.key declaration.name :: seen)).length + 1 ≤ fuel) :
    Ends (members tree docs (fuel + 1) detailed seen declaration) index
      (fun members later => ∃ outline, Describes tree docs detailed seen declaration index outline later ∧
        members = outline.members)
      (fun _ _ => True) := by
  have ends : ∀ {parent names begun interfaces between},
      Begins tree docs detailed declaration index (head tree docs detailed index declaration parent)
        names begun →
      Relates tree docs (Name.key declaration.name :: seen) names begun interfaces between →
      Ends (do
        let traits ← related tree docs fuel (Name.key declaration.name :: seen) declaration.traits
        return head tree docs detailed index declaration parent ++
          listMember "interfaces" (Outline.objects interfaces) ++ listMember "traits" traits) between
        (fun members later => ∃ outline,
          Describes tree docs detailed seen declaration index outline later ∧ members = outline.members)
        (fun _ _ => True) := by
    intro parent names begun interfaces between begins implemented
    have further := implemented.passes (begins.passes orderly).orderly
    refine Ends.bind (within between _ _ further.orderly enough) ?_
    rintro _ later ⟨traits, used, rfl⟩
    exact Ends.pure ⟨_, .full begins implemented used, rfl⟩
  have parents := parentMembers_advances tree docs detailed declaration index orderly
  rw [members]
  refine Ends.get_bind ?_
  refine Ends.bind (parents.remember.mono (fun _ _ => id) fun _ _ _ => trivial) ?_
  rintro parent between ⟨sought, passed⟩
  dsimp only
  split
  case isTrue isTrait =>
    have traitEnds := ends (.trait sought isTrait) .nil
    exact Ends.pure_bind traitEnds
  case isFalse noTrait =>
    refine Ends.bind (interfaceNames_rounds passed.orderly declaration) ?_
    rintro _ begun ⟨edges, rounds, rfl⟩
    have begins := Begins.other sought (Bool.not_eq_true _ ▸ noTrait) rounds
    refine Ends.bind (within begun _ _ (begins.passes orderly).orderly enough) ?_
    rintro _ after ⟨interfaces, implemented, rfl⟩
    exact ends begins implemented

theorem relatesWithin (tree : FileTree) (docs : DocOptions) (fuel : Nat) :
    RelatesWithin tree docs fuel := by
  induction fuel using Nat.strongRecOn with
  | ind fuel inductionHypothesis =>
  intro index seen names orderly enough
  induction names generalizing index with
  | nil =>
    rw [related]
    exact Ends.pure ⟨[], .nil, rfl⟩
  | cons name rest restHypothesis =>
    cases fuel with
    | zero => omega
    | succ fuel =>
    rw [related]
    refine Ends.bind ((find_passes orderly name).remember.mono (fun _ _ => id) fun _ _ _ => trivial) ?_
    rintro found between ⟨sought, passed, -, known⟩
    have onward : ∀ outline {after}, after.Orderly tree →
        (∀ {outlines later}, Relates tree docs seen rest after outlines later →
          Relates tree docs seen (name :: rest) index (outline :: outlines) later) →
        Ends (do
          let others ← related tree docs (fuel + 1) seen rest
          return .object outline.members :: others) after
          (fun items later => ∃ outlines, Relates tree docs seen (name :: rest) index outlines later ∧
            items = Outline.objects outlines)
          (fun _ _ => True) := by
      intro outline after afterOrderly extend
      refine Ends.bind (restHypothesis after afterOrderly) ?_
      rintro _ later ⟨outlines, relates, rfl⟩
      exact Ends.pure ⟨outline :: outlines, extend relates, rfl⟩
    have named : (found = none ∨ Name.key name ∈ seen) → Ends (do
          let others ← related tree docs (fuel + 1) seen rest
          return stub name :: others) between
          (fun items later => ∃ outlines, Relates tree docs seen (name :: rest) index outlines later ∧
            items = Outline.objects outlines)
          (fun _ _ => True) := fun old =>
      onward (.named name) passed.orderly fun relates => .named sought old relates
    cases found with
    | none => exact Ends.pure_bind (named (.inl rfl))
    | some declaration =>
      dsimp only
      split
      case isTrue old => exact Ends.pure_bind (named (.inr (by simpa using old)))
      case isFalse new =>
        have isNew : Name.key name ∉ seen := by simpa using new
        have isKey := passed.orderly.key_eq known.symm
        have fewer := FileTree.length_unmet_lt (passed.orderly.mem_keys known.symm) isNew
          (List.subset_cons_self (Name.key name) seen) List.mem_cons_self
        -- One class less is left below this one, which allows for the two calls that lead there.
        cases fuel with
        | zero => omega
        | succ fuel =>
        have within := inductionHypothesis fuel (by omega)
        refine Ends.bind (members_describes within passed.orderly (by rw [isKey]; omega)) ?_
        rintro _ after ⟨outline, ⟨begins, implemented, used⟩, rfl⟩
        have begun := begins.passes passed.orderly
        have further := implemented.passes begun.orderly
        refine Ends.pure_bind (onward _ (used.passes further.orderly).orderly fun relates => ?_)
        exact .full sought isNew begins implemented used relates

/-- A description ends by itself, with the bound that it is given. -/
theorem describe_describes (orderly : index.Orderly tree) (docs : DocOptions) (detailed : Bool)
    (declaration : Declaration) :
    Ends (describe tree docs detailed declaration) index
      (fun members later => ∃ outline, Describes tree docs detailed [] declaration index outline later ∧
        members = outline.members)
      (fun _ _ => True) := by
  have bound := tree.length_unmet_le [Name.key declaration.name]
  refine Ends.get_bind ?_
  change Ends (members tree docs (2 * (tree.nodeCount + index.classes.length) + 3 + 1) detailed []
    declaration) index _ _
  exact members_describes (relatesWithin tree docs _) orderly (by omega)

end Depth

section Faults

variable {holds : ∀ {α : Type}, Lookup α → Prop} (composes : Compositional holds) (gets : holds get)
  (loads : ∀ name, holds (load tree name))
include composes gets loads

theorem members_composed {fuel : Nat}
    (relates : ∀ seen names, holds (related tree docs fuel seen names)) (detailed : Bool)
    (seen : List String) (declaration : Declaration) :
    holds (members tree docs (fuel + 1) detailed seen declaration) := by
  have finds := composes.finds gets loads
  rw [members]
  refine composes.bind gets fun index => ?_
  refine composes.bind (parentMembers_composed composes gets finds docs detailed declaration) ?_
  intro parent
  have rest : ∀ interfaces : List Json, holds (do
      let traits ← related tree docs fuel (Name.key declaration.name :: seen) declaration.traits
      return head tree docs detailed index declaration parent ++ listMember "interfaces" interfaces ++
        listMember "traits" traits) :=
    fun interfaces => composes.bind (relates _ _) fun _ => composes.pure _
  dsimp only
  split
  · exact composes.bind (composes.pure []) rest
  · refine composes.bind ?_ fun names => composes.bind (relates _ names) rest
    exact composes.readOff gets loads declaration _ ClassIndex.interfaceTargets

theorem related_composed (fuel : Nat) (seen names : List String) :
    holds (related tree docs fuel seen names) := by
  induction fuel using Nat.strongRecOn generalizing seen names with
  | ind fuel inductionHypothesis =>
  induction names with
  | nil =>
    rw [related]
    exact composes.pure []
  | cons name rest restHypothesis =>
    cases fuel with
    | zero =>
      rw [related]
      · exact composes.pure _
      · simp
    | succ fuel =>
    rw [related]
    refine composes.bind (composes.finds gets loads name) fun found => ?_
    have onward : ∀ item : Json, holds (do
        let others ← related tree docs (fuel + 1) seen rest
        return item :: others) := fun item => composes.bind restHypothesis fun _ => composes.pure _
    cases found with
    | none => exact composes.bind (composes.pure _) onward
    | some declaration =>
      dsimp only
      split
      · exact composes.bind (composes.pure _) onward
      · refine composes.bind ?_ fun _ => composes.bind (composes.pure _) onward
        cases fuel with
        | zero =>
          rw [members]
          exact composes.pure _
        | succ fuel =>
          refine members_composed composes gets loads (fun seen names => ?_) false seen declaration
          exact inductionHypothesis fuel (by omega) seen names

/-- Describing a class takes nothing but lookups of names. -/
theorem describe_composed (docs : DocOptions) (detailed : Bool) (declaration : Declaration) :
    holds (describe tree docs detailed declaration) := by
  refine composes.bind gets fun index => ?_
  have relates : ∀ seen names, holds (related tree docs
      (2 * (tree.nodeCount + index.classes.length) + 3) seen names) :=
    related_composed composes gets loads _
  exact members_composed composes gets loads relates detailed [] declaration

end Faults

/-- Whether every fault of an action is raised by looking up a name. -/
def FailsByLookup (tree : FileTree) {α : Type} (action : Lookup α) : Prop :=
  ∀ index, Ends action index (fun _ _ => True) fun fault later =>
    ∃ name between, outcome (load tree name) between = (.error fault, later)

theorem failsByLookup_compositional (tree : FileTree) : Compositional (FailsByLookup tree) where
  pure _ _ := Ends.pure trivial
  bind first rest index := Ends.bind (first index) fun value later _ => rest value later

/-- Describing a class always ends. Whatever operations an index has been through, and whatever cycles the
classes form, a description that raises no fault comes to an end without any bound; a fault is raised by
the lookup of a name. Along each branch no class is described in full twice, and there are at most as many
such classes as are known in the end, not counting a class to begin with that is not known itself. -/
theorem describe_ends (project : Project) (tree : FileTree) (operations : List Operation)
    (docs : DocOptions) (detailed : Bool) (declaration : Declaration) :
    Ends (describe tree docs detailed declaration) (Operation.leave tree (.empty project) operations)
      (fun members later => ∃ outline,
        Describes tree docs detailed [] declaration (Operation.leave tree (.empty project) operations)
          outline later ∧
        members = outline.members ∧
        ∀ keys, outline.Branch keys → keys.Nodup ∧ keys.length ≤ later.classes.length + 1 ∧
          ((later.class? (Name.key declaration.name)).isSome = true →
            keys.length ≤ later.classes.length))
      (fun fault later => ∃ name between, outcome (load tree name) between = (.error fault, later)) := by
  have orderly := Operation.leave_orderly project tree operations
  have faults : FailsByLookup tree (describe tree docs detailed declaration) :=
    describe_composed (failsByLookup_compositional tree) (fun _ => Ends.of_get trivial)
      (fun name index => ⟨fun _ => trivial, fun ran => ⟨name, index, ran⟩⟩) docs detailed declaration
  refine ((describe_describes orderly docs detailed declaration).and (faults _)).mono ?_ ?_
  · rintro members later ⟨⟨outline, describes, isOutline⟩, -⟩
    refine ⟨outline, describes, isOutline, fun keys branch => ?_⟩
    obtain ⟨below, rfl, distinct, known⟩ := describes.branch orderly branch
    refine ⟨distinct, Nat.succ_le_succ (length_le_of_known (List.nodup_cons.mp distinct).2 known), ?_⟩
    exact fun isKnown => length_le_of_known distinct (List.forall_mem_cons.mpr ⟨isKnown, known⟩)
  · exact fun fault later ends => ends.2

end Description

end ClassAtlas
