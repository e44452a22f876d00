import ClassAtlas.Proofs.Declaration.Members
import ClassAtlas.Proofs.Detail.Sections
import ClassAtlas.Proofs.Index.Settled

/-!
Whose members a class detail goes through.

The class of a detail has been read from a file, and its lineage goes on with declarations that are
registered for other classes. These stay registered whatever is asked afterwards. Nothing is assumed of
the project: classes may be declared twice, and the class of a detail need not be the registered one.
-/

namespace ClassAtlas

namespace ClassIndex

/-- Whether a declaration is the one that is registered for its class. -/
def Knows (index : ClassIndex) (declaration : Declaration) : Prop :=
  index.class? (Name.key declaration.name) = some declaration

section Knows

variable {tree : FileTree} {index later : ClassIndex} {declaration other : Declaration} {key : String}

theorem Orderly.knows (orderly : index.Orderly tree) (known : index.class? key = some declaration) :
    index.Knows declaration := by
  rw [Knows, orderly.key_eq known]
  exact known

theorem Knows.unique (known : index.Knows declaration) (otherKnown : index.Knows other)
    (same : Name.key declaration.name = Name.key other.name) : declaration = other := by
  rw [Knows, same, otherKnown] at known
  exact (Option.some.inj known).symm

theorem Knows.extends (known : index.Knows declaration) (grown : index.Extends later) :
    later.Knows declaration :=
  grown.classes _ _ known

theorem Orderly.mem_declarations (orderly : index.Orderly tree) (known : index.class? key = some declaration) :
    declaration ∈ index.declarations := by
  rw [orderly.classes] at known
  exact List.mem_of_find?_eq_some known

/-- What has been read owns its members. -/
theorem Orderly.ownsMembers (orderly : index.Orderly tree) (read : declaration ∈ index.declarations) :
    declaration.OwnsMembers := by
  obtain ⟨entry, entered, member⟩ := List.mem_flatMap.mp read
  exact FileTree.ownsMembers_of_declarations (orderly.read entry entered).2 declaration member

end Knows

end ClassIndex

namespace Lookup

open ClassIndex

section Listing

variable {α β : Type} {tree : FileTree} {given more : List Declaration}

/-- Whether what a lookup lists is given or registered. -/
def ListsKnown (tree : FileTree) (given : List Declaration) (listing : α → List Declaration)
    (action : Lookup α) : Prop :=
  ∀ index : ClassIndex, index.Orderly tree →
    Ends action index
      (fun value later => Passes tree index later ∧
        ∀ declaration ∈ listing value, declaration ∈ given ∨ later.Knows declaration)
      (fun _ _ => True)

theorem ListsKnown.pure {listing : α → List Declaration} {value : α} (listed : listing value ⊆ given) :
    ListsKnown tree given listing (pure value) :=
  fun _ orderly => Ends.pure ⟨Passes.refl orderly, fun _ member => .inl (listed member)⟩

/-- What one step lists is given to the next one. -/
theorem ListsKnown.bind {listing : α → List Declaration} {others : β → List Declaration}
    {action : Lookup α} {next : α → Lookup β} (first : ListsKnown tree given listing action)
    (rest : ∀ value, ListsKnown tree (given ++ listing value) others (next value)) :
    ListsKnown tree given others (action >>= next) := by
  intro index orderly
  refine Ends.bind (first index orderly) ?_
  rintro value between ⟨passed, known⟩
  refine (rest value between passed.orderly).mono ?_ fun _ _ => id
  rintro result later ⟨laterPassed, laterKnown⟩
  refine ⟨passed.trans laterPassed, fun declaration member => ?_⟩
  rcases laterKnown declaration member with before | isKnown
  · rcases List.mem_append.mp before with isGiven | listed
    · exact .inl isGiven
    · exact (known declaration listed).imp_right fun early => early.extends laterPassed.grown
  · exact .inr isKnown

theorem ListsKnown.mono {listing : α → List Declaration} {action : Lookup α}
    (lists : ListsKnown tree given listing action) (wider : given ⊆ more) :
    ListsKnown tree more listing action :=
  fun index orderly => (lists index orderly).mono
    (fun _ _ ends => ends.imp_right fun known declaration member =>
      (known declaration member).imp_left fun isGiven => wider isGiven)
    fun _ _ => id

theorem Advances.listsKnown {action : Lookup α} (advances : Advances tree action) :
    ListsKnown tree given (fun _ => []) action :=
  fun index orderly => (advances index orderly).mono
    (fun _ _ passed => ⟨passed, fun _ impossible => absurd impossible List.not_mem_nil⟩)
    fun _ _ _ => trivial

/-- What is read off a walk is registered if it stands under the keys of the edges. -/
theorem readOff_listsKnown (declaration : Declaration) (relations : List Relation)
    {readOff : ClassIndex → List Edge → List Declaration}
    (known : ∀ {index : ClassIndex} {edges : List Edge} {found : Declaration},
      found ∈ readOff index edges → ∃ key, index.class? key = some found) :
    ListsKnown tree given id (do
      let edges ← reachable tree declaration relations
      return readOff (← get) edges) := by
  intro index orderly
  refine (readOff_passes orderly declaration relations readOff).mono ?_ fun _ _ _ => trivial
  rintro listed later ⟨passed, rfl, -⟩
  refine ⟨passed, fun found member => .inr ?_⟩
  obtain ⟨key, isKnown⟩ := known member
  exact passed.orderly.knows isKnown

theorem parentChain_listsKnown (given : List Declaration) (declaration : Declaration) :
    ListsKnown tree given id (parentChain tree declaration) :=
  readOff_listsKnown declaration [.extension] class?_of_mem_knownFront

theorem traitClosure_listsKnown (given : List Declaration) (declaration : Declaration) :
    ListsKnown tree given id (traitClosure tree declaration) :=
  readOff_listsKnown declaration [.inclusion] class?_of_mem_knownTargets

theorem find_listsKnown (given : List Declaration) (name : String) :
    ListsKnown tree given Option.toList (find tree name) := by
  intro index orderly
  rw [find]
  refine Ends.bind ((load_passes orderly name).mono (fun _ _ => id) fun _ _ _ => trivial) ?_
  rintro _ later ⟨passed, -⟩
  refine Ends.get_bind (Ends.pure ⟨passed, fun declaration member => .inr ?_⟩)
  exact passed.orderly.knows (Option.mem_toList.mp member)

theorem withTraits_listsKnown (declarations : List Declaration) :
    ListsKnown tree declarations id (withTraits tree declarations) := by
  induction declarations with
  | nil => exact .pure (List.Subset.refl _)
  | cons declaration rest inductionHypothesis =>
    refine (traitClosure_listsKnown _ declaration).bind fun traits => ?_
    refine (inductionHypothesis.mono ?_).bind fun others => .pure ?_
    · intro other member
      simp [member]
    · intro other member
      simp only [id_eq, List.cons_append, List.mem_cons, List.mem_append] at member ⊢
      tauto

theorem findAll_listsKnown (names : List String) : ListsKnown tree given id (findAll tree names) := by
  induction names generalizing given with
  | nil => exact .pure (List.nil_subset _)
  | cons name rest inductionHypothesis =>
    refine (find_listsKnown _ name).bind fun found => ?_
    refine inductionHypothesis.bind fun others => .pure ?_
    simp

/-- A lineage goes on from its class with declarations that are registered. -/
theorem lineage_listsKnown (declaration : Declaration) (includeInterfaces : Bool) :
    ListsKnown tree [declaration] id (lineage tree declaration includeInterfaces) := by
  refine (parentChain_listsKnown _ declaration).bind fun chain => ?_
  refine (withTraits_listsKnown (declaration :: chain)).bind fun classes => ?_
  split
  · refine (interfaceNames_advances tree declaration).listsKnown.bind fun names => ?_
    refine (findAll_listsKnown names).bind fun interfaces => .pure ?_
    simp
  · exact .pure (by simp)

/-- Declarations with their traits begin with the first one, and the others follow. -/
theorem withTraits_begins (declaration : Declaration) (chain : List Declaration) (index : ClassIndex) :
    Ends (withTraits tree (declaration :: chain)) index
      (fun listed _ => ∃ rest, listed = declaration :: rest ∧ chain ⊆ rest) (fun _ _ => True) := by
  induction chain generalizing declaration index with
  | nil =>
    rw [withTraits]
    refine Ends.bind (Ends.trivial _ _) fun traits _ _ => ?_
    exact Ends.bind (Ends.trivial _ _) fun others _ _ =>
      Ends.pure ⟨traits ++ others, rfl, List.nil_subset _⟩
  | cons parent rest inductionHypothesis =>
    rw [withTraits]
    refine Ends.bind (Ends.trivial _ _) fun traits between _ => ?_
    refine Ends.bind (inductionHypothesis parent between) ?_
    rintro _ later ⟨others, rfl, included⟩
    refine Ends.pure ⟨traits ++ parent :: others, rfl, List.cons_subset.mpr ⟨by simp, ?_⟩⟩
    exact fun other member => List.mem_append_right _ (List.mem_cons_of_mem parent (included member))

/-- A lineage begins with its class, and the parents of the class follow. -/
theorem lineage_begins (declaration : Declaration) (includeInterfaces : Bool) (index : ClassIndex) :
    Ends (lineage tree declaration includeInterfaces) index
      (fun listed _ => ∃ chain between rest,
        outcome (parentChain tree declaration) index = (.ok chain, between) ∧
          listed = declaration :: rest ∧ chain ⊆ rest)
      (fun _ _ => True) := by
  rw [lineage]
  refine Ends.bind (Ends.trivial _ _).remember ?_
  rintro chain between ⟨isChain, -⟩
  refine Ends.bind (withTraits_begins declaration chain between) ?_
  rintro _ left ⟨rest, rfl, included⟩
  split
  · refine Ends.bind (Ends.trivial _ _) fun names _ _ => ?_
    refine Ends.bind (Ends.trivial _ _) fun interfaces _ _ => ?_
    refine Ends.pure ⟨chain, between, rest ++ interfaces, isChain, rfl, fun parent member => ?_⟩
    exact List.mem_append_left _ (included member)
  · exact Ends.pure ⟨chain, between, rest, isChain, rfl, included⟩

end Listing

namespace Compositional

variable {holds : ∀ {α : Type}, Lookup α → Prop} {tree : FileTree}

theorem parentMembers (composes : Compositional holds) (gets : holds get)
    (finds : ∀ name, holds (find tree name)) (docs : DocOptions) (detailed : Bool)
    (declaration : Declaration) : holds (Description.parentMembers tree docs detailed declaration) := by
  rw [Description.parentMembers]
  split
  · exact composes.pure _
  split
  · exact composes.pure _
  refine composes.bind (finds _) fun found => ?_
  split
  · exact composes.bind gets fun _ => composes.pure _
  · exact composes.pure _

/-- The description of a class, and those of the classes that it builds on. -/
theorem members (composes : Compositional holds) (gets : holds get)
    (finds : ∀ name, holds (find tree name))
    (interfaces : ∀ declaration, holds (interfaceNames tree declaration)) (docs : DocOptions) (fuel : Nat) :
    (∀ detailed seen declaration, holds (Description.members tree docs fuel detailed seen declaration)) ∧
      ∀ seen names, holds (Description.related tree docs fuel seen names) := by
  induction fuel with
  | zero =>
    refine ⟨fun detailed seen declaration => ?_, fun seen names => ?_⟩
    · rw [Description.members]
      exact composes.pure _
    · cases names with
      | nil =>
        rw [Description.related]
        exact composes.pure _
      | cons name rest =>
        rw [Description.related]
        · exact composes.pure _
        · intro impossible
          cases impossible
  | succ fuel inductionHypothesis =>
    obtain ⟨describes, relates⟩ := inductionHypothesis
    refine ⟨fun detailed seen declaration => ?_, fun seen names => ?_⟩
    · rw [Description.members]
      refine composes.bind gets fun _ => ?_
      refine composes.bind (composes.parentMembers gets finds docs detailed declaration) fun _ => ?_
      dsimp only
      split
      · refine composes.bind (composes.pure []) fun _ => ?_
        exact composes.bind (relates _ _) fun _ => composes.pure _
      · refine composes.bind (interfaces declaration) fun _ => ?_
        refine composes.bind (relates _ _) fun _ => ?_
        exact composes.bind (relates _ _) fun _ => composes.pure _
    · induction names with
      | nil =>
        rw [Description.related]
        exact composes.pure _
      | cons name rest restHolds =>
        rw [Description.related]
        refine composes.bind (finds name) fun found => ?_
        have related (item : Json) := composes.bind restHolds fun others => composes.pure (item :: others)
        dsimp only
        split
        · exact composes.bind (composes.pure _) related
        split
        · exact composes.bind (composes.pure _) related
        · refine composes.bind (describes _ _ _) fun _ => ?_
          exact composes.bind (composes.pure _) related

end Compositional

theorem get_advances (tree : FileTree) : Advances tree get :=
  fun _ orderly => Ends.of_get (Passes.refl orderly)

theorem describe_advances (tree : FileTree) (docs : DocOptions) (detailed : Bool)
    (declaration : Declaration) : Advances tree (Description.describe tree docs detailed declaration) := by
  intro index orderly
  have described := (advances_compositional tree).members
    (get_advances tree) (find_advances tree)
    (interfaceNames_advances tree) docs (Description.depthBound tree index)
  exact Ends.get_bind (described.1 detailed [] declaration index orderly)

theorem describe_returns (tree : FileTree) (docs : DocOptions) (detailed : Bool)
    (declaration : Declaration) : Returns (Description.describe tree docs detailed declaration) := by
  have finds := returns_compositional.finds get_returns (load_returns tree)
  have interfaces (declaration : Declaration) : Returns (interfaceNames tree declaration) :=
    returns_compositional.readOff get_returns (load_returns tree) declaration _ interfaceTargets
  refine returns_compositional.bind get_returns fun index => ?_
  exact (returns_compositional.members get_returns finds interfaces docs _).1 detailed [] declaration

end Lookup

namespace ClassReference

open Lookup

variable {tree : FileTree} {index : ClassIndex}

theorem names_of_file? {project : Project} {value : String} {path : List String}
    (found : file? tree project value = some path) : tree.Names path := by
  obtain ⟨place, -, isFile⟩ := List.exists_of_findSome?_eq_some found
  split at isFile
  case h_1 resolved file follows =>
    cases isFile
    refine FileTree.names_of_mem ?_
    rw [FileTree.find] at follows
    split at follows
    · cases follows
    split at follows
    · cases follows
    · exact List.mem_map.mpr ⟨_, FileTree.mem_files_of_follow follows, rfl⟩
  all_goals cases isFile

/-- A reference leads to a class that has been read. -/
theorem follow_reads (orderly : index.Orderly tree) (reference : Json) :
    Ends (follow tree reference) index
      (fun found later => Passes tree index later ∧ found.declaration ∈ later.declarations)
      (fun _ _ => True) := by
  rw [follow]
  refine Ends.ofExcept_bind (fun words _ => ?_) fun _ _ => trivial
  refine Ends.unless (fun _ => trivial) fun _ => ?_
  refine Ends.get_bind ?_
  split
  case h_1 path isFile =>
    have reads : Ends (firstOf tree (Text.trim words) path) index
        (fun declaration later => Passes tree index later ∧ declaration ∈ later.declarations)
        (fun _ _ => True) := by
      rw [firstOf]
      refine Ends.bind ((indexFile_adds orderly (names_of_file? isFile)).mono (fun _ _ => id)
        fun _ _ _ => trivial) ?_
      rintro declarations later ⟨added, entered⟩
      split
      · exact Ends.pure ⟨added.passes, List.mem_flatMap.mpr ⟨_, entered, List.mem_cons_self⟩⟩
      · refine Ends.bind (Ends.trivial _ _) fun listed _ _ => ?_
        split <;> exact Ends.throw trivial
    exact Ends.bind reads fun _ _ read => Ends.pure read
  case h_2 =>
    refine Ends.bind (find_listsKnown [] _ index orderly) ?_
    rintro found later ⟨passed, known⟩
    split
    case h_1 declaration =>
      have isKnown := (known declaration (by simp)).resolve_left List.not_mem_nil
      exact Ends.pure ⟨passed, passed.orderly.mem_declarations isKnown⟩
    case h_2 => exact Ends.throw trivial

end ClassReference

namespace Detail

open ClassIndex Lookup

/-- Whether a class is an ancestor of another one: it stands in the chain of parents that an index gives,
and is not the class itself. A parent that is declared as an interface, a trait or an enumeration is none:
its private members stand in the detail of the other class. -/
def IsAncestor (tree : FileTree) (index : ClassIndex) (info ancestor : Declaration) : Prop :=
  ancestor.kind = .classKind ∧ Name.key ancestor.name ≠ Name.key info.name ∧
    ∃ chain later, outcome (parentChain tree info) index = (.ok chain, later) ∧ ancestor ∈ chain

/-- Whether declarations are registered for other classes than a given one. -/
def AreOthers (index : ClassIndex) (declaration : Declaration) (others : List Declaration) : Prop :=
  ∀ other ∈ others, Name.key other.name ≠ Name.key declaration.name ∧ index.Knows other

theorem exists_mem_distinct {seen : List String} {all : List Declaration} {declaration : Declaration}
    (listed : declaration ∈ all) (new : Name.key declaration.name ∉ seen) :
    ∃ kept ∈ distinct seen all, Name.key kept.name = Name.key declaration.name := by
  induction all generalizing seen with
  | nil => cases listed
  | cons first rest inductionHypothesis =>
    rw [distinct]
    split
    case isTrue known =>
      refine inductionHypothesis ?_ new
      refine (List.mem_cons.mp listed).resolve_left fun same => new ?_
      rw [same]
      simpa using known
    case isFalse =>
      by_cases same : Name.key first.name = Name.key declaration.name
      · exact ⟨first, List.mem_cons_self, same⟩
      · have later : declaration ∈ rest :=
          (List.mem_cons.mp listed).resolve_left fun isFirst => same (isFirst ▸ rfl)
        obtain ⟨kept, member, sameKey⟩ := inductionHypothesis later
          fun member => (List.mem_cons.mp member).elim (fun other => same other.symm) new
        exact ⟨kept, List.mem_cons_of_mem first member, sameKey⟩

/-- Without repetitions, the declarations of other classes are all kept. -/
theorem distinct_others {index : ClassIndex} {declaration : Declaration} {rest : List Declaration}
    (known : ∀ other ∈ declaration :: rest, other ∈ [declaration] ∨ index.Knows other) :
    ∃ others, distinct [] (declaration :: rest) = declaration :: others ∧
      AreOthers index declaration others ∧
      ∀ other ∈ rest, Name.key other.name ≠ Name.key declaration.name → other ∈ others := by
  have isKnown : ∀ other ∈ rest, Name.key other.name ≠ Name.key declaration.name → index.Knows other := by
    intro other listed apart
    refine (known other (List.mem_cons_of_mem _ listed)).resolve_left fun same => apart ?_
    rw [List.mem_singleton.mp same]
  refine ⟨distinct [Name.key declaration.name] rest, rfl, fun other member => ?_, ?_⟩
  · obtain ⟨listed, new⟩ := mem_distinct member
    rw [List.mem_singleton] at new
    exact ⟨new, isKnown other listed new⟩
  · intro other listed apart
    obtain ⟨kept, member, same⟩ :=
      exists_mem_distinct listed (List.not_mem_cons_of_ne_of_not_mem apart List.not_mem_nil)
    obtain ⟨keptListed, new⟩ := mem_distinct member
    rw [List.mem_singleton] at new
    rwa [← (isKnown kept keptListed new).unique (isKnown other listed apart) same]

/-- The declarations whose members count: the class, and others that are registered for other classes.
The ancestors of the class are among them if inherited members are wanted. -/
theorem lineage_holders {tree : FileTree} {index : ClassIndex} (orderly : index.Orderly tree)
    (declaration : Declaration) (includeInherited : Bool) :
    Ends (lineage tree declaration includeInherited) index
      (fun holders later => Passes tree index later ∧ ∃ others, holders = declaration :: others ∧
        AreOthers later declaration others ∧ (includeInherited = true →
          ∀ ancestor, IsAncestor tree index declaration ancestor → ancestor ∈ others))
      (fun _ _ => True) := by
  rw [lineage]
  split
  case isTrue =>
    refine Ends.bind (lineage_listsKnown declaration true index orderly).remember ?_
    rintro all later ⟨ran, passed, known⟩
    obtain ⟨chain, between, rest, isChain, rfl, included⟩ :=
      (lineage_begins declaration true index).returned ran
    obtain ⟨others, isDistinct, areOthers, kept⟩ := distinct_others known
    refine Ends.pure ⟨passed, others, isDistinct, areOthers, ?_⟩
    rintro - ancestor ⟨-, isOther, found, _, isFound, member⟩
    rw [isChain] at isFound
    cases isFound
    exact kept ancestor (included member) isOther
  case isFalse own =>
    refine Ends.bind (traitClosure_listsKnown [declaration] declaration index orderly) ?_
    rintro traits later ⟨passed, known⟩
    obtain ⟨others, isDistinct, areOthers, -⟩ :=
      distinct_others (List.forall_mem_cons.mpr ⟨.inl (List.mem_singleton_self _), known⟩)
    exact Ends.pure ⟨passed, others, isDistinct, areOthers, fun wanted => absurd wanted own⟩

end Detail

end ClassAtlas
