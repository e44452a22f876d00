import ClassAtlas.Proofs.Detail.Holders
import ClassAtlas.Proofs.Detail.Methods

/-!
Private members of ancestors in a class detail.

Private properties and methods of an ancestor never stand in the detail of a class, whatever is asked for.
Private constants do: of the constants with one name the first in the lineage counts, and whether it is
private is not looked at.
-/

namespace ClassAtlas

namespace Detail

open ClassIndex Lookup

section Entries

variable {α : Type} {declaration : Declaration} {entry : α → Json} {visibility : α → Visibility}
  {declaringClass : α → String}

/-- Whether entries tell which members are private, and which other classes declare them. -/
structure TellsMembers (declaration : Declaration) (entry : α → Json) (visibility : α → Visibility)
    (declaringClass : α → String) : Prop where
  isPrivate : ∀ item, ((entry item).field? "isPrivate").isSome = (visibility item == .isPrivate)
  declaredBy : ∀ item, (entry item).field? "declaringClass" =
    if Name.key (declaringClass item) != Name.key declaration.name then some (.str (declaringClass item))
    else none

theorem propertyJson_tells (docs : DocOptions) (declaration : Declaration) :
    TellsMembers declaration (propertyJson docs declaration) Property.visibility
      Property.declaringClass := by
  constructor
  all_goals
    intro property
    have noDocs := lookup_docs docs property.docBlock false (by decide : "isPrivate" ≠ "docblock")
    have noOthers := lookup_docs docs property.docBlock false (by decide : "declaringClass" ≠ "docblock")
    simp only [propertyJson, Json.field?, List.lookup_append, lookup_flag, lookup_declaredBy, noDocs,
      noOthers]
    cases property.visibility <;> simp [Visibility.flag, List.lookup_cons]

theorem methodJson_tells (docs : DocOptions) (declaration : Declaration) :
    TellsMembers declaration (methodJson docs declaration) Method.visibility Method.declaringClass := by
  constructor
  all_goals
    intro method
    have noDocs := lookup_docs docs method.docBlock false (by decide : "isPrivate" ≠ "docblock")
    have noOthers := lookup_docs docs method.docBlock false (by decide : "declaringClass" ≠ "docblock")
    simp only [methodJson, Json.field?, List.lookup_append, lookup_flag, lookup_declaredBy, noDocs,
      noOthers]
    cases method.visibility <;> simp [Visibility.flag, List.lookup_cons]

/-- Entries of members that differ in visibility or in their declaring class are different. -/
theorem TellsMembers.of_entry_eq (tells : TellsMembers declaration entry visibility declaringClass)
    {item other : α} (same : entry item = entry other) (isPrivate : visibility item = .isPrivate)
    (elsewhere : Name.key (declaringClass item) ≠ Name.key declaration.name) :
    visibility other = .isPrivate ∧ declaringClass other = declaringClass item := by
  constructor
  · have flags := tells.isPrivate other
    rw [← same, tells.isPrivate item, isPrivate] at flags
    exact beq_iff_eq.mp flags.symm
  · have holders := tells.declaredBy other
    rw [← same, tells.declaredBy item, if_pos (bne_iff_ne.mpr elsewhere)] at holders
    split at holders
    · exact (Json.str.inj (Option.some.inj holders)).symm
    · cases holders

end Entries

section Hidden

variable {α : Type} {own ancestor : Declaration} {others : List Declaration}

theorem mem_membersOf {select : Declaration → List α} {isOwn : Bool} {holder : Declaration} {item : α}
    (member : (isOwn, holder, item) ∈ membersOf select (own :: others)) :
    item ∈ select holder ∧ (isOwn = true ∧ holder = own ∨ isOwn = false ∧ holder ∈ others) := by
  rw [membersOf] at member
  rcases List.mem_append.mp member with isFirst | isLater
  · obtain ⟨found, listed, equal⟩ := List.mem_map.mp isFirst
    cases equal
    exact ⟨listed, .inl ⟨rfl, rfl⟩⟩
  · obtain ⟨other, isOther, below⟩ := List.mem_flatMap.mp isLater
    obtain ⟨found, listed, equal⟩ := List.mem_map.mp below
    cases equal
    exact ⟨listed, .inr ⟨rfl, isOther⟩⟩

theorem mem_of_mem_firsts {key : α → String} {seen : List String} {items : List α} {item : α}
    (member : item ∈ firsts key seen items) : item ∈ items := by
  have kept : item ∈ (firsts key seen items).filter (key · == key item) :=
    List.mem_filter.mpr ⟨member, beq_self_eq_true _⟩
  rw [filter_firsts] at kept
  split at kept
  · cases kept
  · exact List.mem_of_find?_eq_some (Option.mem_toList.mp kept)

/-- Of items with one key, the first is kept. -/
theorem mem_firsts_iff {key : α → String} {items : List α} {item : α} :
    item ∈ firsts key [] items ↔ items.find? (key · == key item) = some item := by
  have kept := filter_firsts key (key item) [] items
  rw [if_neg (by simp)] at kept
  rw [← Option.mem_toList, ← kept, List.mem_filter]
  simp

/-- Whether another class stands among the holders of members only as itself. -/
structure StandsApart (own : Declaration) (others : List Declaration) (ancestor : Declaration) : Prop where
  isClass : ancestor.kind = .classKind
  other : Name.key ancestor.name ≠ Name.key own.name
  unique : ∀ holder ∈ others, holder.name = ancestor.name → holder = ancestor

/-- What is private to another class is not among the entries for what belongs to the class. -/
theorem StandsApart.notMem (apart : StandsApart own others ancestor) {entry : α → Json}
    {visibility : α → Visibility} {declaringClass : α → String}
    (tells : TellsMembers own entry visibility declaringClass) {select : Declaration → List α}
    (owns : ∀ holder ∈ own :: others, ∀ item ∈ select holder, declaringClass item = holder.name)
    {shown : List α} (belong : ∀ item ∈ shown, ∃ isOwn holder,
      (isOwn, holder, item) ∈ membersOf select (own :: others) ∧
        belongs isOwn holder (visibility item) = true)
    {item : α} (declared : declaringClass item = ancestor.name) (isPrivate : visibility item = .isPrivate) :
    entry item ∉ shown.map entry := by
  intro listed
  obtain ⟨other, isShown, same⟩ := List.mem_map.mp listed
  obtain ⟨isOwn, holder, member, belongsToClass⟩ := belong other isShown
  obtain ⟨otherPrivate, sameHolder⟩ :=
    tells.of_entry_eq same.symm isPrivate (declared ▸ apart.other)
  obtain ⟨selected, ⟨-, rfl⟩ | ⟨rfl, isOther⟩⟩ := mem_membersOf member
  · have isName := owns holder List.mem_cons_self other selected
    rw [sameHolder, declared] at isName
    exact apart.other (congrArg Name.key isName)
  · have isName := owns holder (List.mem_cons_of_mem own isOther) other selected
    rw [sameHolder, declared] at isName
    rw [apart.unique holder isOther isName.symm, belongs, apart.isClass, otherPrivate] at belongsToClass
    cases belongsToClass

/-- What is chosen among the first members of their names belongs to the class. -/
theorem exists_of_mem_chosen {select : Declaration → List α} {visibility : α → Visibility}
    {holders : List Declaration} {item : α} (key : Bool × Declaration × α → String) (admits : α → Bool)
    (member : item ∈ ((firsts key [] (membersOf select holders)).filter fun placed =>
      belongs placed.1 placed.2.1 (visibility placed.2.2) && admits placed.2.2).map (·.2.2)) :
    ∃ isOwn holder, (isOwn, holder, item) ∈ membersOf select holders ∧
      belongs isOwn holder (visibility item) = true := by
  obtain ⟨⟨isOwn, holder, found⟩, kept, rfl⟩ := List.mem_map.mp member
  obtain ⟨counted, admitted⟩ := List.mem_filter.mp kept
  exact ⟨isOwn, holder, mem_of_mem_firsts counted, (Bool.and_eq_true_iff.mp admitted).1⟩

theorem exists_of_mem_properties {holders : List Declaration} {levels : List VisibilityLevel}
    {property : Property} (member : property ∈ properties holders levels) : ∃ isOwn holder,
      (isOwn, holder, property) ∈
        membersOf (fun holder => if holder.isInterface then [] else holder.properties) holders ∧
      belongs isOwn holder property.visibility = true :=
  exists_of_mem_chosen (fun placed => placed.2.2.name)
    (fun property => VisibilityLevel.admits levels property.visibility) member

theorem exists_of_mem_methods {holders : List Declaration} {levels : List VisibilityLevel}
    {method : Method} (member : method ∈ methods holders levels) : ∃ isOwn holder,
      (isOwn, holder, method) ∈ membersOf (fun holder => holder.methods) holders ∧
      belongs isOwn holder method.visibility = true :=
  exists_of_mem_chosen (fun placed => Text.lower placed.2.2.name)
    (fun method => VisibilityLevel.admits levels method.visibility) member

theorem mem_of_mem_sectionPage {items : List α} {offset limit : Int} {item : α}
    (member : item ∈ sectionPage items offset limit) : item ∈ items := by
  rw [sectionPage] at member
  split at member
  · rw [page] at member
    split at member
    · exact List.mem_of_mem_take (List.mem_of_mem_drop member)
    · exact List.mem_of_mem_drop member
  · exact member

/-- Whether a section of a detail has an entry. -/
def HasEntry (shown : Json) (key : String) (entry : Json) : Prop :=
  ∃ entries, shown.field? key = some (.list entries) ∧ entry ∈ entries

/-- Whether a detail shows no private properties and methods of an ancestor. -/
structure HidesPrivate (docs : DocOptions) (info ancestor : Declaration) (shown : Json) : Prop where
  properties : ∀ property ∈ ancestor.properties, property.visibility = .isPrivate →
    ¬ HasEntry shown "properties" (propertyJson docs info property)
  methods : ∀ method ∈ ancestor.methods, method.visibility = .isPrivate →
    ¬ HasEntry shown "methods" (methodJson docs info method)

theorem StandsApart.hidesPrivate (apart : StandsApart own others ancestor) {plan : DetailPlan}
    {docs : DocOptions} {shown : Json} (shows : ShowsSections plan docs own (own :: others) shown)
    (owns : ∀ holder ∈ own :: others, holder.OwnsMembers) (ancestorOwns : ancestor.OwnsMembers) :
    HidesPrivate docs own ancestor shown := by
  constructor
  · rintro property member isPrivate ⟨entries, isSection, listed⟩
    rw [shows.properties] at isSection
    split at isSection
    case isFalse => cases isSection
    cases isSection
    refine apart.notMem (propertyJson_tells docs own) ?_ (fun _ => exists_of_mem_properties)
      (ancestorOwns.properties property member) isPrivate (mem_of_mem_sectionPage listed)
    intro holder isHolder item selected
    split at selected
    · cases selected
    · exact (owns holder isHolder).properties item selected
  · rintro method member isPrivate ⟨entries, isSection, listed⟩
    rw [shows.methods] at isSection
    split at isSection
    case isFalse => cases isSection
    cases isSection
    exact apart.notMem (methodJson_tells docs own)
      (fun holder isHolder => (owns holder isHolder).methods)
      (fun _ chosen => exists_of_mem_methods (List.mem_filter.mp chosen).1)
      (ancestorOwns.methods method member) isPrivate (mem_of_mem_sectionPage listed)

end Hidden

/-- What a detail is made of: the class that the reference leads to, and the declarations whose members
count. -/
theorem inspect_ends {tree : FileTree} {index : ClassIndex} (orderly : index.Orderly tree)
    (reference : Json) (options : DetailOptions) :
    Ends (inspect tree reference options) index
      (fun shown later => ∃ plan raw info between others left,
        options.plan = .ok plan ∧
        outcome (ClassReference.follow tree reference) index = (.ok ⟨raw, info⟩, between) ∧
        outcome (lineage tree info plan.includeInherited) between = (.ok (info :: others), left) ∧
        (plan.includeInherited = true →
          ∀ ancestor, IsAncestor tree between info ancestor → ancestor ∈ others) ∧
        ShowsSections plan (docsOf plan) info (info :: others) shown ∧
        later.Orderly tree ∧ info ∈ later.declarations ∧ AreOthers later info others)
      (fun _ _ => True) := by
  rw [inspect]
  refine Ends.ofExcept_bind (fun plan planned => ?_) fun _ _ => trivial
  refine Ends.bind (ClassReference.follow_reads orderly reference).remember ?_
  rintro ⟨raw, info⟩ between ⟨followed, passed, read⟩
  refine Ends.bind (lineage_holders passed.orderly info plan.includeInherited).remember ?_
  rintro _ left ⟨listed, listedPassed, others, rfl, areOthers, ancestors⟩
  have composes := advances_compositional tree
  have described : Advances tree (do
      let description ← Description.describe tree (docsOf plan) true info
      return Json.object (description ++ sections plan (docsOf plan) info (info :: others))) :=
    composes.bind (describe_advances tree _ true info) fun _ => composes.pure _
  refine ⟨fun {shown later} ran => ?_, fun _ => trivial⟩
  have shows := (describe_shows tree left plan (docsOf plan) info (info :: others)).returned ran
  have laterPassed := (described left listedPassed.orderly).returned ran
  have grown := listedPassed.grown.trans laterPassed.grown
  exact ⟨plan, raw, info, between, others, left, planned, followed, listed, ancestors, shows,
    laterPassed.orderly, grown.declarations read,
    fun other member => (areOthers other member).imp_right (·.extends laterPassed.grown)⟩

/-- Private properties and methods of the ancestors of a class never stand in its detail, whatever is
asked for, and whatever was asked of the index before and is asked of it after. Private constants do: of
all constants in the lineage, which has the ancestors if inherited members are wanted, the first with each
name is listed, private or not. -/
theorem private_members_of_ancestors (project : Project) (tree : FileTree) (before : List Operation)
    (reference : Json) (options : DetailOptions) :
    Ends (inspect tree reference options) (Operation.leave tree (.empty project) before)
      (fun shown later => ∃ plan raw info between holders left,
        options.plan = .ok plan ∧
        outcome (ClassReference.follow tree reference) (Operation.leave tree (.empty project) before) =
          (.ok ⟨raw, info⟩, between) ∧
        outcome (lineage tree info plan.includeInherited) between = (.ok holders, left) ∧
        (∀ after ancestor, IsAncestor tree (Operation.leave tree later after) info ancestor →
          HidesPrivate (docsOf plan) info ancestor shown) ∧
        (plan.includeInherited = true →
          ∀ ancestor, IsAncestor tree between info ancestor → ancestor ∈ holders) ∧
        (shown.field? "constants" = if plan.constants.isShown then
          some (.list (sectionPage ((constants holders).map (constantJson (docsOf plan) info))
            plan.constants.offset plan.constants.limit)) else none) ∧
        ∀ constant, constant ∈ constants holders ↔
          (holders.flatMap (·.constants)).find? (·.name == constant.name) = some constant)
      (fun _ _ => True) := by
  have orderly := Operation.leave_orderly project tree before
  refine (inspect_ends orderly reference options).mono ?_ fun _ _ => id
  rintro shown later ⟨plan, raw, info, between, others, left, planned, followed, listed, ancestors, shows,
    laterOrderly, read, areOthers⟩
  refine ⟨plan, raw, info, between, info :: others, left, planned, followed, listed, ?_, ?_,
    shows.constants, fun constant => mem_firsts_iff⟩
  · rintro after ancestor ⟨isClass, isOther, chain, final, isChain, member⟩
    have passed := Operation.leave_passes laterOrderly after
    obtain ⟨chainPassed, chainKnown⟩ :=
      (parentChain_listsKnown [] info _ passed.orderly).returned isChain
    have ancestorKnown := (chainKnown ancestor member).resolve_left List.not_mem_nil
    have grown := passed.grown.trans chainPassed.grown
    have apart : StandsApart info others ancestor := by
      refine ⟨isClass, isOther, fun holder isHolder sameName => ?_⟩
      have holderKnown := (areOthers holder isHolder).2.extends grown
      exact holderKnown.unique ancestorKnown (congrArg Name.key sameName)
    refine apart.hidesPrivate shows (List.forall_mem_cons.mpr ⟨?_, fun holder isHolder => ?_⟩) ?_
    · exact laterOrderly.ownsMembers read
    · exact laterOrderly.ownsMembers (laterOrderly.mem_declarations (areOthers holder isHolder).2)
    · exact chainPassed.orderly.ownsMembers (chainPassed.orderly.mem_declarations ancestorKnown)
  · exact fun inherited ancestor isAncestor =>
      List.mem_cons_of_mem info (ancestors inherited ancestor isAncestor)

/-- A private constant of an ancestor stands in the detail of a class. -/
theorem private_constant_of_ancestor_listed :
    ∃ info ancestor constant shown later,
      outcome (inspect memberTree (.str "A") allMembers) memberIndex = (.ok shown, later) ∧
      info.name = "A" ∧ IsAncestor memberTree memberIndex info ancestor ∧
      constant ∈ ancestor.constants ∧ constant.visibility = .isPrivate ∧
      HasEntry shown "constants" (constantJson (docsOf allMembersPlan) info constant) := by
  have facts : ∃ info ∈ memberIndex.class? "a", info.name = "A" ∧ memberIndex.LineageSettled info ∧
      ClassReference.file? memberTree memberIndex.project "A" = none ∧
      ∃ ancestor ∈ memberIndex.parentsOf info, ancestor.kind = .classKind ∧
        Name.key ancestor.name ≠ Name.key info.name ∧
        ∃ constant ∈ ancestor.constants, constant.visibility = .isPrivate ∧
          constant ∈ constants (distinct [] (memberIndex.lineageOf info)) := by
    decide +kernel
  obtain ⟨info, known, isName, settled, noFile, ancestor, isParent, isClass, isOther,
    constant, member, isPrivate, counted⟩ := facts
  have accurate : memberIndex.Accurate memberProject memberTree :=
    (Action.leave_candid memberProject memberTree [.ask (.get "A")]).toAccurate
  have listed : Gives (lineage memberTree info true) memberIndex (distinct [] (memberIndex.lineageOf info)) :=
    Gives.bind (lineage_gives accurate settled) (.pure _)
  have followed : outcome (ClassReference.follow memberTree (.str "A")) memberIndex =
      (.ok ⟨"A", info⟩, memberIndex) := follow_gives rfl noFile known
  have planned : allMembers.plan = .ok allMembersPlan := rfl
  have shows : Ends (detail memberTree allMembersPlan info) memberIndex
      (fun shown _ => HasEntry shown "constants" (constantJson (docsOf allMembersPlan) info constant))
      (fun _ _ => False) := by
    rw [detail]
    refine Ends.bind (Ends.of_ok listed) ?_
    rintro _ _ ⟨rfl, rfl⟩
    refine (describe_shows memberTree memberIndex allMembersPlan _ info _).mono ?_ ?_
    · rintro shown _ shows
      exact ⟨_, shows.constants, List.mem_map_of_mem counted⟩
    · intro _ _ failed
      exact (describe_returns memberTree _ true info memberIndex memberIndex_exhausted).raised failed
  obtain ⟨shown, later, ran, hasEntry⟩ :=
    (shows.of_outcome_eq (outcome_inspect planned followed)).ok
  exact ⟨info, ancestor, constant, shown, later, ran, isName,
    ⟨isClass, isOther, _, _, parentChain_gives settled.parents, isParent⟩, member, isPrivate, hasEntry⟩

end Detail

end ClassAtlas
