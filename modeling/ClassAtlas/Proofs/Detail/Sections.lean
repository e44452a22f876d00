import ClassAtlas.Detail.Members
import ClassAtlas.Proofs.Index.Ends

/-!
The sections of a class detail.

The description of a class has no member under the key of a section, so the sections of a detail are the
lists that are made for them. In such a list each name is held by its first member in the lineage.
-/

namespace ClassAtlas

namespace Description

open Lookup

variable {tree : FileTree} {docs : DocOptions} {index : ClassIndex}

/-- The keys of a description. -/
def keys : List String :=
  ["file", "name", "startLine", "endLine", "docblock", "parent", "isAbstract", "isFinal", "isInterface",
    "isTrait", "isEnum", "interfaces", "traits"]

theorem docs_keys (block : Option DocBlock) (detailed : Bool) :
    ∀ member ∈ docs.members block detailed, member.1 ∈ keys := by
  rw [DocOptions.members]
  split
  · simp
  · split <;> simp [keys]

theorem lineMembers_keys (declaration : Declaration) (detailed : Bool) :
    ∀ member ∈ lineMembers declaration detailed, member.1 ∈ keys := by
  rw [lineMembers]
  split <;> simp [keys]

theorem flagMembers_keys (declaration : Declaration) :
    ∀ member ∈ flagMembers declaration, member.1 ∈ keys := by
  intro member listed
  obtain ⟨flag, kept, rfl⟩ := List.mem_map.mp listed
  have flagged := (List.mem_filter.mp kept).1
  simp only [List.mem_cons, List.not_mem_nil, or_false] at flagged
  rcases flagged with rfl | rfl | rfl | rfl | rfl <;> simp [keys]

theorem listMember_keys {key : String} (isKey : key ∈ keys) (items : List Json) :
    ∀ member ∈ listMember key items, member.1 ∈ keys := by
  rw [listMember]
  split
  · simp
  · simpa using isKey

theorem parentMembers_keys (detailed : Bool) (declaration : Declaration) :
    Ends (parentMembers tree docs detailed declaration) index
      (fun members _ => ∀ member ∈ members, member.1 ∈ keys) (fun _ _ => True) := by
  rw [parentMembers]
  split
  case h_1 => exact Ends.pure (by simp)
  case h_2 =>
    split
    case isTrue => exact Ends.pure (by simp)
    case isFalse =>
      refine Ends.bind (Ends.trivial _ _) fun found later _ => ?_
      split
      case h_1 => exact Ends.get_bind (Ends.pure (by simp [keys]))
      case h_2 => exact Ends.pure (by simp [keys])

/-- Every member of a description has one of its keys. -/
theorem members_keys (fuel : Nat) (detailed : Bool) (seen : List String) (declaration : Declaration) :
    Ends (members tree docs fuel detailed seen declaration) index
      (fun members _ => ∀ member ∈ members, member.1 ∈ keys) (fun _ _ => True) := by
  cases fuel with
  | zero =>
    rw [members]
    exact Ends.pure (by simp [keys])
  | succ fuel =>
    rw [members]
    refine Ends.get_bind ?_
    refine Ends.bind (parentMembers_keys detailed declaration) fun parent _ parentKeys => ?_
    have named : ∀ member ∈ [("file", fileJson tree index declaration), ("name", Json.str declaration.name)],
        member.1 ∈ keys := by simp [keys]
    have listed (interfaces traits : List Json) : ∀ member ∈
        [("file", fileJson tree index declaration), ("name", .str declaration.name)] ++
          lineMembers declaration detailed ++ docs.members declaration.docBlock detailed ++ parent ++
          flagMembers declaration ++ listMember "interfaces" interfaces ++ listMember "traits" traits,
        member.1 ∈ keys := by
      simp only [List.forall_mem_append]
      exact ⟨⟨⟨⟨⟨⟨named, lineMembers_keys declaration detailed⟩, docs_keys _ _⟩, parentKeys⟩,
        flagMembers_keys declaration⟩, listMember_keys (by simp [keys]) interfaces⟩,
        listMember_keys (by simp [keys]) traits⟩
    dsimp only
    split
    case isTrue =>
      refine Ends.bind (Ends.trivial _ _) fun interfaces _ _ => ?_
      exact Ends.bind (Ends.trivial _ _) fun traits _ _ => Ends.pure (listed interfaces traits)
    case isFalse =>
      refine Ends.bind (Ends.trivial _ _) fun names _ _ => ?_
      refine Ends.bind (Ends.trivial _ _) fun interfaces _ _ => ?_
      exact Ends.bind (Ends.trivial _ _) fun traits _ _ => Ends.pure (listed interfaces traits)

theorem describe_keys (detailed : Bool) (declaration : Declaration) :
    Ends (describe tree docs detailed declaration) index
      (fun members _ => ∀ member ∈ members, member.1 ∈ keys) (fun _ _ => True) :=
  Ends.get_bind (members_keys _ detailed [] declaration)

end Description

namespace Detail

open Lookup

/-- How documentation comments are shown in a detail. -/
def docsOf (plan : DetailPlan) : DocOptions := ⟨true, plan.summaryOnly, plan.rawDocBlock⟩

/-- The detail of a class that has been found. -/
def detail (tree : FileTree) (plan : DetailPlan) (declaration : Declaration) : Lookup Json := do
  let lineage ← lineage tree declaration plan.includeInherited
  let description ← Description.describe tree (docsOf plan) true declaration
  return .object (description ++ sections plan (docsOf plan) declaration lineage)

/-- The detail for a reference is the detail of the class that the reference leads to. -/
theorem outcome_inspect {tree : FileTree} {reference : Json} {options : DetailOptions} {raw : String}
    {index later : ClassIndex} {plan : DetailPlan} {declaration : Declaration}
    (planned : options.plan = .ok plan)
    (followed : outcome (ClassReference.follow tree reference) index = (.ok ⟨raw, declaration⟩, later)) :
    outcome (inspect tree reference options) index = outcome (detail tree plan declaration) later := by
  have opened : inspect tree reference options =
      (do
        let found ← ClassReference.follow tree reference
        detail tree plan found.declaration) := by
    rw [inspect, planned]
    rfl
  rw [opened, outcome_bind, followed]

section Sections

variable {plan : DetailPlan} {docs : DocOptions} {declaration : Declaration} {lineage : List Declaration}
  {description : List (String × Json)}

theorem lookup_eq_none_of_keys (described : ∀ member ∈ description, member.1 ∈ Description.keys)
    {key : String} (other : key ∉ Description.keys) : description.lookup key = none := by
  rw [List.lookup_eq_none_iff]
  intro member listed
  exact bne_iff_ne.mpr fun same => other (same ▸ described member listed)

/-- A member that may be left out. -/
theorem lookup_single {β : Type} (isShown : Bool) (key other : String) (value : β) :
    (if isShown then [(key, value)] else []).lookup other =
      if isShown && other == key then some value else none := by
  cases isShown with
  | false => rfl
  | true =>
    rw [if_pos rfl, List.lookup_cons]
    cases other == key <;> rfl

theorem lookup_flag (name key : String) (isSet : Bool) :
    (flag name isSet).lookup key = if isSet && key == name then some (.bool true) else none := by
  rw [flag, lookup_single]

theorem lookup_declaredBy (declaration : Declaration) (key holder : String) :
    (declaredBy declaration holder).lookup key =
      if Name.key holder != Name.key declaration.name && key == "declaringClass" then some (.str holder)
      else none := by
  rw [declaredBy, lookup_single]

theorem lookup_docs (docs : DocOptions) (block : Option DocBlock) (detailed : Bool) {key : String}
    (other : key ≠ "docblock") : (docs.members block detailed).lookup key = none := by
  rw [List.lookup_eq_none_iff]
  intro member listed
  rw [DocOptions.members] at listed
  split at listed
  · cases listed
  · split at listed
    · cases listed
    · rw [List.mem_singleton.mp listed]
      exact bne_iff_ne.mpr other

theorem lookup_sectionMember (key other : String) (plan : SectionPlan) (items : List Json) :
    (sectionMember key plan items).lookup other =
      if plan.isShown && other == key then some (.list (sectionPage items plan.offset plan.limit))
      else none := by
  rw [sectionMember, lookup_single]

/-- The methods that a plan asks for. -/
def chosenMethods (plan : DetailPlan) (lineage : List Declaration) : List Method :=
  (methods lineage plan.levels).filter fun method => !plan.staticOnly || method.isStatic

/-- What a detail shows under the key of a section is the list made for it. -/
structure ShowsSections (plan : DetailPlan) (docs : DocOptions) (declaration : Declaration)
    (lineage : List Declaration) (shown : Json) : Prop where
  constants : shown.field? "constants" = if plan.constants.isShown then
    some (.list (sectionPage ((constants lineage).map (constantJson docs declaration))
      plan.constants.offset plan.constants.limit)) else none
  properties : shown.field? "properties" =
    if plan.properties.isShown && !declaration.isInterface then
      some (.list (sectionPage ((properties lineage plan.levels).map (propertyJson docs declaration))
        plan.properties.offset plan.properties.limit)) else none
  methods : shown.field? "methods" = if plan.methods.isShown && !declaration.isInterface then
    some (.list (sectionPage ((chosenMethods plan lineage).map (methodJson docs declaration))
      plan.methods.offset plan.methods.limit)) else none

theorem showsSections (described : ∀ member ∈ description, member.1 ∈ Description.keys) :
    ShowsSections plan docs declaration lineage
      (.object (description ++ sections plan docs declaration lineage)) := by
  have passed : ∀ key, key ∉ Description.keys →
      (Json.object (description ++ sections plan docs declaration lineage)).field? key =
        (sections plan docs declaration lineage).lookup key := by
    intro key other
    rw [Json.field?, List.lookup_append, lookup_eq_none_of_keys described other, Option.none_or]
  constructor
  all_goals
    rw [passed _ (by simp [Description.keys]), sections]
    dsimp only
    cases declaration.isInterface <;> simp [List.lookup_append, lookup_sectionMember, chosenMethods]

/-- Once the lineage is known, only the description of the class can raise a fault. -/
theorem describe_shows (tree : FileTree) (index : ClassIndex) (plan : DetailPlan) (docs : DocOptions)
    (declaration : Declaration) (lineage : List Declaration) :
    Ends
      (do
        let description ← Description.describe tree docs true declaration
        return .object (description ++ sections plan docs declaration lineage))
      index (fun shown _ => ShowsSections plan docs declaration lineage shown)
      (fun fault later =>
        outcome (Description.describe tree docs true declaration) index = (.error fault, later)) := by
  refine Ends.bind ⟨(Description.describe_keys true declaration).returned, id⟩ ?_
  exact fun description later described => Ends.pure (showsSections described)

end Sections

section Firsts

/-- Of the items with a key, only the first one is kept, unless the key came before. -/
theorem filter_firsts {α : Type} (key : α → String) (wanted : String) (seen : List String)
    (items : List α) :
    (firsts key seen items).filter (key · == wanted) =
      if seen.contains wanted then [] else (items.find? (key · == wanted)).toList := by
  induction items generalizing seen with
  | nil => simp [firsts]
  | cons item rest inductionHypothesis =>
    rw [firsts, List.find?_cons]
    split
    case isTrue known =>
      rw [inductionHypothesis]
      cases isWanted : key item == wanted with
      | true => rw [if_pos (beq_iff_eq.mp isWanted ▸ known), if_pos (beq_iff_eq.mp isWanted ▸ known)]
      | false => rfl
    case isFalse new =>
      rw [List.filter_cons, inductionHypothesis]
      cases isWanted : key item == wanted with
      | true =>
        rw [beq_iff_eq.mp isWanted] at new
        rw [if_neg new]
        simp [beq_iff_eq.mp isWanted]
      | false => simp [Ne.symm (beq_eq_false_iff_ne.mp isWanted)]

variable {seen : List String} {all : List Declaration}

theorem mem_distinct {declaration : Declaration} (member : declaration ∈ distinct seen all) :
    declaration ∈ all ∧ Name.key declaration.name ∉ seen := by
  induction all generalizing seen with
  | nil => cases member
  | cons first rest inductionHypothesis =>
    rw [distinct] at member
    split at member
    case isTrue =>
      obtain ⟨listed, new⟩ := inductionHypothesis member
      exact ⟨List.mem_cons_of_mem first listed, new⟩
    case isFalse new =>
      rcases List.mem_cons.mp member with rfl | later
      · exact ⟨List.mem_cons_self, by simpa using new⟩
      · obtain ⟨listed, apart⟩ := inductionHypothesis later
        exact ⟨List.mem_cons_of_mem first listed, fun known => apart (List.mem_cons_of_mem _ known)⟩

/-- Declarations that come again change nothing about what is found first. -/
theorem findSome?_distinct {β : Type} (pick : Declaration → Option β)
    (same : ∀ first ∈ all, ∀ second ∈ all, Name.key first.name = Name.key second.name → first = second)
    (passed : ∀ declaration ∈ all, Name.key declaration.name ∈ seen → pick declaration = none) :
    (distinct seen all).findSome? pick = all.findSome? pick := by
  induction all generalizing seen with
  | nil => rfl
  | cons first rest inductionHypothesis =>
    have restSame : ∀ one ∈ rest, ∀ other ∈ rest, Name.key one.name = Name.key other.name → one = other :=
      fun one member other otherMember =>
        same one (List.mem_cons_of_mem first member) other (List.mem_cons_of_mem first otherMember)
    have restPassed : ∀ declaration ∈ rest, Name.key declaration.name ∈ seen → pick declaration = none :=
      fun declaration member => passed declaration (List.mem_cons_of_mem first member)
    rw [distinct, List.findSome?_cons]
    split
    case isTrue known =>
      rw [passed first List.mem_cons_self (by simpa using known)]
      exact inductionHypothesis restSame restPassed
    case isFalse =>
      rw [List.findSome?_cons]
      cases picked : pick first with
      | some found => rfl
      | none =>
        refine inductionHypothesis restSame fun declaration member known => ?_
        rcases List.mem_cons.mp known with again | early
        · rw [same declaration (List.mem_cons_of_mem first member) first List.mem_cons_self again]
          exact picked
        · exact restPassed declaration member early

end Firsts

end Detail

end ClassAtlas
