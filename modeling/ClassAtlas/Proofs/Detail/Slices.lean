import ClassAtlas.Proofs.Detail.Private
import Mathlib.Data.List.Infix

/-!
What the options of a class detail leave of its sections.

Which member counts under a name is decided before any option is looked at. The filters and the page of a
section then only leave entries out, and inherited members come after the others. So all details of a class
are parts of one, in the same order.
-/

namespace ClassAtlas

open Lookup

/-- Whether a page begins and ends at places that a section can have. -/
structure SectionPlan.IsValid (plan : SectionPlan) : Prop where
  offset : 0 ≤ plan.offset
  limit : 0 ≤ plan.limit

/-- The items after an offset, at most as many as a limit; a limit of zero is none. -/
def SectionPlan.slice {α : Type} (plan : SectionPlan) (items : List α) : List α :=
  let rest := items.drop plan.offset.toNat
  if plan.limit = 0 then rest else rest.take plan.limit.toNat

theorem SectionPlan.IsValid.sectionPage_eq {α : Type} {plan : SectionPlan} (valid : plan.IsValid)
    (items : List α) : sectionPage items plan.offset plan.limit = plan.slice items := by
  obtain ⟨isShown, offset, limit⟩ := plan
  obtain ⟨offset, rfl⟩ := Int.eq_ofNat_of_zero_le valid.offset
  obtain ⟨limit, rfl⟩ := Int.eq_ofNat_of_zero_le valid.limit
  rw [slice, sectionPage]
  rcases Nat.eq_zero_or_pos limit with rfl | positive
  · rcases Nat.eq_zero_or_pos offset with rfl | later
    · simp
    · simp [later, page_unlimited]
  · have notZero : limit ≠ 0 := by omega
    simp [notZero, page_ofNat items offset limit positive]

namespace DetailPlan

/-- The options that ask for all members of a class, documented as a plan says. -/
def whole (plan : DetailPlan) (includeInherited : Bool) : DetailOptions where
  includeInherited := .bool includeInherited
  summary := .bool plan.summaryOnly
  visibility := .str "all"
  rawDocBlock := .bool plan.rawDocBlock

/-- What is planned for these options. -/
def wholePlan (plan : DetailPlan) (includeInherited : Bool) : DetailPlan where
  constants := ⟨true, 0, 0⟩
  properties := ⟨true, 0, 0⟩
  methods := ⟨true, 0, 0⟩
  includeInherited := includeInherited
  summaryOnly := plan.summaryOnly
  staticOnly := false
  rawDocBlock := plan.rawDocBlock
  levels := [.all]

theorem plan_whole (plan : DetailPlan) (includeInherited : Bool) :
    (plan.whole includeInherited).plan = .ok (plan.wholePlan includeInherited) := rfl

/-- Whether the pages of all sections can be had. -/
structure IsValid (plan : DetailPlan) : Prop where
  constants : plan.constants.IsValid
  properties : plan.properties.IsValid
  methods : plan.methods.IsValid

end DetailPlan

namespace DetailOptions

variable {options : DetailOptions} {plan : DetailPlan}

theorem count_nonneg {name : String} {value : Json} {number : Int}
    (counted : count name value = .ok number) : 0 ≤ number := by
  obtain ⟨found, -, checked⟩ := exists_of_bind_eq_ok counted
  by_cases negative : found < 0
  · rw [if_pos negative] at checked
    cases checked
  · rw [if_neg negative] at checked
    cases checked
    exact Int.not_lt.mp negative

/-- What is known of a plan: its pages are valid, and its levels are those of the visibility filter. -/
theorem plan_checked (planned : options.plan = .ok plan) :
    plan.IsValid ∧ VisibilityLevel.parse options.visibility = .ok plan.levels := by
  obtain ⟨methodsOffset, isMethodsOffset, planned⟩ := exists_of_bind_eq_ok planned
  obtain ⟨methodsLimit, isMethodsLimit, planned⟩ := exists_of_bind_eq_ok planned
  obtain ⟨propertiesOffset, isPropertiesOffset, planned⟩ := exists_of_bind_eq_ok planned
  obtain ⟨propertiesLimit, isPropertiesLimit, planned⟩ := exists_of_bind_eq_ok planned
  obtain ⟨constantsOffset, isConstantsOffset, planned⟩ := exists_of_bind_eq_ok planned
  obtain ⟨constantsLimit, isConstantsLimit, planned⟩ := exists_of_bind_eq_ok planned
  obtain ⟨levels, isLevels, planned⟩ := exists_of_bind_eq_ok planned
  cases planned
  have shortened : 0 ≤ if options.summaryMode.isGiven then summaryMethods else methodsLimit := by
    split
    · decide
    · exact count_nonneg isMethodsLimit
  exact ⟨⟨⟨count_nonneg isConstantsOffset, count_nonneg isConstantsLimit⟩,
    ⟨count_nonneg isPropertiesOffset, count_nonneg isPropertiesLimit⟩,
    ⟨count_nonneg isMethodsOffset, shortened⟩⟩, isLevels⟩

/-- A visibility filter with all members instead changes nothing else about a plan. -/
theorem plan_all (planned : options.plan = .ok plan) :
    { options with visibility := .str "all" }.plan = .ok { plan with levels := [.all] } := by
  have effective : { options with visibility := .str "all" }.effective =
      { options.effective with visibility := .str "all" } := by
    simp only [DetailOptions.effective]
    split <;> split <;> rfl
  have parsed := (plan_checked planned).2
  have instead : { options with visibility := .str "all" }.plan =
      options.plan.map fun plan => { plan with levels := [.all] } := by
    rw [DetailOptions.plan, DetailOptions.plan, effective, parsed]
    dsimp only
    cases count "methods_offset" options.methodsOffset with | error => rfl | ok methodsOffset => ?_
    cases count "methods_limit" options.methodsLimit with | error => rfl | ok methodsLimit => ?_
    cases count "properties_offset" options.propertiesOffset with | error => rfl | ok offset => ?_
    cases count "properties_limit" options.propertiesLimit with | error => rfl | ok limit => ?_
    cases count "constants_offset" options.constantsOffset with | error => rfl | ok offset => ?_
    cases count "constants_limit" options.constantsLimit with | error => rfl | ok limit => rfl
  rw [instead, planned]
  rfl

end DetailOptions

namespace Detail

open ClassIndex

section Filters

variable {α : Type} {levels : List VisibilityLevel}

/-- Whether a flag of an entry is set. -/
def isFlagged (flag : String) (entry : Json) : Bool := (entry.field? flag).any Json.isGiven

/-- The flags of the members that a visibility level asks for. Who asks for private members asks for
all. -/
def flagsOf : VisibilityLevel → List String
  | .only .isPublic => ["isPublic"]
  | .only .isProtected => ["isProtected"]
  | .only .isPrivate => ["isPublic", "isProtected", "isPrivate"]
  | .all => ["isPublic", "isProtected", "isPrivate"]

/-- Whether a visibility filter lets an entry through: one of its levels asks for a flag that is set. -/
def admitsEntry (levels : List VisibilityLevel) (entry : Json) : Bool :=
  levels.any fun level => (flagsOf level).any (isFlagged · entry)

/-- Whether entries tell what the filters ask of members. -/
structure TellsFlags (entry : α → Json) (visibility : α → Visibility) (isStatic : α → Bool) :
    Prop where
  visibility : ∀ item level, isFlagged level.flag (entry item) = (visibility item == level)
  isStatic : ∀ item, isFlagged "isStatic" (entry item) = isStatic item

/-- The keys of the flags that the filters ask for. -/
def flagKeys : List String := ["isStatic", "isPublic", "isProtected", "isPrivate"]

variable {entry : α → Json} {visibility : α → Visibility} {isStatic : α → Bool}

theorem TellsFlags.of_object {fields others : α → List (String × Json)}
    (isEntry : ∀ item, entry item = .object (fields item ++
      (flag "isStatic" (isStatic item) ++ (flag (visibility item).flag true ++ others item))))
    (apart : ∀ item, ∀ key ∈ flagKeys,
      (fields item).lookup key = none ∧ (others item).lookup key = none) :
    TellsFlags entry visibility isStatic := by
  constructor
  · intro item level
    obtain ⟨noField, noOther⟩ := apart item level.flag (by cases level <;> decide)
    rw [isFlagged, isEntry, Json.field?]
    simp only [List.lookup_append, lookup_flag, noField, noOther]
    cases visibility item <;> cases level <;> simp [Visibility.flag, Json.isGiven, beq_eq_decide]
  · intro item
    obtain ⟨noField, noOther⟩ := apart item "isStatic" (by decide)
    rw [isFlagged, isEntry, Json.field?]
    simp only [List.lookup_append, lookup_flag, noField, noOther]
    cases visibility item <;> cases isStatic item <;> simp [Visibility.flag, Json.isGiven]

theorem ne_docblock_of_mem_flagKeys : ∀ key ∈ flagKeys, key ≠ "docblock" := by decide

theorem propertyJson_flags (docs : DocOptions) (declaration : Declaration) :
    TellsFlags (propertyJson docs declaration) Property.visibility Property.isStatic := by
  refine .of_object (fun property => by simp only [propertyJson, List.append_assoc]; rfl) ?_
  intro property key isFlag
  have noDocs := lookup_docs docs property.docBlock false (ne_docblock_of_mem_flagKeys key isFlag)
  simp only [List.lookup_append, lookup_flag, lookup_declaredBy, noDocs]
  simp only [flagKeys, List.mem_cons, List.not_mem_nil, or_false] at isFlag
  rcases isFlag with rfl | rfl | rfl | rfl <;> simp [List.lookup_cons]

theorem methodJson_flags (docs : DocOptions) (declaration : Declaration) :
    TellsFlags (methodJson docs declaration) Method.visibility Method.isStatic := by
  refine .of_object (fun method => by simp only [methodJson, List.append_assoc]; rfl) ?_
  intro method key isFlag
  have noDocs := lookup_docs docs method.docBlock false (ne_docblock_of_mem_flagKeys key isFlag)
  simp only [List.lookup_append, lookup_flag, lookup_declaredBy, noDocs]
  simp only [flagKeys, List.mem_cons, List.not_mem_nil, or_false] at isFlag
  rcases isFlag with rfl | rfl | rfl | rfl <;> simp [List.lookup_cons]

theorem TellsFlags.admitsEntry_comp (tells : TellsFlags entry visibility isStatic)
    (levels : List VisibilityLevel) :
    admitsEntry levels ∘ entry = fun item => VisibilityLevel.admits levels (visibility item) := by
  funext item
  have isPublic := tells.visibility item .isPublic
  have isProtected := tells.visibility item .isProtected
  have isPrivate := tells.visibility item .isPrivate
  have asked (level : VisibilityLevel) : (flagsOf level).any (isFlagged · (entry item)) =
      (level == .all || level == .only .isPrivate || level == .only (visibility item)) := by
    simp only [Visibility.flag] at isPublic isProtected isPrivate
    rcases level with (_ | _ | _) | _ <;> cases visible : visibility item <;>
      simp only [flagsOf, List.any_cons, List.any_nil, isPublic, isProtected, isPrivate, visible] <;> rfl
  rw [Function.comp_apply, admitsEntry, Bool.eq_iff_iff]
  simp [asked, VisibilityLevel.admits, and_or_left, exists_or]

theorem admits_all (visibility : Visibility) : VisibilityLevel.admits [.all] visibility = true := rfl

theorem admits_private (asked : .only .isPrivate ∈ levels) (visibility : Visibility) :
    VisibilityLevel.admits levels visibility = true := by
  simp [VisibilityLevel.admits, asked]

/-- What belongs to a class and is admitted is what is admitted of what belongs to it. -/
theorem filter_placed (visibility : α → Visibility) (admits : Visibility → Bool)
    (placed : List (Bool × Declaration × α)) :
    (placed.filter fun place => belongs place.1 place.2.1 (visibility place.2.2) &&
        admits (visibility place.2.2)).map (·.2.2) =
      ((placed.filter fun place => belongs place.1 place.2.1 (visibility place.2.2)).map (·.2.2)).filter
        fun item => admits (visibility item) := by
  rw [List.filter_map, List.filter_filter]
  exact congrArg (List.map _) (List.filter_congr fun place _ => Bool.and_comm _ _)

theorem properties_eq_filter (lineage : List Declaration) (levels : List VisibilityLevel) :
    properties lineage levels = (properties lineage [.all]).filter fun property =>
      VisibilityLevel.admits levels property.visibility := by
  simp only [properties, admits_all, Bool.and_true]
  exact filter_placed Property.visibility (VisibilityLevel.admits levels) _

theorem methods_eq_filter (lineage : List Declaration) (levels : List VisibilityLevel) :
    methods lineage levels = (methods lineage [.all]).filter fun method =>
      VisibilityLevel.admits levels method.visibility := by
  simp only [methods, admits_all, Bool.and_true]
  exact filter_placed Method.visibility (VisibilityLevel.admits levels) _

end Filters

section Prefixes

variable {α : Type} {own inherited : List Declaration}

theorem isPrefix_firsts (key : α → String) (seen : List String) {front all : List α}
    (isPrefix : front <+: all) : firsts key seen front <+: firsts key seen all := by
  induction front generalizing seen all with
  | nil => exact List.nil_prefix
  | cons item rest inductionHypothesis =>
    obtain ⟨back, rfl⟩ := isPrefix
    have later := fun seen => inductionHypothesis seen (List.prefix_append rest back)
    rw [List.cons_append, firsts, firsts]
    split
    · exact later seen
    · exact (List.prefix_cons_inj item).mpr (later _)

theorem distinct_eq_firsts (seen : List String) (all : List Declaration) :
    distinct seen all = firsts (fun declaration => Name.key declaration.name) seen all := by
  induction all generalizing seen with
  | nil => rfl
  | cons declaration rest inductionHypothesis =>
    rw [distinct, firsts, inductionHypothesis, inductionHypothesis]

theorem isPrefix_membersOf (select : Declaration → List α) (isPrefix : own <+: inherited) :
    membersOf select own <+: membersOf select inherited := by
  obtain ⟨more, rfl⟩ := isPrefix
  cases own with
  | nil => exact List.nil_prefix
  | cons first others =>
    rw [List.cons_append, membersOf, membersOf, List.flatMap_append, ← List.append_assoc]
    exact List.prefix_append _ _

theorem isPrefix_constants (isPrefix : own <+: inherited) : constants own <+: constants inherited := by
  rw [constants, constants]
  exact isPrefix_firsts _ [] (List.IsPrefix.flatMap isPrefix _)

theorem isPrefix_properties (isPrefix : own <+: inherited) (levels : List VisibilityLevel) :
    properties own levels <+: properties inherited levels :=
  ((isPrefix_firsts _ [] (isPrefix_membersOf _ isPrefix)).filter _).map _

theorem isPrefix_methods (isPrefix : own <+: inherited) (levels : List VisibilityLevel) :
    methods own levels <+: methods inherited levels :=
  ((isPrefix_firsts _ [] (isPrefix_membersOf _ isPrefix)).filter _).map _

/-- The declarations whose members count for a class on a settled index. -/
def holdersOf (index : ClassIndex) (info : Declaration) (includeInherited : Bool) : List Declaration :=
  distinct [] (if includeInherited then index.lineageOf info else info :: index.traitsOf info)

/-- Inherited members come after the others. -/
theorem isPrefix_holdersOf (index : ClassIndex) (info : Declaration) :
    holdersOf index info false <+: holdersOf index info true := by
  have isPrefix : info :: index.traitsOf info <+: index.lineageOf info := by
    rw [lineageOf, withTraitsOf, List.flatMap_cons, List.append_assoc]
    exact List.prefix_append _ _
  rw [holdersOf, holdersOf, distinct_eq_firsts, distinct_eq_firsts]
  exact isPrefix_firsts _ [] isPrefix

theorem lineage_gives_holdersOf {project : Project} {tree : FileTree} {index : ClassIndex}
    {info : Declaration} (accurate : index.Accurate project tree) (settled : index.LineageSettled info)
    (includeInherited : Bool) :
    Gives (lineage tree info includeInherited) index (holdersOf index info includeInherited) := by
  cases includeInherited with
  | true => exact (lineage_gives accurate settled).bind (.pure _)
  | false => exact (traitClosure_gives (settled.traits info List.mem_cons_self)).bind (.pure _)

end Prefixes

section Slices

variable {plan : DetailPlan} {declaration : Declaration} {holders : List Declaration} {shown whole : Json}

/-- The entries of a section of a detail, if the section is shown. -/
def entries? (detail : Json) (key : String) : Option (List Json) := (detail.field? key).bind Json.items?

/-- Whether the sections of one detail are slices of what the filters of a plan leave of the sections of
another one. -/
structure SlicesOf (plan : DetailPlan) (shown whole : Json) : Prop where
  constants : entries? shown "constants" =
    if plan.constants.isShown then (entries? whole "constants").map plan.constants.slice else none
  properties : entries? shown "properties" =
    if plan.properties.isShown then
      (entries? whole "properties").map fun all =>
        plan.properties.slice (all.filter (admitsEntry plan.levels))
    else none
  methods : entries? shown "methods" =
    if plan.methods.isShown then
      (entries? whole "methods").map fun all =>
        plan.methods.slice ((all.filter (admitsEntry plan.levels)).filter fun entry =>
          !plan.staticOnly || isFlagged "isStatic" entry)
    else none

/-- Whether each section of one detail has the entries of another detail, and then maybe more. -/
def Continues (own inherited : Json) : Prop :=
  ∀ key ∈ ["constants", "properties", "methods"],
    ∃ more, entries? inherited key = (entries? own key).map (· ++ more)

/-- The sections of a detail for which all members are asked. -/
theorem ShowsSections.entries?_whole {docs : DocOptions} {includeInherited : Bool}
    (shows : ShowsSections (plan.wholePlan includeInherited) docs declaration holders whole) :
    entries? whole "constants" = some ((Detail.constants holders).map (constantJson docs declaration)) ∧
      entries? whole "properties" = (if declaration.isInterface then none else
        some ((Detail.properties holders [.all]).map (propertyJson docs declaration))) ∧
      entries? whole "methods" = (if declaration.isInterface then none else
        some ((Detail.methods holders [.all]).map (methodJson docs declaration))) := by
  have unpaged (entries : List Json) : sectionPage entries 0 0 = entries := rfl
  have anyMethod : chosenMethods (plan.wholePlan includeInherited) holders =
      Detail.methods holders [.all] := List.filter_eq_self.mpr fun _ _ => rfl
  rw [entries?, entries?, entries?, shows.constants, shows.properties, shows.methods, anyMethod]
  simp only [DetailPlan.wholePlan, unpaged, Bool.true_and]
  refine ⟨rfl, ?_, ?_⟩ <;> cases declaration.isInterface <;> rfl

theorem ShowsSections.slicesOf {docs : DocOptions} {includeInherited : Bool} (valid : plan.IsValid)
    (shows : ShowsSections plan docs declaration holders shown)
    (showsWhole : ShowsSections (plan.wholePlan includeInherited) docs declaration holders whole) :
    SlicesOf plan shown whole := by
  obtain ⟨constants, properties, methods⟩ := showsWhole.entries?_whole
  constructor
  · rw [constants, entries?, shows.constants, valid.constants.sectionPage_eq]
    cases plan.constants.isShown <;> rfl
  · rw [properties, entries?, shows.properties, valid.properties.sectionPage_eq, properties_eq_filter]
    have filtered (all : List Property) : (all.map (propertyJson docs declaration)).filter
        (admitsEntry plan.levels) = (all.filter fun property =>
          VisibilityLevel.admits plan.levels property.visibility).map (propertyJson docs declaration) := by
      rw [List.filter_map, (propertyJson_flags docs declaration).admitsEntry_comp]
    cases plan.properties.isShown <;> cases declaration.isInterface <;> simp [filtered, Json.items?]
  · rw [methods, entries?, shows.methods, valid.methods.sectionPage_eq, chosenMethods, methods_eq_filter]
    have tells := methodJson_flags docs declaration
    have filtered (all : List Method) : ((all.map (methodJson docs declaration)).filter
        (admitsEntry plan.levels)).filter (fun entry => !plan.staticOnly || isFlagged "isStatic" entry) =
        ((all.filter fun method => VisibilityLevel.admits plan.levels method.visibility).filter
          fun method => !plan.staticOnly || method.isStatic).map (methodJson docs declaration) := by
      rw [List.filter_map, tells.admitsEntry_comp, List.filter_map]
      simp only [Function.comp_def, tells.isStatic]
    cases plan.methods.isShown <;> cases declaration.isInterface <;>
      simp [filtered, Json.items?, -List.filter_filter]

/-- What comes first in a list comes first in the entries. -/
theorem exists_append_map {α : Type} (entry : α → Json) {front all : List α} (isPrefix : front <+: all) :
    ∃ more, all.map entry = front.map entry ++ more := by
  obtain ⟨back, rfl⟩ := isPrefix
  exact ⟨back.map entry, List.map_append⟩

theorem ShowsSections.continues {docs : DocOptions} {inherited : List Declaration} {own all : Json}
    (isPrefix : holders <+: inherited)
    (showsOwn : ShowsSections (plan.wholePlan false) docs declaration holders own)
    (showsAll : ShowsSections (plan.wholePlan true) docs declaration inherited all) :
    Continues own all := by
  obtain ⟨ownConstants, ownProperties, ownMethods⟩ := showsOwn.entries?_whole
  obtain ⟨allConstants, allProperties, allMethods⟩ := showsAll.entries?_whole
  rw [Continues, List.forall_mem_cons, List.forall_mem_cons, List.forall_mem_singleton, ownConstants,
    ownProperties, ownMethods, allConstants, allProperties, allMethods]
  obtain ⟨constants, moreConstants⟩ :=
    exists_append_map (constantJson docs declaration) (isPrefix_constants isPrefix)
  obtain ⟨properties, moreProperties⟩ :=
    exists_append_map (propertyJson docs declaration) (isPrefix_properties isPrefix [.all])
  obtain ⟨methods, moreMethods⟩ :=
    exists_append_map (methodJson docs declaration) (isPrefix_methods isPrefix [.all])
  rw [moreConstants, moreProperties, moreMethods]
  refine ⟨⟨constants, rfl⟩, ⟨properties, ?_⟩, ⟨methods, ?_⟩⟩ <;>
    cases declaration.isInterface <;> rfl

end Slices

section Details

variable {project : Project} {tree : FileTree} {index : ClassIndex} {info : Declaration}
  {plan other : DetailPlan}

/-- On a settled index the holders of members are read off the index. -/
theorem outcome_detail (accurate : index.Accurate project tree) (settled : index.LineageSettled info)
    (plan : DetailPlan) : outcome (detail tree plan info) index = outcome
      (do
        let description ← Description.describe tree (docsOf plan) true info
        return .object (description ++
          sections plan (docsOf plan) info (holdersOf index info plan.includeInherited))) index := by
  rw [detail, outcome_bind, lineage_gives_holdersOf accurate settled]

/-- On a settled index two details of a class that show documentation comments in the same way differ only
in their sections. -/
theorem detail_pair (accurate : index.Accurate project tree) (settled : index.LineageSettled info)
    (sameDocs : docsOf other = docsOf plan) :
    Ends (detail tree plan info) index
      (fun shown later => ∃ whole, outcome (detail tree other info) index = (.ok whole, later) ∧
        ShowsSections plan (docsOf plan) info (holdersOf index info plan.includeInherited) shown ∧
        ShowsSections other (docsOf plan) info (holdersOf index info other.includeInherited) whole)
      (fun fault later => outcome (detail tree other info) index = (.error fault, later)) := by
  have openedOther := outcome_detail accurate settled other
  rw [sameDocs, outcome_bind] at openedOther
  refine Ends.of_outcome_eq ?_ (outcome_detail accurate settled plan)
  have described : Ends (Description.describe tree (docsOf plan) true info) index
      (fun description later =>
        outcome (Description.describe tree (docsOf plan) true info) index = (.ok description, later) ∧
          ∀ member ∈ description, member.1 ∈ Description.keys)
      (fun fault later => outcome (detail tree other info) index = (.error fault, later)) := by
    refine ⟨fun ran => ⟨ran, (Description.describe_keys true info).returned ran⟩, fun ran => ?_⟩
    rw [openedOther, ran]
  refine Ends.bind described ?_
  rintro description later ⟨ran, keys⟩
  refine Ends.pure ⟨_, ?_, showsSections keys, showsSections keys⟩
  rw [openedOther, ran]
  rfl

/-- Filters that let the same members through make the same detail. -/
theorem detail_levels {levels : List VisibilityLevel}
    (same : ∀ visibility,
      VisibilityLevel.admits levels visibility = VisibilityLevel.admits plan.levels visibility) :
    detail tree { plan with levels := levels } info = detail tree plan info := by
  have sameSections (docs : DocOptions) (holders : List Declaration) :
      sections { plan with levels := levels } docs info holders = sections plan docs info holders := by
    simp only [sections, properties, methods, same]
  simp only [detail, sameSections]
  rfl

/-- The detail of a class that a reference has led to. -/
def inspectFound (tree : FileTree) (info : Declaration) (options : DetailOptions) : Lookup Json := do
  let plan ← Lookup.ofExcept options.plan
  detail tree plan info

theorem inspectFound_eq {options : DetailOptions} (planned : options.plan = .ok plan) :
    inspectFound tree info options = detail tree plan info := by
  rw [inspectFound, planned]
  rfl

/-- On an index in which the lineage of a class is settled, the sections of a detail of the class are
slices of what its filters leave of all members, asked for on the same index; to ask for private members is
to ask for all; and all inherited members come after all others. Where one of two such details raises a
fault, both raise it. -/
theorem sections_are_slices {actions : List Action} {options : DetailOptions}
    (reached : Action.leave tree (.empty project) actions = index) (settled : index.LineageSettled info)
    (planned : options.plan = .ok plan) :
    Ends (inspectFound tree info options) index
      (fun shown later => ∃ whole,
        outcome (inspectFound tree info (plan.whole plan.includeInherited)) index = (.ok whole, later) ∧
          SlicesOf plan shown whole)
      (fun fault later =>
        outcome (inspectFound tree info (plan.whole plan.includeInherited)) index = (.error fault, later)) ∧
    (.only .isPrivate ∈ plan.levels →
      inspectFound tree info { options with visibility := .str "all" } = inspectFound tree info options) ∧
    Ends (inspectFound tree info (plan.whole false)) index
      (fun own later => ∃ inherited,
        outcome (inspectFound tree info (plan.whole true)) index = (.ok inherited, later) ∧
          Continues own inherited)
      (fun fault later =>
        outcome (inspectFound tree info (plan.whole true)) index = (.error fault, later)) ∧
    ∀ (start : ClassIndex) (reference : Json) (raw : String),
      outcome (ClassReference.follow tree reference) start = (.ok ⟨raw, info⟩, index) →
      ∀ (asked : DetailOptions) (askedPlan : DetailPlan), asked.plan = .ok askedPlan →
        outcome (inspect tree reference asked) start = outcome (inspectFound tree info asked) index := by
  have accurate : index.Accurate project tree := by
    rw [← reached]
    exact (Action.leave_candid project tree actions).toAccurate
  have wholeFound (includeInherited : Bool) : inspectFound tree info (plan.whole includeInherited) =
      detail tree (plan.wholePlan includeInherited) info := inspectFound_eq (plan.plan_whole includeInherited)
  have sameDocs (includeInherited : Bool) : docsOf (plan.wholePlan includeInherited) = docsOf plan := rfl
  refine ⟨?_, ?_, ?_, ?_⟩
  · rw [inspectFound_eq planned, wholeFound]
    refine (detail_pair accurate settled (sameDocs plan.includeInherited)).mono ?_ fun _ _ => id
    rintro shown later ⟨whole, ran, shows, showsWhole⟩
    exact ⟨whole, ran, shows.slicesOf (DetailOptions.plan_checked planned).1 showsWhole⟩
  · intro asked
    rw [inspectFound_eq planned, inspectFound_eq (DetailOptions.plan_all planned)]
    exact detail_levels fun visibility => (admits_private asked visibility).symm
  · rw [wholeFound, wholeFound]
    have sameDocs : docsOf (plan.wholePlan true) = docsOf (plan.wholePlan false) := rfl
    refine (detail_pair accurate settled sameDocs).mono ?_ fun _ _ => id
    rintro own later ⟨inherited, ran, showsOwn, showsInherited⟩
    exact ⟨inherited, ran, showsOwn.continues (isPrefix_holdersOf index info) showsInherited⟩
  · intro start reference raw followed asked askedPlan askedPlanned
    rw [inspectFound_eq askedPlanned]
    exact outcome_inspect askedPlanned followed

/-- Public members, constants from the second one on. -/
def publicMembers : DetailOptions := { constantsOffset := .int 1 }

def publicMembersPlan : DetailPlan :=
  { allMembersPlan with
    constants := ⟨true, 1, 0⟩
    includeInherited := false
    levels := [.only .isPublic] }

/-- On an index that has nothing left to read, the detail of a class is returned. -/
theorem exists_detail (exhausted : IsExhausted index) (accurate : index.Accurate project tree)
    (settled : index.LineageSettled info) (plan : DetailPlan) :
    ∃ shown later, outcome (detail tree plan info) index = (.ok shown, later) ∧
      ShowsSections plan (docsOf plan) info (holdersOf index info plan.includeInherited) shown := by
  have shows : Ends (detail tree plan info) index
      (fun shown _ =>
        ShowsSections plan (docsOf plan) info (holdersOf index info plan.includeInherited) shown)
      (fun _ _ => False) := by
    refine Ends.of_outcome_eq ?_ (outcome_detail accurate settled plan)
    refine (describe_shows tree index plan _ info _).mono (fun _ _ => id) fun _ _ failed => ?_
    exact (describe_returns tree _ true info index exhausted).raised failed
  exact shows.ok

/-- The names that a section of a detail shows, each under a key of its entry. -/
def namesIn (detail : Json) (key name : String) : Option (List (Option Json)) :=
  (entries? detail key).map (·.map (·.field? name))

theorem namesIn_of_entries {α : Type} {detail : Json} {key name : String} {entry : α → Json}
    {nameOf : α → String} (named : ∀ item, (entry item).field? name = some (.str (nameOf item)))
    {items : List α} {names : List String} (isNames : items.map nameOf = names)
    (shows : entries? detail key = some (items.map entry)) :
    namesIn detail key name = some (names.map fun text => some (.str text)) := by
  rw [namesIn, shows, ← isNames, Option.map_some, List.map_map, List.map_map]
  exact congrArg some (List.map_congr_left fun item _ => named item)

theorem sections_are_slices_of_members :
    ∃ info shown whole later, info.name = "B" ∧
      outcome (inspectFound memberTree info publicMembers) memberIndex = (.ok shown, later) ∧
      outcome (inspectFound memberTree info (publicMembersPlan.whole false)) memberIndex =
        (.ok whole, later) ∧
      SlicesOf publicMembersPlan shown whole ∧
      namesIn shown "methods" "methodName" = some [some (.str "f")] ∧
      namesIn whole "methods" "methodName" = some [some (.str "f"), some (.str "g")] ∧
      namesIn shown "properties" "propertyName" = some [] ∧
      namesIn whole "properties" "propertyName" = some [some (.str "p")] ∧
      namesIn shown "constants" "constantName" = some [] ∧
      namesIn whole "constants" "constantName" = some [some (.str "K")] := by
  have facts : ∃ info ∈ memberIndex.class? "b", info.name = "B" ∧ info.isInterface = false ∧
      memberIndex.LineageSettled info ∧
      (methods (holdersOf memberIndex info false) [.all]).map (·.name) = ["f", "g"] ∧
      (chosenMethods publicMembersPlan (holdersOf memberIndex info false)).map (·.name) = ["f"] ∧
      (properties (holdersOf memberIndex info false) [.all]).map (·.name) = ["p"] ∧
      (properties (holdersOf memberIndex info false) [.only .isPublic]).map (·.name) = [] ∧
      (constants (holdersOf memberIndex info false)).map (·.name) = ["K"] ∧
      ((constants (holdersOf memberIndex info false)).drop 1).map (·.name) = [] := by
    decide +kernel
  obtain ⟨info, -, isName, isClass, settled, allMethods, someMethods, allProperties, noProperties,
    allConstants, noConstants⟩ := facts
  have reached : Action.leave memberTree (.empty memberProject) [.ask (.get "A")] = memberIndex := rfl
  have accurate : memberIndex.Accurate memberProject memberTree :=
    (Action.leave_candid memberProject memberTree [.ask (.get "A")]).toAccurate
  have planned : publicMembers.plan = .ok publicMembersPlan := rfl
  obtain ⟨shown, later, ran, shows⟩ :=
    exists_detail memberIndex_exhausted accurate settled publicMembersPlan
  obtain ⟨whole, left, ranWhole, showsWhole⟩ :=
    exists_detail memberIndex_exhausted accurate settled (publicMembersPlan.wholePlan false)
  rw [← inspectFound_eq planned] at ran
  rw [← inspectFound_eq (publicMembersPlan.plan_whole false)] at ranWhole
  obtain ⟨slices, -⟩ := sections_are_slices reached settled planned
  obtain ⟨_, again, isSlice⟩ := slices.returned ran
  obtain ⟨isWhole, isLater⟩ := Prod.mk.inj (ranWhole.symm.trans again)
  cases isWhole
  have methodNamed (method : Method) :=
    (isEntryOf_methodJson (docsOf publicMembersPlan) info method).methodName
  have propertyNamed (property : Property) :
      (propertyJson (docsOf publicMembersPlan) info property).field? "propertyName" =
        some (.str property.name) := by simp [propertyJson, Json.field?]
  have constantNamed (constant : Constant) :
      (constantJson (docsOf publicMembersPlan) info constant).field? "constantName" =
        some (.str constant.name) := by simp [constantJson, Json.field?]
  obtain ⟨wholeConstants, wholeProperties, wholeMethods⟩ := showsWhole.entries?_whole
  rw [isClass] at wholeProperties wholeMethods
  refine ⟨info, shown, whole, later, isName, ran, again, isSlice,
    namesIn_of_entries methodNamed someMethods ?_, namesIn_of_entries methodNamed allMethods wholeMethods,
    namesIn_of_entries propertyNamed noProperties ?_,
    namesIn_of_entries propertyNamed allProperties wholeProperties,
    namesIn_of_entries constantNamed noConstants ?_,
    namesIn_of_entries constantNamed allConstants wholeConstants⟩
  · rw [entries?, shows.methods, isClass]
    rfl
  · rw [entries?, shows.properties, isClass]
    rfl
  · have valid := (DetailOptions.plan_checked planned).1.constants
    rw [entries?, shows.constants, valid.sectionPage_eq, List.map_drop]
    rfl

end Details

end Detail

end ClassAtlas
